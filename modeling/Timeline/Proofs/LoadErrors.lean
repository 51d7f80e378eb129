import Timeline.Proofs.StoredForm

/-!
# Which stored nodes load, and the error of those that do not

`StoredNode.build` checks a stored node in document order and stops at the first fault. It adds
the animations first, and an animation whose id an earlier one has (the default animation's
`none` counts as an id) is reported as `duplicateAnimation`. Then it builds the animators, and
the first one that does not load is reported as `invalidKeys` naming its target path: one without
a kind, given or read off its first key, or, at its first key that fails, a negative frame before
a value of another kind.

Nothing else is checked: several animators for one path and animation, keys out of order or on
one frame, markers in any order, and paths that do not parse or name no property all load
(`StoredNode.build_accepts_or_first_fault`).

Both halves rest on one fact about folds through `Except`: a fold fails exactly when it gets
through a prefix and the next step fails (`List.foldlM_except_eq_error_iff`).
-/

namespace Timeline

/-! ## Failing folds through `Except` -/

section Fold

variable {σ β ε : Type} {f : σ → β → Except ε σ}

/-- A fold through `Except` fails with `e` exactly when it gets through a prefix and the step on
the next element fails with `e`. -/
theorem List.foldlM_except_eq_error_iff (xs : List β) (s : σ) (e : ε) :
    xs.foldlM f s = .error e ↔
      ∃ pre x post s', xs = pre ++ x :: post ∧ pre.foldlM f s = .ok s' ∧ f s' x = .error e := by
  constructor
  · -- the first step that fails splits the list
    induction xs generalizing s with
    | nil => rintro ⟨⟩
    | cons y ys ih =>
      intro h
      rw [List.foldlM_cons] at h
      cases hy : f s y with
      | error e' =>
        rw [hy] at h
        cases h
        exact ⟨[], y, ys, s, rfl, rfl, hy⟩
      | ok m =>
        rw [hy] at h
        obtain ⟨pre, x, post, s', rfl, hpre, hx⟩ := ih m h
        refine ⟨y :: pre, x, post, s', rfl, ?_, hx⟩
        rw [List.foldlM_cons, hy]
        exact hpre
  · -- the fold gets through the prefix, then stops at the failing step
    rintro ⟨pre, x, post, s', rfl, hpre, hx⟩
    rw [List.foldlM_append, hpre]
    show (x :: post).foldlM f s' = .error e
    rw [List.foldlM_cons, hx]
    rfl

end Fold

/-- A bind through `Except` fails exactly when its first stage fails, or it succeeds and the
second fails. -/
theorem Except.bind_eq_error_iff {ε α β : Type} (m : Except ε α) (g : α → Except ε β) (e : ε) :
    m >>= g = .error e ↔ m = .error e ∨ ∃ x, m = .ok x ∧ g x = .error e := by
  cases m with
  | error e' =>
    show (Except.error e' : Except ε β) = .error e ↔ _
    simp
  | ok a =>
    show g a = .error e ↔ _
    simp

/-! ## Animators -/

namespace StoredAnimator

/-- A stored animator loads: its kind resolves and every key passes the checks for it. -/
def Loads (a : StoredAnimator) : Prop := ∃ k, a.resolvedKind = some k ∧ a.KeysLoad k

/-- `e` is the error of the first check a stored animator fails: it has no kind, or at its first
key that fails the checks for its kind, the frame is negative, or else the value has another
kind. Every error names the animator's target path. -/
def Rejects (a : StoredAnimator) (e : PlaybackError) : Prop :=
  (a.resolvedKind = none ∧ e = .invalidKeys a.target "empty track without a kind") ∨
  ∃ k, a.resolvedKind = some k ∧ ∃ pre key post, a.keys = pre ++ key :: post ∧
    (∀ y ∈ pre, ¬ y.frame < 0 ∧ y.value.kind = k) ∧
    ((key.frame < 0 ∧ e = .invalidKeys a.target ("negative frame " ++ toString key.frame.toInt)) ∨
      (¬ key.frame < 0 ∧ key.value.kind ≠ k ∧
        e = .invalidKeys a.target ("frame " ++ toString key.frame.toInt ++ ": expected " ++
          k.title ++ ", found " ++ key.value.kind.title)))

/-- Pushing keys after checking each one's frame and kind fails exactly at the first key that
fails a check, with the error of the first check it fails. -/
theorem foldlM_checked_eq_error_iff (kind : Kind) (e₁ e₂ : Key Value → PlaybackError)
    (ks : List (Key Value)) (l : KeyList Value) (e : PlaybackError) :
    ks.foldlM (fun (l : KeyList Value) (key : Key Value) =>
        (if key.frame < 0 then throw (e₁ key)
          else if key.value.kind ≠ kind then throw (e₂ key) else pure (l.push key) :
          Except PlaybackError (KeyList Value))) l = .error e ↔
      ∃ pre key post, ks = pre ++ key :: post ∧ (∀ y ∈ pre, ¬ y.frame < 0 ∧ y.value.kind = kind) ∧
        ((key.frame < 0 ∧ e = e₁ key) ∨ (¬ key.frame < 0 ∧ key.value.kind ≠ kind ∧ e = e₂ key)) := by
  rw [List.foldlM_except_eq_error_iff]
  constructor
  · rintro ⟨pre, key, post, l', rfl, hpre, hkey⟩
    have hpass := ((foldlM_checked_eq_ok_iff kind e₁ e₂ pre l l').mp hpre).1
    refine ⟨pre, key, post, rfl, hpass, ?_⟩
    by_cases hneg : key.frame < 0
    · simp only [hneg, if_true, throw, throwThe, MonadExceptOf.throw, Except.error.injEq] at hkey
      exact .inl ⟨hneg, hkey.symm⟩
    · by_cases hkind : key.value.kind = kind
      · simp [hneg, hkind, pure, Except.pure] at hkey
      · simp only [hneg, hkind, if_false, ne_eq, not_false_eq_true, if_true, throw, throwThe,
          MonadExceptOf.throw, Except.error.injEq] at hkey
        exact .inr ⟨hneg, hkind, hkey.symm⟩
  · rintro ⟨pre, key, post, rfl, hpass, hkey⟩
    refine ⟨pre, key, post, pre.foldl KeyList.push l, rfl,
      (foldlM_checked_eq_ok_iff kind e₁ e₂ pre l _).mpr ⟨hpass, rfl⟩, ?_⟩
    rcases hkey with ⟨hneg, rfl⟩ | ⟨hneg, hkind, rfl⟩
    · simp [hneg, throw, throwThe, MonadExceptOf.throw]
    · simp [hneg, hkind, throw, throwThe, MonadExceptOf.throw]

/-- Building an animator fails exactly with the error of the first check it fails; the name of
its key list plays no part. -/
theorem build_eq_error_iff (a : StoredAnimator) (listId : Nat) (e : PlaybackError) :
    a.build listId = .error e ↔ a.Rejects e := by
  unfold build Rejects
  cases hk : a.resolvedKind with
  | none => simp [throw, throwThe, MonadExceptOf.throw, eq_comm]
  | some k =>
    rw [Except.bind_eq_error_iff, foldlM_checked_eq_error_iff]
    -- the keys are checked before the animator is made, which cannot fail
    simp only [pure, Except.pure, reduceCtorEq, and_false, exists_false, or_false, false_and,
      Option.some.injEq, exists_eq_left', false_or]

/-- Building an animator succeeds exactly when it loads. -/
theorem build_isOk_iff (a : StoredAnimator) (listId : Nat) :
    (∃ x, a.build listId = .ok x) ↔ a.Loads := by
  simp only [build_eq_ok_iff]
  constructor
  · rintro ⟨x, k, hk, hload, -⟩
    exact ⟨k, hk, hload⟩
  · rintro ⟨k, hk, hload⟩
    exact ⟨_, k, hk, hload, rfl⟩

end StoredAnimator

/-! ## Nodes -/

namespace StoredNode

variable {τ : Type}

/-- `e` is the error of the first fault of a stored node in document order: an animation whose
id an earlier animation has, or else the first animator that does not load. -/
def Rejects (s : StoredNode) (e : PlaybackError) : Prop :=
  (∃ pre a post, s.animations = pre ++ a :: post ∧ (pre.map (·.id)).Nodup ∧
      a.id ∈ pre.map (·.id) ∧ e = .duplicateAnimation (animationLabel a.id)) ∨
  ((s.animations.map (·.id)).Nodup ∧ ∃ pre a post, s.animators = pre ++ a :: post ∧
      (∀ b ∈ pre, b.Loads) ∧ a.Rejects e)

/-- A node has an animation with an id exactly when the id is among its animations' ids. -/
theorem find?_isSome_iff (n : Node τ) (id : Option String) :
    (n.find? id).isSome ↔ id ∈ n.animations.map (·.id) := by
  simp [Node.find?, List.find?_isSome]

/-- Adding an animation fails exactly when its id is taken, and the error names the id. -/
theorem addAnimation_eq_error_iff (n : Node τ) (a : Animation) (e : PlaybackError) :
    n.addAnimation a = .error e ↔
      a.id ∈ n.animations.map (·.id) ∧ e = .duplicateAnimation (animationLabel a.id) := by
  rw [← find?_isSome_iff]
  unfold Node.addAnimation
  cases (n.find? a.id).isSome <;> simp [eq_comm]

/-- Adding animations one by one fails exactly at the first one whose id the node or an earlier
one of them has. -/
theorem foldlM_addAnimation_eq_error_iff (as : List StoredAnimation) (n : Node τ)
    (e : PlaybackError) :
    as.foldlM (fun n a => n.addAnimation (animationOf a)) n = .error e ↔
      ∃ pre a post, as = pre ++ a :: post ∧
        ((pre.map (·.id)).Nodup ∧ ∀ b ∈ pre, b.id ∉ n.animations.map (·.id)) ∧
        a.id ∈ n.animations.map (·.id) ++ pre.map (·.id) ∧
        e = .duplicateAnimation (animationLabel a.id) := by
  rw [List.foldlM_except_eq_error_iff]
  -- the animations added before the failing one are appended to the node's
  have hids : ∀ pre : List StoredAnimation,
      (n.animations ++ pre.map animationOf).map (·.id) =
        n.animations.map (·.id) ++ pre.map (·.id) := by
    intro pre
    simp [animationOf, Function.comp_def]
  constructor
  · rintro ⟨pre, a, post, n', rfl, hpre, ha⟩
    obtain ⟨hok, rfl⟩ := (foldlM_addAnimation_eq_ok_iff pre n n').mp hpre
    obtain ⟨hin, rfl⟩ := (addAnimation_eq_error_iff _ _ _).mp ha
    exact ⟨pre, a, post, rfl, hok, by rwa [← hids], rfl⟩
  · rintro ⟨pre, a, post, rfl, hok, hin, rfl⟩
    refine ⟨pre, a, post, _, rfl, (foldlM_addAnimation_eq_ok_iff pre n _).mpr ⟨hok, rfl⟩, ?_⟩
    exact (addAnimation_eq_error_iff _ _ _).mpr ⟨by rwa [hids], rfl⟩

/-- A step of loading animators fails exactly when its animator does not build. -/
theorem addBuilt_eq_error_iff (p : Node τ × Nat) (a : StoredAnimator) (e : PlaybackError) :
    addBuilt p a = .error e ↔ a.Rejects e := by
  obtain ⟨n, next⟩ := p
  rw [addBuilt, Except.bind_eq_error_iff, StoredAnimator.build_eq_error_iff]
  simp [pure, Except.pure]

/-- Loading animators one by one succeeds exactly when each of them loads. -/
theorem foldlM_addBuilt_isOk_iff (as : List StoredAnimator) (p : Node τ × Nat) :
    (∃ r, as.foldlM addBuilt p = .ok r) ↔ ∀ a ∈ as, a.Loads := by
  induction as generalizing p with
  | nil => exact ⟨fun _ _ h => absurd h List.not_mem_nil, fun _ => ⟨p, rfl⟩⟩
  | cons a as ih =>
    obtain ⟨n, next⟩ := p
    rw [List.forall_mem_cons, ← StoredAnimator.build_isOk_iff a next]
    simp only [List.foldlM_cons, addBuilt, Except.bind_eq_ok_iff]
    constructor
    · rintro ⟨r, p', ⟨x, hx, -⟩, hr⟩
      exact ⟨⟨x, hx⟩, ih _ |>.mp ⟨r, hr⟩⟩
    · rintro ⟨⟨x, hx⟩, hrest⟩
      obtain ⟨r, hr⟩ := (ih _).mpr hrest
      exact ⟨r, _, ⟨x, hx, rfl⟩, hr⟩

/-- Loading animators one by one fails exactly at the first that does not load, with its
error. -/
theorem foldlM_addBuilt_eq_error_iff (as : List StoredAnimator) (p : Node τ × Nat)
    (e : PlaybackError) :
    as.foldlM addBuilt p = .error e ↔
      ∃ pre a post, as = pre ++ a :: post ∧ (∀ b ∈ pre, b.Loads) ∧ a.Rejects e := by
  rw [List.foldlM_except_eq_error_iff]
  constructor
  · rintro ⟨pre, a, post, p', rfl, hpre, ha⟩
    exact ⟨pre, a, post, rfl, (foldlM_addBuilt_isOk_iff pre p).mp ⟨p', hpre⟩,
      (addBuilt_eq_error_iff p' a e).mp ha⟩
  · rintro ⟨pre, a, post, rfl, hpre, ha⟩
    obtain ⟨p', hp'⟩ := (foldlM_addBuilt_isOk_iff pre p).mpr hpre
    exact ⟨pre, a, post, p', rfl, hp', (addBuilt_eq_error_iff p' a e).mpr ha⟩

/-- Building a node around any object succeeds exactly when the animation ids are distinct and
every animator loads; otherwise it fails with the error of the first fault in document order. -/
theorem build_accepts_or_first_fault (s : StoredNode) (object : τ) (next : Nat) :
    ((∃ r, s.build object next = .ok r) ↔
      (s.animations.map (·.id)).Nodup ∧ ∀ a ∈ s.animators, a.Loads) ∧
    ∀ e, s.build object next = .error e ↔ s.Rejects e := by
  -- the node the animators are loaded onto: the animations appended to a node without any
  have hanims := foldlM_addAnimation_eq_ok_iff s.animations
    ({ object := object, id := s.id, trigger := s.trigger } : Node τ)
  have hstart : ∀ a ∈ s.animations, a.id ∉ ([] : List Animation).map (·.id) :=
    fun _ _ => List.not_mem_nil
  refine ⟨?_, fun e => ?_⟩
  · rw [build_eq]
    constructor
    · rintro ⟨r, hr⟩
      obtain ⟨node, hnode, hrest⟩ := (Except.bind_eq_ok_iff _ _ _).mp hr
      exact ⟨((hanims node).mp hnode).1.1, (foldlM_addBuilt_isOk_iff _ _).mp ⟨r, hrest⟩⟩
    · rintro ⟨hids, hload⟩
      obtain ⟨r, hr⟩ := (foldlM_addBuilt_isOk_iff _ (_, next)).mpr hload
      exact ⟨r, (Except.bind_eq_ok_iff _ _ _).mpr ⟨_, (hanims _).mpr ⟨⟨hids, hstart⟩, rfl⟩, hr⟩⟩
  · rw [build_eq, Except.bind_eq_error_iff, foldlM_addAnimation_eq_error_iff]
    unfold Rejects
    apply or_congr
    · simp
    · constructor
      · rintro ⟨node, hnode, hrest⟩
        obtain ⟨⟨hids, -⟩, rfl⟩ := (hanims node).mp hnode
        exact ⟨hids, (foldlM_addBuilt_eq_error_iff _ _ _).mp hrest⟩
      · rintro ⟨hids, hrest⟩
        exact ⟨_, (hanims _).mpr ⟨⟨hids, hstart⟩, rfl⟩,
          (foldlM_addBuilt_eq_error_iff _ _ _).mpr hrest⟩

end StoredNode

end Timeline

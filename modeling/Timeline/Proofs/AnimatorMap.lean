import Timeline.Proofs.StoredForm
import Timeline.Proofs.Tick

/-!
# Animator collections as maps from path and animation

A collection keeps its animators in a list and looks them up by their pair of target path and
animation (`Animator.pair`), taking the first animator with the pair. The collection's own
operations treat the list as an insertion-ordered map from pairs: adding an animator replaces the
one with its pair in place and returns it, or puts the new one last (`Collection.add_find?`,
`Collection.add_pairs`); removing a pair drops exactly the animators with that pair
(`Collection.remove_animators`); `findOrAdd` returns the animator there, or appends an empty one
when the pair is missing, and fails, changing nothing, when the animator there has another kind
(`Collection.findOrAdd_of_find?`). None of these ever gives two animators one pair, and neither do
shared clones, unbinding, or edits of an animator that keep its pair
(`Collection.performAll_lawful`).

An animator reached through the collection can be retargeted, though, or moved to another
animation; the collection does not see it. Retargeting one animator onto another's path leaves
two animators with one pair, of which lookups only ever find the first
(`Collection.retarget_repeats_pair`).
-/

namespace Timeline

/-! ## Removing the first element with a key -/

section Erase

variable {α κ : Type} [DecidableEq κ] (key : α → κ)

/-- In a list whose keys are distinct, removing the first element with a key removes every
element with that key. -/
theorem List.eraseIdx_findIdx? {l : List α} (hl : (l.map key).Nodup) {k : κ} {i : Nat}
    (hi : l.findIdx? (key · = k) = some i) : l.eraseIdx i = l.filter (key · ≠ k) := by
  induction l generalizing i with
  | nil => cases hi
  | cons x xs ih =>
    rw [List.map_cons, List.nodup_cons] at hl
    rw [List.findIdx?_cons] at hi
    by_cases hx : key x = k
    · -- the head is the element removed, and no later element has its key
      rw [if_pos (decide_eq_true hx)] at hi
      cases hi
      have hrest : ∀ y ∈ xs, key y ≠ k := fun y hy hyk =>
        hl.1 (hx ▸ hyk ▸ List.mem_map_of_mem hy)
      rw [List.eraseIdx_cons_zero, List.filter_cons_of_neg (by simpa using hx),
        List.filter_eq_self.mpr fun y hy => by simpa using hrest y hy]
    · rw [if_neg (by simpa using hx)] at hi
      obtain ⟨j, hj, rfl⟩ := Option.map_eq_some_iff.mp hi
      rw [List.eraseIdx_cons_succ, List.filter_cons_of_pos (by simpa using hx), ih hl.2 hj]

/-- Filtering out a key that no element has keeps the list. -/
theorem List.filter_key_ne {l : List α} {k : κ} (h : l.findIdx? (key · = k) = none) :
    l.filter (key · ≠ k) = l :=
  List.filter_eq_self.mpr fun y hy => by
    simpa using List.findIdx?_eq_none_iff.mp h y hy

end Erase

namespace Collection

/-! ## Lookup by pair -/

/-- The pairs of a collection's animators, in order. -/
def pairs (c : Collection) : List (String × Option String) := c.animators.map (·.pair)

/-- An animator owns a path and an animation exactly when that is its pair. -/
theorem owns_eq_pair (path : String) (animation : Option String) :
    (Animator.owns · path animation) = fun a => decide (a.pair = (path, animation)) := by
  funext a
  rw [Bool.eq_iff_iff]
  simp [Animator.owns, Animator.pair]

variable (c : Collection) (path : String) (animation : Option String)

theorem position?_eq :
    c.position? path animation = c.animators.findIdx? (·.pair = (path, animation)) := by
  unfold position?
  rw [owns_eq_pair]

theorem find?_eq : c.find? path animation = c.animators.find? (·.pair = (path, animation)) := by
  unfold find?
  rw [owns_eq_pair]

variable {c path animation}

/-- What a lookup finds has the pair looked up. -/
theorem find?_pair {a : Animator} (h : c.find? path animation = some a) :
    a.pair = (path, animation) := by
  rw [find?_eq] at h
  simpa using List.find?_some h

/-- A lookup finds nothing exactly when no animator has the pair. -/
theorem find?_eq_none_iff : c.find? path animation = none ↔ (path, animation) ∉ c.pairs := by
  rw [find?_eq, List.find?_eq_none]
  simp [pairs]

/-- In a collection whose pairs are distinct, a lookup finds exactly the animator with the
pair. -/
theorem find?_eq_some_iff (hc : c.pairs.Nodup) {a : Animator} :
    c.find? path animation = some a ↔ a ∈ c.animators ∧ a.pair = (path, animation) := by
  refine ⟨fun h => ⟨?_, find?_pair h⟩, fun ⟨ha, hpair⟩ => ?_⟩
  · rw [find?_eq] at h
    exact List.mem_of_find?_eq_some h
  · cases hf : c.find? path animation with
    | none =>
      exact absurd (hpair ▸ List.mem_map_of_mem ha) (find?_eq_none_iff.mp hf)
    | some b =>
      -- two animators with one pair are one animator
      have hb : b ∈ c.animators := by
        rw [find?_eq] at hf
        exact List.mem_of_find?_eq_some hf
      rw [List.inj_on_of_nodup_map hc hb ha ((find?_pair hf).trans hpair.symm)]

/-! ## Adding -/

variable (c)

/-- Adding an animator returns the one it replaced: the one with its pair, if any. -/
theorem add_snd (x : Animator) : (c.add x).2 = c.find? x.target x.animation := by
  unfold add
  rw [find?_eq, position?_eq, List.find?_eq_bind_findIdx?_getElem?]
  cases c.animators.findIdx? (·.pair = (x.target, x.animation)) <;> rfl

/-- After adding an animator, its pair finds it and every other pair finds what it found. -/
theorem add_find? (x : Animator) (p : String) (a : Option String) :
    (c.add x).1.find? p a = if x.pair = (p, a) then some x else c.find? p a := by
  rw [find?_eq, add_animators, find?_eq]
  cases hi : c.animators.findIdx? (·.pair = x.pair) with
  | some i => exact List.find?_set_first Animator.pair hi (p, a)
  | none =>
    dsimp only
    rw [List.find?_append]
    by_cases hp : x.pair = (p, a)
    · -- the pair was missing, so only the new animator has it
      have hmiss : c.animators.find? (·.pair = (p, a)) = none :=
        List.find?_eq_none.mpr fun y hy => by
          rw [← hp]
          simpa using List.findIdx?_eq_none_iff.mp hi y hy
      rw [hmiss, if_pos hp]
      simp [hp]
    · rw [if_neg hp]
      cases c.animators.find? (·.pair = (p, a)) <;> simp [hp]

/-- Adding an animator keeps the pairs in place when its pair is held, and puts its pair last
otherwise. -/
theorem add_pairs (x : Animator) :
    (c.add x).1.pairs = if x.pair ∈ c.pairs then c.pairs else c.pairs ++ [x.pair] := by
  unfold pairs
  rw [add_animators]
  cases hi : c.animators.findIdx? (·.pair = x.pair) with
  | some i =>
    obtain ⟨hlt, hpair, -⟩ := List.findIdx?_eq_some_iff_getElem.mp hi
    dsimp only
    -- the animator replaced has the new one's pair
    have hsame : x.pair = c.animators[i].pair := (by simpa using hpair : _ = x.pair).symm
    have hheld : x.pair ∈ c.animators.map (·.pair) :=
      hsame ▸ List.mem_map_of_mem (List.getElem_mem hlt)
    rw [if_pos hheld, List.map_set_of_getElem? _ (List.getElem?_eq_getElem hlt) hsame]
  | none =>
    have hmiss : x.pair ∉ c.animators.map (·.pair) := by
      simpa using fun y hy => by simpa using List.findIdx?_eq_none_iff.mp hi y hy
    dsimp only
    rw [if_neg hmiss, List.map_append, List.map_singleton]

/-! ## Removing -/

/-- Removing a pair returns the animator that had it, if any. -/
theorem remove_snd (p : String) (a : Option String) : (c.remove p a).2 = c.find? p a := by
  unfold remove
  rw [find?_eq, position?_eq, List.find?_eq_bind_findIdx?_getElem?]
  cases c.animators.findIdx? (·.pair = (p, a)) <;> rfl

/-- In a collection whose pairs are distinct, removing a pair drops the animator with it and
keeps the others in order. -/
theorem remove_animators {c : Collection} (hc : c.pairs.Nodup) (p : String) (a : Option String) :
    (c.remove p a).1.animators = c.animators.filter (·.pair ≠ (p, a)) := by
  unfold remove
  rw [position?_eq]
  cases hi : c.animators.findIdx? (·.pair = (p, a)) with
  | none => exact (List.filter_key_ne Animator.pair hi).symm
  | some i => exact List.eraseIdx_findIdx? Animator.pair hc hi

/-! ## Finding or adding -/

variable {c}

/-- For a missing pair, `findOrAdd` appends an empty animator of the kind asked for, under the
fresh key list name, and returns its place. -/
theorem findOrAdd_of_find?_none {p : String} {a : Option String} (h : c.find? p a = none)
    (k : Kind) (fresh : Nat) :
    c.findOrAdd p a k fresh =
      .ok (⟨c.animators ++ [{ Animator.new p k {} fresh with animation := a }]⟩,
        c.animators.length) := by
  have hpos : c.position? p a = none := by
    rw [position?_eq]
    rw [find?_eq, List.find?_eq_bind_findIdx?_getElem?] at h
    cases hi : c.animators.findIdx? (·.pair = (p, a)) with
    | none => rfl
    | some i =>
      rw [hi] at h
      obtain ⟨hlt, -, -⟩ := List.findIdx?_eq_some_iff_getElem.mp hi
      simp [hlt] at h
  unfold findOrAdd
  rw [hpos]
  simp [Animator.new]

/-- For a held pair, `findOrAdd` returns the place of the animator there when it has the kind
asked for, and otherwise fails naming both kinds, adding nothing. -/
theorem findOrAdd_of_find? {p : String} {a : Option String} {x : Animator}
    (h : c.find? p a = some x) (k : Kind) (fresh : Nat) :
    ∃ i, c.animators[i]? = some x ∧
      c.findOrAdd p a k fresh =
        if x.kind = k then .ok (c, i)
        else .error (.invalidKeys p ("existing animator is " ++ x.kind.title ++ ", requested " ++
          k.title)) := by
  rw [find?_eq, List.find?_eq_bind_findIdx?_getElem?] at h
  cases hi : c.animators.findIdx? (·.pair = (p, a)) with
  | none =>
    rw [hi] at h
    cases h
  | some i =>
    rw [hi, Option.bind_some] at h
    refine ⟨i, h, ?_⟩
    unfold findOrAdd
    rw [position?_eq, hi]
    simp only [h]

/-! ## Changes that keep every pair -/

theorem sharedClone_pairs (c : Collection) : c.sharedClone.pairs = c.pairs := by
  simp [pairs, sharedClone, Function.comp_def, Animator.clone, Animator.pair]

theorem unbindAll_pairs (c : Collection) : c.unbindAll.pairs = c.pairs := by
  simp [pairs, unbindAll, Function.comp_def, Animator.unbind, Animator.pair]

/-- Changing the animator with a pair by an edit that keeps its pair keeps every pair. -/
theorem modify?_pairs {β : Type} {f : Animator → Animator × β}
    (hf : ∀ x, (f x).1.pair = x.pair) {p : String} {a : Option String} {r : Collection × β} (h : c.modify? p a f = some r) :
    r.1.pairs = c.pairs := by
  unfold modify? at h
  split at h
  · rename_i i _
    split at h
    · rename_i x hx
      cases h
      exact List.map_set_of_getElem? Animator.pair hx (hf x)
    · cases h
  · cases h

/-- A successful `findOrAdd` keeps every pair, and adds its pair last when it was missing. -/
theorem findOrAdd_pairs {p : String} {a : Option String} {k : Kind} {fresh : Nat}
    {r : Collection × Nat} (h : c.findOrAdd p a k fresh = .ok r) :
    r.1.pairs = c.pairs ∨ (p, a) ∉ c.pairs ∧ r.1.pairs = c.pairs ++ [(p, a)] := by
  cases hf : c.find? p a with
  | none =>
    rw [findOrAdd_of_find?_none hf] at h
    cases h
    refine .inr ⟨find?_eq_none_iff.mp hf, ?_⟩
    simp [pairs, Animator.new, Animator.pair]
  | some x =>
    obtain ⟨i, -, hfo⟩ := findOrAdd_of_find? hf k fresh
    rw [hfo] at h
    split at h
    · cases h
      exact .inl rfl
    · cases h

end Collection

/-! ## Calls on a collection -/

/-- A call on an animator collection: adding, finding or adding, removing, cloning with shared
keys, unbinding, and changing the animator with a pair, or every animator, through the animator's
own methods. -/
inductive CollectionCall where
  | add (x : Animator)
  | findOrAdd (path : String) (animation : Option String) (kind : Kind) (fresh : Nat)
  | remove (path : String) (animation : Option String)
  | sharedClone
  | unbindAll
  | edit (path : String) (animation : Option String) (e : Animator → Animator)
  | editAll (e : Animator → Animator)

namespace CollectionCall

/-- The edits of a call keep every animator's pair. -/
def KeepsPairs : CollectionCall → Prop
  | .edit _ _ e | .editAll e => ∀ x, (e x).pair = x.pair
  | _ => True

/-- Makes a call; a `findOrAdd` that fails, or an edit of a missing pair, changes nothing. -/
def perform : CollectionCall → Collection → Collection
  | .add x, c => (c.add x).1
  | .findOrAdd path animation kind fresh, c =>
    match c.findOrAdd path animation kind fresh with
    | .ok (c', _) => c'
    | .error _ => c
  | .remove path animation, c => (c.remove path animation).1
  | .sharedClone, c => c.sharedClone
  | .unbindAll, c => c.unbindAll
  | .edit path animation e, c => ((c.modify? path animation fun x => (e x, ())).map (·.1)).getD c
  | .editAll e, c => ⟨c.animators.map e⟩

/-- Makes calls in order. -/
def performAll (cs : List CollectionCall) (c : Collection) : Collection :=
  cs.foldl (fun c x => x.perform c) c

/-- A call whose edits keep pairs keeps the pairs distinct. -/
theorem perform_nodup {c : Collection} (h : c.pairs.Nodup) {x : CollectionCall}
    (hx : x.KeepsPairs) : (x.perform c).pairs.Nodup := by
  cases x with
  | add y =>
    show (c.add y).1.pairs.Nodup
    rw [Collection.add_pairs]
    split
    · exact h
    · rename_i hmiss
      rw [← List.concat_eq_append]
      exact h.concat hmiss
  | findOrAdd path animation kind fresh =>
    show (match c.findOrAdd path animation kind fresh with
      | .ok (c', _) => c' | .error _ => c).pairs.Nodup
    cases hf : c.findOrAdd path animation kind fresh with
    | error e => exact h
    | ok r =>
      rcases Collection.findOrAdd_pairs hf with hr | ⟨hmiss, hr⟩
      · rw [hr]
        exact h
      · rw [hr, ← List.concat_eq_append]
        exact h.concat hmiss
  | remove path animation =>
    show (c.remove path animation).1.pairs.Nodup
    rw [Collection.pairs, Collection.remove_animators h]
    exact h.sublist ((List.filter_sublist ..).map _)
  | sharedClone => exact (Collection.sharedClone_pairs c).symm ▸ h
  | unbindAll => exact (Collection.unbindAll_pairs c).symm ▸ h
  | edit path animation e =>
    show (((c.modify? path animation fun x => (e x, ())).map (·.1)).getD c).pairs.Nodup
    cases hm : c.modify? path animation fun x => (e x, ()) with
    | none => exact h
    | some r => exact (Collection.modify?_pairs (f := fun x => (e x, ())) hx hm).symm ▸ h
  | editAll e =>
    show ((c.animators.map e).map (·.pair)).Nodup
    rw [List.map_map, show (Animator.pair ∘ e) = Animator.pair from funext hx]
    exact h

/-- Calls whose edits keep pairs keep the pairs distinct. -/
theorem performAll_nodup {cs : List CollectionCall} (hcs : ∀ x ∈ cs, x.KeepsPairs)
    {c : Collection} (h : c.pairs.Nodup) : (performAll cs c).pairs.Nodup := by
  induction cs generalizing c with
  | nil => exact h
  | cons x cs ih =>
    exact ih (fun y hy => hcs y (List.mem_cons_of_mem x hy))
      (perform_nodup h (hcs x List.mem_cons_self))

end CollectionCall

/-! ## The collection as a map -/

namespace Collection

/-- What a collection promises as an insertion-ordered map from pairs of path and animation. -/
structure Lawful (c : Collection) : Prop where
  /-- No two animators share a pair. -/
  pairs : c.pairs.Nodup
  /-- A lookup finds exactly the animator with the pair. -/
  find : ∀ p a x, c.find? p a = some x ↔ x ∈ c.animators ∧ x.pair = (p, a)
  /-- A lookup for a kind finds that animator only when it has the kind. -/
  findTyped : ∀ p a k x, (c.find? p a).filter (·.kind == k) = some x ↔
    x ∈ c.animators ∧ x.pair = (p, a) ∧ x.kind = k
  /-- Adding an animator returns the one with its pair, if any; afterwards its pair finds it
  and every other pair what it found; it takes the place of the one it replaced, or goes last. -/
  add : ∀ x, (c.add x).2 = c.find? x.target x.animation ∧
    (∀ p a, (c.add x).1.find? p a = if x.pair = (p, a) then some x else c.find? p a) ∧
    (c.add x).1.pairs = if x.pair ∈ c.pairs then c.pairs else c.pairs ++ [x.pair]
  /-- Removing a pair returns the animator with it and keeps the others in order. -/
  remove : ∀ p a, (c.remove p a).2 = c.find? p a ∧
    (c.remove p a).1.animators = c.animators.filter (·.pair ≠ (p, a))
  /-- `findOrAdd` appends an empty animator of the kind for a missing pair, returns the place
  of the animator there when it has the kind, and otherwise fails naming both kinds. -/
  findOrAdd : ∀ p a k fresh,
    (c.find? p a = none → c.findOrAdd p a k fresh =
      .ok (⟨c.animators ++ [{ Animator.new p k {} fresh with animation := a }]⟩,
        c.animators.length)) ∧
    (∀ x, c.find? p a = some x → ∃ i, c.animators[i]? = some x ∧
      c.findOrAdd p a k fresh =
        if x.kind = k then .ok (c, i)
        else .error (.invalidKeys p ("existing animator is " ++ x.kind.title ++ ", requested " ++
          k.title)))

/-- A collection whose pairs are distinct keeps its promises. -/
theorem lawful_of_nodup {c : Collection} (hc : c.pairs.Nodup) : c.Lawful where
  pairs := hc
  find _ _ _ := find?_eq_some_iff hc
  findTyped p a k x := by
    rw [Option.filter_eq_some_iff, find?_eq_some_iff hc, beq_iff_eq, and_assoc]
  add x := ⟨add_snd c x, add_find? c x, add_pairs c x⟩
  remove p a := ⟨remove_snd c p a, remove_animators hc p a⟩
  findOrAdd _ _ k fresh :=
    ⟨fun h => findOrAdd_of_find?_none h k fresh, fun _ h => findOrAdd_of_find? h k fresh⟩

/-- Every collection built by calls whose edits keep each animator's pair, from one whose pairs
are distinct, is a map from pairs: no two animators share a pair, and adding, finding, removing
and finding or adding act on it as on an insertion-ordered map. -/
theorem performAll_lawful {cs : List CollectionCall} (hcs : ∀ x ∈ cs, x.KeepsPairs)
    {c : Collection} (hc : c.pairs.Nodup) : (CollectionCall.performAll cs c).Lawful :=
  lawful_of_nodup (CollectionCall.performAll_nodup hcs hc)

/-- The promises hold after two animators are added, one disabled through the collection and
every animator cloned with shared keys. -/
theorem performAll_lawful_disabled :
    let cs : List CollectionCall :=
      [.add (Animator.new "X" .float {} 0), .add (Animator.new "Y" .float {} 1),
       .edit "Y" none fun x => { x with enabled := false }, .sharedClone]
    (∀ x ∈ cs, x.KeepsPairs) ∧ ({} : Collection).pairs.Nodup ∧
      (CollectionCall.performAll cs {}).Lawful := by
  intro cs
  have hcs : ∀ x ∈ cs, x.KeepsPairs := by
    intro x hx
    simp only [cs, List.mem_cons, List.not_mem_nil, or_false] at hx
    rcases hx with rfl | rfl | rfl | rfl
    · trivial
    · trivial
    · exact fun y => (rfl : y.pair = y.pair)
    · trivial
  exact ⟨hcs, List.nodup_nil, performAll_lawful hcs List.nodup_nil⟩

/-- Retargeting an animator reached through the collection onto another's path leaves two
animators with one pair. -/
theorem retarget_repeats_pair :
    ¬ (CollectionCall.performAll
        [.add (Animator.new "X" .float {} 0), .add (Animator.new "Y" .float {} 1),
         .edit "Y" none fun x => x.retarget "X"] {}).pairs.Nodup := by
  decide

end Collection

end Timeline

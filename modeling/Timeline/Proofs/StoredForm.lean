import Mathlib.Data.List.Forall2
import Timeline.Stored.Load
import Timeline.Proofs.KeyList
import Timeline.Proofs.MarkerOrder

/-!
# The stored form of a node is a normal form

Building a node from a stored node and storing it again (`StoredNode.build`, then
`Node.toStored`) normalises the stored node in four ways at once, and each of them is a fixpoint
on its own output:

* each animation's markers are added one by one, so they come out in frame order with distinct
  ids, and adding the markers of such a list again gives the list back
  (`MarkerList.ofList_markers`);
* each animator's keys are pushed one by one, so they come out in strictly increasing frame
  order, the last key on each frame winning (`KeysNormal`, `KeyList.ofKeys_normal`), and pushing
  keys in that order again gives them back (`KeyList.ofKeys_keys_of_ordered`);
* an animator's kind is resolved and stored;
* animators are gathered one per target path and animation, each in the place where its pair
  first occurs and with the content of the last animator of that pair (`Gathers`); gathering
  animators whose pairs are distinct appends them all (`gather_of_nodup`).

The build succeeds exactly when the animation ids are distinct and every animator resolves a
kind and has keys on frames from zero on with values of that kind
(`StoredNode.foldlM_addAnimation_eq_ok_iff`, `StoredAnimator.build_eq_ok_iff`). All of that holds of
the stored form (`StoredNode.Normal`), so it builds again on any object and stores back to itself
(`StoredNode.normalises_of_build`).
-/

namespace Timeline

/-! ## Folds through `Except` -/

section Fold

variable {σ β ε : Type} {f : σ → β → Except ε σ} {g : σ → β → σ} {P : β → Prop}

/-- A fold through `Except` whose steps succeed exactly on the elements that pass `P`, each as a
step of the plain fold `g`, succeeds exactly when every element passes, with the plain fold. -/
theorem List.foldlM_except_eq_ok_iff (hf : ∀ s x r, f s x = .ok r ↔ P x ∧ r = g s x)
    (xs : List β) (s r : σ) : xs.foldlM f s = .ok r ↔ (∀ x ∈ xs, P x) ∧ r = xs.foldl g s := by
  induction xs generalizing s with
  | nil =>
    show (Except.ok s : Except ε σ) = .ok r ↔ _
    simp only [Except.ok.injEq, List.not_mem_nil, IsEmpty.forall_iff, implies_true, true_and,
      List.foldl_nil]
    exact eq_comm
  | cons x xs ih =>
    rw [List.foldlM_cons, List.forall_mem_cons, List.foldl_cons]
    cases hx : f s x with
    | error e =>
      -- a failing step fails the fold, and its element does not pass
      have hfail : ¬ P x := fun hp => by
        have hok := (hf s x (g s x)).mpr ⟨hp, rfl⟩
        rw [hx] at hok
        cases hok
      show (Except.error e : Except ε σ) = .ok r ↔ _
      simp [hfail]
    | ok m =>
      obtain ⟨hp, rfl⟩ := (hf s x m).mp hx
      show xs.foldlM f (g s x) = .ok r ↔ _
      rw [ih]
      simp [hp]

end Fold

/-! ## Keys: frame order, the last key on a frame winning -/

/-- `keys` is the normalisation of `ks`: strictly increasing frames, and on each frame the last
key of `ks` on that frame. -/
def KeysNormal {α : Type} (ks keys : List (Key α)) : Prop :=
  keys.Pairwise (·.frame < ·.frame) ∧
    ∀ f, keys.find? (·.frame = f) = ks.reverse.find? (·.frame = f)

namespace KeyList

variable {α : Type}

/-- Pushing onto an ordered list is the one-pass insertion. -/
theorem push_keys {l : KeyList α} (hl : l.Ordered) (k : Key α) :
    (l.push k).keys = placeKey k l.keys := by
  rw [push_eq_insert hl, insert_eq]

/-- Pushing keeps a list ordered. -/
theorem push_ordered {l : KeyList α} (hl : l.Ordered) (k : Key α) : (l.push k).Ordered :=
  (KeyEdit.push k).run_ordered hl

/-- Pushing keys one by one onto an ordered list finds, on each frame, the last key pushed
there, and otherwise what the list had. -/
theorem foldl_push_find? {l : KeyList α} (hl : l.Ordered) (ks : List (Key α)) (f : Frame) :
    (ks.foldl push l).keys.find? (·.frame = f) =
      (ks.reverse.find? (·.frame = f)).or (l.keys.find? (·.frame = f)) := by
  induction ks generalizing l with
  | nil => simp
  | cons k ks ih =>
    rw [List.foldl_cons, ih (push_ordered hl k), push_keys hl, find?_placeKey, List.reverse_cons,
      List.find?_append, List.find?_singleton, Option.or_assoc]
    by_cases hk : k.frame = f <;> simp [hk]

/-- Pushing keys one by one normalises them. -/
theorem ofKeys_normal (ks : List (Key α)) : KeysNormal ks (ofKeys ks).keys := by
  refine ⟨(ofKeys_reachable ks).ordered, fun f => ?_⟩
  rw [ofKeys, foldl_push_find? (show ({} : KeyList α).Ordered from List.Pairwise.nil)]
  exact Option.or_none

/-- The keys of a list built by pushing are keys that were pushed. -/
theorem mem_ofKeys {ks : List (Key α)} {x : Key α} (h : x ∈ (ofKeys ks).keys) : x ∈ ks := by
  suffices hgen : ∀ l : KeyList α, l.Ordered → x ∈ (ks.foldl push l).keys →
      x ∈ ks ∨ x ∈ l.keys by
    simpa using hgen {} List.Pairwise.nil h
  clear h
  induction ks with
  | nil => exact fun l _ hx => .inr hx
  | cons k ks ih =>
    intro l hl hx
    rcases ih _ (push_ordered hl k) hx with hx | hx
    · exact .inl (List.mem_cons_of_mem _ hx)
    · rw [push_keys hl] at hx
      rcases mem_placeKey hx with rfl | hx
      · exact .inl List.mem_cons_self
      · exact .inr hx

/-- Pushing keys that are already in increasing frame order gives them back. -/
theorem ofKeys_keys_of_ordered {ks : List (Key α)} (h : ks.Pairwise (·.frame < ·.frame)) :
    (ofKeys ks).keys = ks := by
  -- pushing onto keys on earlier frames appends
  suffices hgen : ∀ l : KeyList α, l.Ordered → (∀ x ∈ l.keys, ∀ y ∈ ks, x.frame < y.frame) →
      (ks.foldl push l).keys = l.keys ++ ks from hgen {} List.Pairwise.nil (by simp)
  induction ks with
  | nil => simp
  | cons k ks ih =>
    intro l hl hbefore
    rw [List.pairwise_cons] at h
    have hpush : (l.push k).keys = l.keys ++ [k] := by
      rw [push_keys hl]
      exact placeKey_of_lt k fun x hx => hbefore x hx k List.mem_cons_self
    rw [List.foldl_cons, ih h.2 _ (push_ordered hl k), hpush, List.append_assoc,
      List.singleton_append]
    intro x hx y hy
    rw [hpush] at hx
    rcases List.mem_append.mp hx with hx | hx
    · exact hbefore x hx y (List.mem_cons_of_mem _ hy)
    · rw [List.mem_singleton] at hx
      subst hx
      exact h.1 y hy

end KeyList

/-! ## Markers: adding a valid list again gives it back -/

namespace MarkerList

/-- Adding a marker with a new id on a frame at or after every frame of a list appends it. -/
theorem add_of_last {l : MarkerList} {m : Marker} (hid : m.id ∉ l.markers.map (·.id))
    (hframe : ∀ x ∈ l.markers, x.frame ≤ m.frame) : (l.add m).markers = l.markers ++ [m] := by
  have hkept : l.kept m.id = l.markers := by
    refine List.eraseP_of_forall_not fun x hx => ?_
    have hne : x.id ≠ m.id := fun he => hid (List.mem_map.mpr ⟨x, hx, he⟩)
    simpa using hne
  rw [add_markers, hkept, List.takeWhile_eq_self_iff.mpr (fun x hx => by simpa using hframe x hx),
    List.dropWhile_eq_nil_iff.mpr (fun x hx => by simpa using hframe x hx)]

/-- Adding the markers of a valid list one by one gives the list back. -/
theorem ofList_markers {l : MarkerList} (h : l.Valid) : ofList l.markers = l := by
  suffices hgen : ∀ (pre ms : List Marker), (pre ++ ms).Pairwise (·.frame ≤ ·.frame) →
      ((pre ++ ms).map (·.id)).Nodup → ms.foldl add ⟨pre⟩ = ⟨pre ++ ms⟩ by
    obtain ⟨ms⟩ := l
    have := hgen [] ms h.sorted h.ids
    simpa [ofList] using this
  intro pre ms
  induction ms generalizing pre with
  | nil => simp
  | cons m ms ih =>
    intro hsorted hids
    have hlast : (MarkerList.add ⟨pre⟩ m).markers = pre ++ [m] := by
      refine add_of_last (fun hm => ?_) (fun x hx => ?_)
      · rw [List.map_append, List.nodup_append] at hids
        exact hids.2.2 m.id hm m.id (by simp) rfl
      · exact (List.pairwise_append.mp hsorted).2.2 x hx m List.mem_cons_self
    have hstep : MarkerList.add ⟨pre⟩ m = ⟨pre ++ [m]⟩ := by
      rw [← hlast]
    rw [List.foldl_cons, hstep, ih (pre ++ [m]) (by simpa using hsorted) (by simpa using hids)]
    simp

end MarkerList

/-! ## Animators gathered one per pair -/

/-- The pair an animator is kept under: its target path and its animation. -/
def Animator.pair (a : Animator) : String × Option String := (a.target, a.animation)

/-- The pair a stored animator is kept under: its target path and its animation. -/
def StoredAnimator.pair (a : StoredAnimator) : String × Option String := (a.target, a.animation)

/-- Storing an animator keeps its pair. -/
@[simp] theorem Animator.toStored_pair (a : Animator) : a.toStored.pair = a.pair := rfl

/-- Adding an animator replaces the one with its pair, in place, or goes last. -/
theorem Collection.add_animators (c : Collection) (x : Animator) :
    (c.add x).1.animators = match c.animators.findIdx? (·.pair = x.pair) with
      | some i => c.animators.set i x
      | none => c.animators ++ [x] := by
  have howns : (Animator.owns · x.target x.animation) = fun y => decide (y.pair = x.pair) := by
    funext y
    rw [Bool.eq_iff_iff]
    simp [Animator.owns, Animator.pair]
  unfold Collection.add Collection.position?
  rw [howns]
  cases c.animators.findIdx? fun y => decide (y.pair = x.pair) <;> rfl

/-- Adding the animators `xs` one by one to a collection. -/
def gather (xs : List Animator) (c : Collection) : Collection := xs.foldl (fun c x => (c.add x).1) c

/-- `c` is what gathering the animators `seen` gives: one animator per pair, the pairs in the
order they first occur in `seen`, each animator the last one of `seen` with its pair. -/
structure Gathers (c seen : List Animator) : Prop where
  /-- No pair is held twice. -/
  nodup : (c.map (·.pair)).Nodup
  /-- The pairs, in the order of their first occurrence. -/
  pairs : c.map (·.pair) = (seen.map (·.pair)).eraseDups
  /-- Each animator is the last one seen with its pair. -/
  last : ∀ y ∈ c, seen.reverse.find? (·.pair = y.pair) = some y

/-- The pairs gathering has seen are the pairs it holds. -/
theorem Gathers.mem_pairs {held seen : List Animator} (h : Gathers held seen)
    (p : String × Option String) : p ∈ seen.map (·.pair) ↔ p ∈ held.map (·.pair) := by
  rw [h.pairs, List.mem_eraseDups]

/-- Gathering an animator with a new pair puts it last. -/
theorem Gathers.add_new {held seen : List Animator} (h : Gathers held seen) {x : Animator}
    (hnew : x.pair ∉ held.map (·.pair)) : Gathers (held ++ [x]) (seen ++ [x]) := by
  refine ⟨?_, ?_, fun y hy => ?_⟩
  · rw [List.map_append, List.nodup_append]
    refine ⟨h.nodup, List.nodup_singleton _, fun p hp q hq => ?_⟩
    rw [List.map_singleton, List.mem_singleton] at hq
    subst hq
    exact fun hpq => hnew (hpq ▸ hp)
  · have hnotseen : x.pair ∉ seen.map (·.pair) := fun hx => hnew ((h.mem_pairs _).mp hx)
    have hout : [x.pair].removeAll (seen.map (·.pair)) = [x.pair] := by
      simpa [List.removeAll] using hnotseen
    rw [List.map_append, List.map_append, List.eraseDups_append, ← h.pairs, List.map_singleton,
      hout]
    rfl
  · rw [List.reverse_append, List.reverse_singleton, List.singleton_append]
    rcases List.mem_append.mp hy with hy | hy
    · have hne : y.pair ≠ x.pair := fun he => hnew (he ▸ List.mem_map_of_mem hy)
      rw [List.find?_cons_of_neg (by simpa using Ne.symm hne)]
      exact h.last y hy
    · rw [List.mem_singleton] at hy
      subst hy
      simp

/-- Gathering an animator whose pair is held at `i` puts it in that place. -/
theorem Gathers.add_held {held seen : List Animator} (h : Gathers held seen) {x : Animator}
    {i : Nat} (hi : i < held.length) (hpair : held[i].pair = x.pair) :
    Gathers (held.set i x) (seen ++ [x]) := by
  have hi' : i < (held.map (·.pair)).length := by simpa using hi
  have hmap : (held.set i x).map (·.pair) = held.map (·.pair) := by
    rw [List.map_set]
    have hget : (held.map (·.pair))[i] = x.pair := by simpa using hpair
    rw [← hget, List.set_getElem_self]
  have hold : x.pair ∈ seen.map (·.pair) :=
    (h.mem_pairs x.pair).mpr (hpair ▸ List.mem_map_of_mem (List.getElem_mem hi))
  refine ⟨hmap ▸ h.nodup, ?_, fun y hy => ?_⟩
  · have hout : [x.pair].removeAll (seen.map (·.pair)) = [] := by
      simpa [List.removeAll] using hold
    rw [hmap, List.map_append, List.eraseDups_append, ← h.pairs, List.map_singleton, hout]
    simp
  · rw [List.reverse_append, List.reverse_singleton, List.singleton_append]
    obtain ⟨j, hj, rfl⟩ := List.mem_iff_getElem.mp hy
    rw [List.getElem_set]
    by_cases hij : i = j
    · rw [if_pos hij]
      simp
    · -- another place holds another pair, which the new animator does not take
      rw [if_neg hij]
      have hj' : j < held.length := by simpa using hj
      have hj'' : j < (held.map (·.pair)).length := by simpa using hj
      have hne : held[j].pair ≠ x.pair := by
        rw [← hpair]
        intro he
        have hget : (held.map (·.pair))[j] = (held.map (·.pair))[i] := by simpa using he
        exact hij (h.nodup.getElem_inj_iff.mp hget).symm
      rw [List.find?_cons_of_neg (by simpa using Ne.symm hne)]
      exact h.last _ (List.getElem_mem hj')

/-- Gathering one more animator keeps what gathering means. -/
theorem Gathers.add {held seen : List Animator} (h : Gathers held seen) (x : Animator) :
    Gathers (Collection.add ⟨held⟩ x).1.animators (seen ++ [x]) := by
  rw [Collection.add_animators]
  cases hfind : held.findIdx? (·.pair = x.pair) with
  | none =>
    refine h.add_new fun hx => ?_
    obtain ⟨y, hy, hyx⟩ := List.mem_map.mp hx
    have := List.findIdx?_eq_none_iff.mp hfind y hy
    simp [hyx] at this
  | some i =>
    obtain ⟨hi, hpair, -⟩ := List.findIdx?_eq_some_iff_getElem.mp hfind
    exact h.add_held hi (by simpa using hpair)

/-- Gathering animators one by one onto what gathering `seen` gave gathers them all. -/
theorem Gathers.append {c seen : List Animator} (h : Gathers c seen) (xs : List Animator) :
    Gathers (gather xs ⟨c⟩).animators (seen ++ xs) := by
  induction xs generalizing c seen with
  | nil =>
    rw [List.append_nil]
    exact h
  | cons x xs ih =>
    have := ih (h.add x)
    rw [List.append_assoc] at this
    exact this

/-- Gathering into an empty collection. -/
theorem gather_gathers (xs : List Animator) : Gathers (gather xs {}).animators xs := by
  have h0 : Gathers [] [] := ⟨List.nodup_nil, rfl, fun y hy => by cases hy⟩
  simpa using h0.append xs

/-- Gathering animators whose pairs are new and distinct appends them. -/
theorem gather_of_nodup {c xs : List Animator} (h : ((c ++ xs).map (·.pair)).Nodup) :
    (gather xs ⟨c⟩).animators = c ++ xs := by
  induction xs generalizing c with
  | nil => simp [gather]
  | cons x xs ih =>
    have hnew : (Collection.add ⟨c⟩ x).1.animators = c ++ [x] := by
      rw [Collection.add_animators]
      have hnone : c.findIdx? (·.pair = x.pair) = none := by
        rw [List.findIdx?_eq_none_iff]
        intro y hy
        rw [List.map_append, List.nodup_append] at h
        have hne := h.2.2 y.pair (List.mem_map_of_mem hy) x.pair (by simp)
        simpa using hne
      rw [hnone]
    have hstep : Collection.add ⟨c⟩ x = (⟨c ++ [x]⟩, (Collection.add ⟨c⟩ x).2) := by
      rw [← hnew]
    show (gather xs (Collection.add ⟨c⟩ x).1).animators = _
    rw [hstep, ih (by simpa using h)]
    simp

/-! ## Building an animator -/

/-- A bind through `Except` succeeds exactly when both stages do. -/
theorem Except.bind_eq_ok_iff {ε α β : Type} (m : Except ε α) (g : α → Except ε β) (y : β) :
    m >>= g = .ok y ↔ ∃ x, m = .ok x ∧ g x = .ok y := by
  cases m with
  | error e =>
    constructor
    · intro h
      cases h
    · rintro ⟨x, hx, -⟩
      cases hx
  | ok a =>
    constructor
    · intro h
      exact ⟨a, rfl, h⟩
    · rintro ⟨x, hx, h⟩
      cases hx
      exact h

namespace StoredAnimator

/-- Whether every key of a stored animator lies on a frame from zero on and holds a value of
kind `k`: the checks building it makes before pushing a key. -/
def KeysLoad (a : StoredAnimator) (k : Kind) : Prop :=
  ∀ key ∈ a.keys, ¬ key.frame < 0 ∧ key.value.kind = k

/-- Pushing keys after checking each one's frame and kind succeeds exactly when every key passes,
whatever the errors say. -/
theorem foldlM_checked_eq_ok_iff (kind : Kind) (e₁ e₂ : Key Value → PlaybackError)
    (ks : List (Key Value)) (l r : KeyList Value) :
    ks.foldlM (fun (l : KeyList Value) (key : Key Value) =>
        (if key.frame < 0 then throw (e₁ key)
          else if key.value.kind ≠ kind then throw (e₂ key) else pure (l.push key) :
          Except PlaybackError (KeyList Value))) l = .ok r ↔
      (∀ key ∈ ks, ¬ key.frame < 0 ∧ key.value.kind = kind) ∧ r = ks.foldl KeyList.push l := by
  refine List.foldlM_except_eq_ok_iff (fun l key r => ?_) ks l r
  by_cases hneg : key.frame < 0
  · simp [hneg, throw, throwThe, MonadExceptOf.throw]
  · by_cases hkind : key.value.kind = kind
    · simp only [hneg, hkind, if_false, ne_eq, not_true_eq_false, pure, Except.pure,
        Except.ok.injEq, not_false_eq_true, and_self, true_and]
      exact eq_comm
    · simp [hneg, hkind, throw, throwThe, MonadExceptOf.throw]

/-- Building an animator succeeds exactly when its kind resolves and every key passes the checks
for that kind, and then gives the animator over the keys pushed in order. -/
theorem build_eq_ok_iff (a : StoredAnimator) (listId : Nat) (x : Animator) :
    a.build listId = .ok x ↔
      ∃ k, a.resolvedKind = some k ∧ a.KeysLoad k ∧ x = a.assemble k listId := by
  unfold build
  cases hk : a.resolvedKind with
  | none => simp [throw, throwThe, MonadExceptOf.throw]
  | some k =>
    simp only [Except.bind_eq_ok_iff, foldlM_checked_eq_ok_iff, Option.some.injEq, exists_eq_left']
    constructor
    · rintro ⟨keys, ⟨hload, rfl⟩, hx⟩
      cases hx
      exact ⟨hload, rfl⟩
    · rintro ⟨hload, rfl⟩
      exact ⟨_, ⟨hload, rfl⟩, rfl⟩

/-- A stored animator with its kind resolved to `k` and its keys normalised. -/
def normalise (a : StoredAnimator) (k : Kind) : StoredAnimator :=
  { a with kind := some k, keys := (KeyList.ofKeys a.keys).keys }

/-- Storing an assembled animator gives its stored animator normalised. -/
@[simp] theorem assemble_toStored (a : StoredAnimator) (k : Kind) (listId : Nat) :
    (a.assemble k listId).toStored = a.normalise k := rfl

/-- Normalising keeps the pair. -/
@[simp] theorem normalise_pair (a : StoredAnimator) (k : Kind) :
    (a.normalise k).pair = a.pair := rfl

/-- `x` is an animator built from `a`: its kind resolved and every key checked. -/
def Builds (a : StoredAnimator) (x : Animator) : Prop :=
  ∃ k, a.resolvedKind = some k ∧ a.KeysLoad k ∧ x.toStored = a.normalise k

/-- A successful build is one. -/
theorem builds_of_build {a : StoredAnimator} {listId : Nat} {x : Animator}
    (h : a.build listId = .ok x) : a.Builds x := by
  obtain ⟨k, hk, hload, rfl⟩ := (build_eq_ok_iff a listId x).mp h
  exact ⟨k, hk, hload, rfl⟩

/-- A built animator keeps the pair. -/
theorem Builds.pair {a : StoredAnimator} {x : Animator} (h : a.Builds x) : x.pair = a.pair := by
  obtain ⟨k, -, -, hx⟩ := h
  rw [← Animator.toStored_pair, hx, normalise_pair]

/-- A stored animator in normal form: its kind given, every key passing the checks for it, and
its frames strictly increasing. -/
structure Normal (a : StoredAnimator) : Prop where
  /-- The kind is given and the keys pass its checks. -/
  loads : ∃ k, a.kind = some k ∧ a.KeysLoad k
  /-- The frames increase strictly. -/
  ordered : a.keys.Pairwise (·.frame < ·.frame)

/-- Normalising an animator whose keys pass the checks gives one in normal form. -/
theorem normalise_normal {a : StoredAnimator} {k : Kind} (h : a.KeysLoad k) :
    (a.normalise k).Normal :=
  ⟨⟨k, rfl, fun key hkey => h key (KeyList.mem_ofKeys hkey)⟩,
    (KeyList.ofKeys_reachable a.keys).ordered⟩

/-- Normalising an animator in normal form changes nothing. -/
theorem Normal.normalise_eq {a : StoredAnimator} (h : a.Normal) {k : Kind} (hk : a.kind = some k) :
    a.normalise k = a := by
  have hkeys := KeyList.ofKeys_keys_of_ordered h.ordered
  obtain ⟨target, animation, enabled, kind, keys⟩ := a
  simp only at hk hkeys
  simp [normalise, hk, hkeys]

/-- An animator built from a stored animator in normal form stores back to it. -/
theorem Normal.toStored_eq {a : StoredAnimator} (h : a.Normal) {x : Animator} (hx : a.Builds x) :
    x.toStored = a := by
  obtain ⟨k, hk, -, hstored⟩ := hx
  obtain ⟨k', hk', -⟩ := h.loads
  have hkk : k' = k := by simpa [resolvedKind, hk'] using hk
  rw [hstored, h.normalise_eq (hkk ▸ hk')]

/-- A stored animator in normal form builds. -/
theorem Normal.build_isOk {a : StoredAnimator} (h : a.Normal) (listId : Nat) :
    ∃ x, a.build listId = .ok x := by
  obtain ⟨k, hk, hload⟩ := h.loads
  have hres : a.resolvedKind = some k := by simp [resolvedKind, hk]
  exact ⟨_, (build_eq_ok_iff a listId _).mpr ⟨k, hres, hload, rfl⟩⟩

end StoredAnimator

/-- Built animators, one per stored animator, carry their pairs. -/
theorem List.Forall₂.map_pair {as : List StoredAnimator} {xs : List Animator}
    (h : List.Forall₂ StoredAnimator.Builds as xs) : xs.map (·.pair) = as.map (·.pair) := by
  induction h with
  | nil => rfl
  | cons hax _ ih => rw [List.map_cons, List.map_cons, hax.pair, ih]

/-- The first built animator with a pair was built from the first stored animator with it. -/
theorem List.Forall₂.find?_pair {as : List StoredAnimator} {xs : List Animator}
    (h : List.Forall₂ StoredAnimator.Builds as xs) (p : String × Option String) {y : Animator}
    (hy : xs.find? (·.pair = p) = some y) :
    ∃ a, as.find? (·.pair = p) = some a ∧ a.Builds y := by
  induction h with
  | nil => cases hy
  | @cons a x as xs hax _ ih =>
    by_cases hx : x.pair = p
    · rw [List.find?_cons_of_pos (by simpa using hx)] at hy
      cases hy
      exact ⟨a, List.find?_cons_of_pos (by simpa [hax.pair] using hx), hax⟩
    · rw [List.find?_cons_of_neg (by simpa using hx)] at hy
      rw [List.find?_cons_of_neg (by simpa [hax.pair] using hx)]
      exact ih hy

/-! ## Building a node -/

namespace StoredNode

variable {τ : Type}

/-- The animation a stored animation is loaded as. -/
def animationOf (a : StoredAnimation) : Animation :=
  { id := a.id, markers := MarkerList.ofList a.markers }

/-- One step of loading animators: the animator built over the next key list name replaces the
one for its pair. -/
def addBuilt : Node τ × Nat → StoredAnimator → Except PlaybackError (Node τ × Nat)
  | (n, next), a => do
    let x ← a.build next
    pure ({ n with animators := (n.animators.add x).1 }, next + 1)

/-- Building a node: the animations, then the animators. -/
theorem build_eq (s : StoredNode) (object : τ) (next : Nat) :
    s.build object next =
      s.animations.foldlM (fun n a => n.addAnimation (animationOf a))
          ({ object := object, id := s.id, trigger := s.trigger } : Node τ) >>=
        fun node => s.animators.foldlM addBuilt (node, next) := rfl

/-- Adding animations one by one succeeds exactly when their ids are distinct and new to the
node, and then appends them. -/
theorem foldlM_addAnimation_eq_ok_iff (as : List StoredAnimation) (n r : Node τ) :
    as.foldlM (fun n a => n.addAnimation (animationOf a)) n = .ok r ↔
      ((as.map (·.id)).Nodup ∧ ∀ a ∈ as, a.id ∉ n.animations.map (·.id)) ∧
        r = { n with animations := n.animations ++ as.map animationOf } := by
  induction as generalizing n with
  | nil =>
    show (Except.ok n : Except PlaybackError (Node τ)) = .ok r ↔ _
    simp only [Except.ok.injEq, List.map_nil, List.nodup_nil, List.not_mem_nil, IsEmpty.forall_iff,
      implies_true, and_self, List.append_nil, true_and]
    exact eq_comm
  | cons a as ih =>
    rw [List.foldlM_cons]
    by_cases hnew : a.id ∈ n.animations.map (·.id)
    · -- the id is taken: the first step fails
      have hfind : (n.find? a.id).isSome = true := by
        obtain ⟨b, hb, hid⟩ := List.mem_map.mp hnew
        simpa [Node.find?, List.find?_isSome] using ⟨b, hb, hid⟩
      have hfail : n.addAnimation (animationOf a) =
          .error (.duplicateAnimation (animationLabel a.id)) := by
        simp [Node.addAnimation, animationOf, hfind]
      rw [hfail]
      show (Except.error _ : Except PlaybackError (Node τ)) = .ok r ↔ _
      simp only [reduceCtorEq, false_iff, not_and]
      rintro ⟨-, hall⟩ -
      exact hall a List.mem_cons_self hnew
    · have hfind : (n.find? a.id).isSome = false := by
        simpa [Node.find?, List.find?_isSome] using hnew
      have hadd : n.addAnimation (animationOf a) =
          .ok { n with animations := n.animations ++ [animationOf a] } := by
        simp [Node.addAnimation, animationOf, hfind]
      rw [hadd]
      show as.foldlM _ _ = _ ↔ _
      rw [ih]
      simp only [List.map_append, List.map_cons, List.nodup_cons, List.forall_mem_cons,
        List.mem_append, List.mem_map, List.append_assoc, List.singleton_append]
      simp only [animationOf]
      grind

/-- Loading animators one by one builds each of them and gathers them onto the node's own. -/
theorem foldlM_addBuilt_eq_ok {as : List StoredAnimator} {n : Node τ} {next : Nat}
    {r : Node τ × Nat} (h : as.foldlM addBuilt (n, next) = .ok r) :
    ∃ xs, List.Forall₂ StoredAnimator.Builds as xs ∧
      r.1 = { n with animators := gather xs n.animators } := by
  induction as generalizing n next with
  | nil =>
    cases h
    exact ⟨[], .nil, rfl⟩
  | cons a as ih =>
    rw [List.foldlM_cons, Except.bind_eq_ok_iff] at h
    obtain ⟨p, hp, hrest⟩ := h
    rw [addBuilt, Except.bind_eq_ok_iff] at hp
    obtain ⟨x, hx, hp⟩ := hp
    cases hp
    obtain ⟨xs, hxs, hr⟩ := ih hrest
    exact ⟨x :: xs, .cons (StoredAnimator.builds_of_build hx) hxs, hr⟩

/-- Loading animators in normal form succeeds. -/
theorem foldlM_addBuilt_isOk {as : List StoredAnimator} (h : ∀ a ∈ as, a.Normal)
    (p : Node τ × Nat) : ∃ r, as.foldlM addBuilt p = .ok r := by
  induction as generalizing p with
  | nil => exact ⟨p, rfl⟩
  | cons a as ih =>
    obtain ⟨n, next⟩ := p
    obtain ⟨x, hx⟩ := (h a List.mem_cons_self).build_isOk next
    obtain ⟨r, hr⟩ := ih (fun b hb => h b (List.mem_cons_of_mem _ hb))
      ({ n with animators := (n.animators.add x).1 }, next + 1)
    refine ⟨r, ?_⟩
    rw [List.foldlM_cons, addBuilt, hx]
    exact hr

/-- Animators built from stored animators in normal form store back to them. -/
theorem map_toStored_of_forall₂ {as : List StoredAnimator} {xs : List Animator}
    (h : List.Forall₂ StoredAnimator.Builds as xs) (hn : ∀ a ∈ as, a.Normal) :
    xs.map Animator.toStored = as := by
  induction h with
  | nil => rfl
  | @cons a x as xs hax _ ih =>
    rw [List.map_cons, (hn a List.mem_cons_self).toStored_eq hax,
      ih fun b hb => hn b (List.mem_cons_of_mem _ hb)]

/-- What a successful build stores: the id and the trigger, each animation with its markers added
one by one, and the animators built one per stored animator and gathered. -/
theorem toStored_of_build {s : StoredNode} {object : τ} {next : Nat} {n : Node τ} {next' : Nat}
    (h : s.build object next = .ok (n, next')) :
    (s.animations.map (·.id)).Nodup ∧ ∃ xs, List.Forall₂ StoredAnimator.Builds s.animators xs ∧
      n.toStored =
        { id := s.id, trigger := s.trigger,
          animations := s.animations.map fun a => ⟨a.id, (MarkerList.ofList a.markers).markers⟩,
          animators := (gather xs {}).animators.map Animator.toStored } := by
  rw [build_eq, Except.bind_eq_ok_iff] at h
  obtain ⟨node, hnode, hrest⟩ := h
  obtain ⟨⟨hids, -⟩, rfl⟩ := (foldlM_addAnimation_eq_ok_iff _ _ _).mp hnode
  obtain ⟨xs, hxs, hn⟩ := foldlM_addBuilt_eq_ok hrest
  refine ⟨hids, xs, hxs, ?_⟩
  simp only at hn
  subst hn
  simp [Node.toStored, animationOf]

/-- Each stored animator of a built node is the last stored animator with its pair, its kind
resolved and its keys normalised. -/
theorem mem_toStored_of_build {s : StoredNode} {object : τ} {next : Nat} {n : Node τ}
    {next' : Nat} (h : s.build object next = .ok (n, next')) {a' : StoredAnimator}
    (ha' : a' ∈ n.toStored.animators) :
    ∃ a k, s.animators.reverse.find? (·.pair = a'.pair) = some a ∧ a.resolvedKind = some k ∧
      a.KeysLoad k ∧ a' = a.normalise k := by
  obtain ⟨-, xs, hxs, hstored⟩ := toStored_of_build h
  rw [hstored] at ha'
  obtain ⟨y, hy, rfl⟩ := List.mem_map.mp ha'
  -- the gathered animator is the last built one with its pair, built from the last stored one
  have hlast := (gather_gathers xs).last y hy
  obtain ⟨a, ha, k, hk, hload, hya⟩ :=
    List.Forall₂.find?_pair (List.forall₂_reverse_iff.mpr hxs) y.pair hlast
  exact ⟨a, k, ha, hk, hload, hya⟩

/-- A stored node in normal form: distinct animation ids, each animation's markers in frame order
with distinct ids, and one animator per pair, each in normal form. -/
structure Normal (s : StoredNode) : Prop where
  /-- The animation ids are distinct. -/
  ids : (s.animations.map (·.id)).Nodup
  /-- Each animation's markers are a valid marker list. -/
  markers : ∀ a ∈ s.animations, (MarkerList.mk a.markers).Valid
  /-- No two animators share a pair. -/
  pairs : (s.animators.map (·.pair)).Nodup
  /-- Each animator is in normal form. -/
  animators : ∀ a ∈ s.animators, a.Normal

/-- What a built node stores is in normal form. -/
theorem toStored_normal_of_build {s : StoredNode} {object : τ} {next : Nat} {n : Node τ}
    {next' : Nat} (h : s.build object next = .ok (n, next')) : n.toStored.Normal := by
  obtain ⟨hids, xs, -, hstored⟩ := toStored_of_build h
  refine ⟨?_, ?_, ?_, fun a' ha' => ?_⟩
  · rw [hstored]
    simpa [List.map_map, Function.comp_def] using hids
  · rw [hstored]
    intro a ha
    obtain ⟨b, -, rfl⟩ := List.mem_map.mp ha
    exact (MarkerList.ofList_reachable b.markers).valid
  · rw [hstored, List.map_map]
    simpa [Function.comp_def] using (gather_gathers xs).nodup
  · obtain ⟨a, k, -, -, hload, rfl⟩ := mem_toStored_of_build h ha'
    exact StoredAnimator.normalise_normal hload

/-- A stored node in normal form builds on any object, and stores back to itself. -/
theorem Normal.build_toStored {s : StoredNode} (h : s.Normal) (object : τ) (next : Nat) :
    ∃ n : Node τ, ∃ next', s.build object next = .ok (n, next') ∧ n.toStored = s := by
  have hnode := (foldlM_addAnimation_eq_ok_iff s.animations
    ({ object := object, id := s.id, trigger := s.trigger } : Node τ) _).mpr
      ⟨⟨h.ids, fun _ _ => List.not_mem_nil⟩, rfl⟩
  obtain ⟨r, hr⟩ := foldlM_addBuilt_isOk h.animators
    (({ object := object, id := s.id, trigger := s.trigger,
        animations := s.animations.map animationOf } : Node τ), next)
  obtain ⟨xs, hxs, hr1⟩ := foldlM_addBuilt_eq_ok hr
  -- the pairs are distinct, so gathering appends the built animators
  have hgather : (gather xs {}).animators = xs := by
    have := gather_of_nodup (c := [])
      (by rw [List.nil_append, List.Forall₂.map_pair hxs]; exact h.pairs)
    simpa using this
  -- a valid marker list is added back as it is
  have hanims : (s.animations.map fun a => (⟨a.id, (MarkerList.ofList a.markers).markers⟩ :
      StoredAnimation)) = s.animations := by
    have hkeep : ∀ a ∈ s.animations,
        (⟨a.id, (MarkerList.ofList a.markers).markers⟩ : StoredAnimation) = a := by
      intro a ha
      rw [MarkerList.ofList_markers (l := ⟨a.markers⟩) (h.markers a ha)]
    rw [List.map_congr_left hkeep, List.map_id']
  refine ⟨r.1, r.2, ?_, ?_⟩
  · rw [build_eq]
    exact (Except.bind_eq_ok_iff _ _ _).mpr ⟨_, hnode, hr⟩
  · rw [hr1]
    show
      ({ id := s.id, trigger := s.trigger,
         animations := (s.animations.map animationOf).map fun a => ⟨a.id, a.markers.markers⟩,
         animators := (gather xs {}).animators.map Animator.toStored } : StoredNode) = s
    rw [hgather, map_toStored_of_forall₂ hxs h.animators, List.map_map]
    simp only [Function.comp_def, animationOf]
    rw [hanims]

/-- What storing a node built from `s` gives, read off `s`: the id and the trigger; each
animation in order with its markers added one by one; one animator per pair, the pairs in the
order they first occur, each the last stored animator with its pair with its kind resolved and
its keys normalised; and a stored node that builds on any object and stores back to itself. -/
structure Normalises (s s' : StoredNode) : Prop where
  /-- The id is kept. -/
  id : s'.id = s.id
  /-- The trigger text is kept. -/
  trigger : s'.trigger = s.trigger
  /-- The animations, in order, each with its markers added one by one. -/
  animations : s'.animations =
    s.animations.map fun a => ⟨a.id, (MarkerList.ofList a.markers).markers⟩
  /-- One animator per pair, where the pair first occurs. -/
  pairs : s'.animators.map (·.pair) = (s.animators.map (·.pair)).eraseDups
  /-- Each animator is the last one with its pair, its kind resolved and its keys normalised. -/
  animators : ∀ a' ∈ s'.animators, ∃ a k, s.animators.reverse.find? (·.pair = a'.pair) = some a ∧
    a.resolvedKind = some k ∧ a' = { a with kind := some k, keys := a'.keys } ∧
    KeysNormal a.keys a'.keys
  /-- Building again, on any object, stores back the same. -/
  rebuilds : ∀ {τ : Type} (object : τ) (next : Nat),
    ∃ n : Node τ, ∃ next', s'.build object next = .ok (n, next') ∧ n.toStored = s'

/-- Storing a built node normalises the stored node it was built from, to a fixpoint. -/
theorem normalises_of_build {s : StoredNode} {object : τ} {next : Nat} {n : Node τ}
    {next' : Nat} (h : s.build object next = .ok (n, next')) : s.Normalises n.toStored := by
  obtain ⟨-, xs, hxs, hstored⟩ := toStored_of_build h
  refine ⟨by rw [hstored], by rw [hstored], by rw [hstored], ?_, fun a' ha' => ?_,
    fun object next => (toStored_normal_of_build h).build_toStored object next⟩
  · rw [hstored, List.map_map, ← List.Forall₂.map_pair hxs, ← (gather_gathers xs).pairs]
    simp [Function.comp_def]
  · obtain ⟨a, k, hfind, hk, -, rfl⟩ := mem_toStored_of_build h ha'
    exact ⟨a, k, by simpa using hfind, hk, rfl, KeyList.ofKeys_normal a.keys⟩

/-- A stored node whose markers are out of order, with two animators for one pair, the first
with its keys out of order and two of them on one frame, builds, and storing it normalises. -/
theorem normalises_of_build_repeated :
    let s : StoredNode :=
      { animations := [⟨some "intro", [.play "b" 5, .play "a" 2, .play "b" 1]⟩],
        animators :=
          [{ target := "X",
             keys := [⟨3, .int 1, .linear⟩, ⟨1, .int 2, .linear⟩, ⟨3, .int 4, .steep⟩] },
            { target := "Y", kind := some .bool },
            { target := "X", enabled := false, keys := [⟨0, .int 5, .linear⟩] }] }
    ∃ n : Node Unit, ∃ next', s.build () 0 = .ok (n, next') ∧ s.Normalises n.toStored := by
  intro s
  obtain ⟨n, next', h⟩ : ∃ n : Node Unit, ∃ next', s.build () 0 = .ok (n, next') :=
    ⟨_, _, rfl⟩
  exact ⟨n, next', h, normalises_of_build h⟩

end StoredNode

end Timeline

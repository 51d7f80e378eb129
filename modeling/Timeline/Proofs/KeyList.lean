import Mathlib.Tactic.SplitIfs
import Timeline.Key.Codec

/-!
# Key lists keep their order and stand for a map

A key list is a vector of keys with a change counter. Every list its callers can build
(`KeyList.Reachable`: the empty list, then any sequence of the edits `KeyEdit`) behaves as its
documentation says (`KeyList.reachable_behaves`):

* its frames increase strictly (`KeyList.Ordered`);
* lookup by frame finds the key on a frame exactly when there is one;
* each edit changes the map from frames to values and curves (`KeyList.entries`) as
  `KeyEdit.onEntries` describes it, and the list is the only ordered one with its map;
* the append fast path of `push` builds the same list, version included, as `insert`;
* the version counts exactly the edits that found something to change, and the edits that
  found nothing leave the list as it was.

Insertion goes through `placeKey`, a one-pass recursive form of `KeyList.insert`: walk past the
keys on earlier frames, then replace the key on the new key's frame or put the new key in front
of the rest. The lookup lemmas are stated on plain lists of keys whose frames increase, by
induction on the list. Iterating keys and reading a document push them one by one, so those lists
are reachable too (`ofKeys_reachable`, `reader_reachable`).
-/

namespace Timeline

variable {α : Type}

/-! ## Order and lookup -/

namespace KeyList

/-- The frames of the keys increase strictly. -/
def Ordered (l : KeyList α) : Prop := l.keys.Pairwise (·.frame < ·.frame)

/-- The map a key list stands for: the value and curve on each frame that has a key. -/
def entries (l : KeyList α) (f : Frame) : Option (α × Ease) :=
  (l.atFrame? f).map fun k => (k.value, k.ease)

/-- The frame of the key at each position. -/
def frameAt (l : KeyList α) (i : Nat) : Option Frame := (l.get? i).map (·.frame)

end KeyList

/-- Keys whose frames increase strictly have no two keys on one frame: lookup by frame finds a
key exactly when it is on that frame. -/
theorem find?_frame_eq_some_iff {xs : List (Key α)} (h : xs.Pairwise (·.frame < ·.frame))
    {f : Frame} {k : Key α} : xs.find? (·.frame = f) = some k ↔ k ∈ xs ∧ k.frame = f := by
  induction xs with
  | nil => simp
  | cons x xs ih =>
    rw [List.pairwise_cons] at h
    by_cases hx : x.frame = f
    · simp only [List.find?_cons, hx, decide_true, Option.some.injEq, List.mem_cons]
      constructor
      · rintro rfl
        exact ⟨Or.inl rfl, hx⟩
      · -- Another key on frame `f` would come after `x`, on a later frame.
        rintro ⟨rfl | hk, hkf⟩
        · rfl
        · have hlt := h.1 k hk
          rw [hx, hkf] at hlt
          exact absurd hlt Int32.lt_irrefl
    · simp only [List.find?_cons, hx, decide_false, ih h.2, List.mem_cons]
      constructor
      · rintro ⟨hk, hkf⟩
        exact ⟨Or.inr hk, hkf⟩
      · rintro ⟨rfl | hk, hkf⟩
        · exact absurd hkf hx
        · exact ⟨hk, hkf⟩

/-- Lookup finds nothing on a frame before every key. -/
theorem find?_frame_eq_none_of_lt {xs : List (Key α)} {f : Frame} (hf : ∀ x ∈ xs, f < x.frame) :
    xs.find? (·.frame = f) = none := by
  rw [List.find?_eq_none]
  intro x hx hxf
  have hlt := hf x hx
  simp only [decide_eq_true_eq] at hxf
  rw [hxf] at hlt
  exact Int32.lt_irrefl hlt

/-! ## Insertion -/

/-- Insertion in one pass: walk past the keys on earlier frames, then replace the key on the
new key's frame or put the new key in front of the rest. -/
def placeKey (k : Key α) : List (Key α) → List (Key α)
  | [] => [k]
  | x :: xs =>
    if x.frame < k.frame then x :: placeKey k xs
    else if x.frame = k.frame then k :: xs
    else k :: x :: xs

/-- `KeyList.insert` is the one-pass insertion: the position after the keys on earlier frames is
where the walk of `placeKey` stops. -/
theorem KeyList.insert_eq (l : KeyList α) (k : Key α) :
    l.insert k = ⟨placeKey k l.keys, l.version + 1⟩ := by
  simp only [KeyList.insert, KeyList.slot, KeyList.mk.injEq, and_true]
  generalize l.keys = xs
  induction xs with
  | nil => simp [placeKey]
  | cons x xs ih =>
    by_cases hlt : x.frame < k.frame
    · simp only [List.takeWhile_cons, hlt, decide_true, List.length_cons,
        List.getElem?_cons_succ, List.set_cons_succ, List.insertIdx_succ_cons, placeKey, if_true]
      split
      · rename_i old hold
        simp only [hold] at ih
        split_ifs at ih ⊢ <;> rw [ih]
      · rename_i hnone
        simp only [hnone] at ih
        rw [ih]
    · by_cases heq : x.frame = k.frame
      · simp [heq, placeKey]
      · simp [hlt, heq, placeKey]

/-- What the one-pass insertion holds: the new key and the keys it started with. -/
theorem mem_placeKey {k x : Key α} {xs : List (Key α)} (h : x ∈ placeKey k xs) :
    x = k ∨ x ∈ xs := by
  induction xs with
  | nil => simpa [placeKey] using h
  | cons y ys ih =>
    simp only [placeKey] at h
    split_ifs at h with hlt heq
    · rcases List.mem_cons.mp h with rfl | h'
      · exact Or.inr List.mem_cons_self
      · rcases ih h' with rfl | h''
        · exact Or.inl rfl
        · exact Or.inr (List.mem_cons_of_mem _ h'')
    · rcases List.mem_cons.mp h with rfl | h'
      · exact Or.inl rfl
      · exact Or.inr (List.mem_cons_of_mem _ h')
    · rcases List.mem_cons.mp h with rfl | h'
      · exact Or.inl rfl
      · exact Or.inr h'

/-- The one-pass insertion keeps frames increasing. -/
theorem placeKey_ordered (k : Key α) {xs : List (Key α)} (h : xs.Pairwise (·.frame < ·.frame)) :
    (placeKey k xs).Pairwise (·.frame < ·.frame) := by
  induction xs with
  | nil => simp [placeKey]
  | cons x xs ih =>
    rw [List.pairwise_cons] at h
    simp only [placeKey]
    split_ifs with hlt heq
    · -- `x` stays in front of the keys after it and of `k`.
      refine List.pairwise_cons.mpr ⟨fun y hy => ?_, ih h.2⟩
      rcases mem_placeKey hy with rfl | hy'
      · exact hlt
      · exact h.1 y hy'
    · -- `k` takes the place of `x`, on the same frame.
      refine List.pairwise_cons.mpr ⟨fun y hy => ?_, h.2⟩
      rw [← heq]
      exact h.1 y hy
    · -- `k` goes in front of `x`, whose frame is later.
      have hkx : k.frame < x.frame :=
        Int32.lt_of_le_of_ne (Int32.not_lt.mp hlt) (fun e => heq e.symm)
      refine List.pairwise_cons.mpr ⟨fun y hy => ?_, List.pairwise_cons.mpr h⟩
      rcases List.mem_cons.mp hy with rfl | hy'
      · exact hkx
      · exact Int32.lt_trans hkx (h.1 y hy')

/-- Lookup after the one-pass insertion: the new key on its frame, the old keys elsewhere. -/
theorem find?_placeKey (k : Key α) (xs : List (Key α)) (f : Frame) :
    (placeKey k xs).find? (·.frame = f) =
      if k.frame = f then some k else xs.find? (·.frame = f) := by
  induction xs with
  | nil => by_cases hk : k.frame = f <;> simp [placeKey, hk]
  | cons x xs ih =>
    by_cases hlt : x.frame < k.frame
    · rw [placeKey, if_pos hlt]
      by_cases hx : x.frame = f
      · -- `x` is found first, and `k` cannot be on its frame.
        have hk : ¬ k.frame = f := by
          intro hk
          rw [hx, ← hk] at hlt
          exact Int32.lt_irrefl hlt
        simp [hx, hk]
      · simp [hx, ih]
    · by_cases heq : x.frame = k.frame
      · rw [placeKey, if_neg hlt, if_pos heq]
        by_cases hk : k.frame = f
        · simp [hk]
        · have hx : ¬ x.frame = f := by rw [heq]; exact hk
          simp [hk, hx]
      · rw [placeKey, if_neg hlt, if_neg heq]
        by_cases hk : k.frame = f <;> simp [hk]

/-- When every key is on an earlier frame, insertion appends. -/
theorem placeKey_of_lt (k : Key α) {xs : List (Key α)} (h : ∀ x ∈ xs, x.frame < k.frame) :
    placeKey k xs = xs ++ [k] := by
  induction xs with
  | nil => rfl
  | cons x xs ih =>
    have hx := h x List.mem_cons_self
    simp only [placeKey, hx, if_true, List.cons_append]
    rw [ih fun y hy => h y (List.mem_cons_of_mem _ hy)]

/-! ## Rewriting and removing keys -/

/-- Lookup after rewriting the key at position `i` in place: the new key on its frame, the old
keys elsewhere. -/
theorem find?_set_frame {xs : List (Key α)} (h : xs.Pairwise (·.frame < ·.frame)) {i : Nat}
    {y x : Key α} (hi : xs[i]? = some y) (hx : x.frame = y.frame) (f : Frame) :
    (xs.set i x).find? (·.frame = f) =
      if y.frame = f then some x else xs.find? (·.frame = f) := by
  induction xs generalizing i with
  | nil => simp at hi
  | cons z zs ih =>
    rw [List.pairwise_cons] at h
    cases i with
    | zero =>
      simp only [List.getElem?_cons_zero, Option.some.injEq] at hi
      subst hi
      by_cases hz : z.frame = f <;> simp [hx, hz]
    | succ j =>
      simp only [List.getElem?_cons_succ] at hi
      by_cases hz : z.frame = f
      · -- `z` is found first; the rewritten key lies on a later frame.
        have hy : ¬ y.frame = f := by
          intro hy
          have hzy := h.1 y (List.mem_of_getElem? hi)
          rw [hz, hy] at hzy
          exact Int32.lt_irrefl hzy
        simp [hz, hy]
      · simp [hz, ih h.2 hi]

/-- Rewriting a key in place keeps frames increasing. -/
theorem set_frame_ordered {xs : List (Key α)} (h : xs.Pairwise (·.frame < ·.frame)) {i : Nat}
    {y x : Key α} (hi : xs[i]? = some y) (hx : x.frame = y.frame) :
    (xs.set i x).Pairwise (·.frame < ·.frame) := by
  induction xs generalizing i with
  | nil => simp at hi
  | cons z zs ih =>
    rw [List.pairwise_cons] at h
    cases i with
    | zero =>
      simp only [List.getElem?_cons_zero, Option.some.injEq] at hi
      subst hi
      simp only [List.set_cons_zero, List.pairwise_cons]
      exact ⟨fun a ha => hx ▸ h.1 a ha, h.2⟩
    | succ j =>
      simp only [List.getElem?_cons_succ] at hi
      simp only [List.set_cons_succ, List.pairwise_cons]
      refine ⟨fun a ha => ?_, ih h.2 hi⟩
      rcases List.mem_or_eq_of_mem_set ha with ha' | rfl
      · exact h.1 a ha'
      · rw [hx]
        exact h.1 y (List.mem_of_getElem? hi)

/-- Lookup after removing the key at position `i`: nothing on its frame, the other keys as
before. -/
theorem find?_eraseIdx_frame {xs : List (Key α)} (h : xs.Pairwise (·.frame < ·.frame)) {i : Nat}
    {y : Key α} (hi : xs[i]? = some y) (f : Frame) :
    (xs.eraseIdx i).find? (·.frame = f) = if y.frame = f then none else xs.find? (·.frame = f) := by
  induction xs generalizing i with
  | nil => simp at hi
  | cons z zs ih =>
    rw [List.pairwise_cons] at h
    cases i with
    | zero =>
      simp only [List.getElem?_cons_zero, Option.some.injEq] at hi
      subst hi
      by_cases hz : z.frame = f
      · -- The keys after `z` lie on later frames.
        simp only [List.eraseIdx_cons_zero, hz, if_true]
        exact find?_frame_eq_none_of_lt fun x hx => hz ▸ h.1 x hx
      · simp [hz]
    | succ j =>
      simp only [List.getElem?_cons_succ] at hi
      by_cases hz : z.frame = f
      · have hy : ¬ y.frame = f := by
          intro hy
          have hzy := h.1 y (List.mem_of_getElem? hi)
          rw [hz, hy] at hzy
          exact Int32.lt_irrefl hzy
        simp [hz, hy]
      · simp [hz, ih h.2 hi]

namespace KeyList

/-- On an ordered list, lookup by frame finds a key exactly when it is on that frame. -/
theorem atFrame?_eq_some_iff {l : KeyList α} (hl : l.Ordered) {f : Frame} {k : Key α} :
    l.atFrame? f = some k ↔ k ∈ l.keys ∧ k.frame = f :=
  find?_frame_eq_some_iff hl

/-- On an ordered list the append fast path builds what insertion in place builds: a key after
the last one is where insertion puts it. -/
theorem push_eq_insert {l : KeyList α} (hl : l.Ordered) (k : Key α) : l.push k = l.insert k := by
  rw [insert_eq]
  unfold push
  split
  · rename_i last hlast
    split_ifs with hle
    · rw [insert_eq]
    · -- Every key is at or before the last one, which is before `k`.
      obtain ⟨ys, hys⟩ := List.getLast?_eq_some_iff.mp hlast
      have hlk : last.frame < k.frame := Int32.not_le.mp hle
      have hall : ∀ x ∈ l.keys, x.frame < k.frame := by
        intro x hx
        unfold Ordered at hl
        rw [hys] at hx hl
        rcases List.mem_append.mp hx with hx' | hx'
        · exact Int32.lt_trans ((List.pairwise_append.mp hl).2.2 x hx' last
            List.mem_cons_self) hlk
        · rw [List.mem_singleton.mp hx']
          exact hlk
      rw [placeKey_of_lt k hall]
  · rename_i hnone
    rw [List.getLast?_eq_none_iff.mp hnone]
    rfl

end KeyList

/-! ## Edits -/

/-- An edit of a key list, as the list's callers make them. -/
inductive KeyEdit (α : Type) where
  /-- Append a key, or insert it in place when it does not come after the last key. -/
  | push (k : Key α)
  /-- Insert a key in place, replacing the key on its frame. -/
  | insert (k : Key α)
  /-- Rewrite the value and curve of the key at a position. -/
  | setAt (i : Nat) (v : α) (e : Ease)
  /-- Remove the key at a position. -/
  | eraseIdx (i : Nat)
  /-- Remove the key on a frame. -/
  | eraseFrame (f : Frame)
  /-- Remove every key. -/
  | clear

namespace KeyEdit

/-- The list after an edit. -/
def run : KeyEdit α → KeyList α → KeyList α
  | push k, l => l.push k
  | insert k, l => l.insert k
  | setAt i v e, l => (l.setAt i v e).1
  | eraseIdx i, l => (l.eraseIdx i).1
  | eraseFrame f, l => (l.eraseFrame f).1
  | clear, l => l.clear

/-- Whether an edit finds what it changes: an insertion always does, a position must hold a key,
a frame must have one, and emptying needs a key to remove. -/
def finds : KeyEdit α → KeyList α → Bool
  | push _, _ | insert _, _ => true
  | setAt i _ _, l | eraseIdx i, l => decide (i < l.size)
  | eraseFrame f, l => (l.atFrame? f).isSome
  | clear, l => !l.keys.isEmpty

/-- What an edit does to the map of a list, given the map and the frame of the key at each
position: an insertion puts its key on its frame, a rewrite changes the entry of the key at its
position, a removal drops one frame, and emptying drops them all. -/
def onEntries : KeyEdit α → (Frame → Option (α × Ease)) → (Nat → Option Frame) → Frame →
    Option (α × Ease)
  | push k, m, _, f | insert k, m, _, f => if k.frame = f then some (k.value, k.ease) else m f
  | setAt i v e, m, pos, f => if pos i = some f then some (v, e) else m f
  | eraseIdx i, m, pos, f => if pos i = some f then none else m f
  | eraseFrame g, m, _, f => if g = f then none else m f
  | clear, _, _, _ => none

/-- The key that removal by frame finds is on that frame, at its position. -/
theorem findIdx?_frame {l : KeyList α} {f : Frame} {i : Nat}
    (h : l.keys.findIdx? (·.frame = f) = some i) : ∃ y, l.keys[i]? = some y ∧ y.frame = f := by
  obtain ⟨hi, hf, -⟩ := List.findIdx?_eq_some_iff_getElem.mp h
  exact ⟨l.keys[i], List.getElem?_eq_getElem hi, by simpa using hf⟩

/-- Every edit keeps frames increasing. -/
theorem run_ordered (e : KeyEdit α) {l : KeyList α} (hl : l.Ordered) : (e.run l).Ordered := by
  cases e with
  | push k =>
    rw [run, KeyList.push_eq_insert hl, KeyList.insert_eq]
    exact placeKey_ordered k hl
  | insert k =>
    rw [run, KeyList.insert_eq]
    exact placeKey_ordered k hl
  | setAt i v e =>
    simp only [run, KeyList.setAt]
    split
    · rename_i y hy
      exact set_frame_ordered hl hy rfl
    · exact hl
  | eraseIdx i =>
    simp only [run, KeyList.eraseIdx]
    split
    · exact hl.sublist (List.eraseIdx_sublist _ _)
    · exact hl
  | eraseFrame f =>
    simp only [run, KeyList.eraseFrame, KeyList.eraseIdx]
    split
    · split
      · exact hl.sublist (List.eraseIdx_sublist _ _)
      · exact hl
    · exact hl
  | clear =>
    simp only [run, KeyList.clear]
    split
    · exact hl
    · exact List.Pairwise.nil

/-- Every insertion counts one change; the other edits count one exactly when they find what
they change. -/
theorem run_version (e : KeyEdit α) (l : KeyList α) :
    (e.run l).version = l.version + if e.finds l then 1 else 0 := by
  cases e with
  | push k =>
    simp only [run, finds, if_true, KeyList.push]
    split
    · split
      · rw [KeyList.insert_eq]
      · rfl
    · rfl
  | insert k => rw [run, KeyList.insert_eq]; rfl
  | setAt i v e =>
    simp only [run, finds, KeyList.setAt, KeyList.size]
    split
    · rename_i y hy
      simp [(List.getElem?_eq_some_iff.mp hy).1]
    · rename_i hy
      have hi : ¬ i < l.keys.length := Nat.not_lt.mpr (List.getElem?_eq_none_iff.mp hy)
      simp [hi]
  | eraseIdx i =>
    simp only [run, finds, KeyList.eraseIdx, KeyList.size]
    split
    · rename_i y hy
      simp [(List.getElem?_eq_some_iff.mp hy).1]
    · rename_i hy
      have hi : ¬ i < l.keys.length := Nat.not_lt.mpr (List.getElem?_eq_none_iff.mp hy)
      simp [hi]
  | eraseFrame f =>
    simp only [run, finds, KeyList.eraseFrame, KeyList.atFrame?]
    split
    · rename_i i hi
      obtain ⟨y, hy, hyf⟩ := findIdx?_frame hi
      have hsome : (l.keys.find? (·.frame = f)).isSome := by
        rw [List.find?_isSome]
        exact ⟨y, List.mem_of_getElem? hy, by simpa using hyf⟩
      simp [KeyList.eraseIdx, hy, hsome]
    · rename_i hnone
      have hnone' : l.keys.find? (·.frame = f) = none := by
        rw [List.find?_eq_none]
        intro x hx
        simpa using List.findIdx?_eq_none_iff.mp hnone x hx
      simp [hnone']
  | clear =>
    simp only [run, finds, KeyList.clear]
    split
    · rename_i h
      simp [h]
    · rename_i h
      simp [h]

/-- An edit that finds nothing leaves the list, version included, as it was. -/
theorem run_of_finds_eq_false (e : KeyEdit α) {l : KeyList α} (h : e.finds l = false) :
    e.run l = l := by
  cases e with
  | push k => simp [finds] at h
  | insert k => simp [finds] at h
  | setAt i v e =>
    have hi : l.keys[i]? = none := by
      simp only [finds, KeyList.size] at h
      exact List.getElem?_eq_none_iff.mpr (Nat.le_of_not_lt (of_decide_eq_false h))
    simp [run, KeyList.setAt, hi]
  | eraseIdx i =>
    have hi : l.keys[i]? = none := by
      simp only [finds, KeyList.size] at h
      exact List.getElem?_eq_none_iff.mpr (Nat.le_of_not_lt (of_decide_eq_false h))
    simp [run, KeyList.eraseIdx, hi]
  | eraseFrame f =>
    have hnone : l.keys.findIdx? (·.frame = f) = none := by
      rw [List.findIdx?_eq_none_iff]
      intro x hx
      simp only [finds, KeyList.atFrame?, Option.isSome_eq_false_iff, Option.isNone_iff_eq_none,
        List.find?_eq_none, decide_eq_true_eq] at h
      simpa using h x hx
    simp [run, KeyList.eraseFrame, hnone]
  | clear =>
    simp only [finds, Bool.not_eq_false'] at h
    simp [run, KeyList.clear, h]

/-- Every edit changes the map of an ordered list as `onEntries` describes. -/
theorem run_entries (e : KeyEdit α) {l : KeyList α} (hl : l.Ordered) :
    (e.run l).entries = e.onEntries l.entries l.frameAt := by
  funext f
  have hinsert : ∀ k : Key α, (l.insert k).entries f =
      if k.frame = f then some (k.value, k.ease) else l.entries f := by
    intro k
    by_cases hk : k.frame = f <;>
      simp [KeyList.entries, KeyList.atFrame?, KeyList.insert_eq, find?_placeKey, hk]
  cases e with
  | push k => rw [run, KeyList.push_eq_insert hl, hinsert]; rfl
  | insert k => rw [run, hinsert]; rfl
  | setAt i v e =>
    simp only [run, KeyList.setAt, onEntries, KeyList.frameAt, KeyList.get?]
    split
    · rename_i y hy
      simp only [KeyList.entries, KeyList.atFrame?]
      rw [find?_set_frame hl hy (show ({ y with value := v, ease := e } : Key α).frame = y.frame
        from rfl)]
      by_cases hyf : y.frame = f <;> simp [hy, hyf]
    · rename_i hy
      simp [hy]
  | eraseIdx i =>
    simp only [run, KeyList.eraseIdx, onEntries, KeyList.frameAt, KeyList.get?]
    split
    · rename_i y hy
      by_cases hyf : y.frame = f <;>
        simp [KeyList.entries, KeyList.atFrame?, find?_eraseIdx_frame hl hy, hy, hyf]
    · rename_i hy
      simp [hy]
  | eraseFrame g =>
    simp only [run, KeyList.eraseFrame, onEntries]
    split
    · rename_i i hi
      obtain ⟨y, hy, hyg⟩ := findIdx?_frame hi
      subst hyg
      by_cases hyf : y.frame = f <;>
        simp [KeyList.eraseIdx, KeyList.entries, KeyList.atFrame?, find?_eraseIdx_frame hl hy, hy,
          hyf]
    · -- Nothing lies on `g`, so its entry was empty already.
      rename_i hnone
      by_cases hgf : g = f
      · subst hgf
        have hfind : l.keys.find? (·.frame = g) = none := by
          rw [List.find?_eq_none]
          intro x hx
          simpa using List.findIdx?_eq_none_iff.mp hnone x hx
        simp [KeyList.entries, KeyList.atFrame?, hfind]
      · simp [hgf]
  | clear =>
    simp only [run, KeyList.clear, onEntries]
    split
    · rename_i h
      simp [KeyList.entries, KeyList.atFrame?, List.isEmpty_iff.mp h]
    · simp [KeyList.entries, KeyList.atFrame?]

end KeyEdit

/-! ## A list is its map -/

namespace KeyList

/-- The keys of an ordered list are the entries of its map: each key is what lookup finds on its
frame. -/
theorem mem_keys_of_entries {l l' : KeyList α} (hl : l.Ordered) (hl' : l'.Ordered)
    (h : l'.entries = l.entries) {k : Key α} (hk : k ∈ l.keys) : k ∈ l'.keys := by
  have hfind : l.atFrame? k.frame = some k := (atFrame?_eq_some_iff hl).mpr ⟨hk, rfl⟩
  have hentry : l'.entries k.frame = some (k.value, k.ease) := by
    rw [h]
    simp [entries, hfind]
  obtain ⟨k', hk', hkv⟩ := Option.map_eq_some_iff.mp hentry
  obtain ⟨hmem, hframe⟩ := (atFrame?_eq_some_iff hl').mp hk'
  -- A key is its frame, value and curve.
  have hkk : k' = k := by
    cases k
    cases k'
    simp only [Prod.mk.injEq] at hkv
    simp_all
  exact hkk ▸ hmem

/-- Ordered lists with the same map have the same keys, in the same order. -/
theorem keys_eq_of_entries {l l' : KeyList α} (hl : l.Ordered) (hl' : l'.Ordered)
    (h : l'.entries = l.entries) : l'.keys = l.keys := by
  have hnodup : ∀ {m : KeyList α}, m.Ordered → m.keys.Nodup := by
    intro m hm
    unfold List.Nodup
    refine hm.imp fun {a b} hab e => ?_
    subst e
    exact Int32.lt_irrefl hab
  have hperm : l'.keys.Perm l.keys :=
    (List.perm_ext_iff_of_nodup (hnodup hl') (hnodup hl)).mpr fun k =>
      ⟨mem_keys_of_entries hl' hl h.symm, mem_keys_of_entries hl hl' h⟩
  exact hperm.eq_of_pairwise (fun a b _ _ hab hba => absurd (Int32.lt_trans hab hba) Int32.lt_irrefl)
    hl' hl

/-! ## Reachable lists -/

/-- The key lists callers can build: the empty list, then any sequence of edits. A copy of a
list is the same list; iterating keys and reading a document push them one by one
(`ofKeys_reachable`, `reader_reachable`). -/
inductive Reachable : KeyList α → Prop
  | empty : Reachable {}
  | edit (e : KeyEdit α) {l : KeyList α} : Reachable l → Reachable (e.run l)

/-- Reachable lists are ordered. -/
theorem Reachable.ordered {l : KeyList α} (hl : l.Reachable) : l.Ordered := by
  induction hl with
  | empty => exact List.Pairwise.nil
  | edit e _ ih => exact e.run_ordered ih

/-- A list built from keys pushed one by one is reachable. -/
theorem ofKeys_reachable (ks : List (Key α)) : (ofKeys ks).Reachable := by
  suffices h : ∀ l : KeyList α, l.Reachable → (ks.foldl push l).Reachable from h {} .empty
  induction ks with
  | nil => exact fun _ hl => hl
  | cons k ks ih => exact fun l hl => ih _ (.edit (.push k) hl)

/-- A key list read from a document is reachable: the reader pushes the keys it reads. -/
theorem reader_reachable {kind : Kind} {c c' : Json.Cursor} {l : KeyList Value}
    (h : KeyList.reader kind c = .ok l c') : l.Reachable := by
  simp only [KeyList.reader, Functor.map, EStateM.map] at h
  split at h
  · rename_i ks _ _
    cases h
    exact ofKeys_reachable ks
  · cases h

/-- What a key list does, as its documentation says. -/
structure Behaves (l : KeyList α) : Prop where
  /-- The frames increase strictly. -/
  ordered : l.Ordered
  /-- No other ordered list has the same map. -/
  determined : ∀ l' : KeyList α, l'.Ordered → l'.entries = l.entries → l'.keys = l.keys
  /-- Lookup by frame finds a key exactly when it is on that frame. -/
  atFrame?_iff : ∀ f k, l.atFrame? f = some k ↔ k ∈ l.keys ∧ k.frame = f
  /-- Appending builds what insertion in place builds, version included. -/
  push_eq_insert : ∀ k, l.push k = l.insert k
  /-- Every edit changes the map as `KeyEdit.onEntries` describes. -/
  edit_entries : ∀ e : KeyEdit α, (e.run l).entries = e.onEntries l.entries l.frameAt
  /-- Every edit that finds what it changes counts one change, and no other edit counts any. -/
  edit_version : ∀ e : KeyEdit α, (e.run l).version = l.version + if e.finds l then 1 else 0
  /-- An edit that finds nothing leaves the list as it was. -/
  edit_missed : ∀ e : KeyEdit α, e.finds l = false → e.run l = l

/-- Every reachable key list behaves as documented. -/
theorem reachable_behaves {l : KeyList α} (hl : l.Reachable) : l.Behaves where
  ordered := hl.ordered
  determined := fun _ hl' h => keys_eq_of_entries hl.ordered hl' h
  atFrame?_iff := fun _ _ => atFrame?_eq_some_iff hl.ordered
  push_eq_insert := push_eq_insert hl.ordered
  edit_entries := fun e => e.run_entries hl.ordered
  edit_version := fun e => e.run_version l
  edit_missed := fun e h => e.run_of_finds_eq_false h

/-- Two keys added out of order make a list that behaves as documented. -/
theorem reachable_behaves_out_of_order :
    ((KeyEdit.push ⟨0, "a", .linear⟩).run ((KeyEdit.push ⟨10, "b", .steep⟩).run {})).Reachable ∧
      ((KeyEdit.push ⟨0, "a", .linear⟩).run
        ((KeyEdit.push ⟨10, "b", .steep⟩).run ({} : KeyList String))).Behaves :=
  have h := Reachable.edit (.push ⟨0, "a", .linear⟩) (Reachable.edit (.push ⟨10, "b", .steep⟩) .empty)
  ⟨h, reachable_behaves h⟩

end KeyList

end Timeline

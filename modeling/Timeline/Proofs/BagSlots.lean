import Mathlib
import Timeline.Bag

/-!
# Slots of a property bag stay where they were declared

A bag keeps its names as a list of `(name, slot)` links. Every link of a bag built by the bag's
operations points at a slot that exists and was declared under that very name (`Bag.Linked`):
declaring a name that has a slot replaces that slot in place, by one with the same name;
declaring a new name appends a slot and links it; removing a name drops its links only; and
writing changes a slot's data only (`Bag.Reachable.linked`). So a name never reaches past the
slots, two names never reach one slot, and every slot keeps its number and its name for good
(`Bag.run_slot_name`, `Bag.run_slotOf?`).

Writes go through `Slot.write?`, which changes the one value a slot holds at an element index
(`Slot.element?`). A write through a path succeeds exactly when the path reaches a slot of the
value's kind that holds a value at the path's last index (`Bag.set_eq_true_iff`); afterwards the
path reads the value, and every path that addresses another slot or another element reads what
it read before (`Bag.get?_set_self`, `Bag.get?_set_other`).

Names are kept as given but looked up through the lookup key of a parsed path. A declared name
reads back its value when it is written as lookup keys are, with no index with a leading zero
(`Bag.get?_define_self`); `A[01].B` is declared under that text but looked up as `A[1].B`, so it
reads nothing (`Bag.get?_define_leading_zero`).
-/

namespace Timeline

/-! ## Elements of a slot -/

namespace Slot

/-- The value a slot holds at an element index: its value when it is single and no index is
given, or the element at the index when it is a list. -/
def element? (s : Slot) (index : Option Nat) : Option Value :=
  match s.data, index with
  | .single v, none => some v
  | .list items, some i => items[i]?
  | _, _ => none

/-- The slot with the value at an element index replaced, when it holds one there. -/
def write? (s : Slot) (index : Option Nat) (v : Value) : Option Slot :=
  (match s.data, index with
    | .single _, none => some (SlotData.single v)
    | .list items, some i => if i < items.length then some (.list (items.set i v)) else none
    | _, _ => none).map fun d => { s with data := d }

variable {s s' : Slot} {index : Option Nat} {v : Value}

/-- A write keeps the slot's name. -/
theorem write?_name (h : s.write? index v = some s') : s'.name = s.name := by
  unfold write? at h
  obtain ⟨d, -, rfl⟩ := Option.map_eq_some_iff.mp h
  rfl

/-- A write succeeds exactly when the slot holds a value at the index. -/
theorem write?_isSome (s : Slot) (index : Option Nat) (v : Value) :
    (s.write? index v).isSome = (s.element? index).isSome := by
  obtain ⟨name, kind, flags, data⟩ := s
  unfold write? element?
  cases data with
  | single x => cases index <;> rfl
  | list items =>
    cases index with
    | none => rfl
    | some i =>
      by_cases hi : i < items.length
      · simp [hi]
      · simp [hi]

/-- After a write, the slot holds the value at the index, and what it held at every other
index. -/
theorem element?_write? (h : s.write? index v = some s') (index' : Option Nat) :
    s'.element? index' = if index' = index then some v else s.element? index' := by
  unfold write? at h
  obtain ⟨d, hd, rfl⟩ := Option.map_eq_some_iff.mp h
  split at hd
  · cases hd
    cases index' <;> simp [element?, *]
  · rename_i items i hs
    by_cases hi : i < items.length
    · rw [if_pos hi] at hd
      cases hd
      cases index' with
      | none => simp [element?, hs]
      | some j =>
        by_cases hj : j = i
        · subst hj
          simp [element?, hi]
        · simp [element?, hs, hj, List.getElem?_set_ne (Ne.symm hj)]
    · rw [if_neg hi] at hd
      cases hd
  · cases hd

/-- A slot holds a value at an index exactly when it is single and no index is given, or it is a
list and the index is inside it. -/
theorem element?_isSome_iff (s : Slot) (index : Option Nat) :
    (s.element? index).isSome ↔
      ((∃ x, s.data = .single x) ∧ index = none) ∨
        ∃ items i, s.data = .list items ∧ index = some i ∧ i < items.length := by
  unfold element?
  split <;> simp_all

end Slot

namespace Bag

/-! ## Links from names to slots -/

/-- Every name a bag knows reaches a slot that exists and was declared under that name. -/
def Linked (b : Bag) : Prop := ∀ n i, (n, i) ∈ b.names → ∃ s, b.slots[i]? = some s ∧ s.name = n

/-- The slot of a name comes from a link of the name. -/
theorem slotOf?_mem {b : Bag} {n : String} {i : Nat} (h : b.slotOf? n = some i) :
    (n, i) ∈ b.names := by
  unfold slotOf? at h
  obtain ⟨p, hp, rfl⟩ := Option.map_eq_some_iff.mp h
  have hname : p.1 = n := by simpa using List.find?_some hp
  rw [← hname]
  exact List.mem_of_find?_eq_some hp

/-- In a linked bag a name reaches a slot that exists and bears that name. -/
theorem Linked.slotOf? {b : Bag} (hb : b.Linked) {n : String} {i : Nat} (h : b.slotOf? n = some i) :
    ∃ s, b.slots[i]? = some s ∧ s.name = n :=
  hb n i (slotOf?_mem h)

/-- In a linked bag two names never reach one slot. -/
theorem Linked.injective {b : Bag} (hb : b.Linked) {n m : String} {i : Nat}
    (hn : b.slotOf? n = some i) (hm : b.slotOf? m = some i) : n = m := by
  obtain ⟨s, hs, rfl⟩ := hb.slotOf? hn
  obtain ⟨s', hs', rfl⟩ := hb.slotOf? hm
  rw [hs] at hs'
  cases hs'
  rfl

/-- Looking a name up after adding a link for a name the bag lacked. -/
theorem slotOf?_append {b : Bag} {n : String} (hn : b.slotOf? n = none) (i : Nat) (m : String) :
    (((b.names ++ [(n, i)]).find? (·.1 == m)).map (·.2)) =
      if m = n then some i else b.slotOf? m := by
  rw [List.find?_append, List.find?_singleton]
  by_cases hm : m = n
  · subst hm
    have hnone : b.names.find? (·.1 == m) = none := by
      unfold Bag.slotOf? at hn
      simpa using hn
    simp [hnone]
  · have hne : ((n, i).1 == m) = false := by simpa using Ne.symm hm
    simp [hne, hm, Bag.slotOf?]

/-! ## What each operation does -/

/-- Declaring a slot links its name to the slot the name had, or to a new last slot. -/
theorem slotOf?_insert (b : Bag) (s : Slot) (m : String) :
    (b.insert s).1.slotOf? m =
      if m = s.name then some ((b.slotOf? s.name).getD b.slots.length) else b.slotOf? m := by
  unfold insert
  cases hs : b.slotOf? s.name with
  | some i =>
    -- the links stay, so every name finds what it found
    show b.slotOf? m = _
    by_cases hm : m = s.name
    · rw [if_pos hm, hm, hs]
      rfl
    · rw [if_neg hm]
  | none => exact slotOf?_append hs _ m

/-- Declaring a slot keeps every name on the slot it reached. -/
theorem slotOf?_insert_of_some {b : Bag} {n : String} {i : Nat} (h : b.slotOf? n = some i)
    (s : Slot) : (b.insert s).1.slotOf? n = some i := by
  rw [slotOf?_insert]
  split
  · rename_i hn
    subst hn
    rw [h]
    rfl
  · exact h

/-- Declaring a slot returns the slot its name then reaches. -/
theorem insert_snd (b : Bag) (s : Slot) :
    (b.insert s).2 = (b.slotOf? s.name).getD b.slots.length := by
  unfold insert
  cases b.slotOf? s.name <;> rfl

/-- Declaring a slot puts it in place of the slot of its name, or after the last slot. -/
theorem insert_slots (b : Bag) (s : Slot) :
    (b.insert s).1.slots = match b.slotOf? s.name with
      | some i => b.slots.set i s
      | none => b.slots ++ [s] := by
  unfold insert
  cases b.slotOf? s.name <;> rfl

/-- Removing a name unlinks that name only. -/
theorem slotOf?_remove (b : Bag) (n m : String) :
    (b.remove n).1.slotOf? m = if m = n then none else b.slotOf? m := by
  unfold remove
  split
  · unfold slotOf?
    rw [List.find?_filter]
    by_cases hm : m = n
    · subst hm
      rw [if_pos rfl, Option.map_eq_none_iff, List.find?_eq_none]
      intro x _ hx
      simp at hx
    · rw [if_neg hm]
      -- a link of `m` survives the filter, so the filter changes nothing `m` finds
      have hpred : (fun x : String × Nat => decide ((x.1 != n) = true ∧ (x.1 == m) = true)) =
          (·.1 == m) := by
        funext x
        by_cases hx : x.1 = m
        · simp [hx, hm]
        · simp [hx]
      rw [hpred]
  · rename_i hnone
    by_cases hm : m = n
    · subst hm
      rw [if_pos rfl, hnone]
    · rw [if_neg hm]

/-- A write changes the data of its slot through `Slot.write?`, and counts, when the slot holds a
value at the index; otherwise it changes nothing. -/
theorem writeSlot_eq (b : Bag) (i : Nat) (index : Option Nat) (v : Value) :
    b.writeSlot i index v =
      match (b.slots[i]?).bind (·.write? index v) with
      | some s' => ({ b with slots := b.slots.set i s', writes := b.writes + 1 }, true)
      | none => (b, false) := by
  unfold writeSlot
  cases hs : b.slots[i]? with
  | none => rfl
  | some s =>
    obtain ⟨name, kind, flags, data⟩ := s
    cases data with
    | single x => cases index <;> rfl
    | list items =>
      cases index with
      | none => rfl
      | some j =>
        by_cases hj : j < items.length
        · simp [Slot.write?, hj]
        · simp [Slot.write?, hj]

/-- Writing keeps every link. -/
theorem writeSlot_names (b : Bag) (i : Nat) (index : Option Nat) (v : Value) :
    (b.writeSlot i index v).1.names = b.names := by
  rw [writeSlot_eq]
  split <;> rfl

/-- A write succeeds exactly when its slot holds a value at its index. -/
theorem writeSlot_snd (b : Bag) (i : Nat) (index : Option Nat) (v : Value) :
    (b.writeSlot i index v).2 = ((b.slots[i]?).bind (·.element? index)).isSome := by
  rw [writeSlot_eq]
  cases hs : b.slots[i]? with
  | none => rfl
  | some s =>
    rw [Option.bind_some, Option.bind_some, ← Slot.write?_isSome s index v]
    cases s.write? index v <;> rfl

/-- Writing keeps the name of every slot. -/
theorem writeSlot_slot_name (b : Bag) (i : Nat) (index : Option Nat) (v : Value) (k : Nat) :
    ((b.writeSlot i index v).1.slots[k]?).map (·.name) = (b.slots[k]?).map (·.name) := by
  rw [writeSlot_eq]
  split
  · rename_i s' hw
    obtain ⟨s, hs, hs'⟩ := Option.bind_eq_some_iff.mp hw
    dsimp only
    rw [List.getElem?_set]
    by_cases hk : i = k
    · subst hk
      rw [if_pos rfl, if_pos (List.getElem?_eq_some_iff.mp hs).1, hs, Option.map_some,
        Option.map_some, Slot.write?_name hs']
    · rw [if_neg hk]
  · rfl

/-- A successful write puts the value at its slot and index, and leaves every other element of
every slot as it was. -/
theorem element?_writeSlot {b : Bag} {i : Nat} {index : Option Nat} {v : Value}
    (h : (b.writeSlot i index v).2 = true) (k : Nat) (index' : Option Nat) :
    ((b.writeSlot i index v).1.slots[k]?).bind (·.element? index') =
      if k = i ∧ index' = index then some v else (b.slots[k]?).bind (·.element? index') := by
  rw [writeSlot_eq] at h ⊢
  split at h
  · rename_i s' hw
    obtain ⟨s, hs, hs'⟩ := Option.bind_eq_some_iff.mp hw
    dsimp only
    rw [List.getElem?_set]
    by_cases hk : i = k
    · subst hk
      rw [if_pos rfl, if_pos (List.getElem?_eq_some_iff.mp hs).1, hs, Option.bind_some,
        Option.bind_some, Slot.element?_write? hs']
      by_cases hx : index' = index <;> simp [hx]
    · rw [if_neg hk, if_neg (fun hki => hk hki.1.symm)]
  · cases h

/-- Writing through a path keeps every link. -/
theorem set_names (b : Bag) (p : String) (v : Value) : (b.set p v).1.names = b.names := by
  unfold set
  split
  · rfl
  · split
    · rfl
    · split
      · exact writeSlot_names _ _ _ _
      · rfl

/-- The slot a path reaches is the slot of its lookup key. -/
theorem slotFor?_eq_some {b : Bag} {p : Path} {i : Nat} {s : Slot} :
    b.slotFor? p = some (i, s) ↔ b.slotOf? p.lookupKey = some i ∧ b.slots[i]? = some s := by
  simp only [slotFor?, Option.bind_eq_bind, Option.bind_eq_some_iff, Option.pure_def,
    Option.some.injEq, Prod.mk.injEq]
  constructor
  · rintro ⟨j, hj, t, ht, rfl, rfl⟩
    exact ⟨hj, ht⟩
  · rintro ⟨hi, hs⟩
    exact ⟨i, hi, s, hs, rfl, rfl⟩

/-- Reading a path gives what the slot of its lookup key holds at its last index. -/
theorem get?_eq (b : Bag) (p : String) :
    b.get? p = (Path.parse p).toOption.bind fun path =>
      (b.slotFor? path).bind fun is => is.2.element? path.lastIndex := by
  unfold get?
  cases (Path.parse p).toOption with
  | none => rfl
  | some path =>
    cases b.slotFor? path with
    | none => rfl
    | some is => rfl

/-! ## Bags built by the operations -/

end Bag

/-- The operations that change a bag. -/
inductive BagOp where
  /-- Declares a single-value property with the given flags. -/
  | define (name : String) (v : Value) (flags : Flags)
  /-- Declares a list property. -/
  | defineList (name : String) (kind : Kind) (items : List Value)
  /-- Forgets a name. -/
  | remove (name : String)
  /-- Writes through a path. -/
  | set (path : String) (v : Value)
  /-- Writes into a slot by number. -/
  | writeSlot (slot : Nat) (index : Option Nat) (v : Value)

namespace BagOp

/-- The bag after an operation. -/
def run : BagOp → Bag → Bag
  | define n v flags, b => (b.define n v flags).1
  | defineList n kind items, b => (b.defineList n kind items).1
  | remove n, b => (b.remove n).1
  | set p v, b => (b.set p v).1
  | writeSlot i index v, b => (b.writeSlot i index v).1

/-- The name an operation forgets, if any. -/
def forgets : BagOp → Option String
  | remove n => some n
  | _ => none

end BagOp

namespace Bag

/-- The bags callers can build: the empty bag, then any sequence of operations. -/
inductive Reachable : Bag → Prop
  | empty : Reachable {}
  | step (op : BagOp) {b : Bag} : Reachable b → Reachable (op.run b)

section Linked

variable {b : Bag}

/-- Declaring keeps a bag linked: a replaced slot keeps its name, a new one gets a link. -/
theorem insert_linked (hb : b.Linked) (s : Slot) : (b.insert s).1.Linked := by
  intro n i hmem
  rw [insert_slots]
  unfold insert at hmem
  cases hs : b.slotOf? s.name with
  | some j =>
    rw [hs] at hmem
    obtain ⟨t, ht, rfl⟩ := hb n i hmem
    dsimp only
    rw [List.getElem?_set]
    by_cases hj : j = i
    · -- the old slot `j` bears the name of the new one, since the name reaches it
      subst hj
      obtain ⟨t', ht', hname⟩ := hb.slotOf? hs
      rw [ht] at ht'
      cases ht'
      exact ⟨s, by rw [if_pos rfl, if_pos (List.getElem?_eq_some_iff.mp ht).1], hname.symm⟩
    · exact ⟨t, by rw [if_neg hj, ht], rfl⟩
  | none =>
    rw [hs] at hmem
    dsimp only at hmem ⊢
    rcases List.mem_append.mp hmem with hmem | hmem
    · obtain ⟨t, ht, rfl⟩ := hb n i hmem
      exact ⟨t, by rw [List.getElem?_append_left (List.getElem?_eq_some_iff.mp ht).1, ht], rfl⟩
    · rw [List.mem_singleton, Prod.mk.injEq] at hmem
      obtain ⟨rfl, rfl⟩ := hmem
      exact ⟨s, List.getElem?_concat_length, rfl⟩

/-- Removing keeps a bag linked: it only drops links. -/
theorem remove_linked (hb : b.Linked) (n : String) : (b.remove n).1.Linked := by
  intro m i hmem
  have hslots : (b.remove n).1.slots = b.slots := by
    unfold remove
    split <;> rfl
  have hlink : (m, i) ∈ b.names := by
    unfold remove at hmem
    split at hmem
    · exact (List.mem_filter.mp hmem).1
    · exact hmem
  rw [hslots]
  exact hb m i hlink

/-- Writing keeps a bag linked: it keeps the links and the names of the slots. -/
theorem writeSlot_linked (hb : b.Linked) (i : Nat) (index : Option Nat) (v : Value) :
    (b.writeSlot i index v).1.Linked := by
  intro n k hmem
  rw [writeSlot_names] at hmem
  obtain ⟨s, hs, rfl⟩ := hb n k hmem
  have hname := writeSlot_slot_name b i index v k
  rw [hs, Option.map_some] at hname
  obtain ⟨s', hs', hn⟩ := Option.map_eq_some_iff.mp hname
  exact ⟨s', hs', hn⟩

/-- Writing through a path keeps a bag linked. -/
theorem set_linked (hb : b.Linked) (p : String) (v : Value) : (b.set p v).1.Linked := by
  unfold set
  split
  · exact hb
  · split
    · exact hb
    · split
      · exact writeSlot_linked hb _ _ _
      · exact hb

/-- Every operation keeps a bag linked. -/
theorem run_linked (hb : b.Linked) (op : BagOp) : (op.run b).Linked := by
  cases op with
  | define n v flags => exact insert_linked hb _
  | defineList n kind items => exact insert_linked hb _
  | remove n => exact remove_linked hb n
  | set p v => exact set_linked hb p v
  | writeSlot i index v => exact writeSlot_linked hb i index v

/-- Every bag built by the operations is linked. -/
theorem Reachable.linked (h : b.Reachable) : b.Linked := by
  induction h with
  | empty => intro n i hmem; cases hmem
  | step op _ ih => exact run_linked ih op

/-- Every operation keeps every slot, under its name. -/
theorem run_slot_name (hb : b.Linked) (op : BagOp) {k : Nat} {s : Slot}
    (hs : b.slots[k]? = some s) : ∃ s', (op.run b).slots[k]? = some s' ∧ s'.name = s.name := by
  -- a write keeps the names of the slots; a declaration replaces a slot of its own name
  have hwrite : ∀ i index v, ∃ s', (b.writeSlot i index v).1.slots[k]? = some s' ∧
      s'.name = s.name := by
    intro i index v
    have hname := writeSlot_slot_name b i index v k
    rw [hs, Option.map_some] at hname
    obtain ⟨s', hs', hn⟩ := Option.map_eq_some_iff.mp hname
    exact ⟨s', hs', hn⟩
  have hinsert : ∀ t : Slot, ∃ s', (b.insert t).1.slots[k]? = some s' ∧ s'.name = s.name := by
    intro t
    rw [insert_slots]
    cases ht : b.slotOf? t.name with
    | some j =>
      dsimp only
      rw [List.getElem?_set]
      by_cases hj : j = k
      · subst hj
        obtain ⟨t', ht', hname⟩ := hb.slotOf? ht
        rw [hs] at ht'
        cases ht'
        exact ⟨t, by rw [if_pos rfl, if_pos (List.getElem?_eq_some_iff.mp hs).1], hname.symm⟩
      · exact ⟨s, by rw [if_neg hj, hs], rfl⟩
    | none =>
      exact ⟨s, by
        rw [List.getElem?_append_left (List.getElem?_eq_some_iff.mp hs).1, hs], rfl⟩
  cases op with
  | define n v flags => exact hinsert _
  | defineList n kind items => exact hinsert _
  | remove n =>
    refine ⟨s, ?_, rfl⟩
    show (b.remove n).1.slots[k]? = some s
    unfold remove
    split <;> exact hs
  | set p v =>
    show ∃ s', (b.set p v).1.slots[k]? = some s' ∧ s'.name = s.name
    unfold set
    split
    · exact ⟨s, hs, rfl⟩
    · split
      · exact ⟨s, hs, rfl⟩
      · split
        · exact hwrite _ _ _
        · exact ⟨s, hs, rfl⟩
  | writeSlot i index v => exact hwrite i index v

/-- Every operation keeps every name on its slot, except the name it forgets. -/
theorem run_slotOf? (op : BagOp) {n : String} {i : Nat} (h : b.slotOf? n = some i)
    (hf : op.forgets ≠ some n) : (op.run b).slotOf? n = some i := by
  cases op with
  | define m v flags => exact slotOf?_insert_of_some h _
  | defineList m kind items => exact slotOf?_insert_of_some h _
  | remove m =>
    have hm : n ≠ m := fun hnm => hf (by rw [hnm]; rfl)
    show (b.remove m).1.slotOf? n = some i
    rw [slotOf?_remove, if_neg hm, h]
  | set p v =>
    show (b.set p v).1.slotOf? n = some i
    unfold slotOf?
    rw [set_names]
    exact h
  | writeSlot k index v =>
    show (b.writeSlot k index v).1.slotOf? n = some i
    unfold slotOf?
    rw [writeSlot_names]
    exact h

end Linked

/-! ## Reading and writing through paths -/

/-- The slot and element index a path addresses. -/
def address? (b : Bag) (p : String) : Option (Nat × Option Nat) :=
  (Path.parse p).toOption.bind fun path => (b.slotOf? path.lookupKey).map (·, path.lastIndex)

/-- A write through a path that does not parse fails. -/
theorem set_of_parse_error {b : Bag} {p : String} {e : PathError} (hpath : Path.parse p = .error e)
    (v : Value) : b.set p v = (b, false) := by
  unfold set
  rw [hpath]
  rfl

/-- A write through a path that parses writes into the slot its lookup key reaches, when that
slot holds values of the value's kind. -/
theorem set_of_parse {b : Bag} {p : String} {path : Path} (hpath : Path.parse p = .ok path)
    (v : Value) :
    b.set p v = match b.slotFor? path with
      | none => (b, false)
      | some (i, s) => if s.kind = v.kind then b.writeSlot i path.lastIndex v else (b, false) := by
  unfold set
  rw [hpath]
  rfl

/-- A write through a path succeeds exactly when the path parses, its lookup key reaches a slot,
the slot holds values of the value's kind, and it holds a value at the path's last index: it is
single and the path has no last index, or it is a list and the index is inside it. -/
theorem set_eq_true_iff (b : Bag) (p : String) (v : Value) :
    (b.set p v).2 = true ↔ ∃ path i s, Path.parse p = .ok path ∧
      b.slotOf? path.lookupKey = some i ∧ b.slots[i]? = some s ∧ s.kind = v.kind ∧
      (((∃ x, s.data = .single x) ∧ path.lastIndex = none) ∨
        ∃ items j, s.data = .list items ∧ path.lastIndex = some j ∧ j < items.length) := by
  cases hpath : Path.parse p with
  | error e =>
    rw [set_of_parse_error hpath]
    simp
  | ok path =>
    rw [set_of_parse hpath]
    cases hs : b.slotFor? path with
    | none =>
      simp only [Bool.false_eq_true, false_iff, not_exists, not_and, Except.ok.injEq]
      rintro _ i s rfl hi hsi
      rw [slotFor?_eq_some.mpr ⟨hi, hsi⟩] at hs
      cases hs
    | some is =>
      obtain ⟨i, s⟩ := is
      obtain ⟨hi, hsi⟩ := slotFor?_eq_some.mp hs
      -- the path fixes the slot, so the right side speaks of `i` and `s` only
      have hfixed : ∀ path' i' s', Except.ok path = (.ok path' : Except PathError Path) →
          b.slotOf? path'.lookupKey = some i' → b.slots[i']? = some s' →
          path' = path ∧ i' = i ∧ s' = s := by
        intro path' i' s' hp' hi' hs'
        cases hp'
        rw [hi, Option.some_inj] at hi'
        subst hi'
        rw [hsi, Option.some_inj] at hs'
        exact ⟨rfl, rfl, hs'.symm⟩
      dsimp only
      by_cases hk : s.kind = v.kind
      · rw [if_pos hk, writeSlot_snd, hsi, Option.bind_some, Slot.element?_isSome_iff]
        constructor
        · intro hx
          exact ⟨path, i, s, rfl, hi, hsi, hk, hx⟩
        · rintro ⟨path', i', s', hp', hi', hs', -, hx⟩
          obtain ⟨rfl, rfl, rfl⟩ := hfixed path' i' s' hp' hi' hs'
          exact hx
      · rw [if_neg hk]
        simp only [Bool.false_eq_true, false_iff, not_exists, not_and]
        intro path' i' s' hp' hi' hs' hk' _
        obtain ⟨rfl, rfl, rfl⟩ := hfixed path' i' s' hp' hi' hs'
        exact hk hk'

/-- A successful write through a path is a write into the slot and index the path addresses. -/
theorem set_of_eq_true {b : Bag} {p : String} {v : Value} (h : (b.set p v).2 = true) :
    ∃ i index, b.address? p = some (i, index) ∧ b.set p v = b.writeSlot i index v := by
  obtain ⟨path, i, s, hpath, hi, hsi, hk, -⟩ := (set_eq_true_iff b p v).mp h
  refine ⟨i, path.lastIndex, by simp [address?, hpath, Except.toOption, hi], ?_⟩
  unfold set
  simp only [hpath, Except.toOption, slotFor?_eq_some.mpr ⟨hi, hsi⟩, if_pos hk]

/-- Reading a path gives what the slot it addresses holds at the element it addresses. -/
theorem get?_eq_address? (b : Bag) (p : String) :
    b.get? p = (b.address? p).bind fun a => (b.slots[a.1]?).bind (·.element? a.2) := by
  rw [get?_eq]
  unfold address?
  cases (Path.parse p).toOption with
  | none => rfl
  | some path =>
    simp only [Option.bind_some]
    cases hi : b.slotOf? path.lookupKey with
    | none =>
      have hnone : b.slotFor? path = none := by unfold slotFor?; rw [hi]; rfl
      rw [hnone]
      rfl
    | some i =>
      cases hs : b.slots[i]? with
      | none =>
        have hnone : b.slotFor? path = none := by unfold slotFor?; rw [hi]; simp [hs]
        rw [hnone]
        simp [hs]
      | some s =>
        rw [slotFor?_eq_some.mpr ⟨hi, hs⟩]
        simp [hs]

/-- Writing through a path keeps what every path addresses. -/
theorem address?_set (b : Bag) (p v) (q : String) : (b.set p v).1.address? q = b.address? q := by
  unfold address? slotOf?
  rw [set_names]

/-- After a successful write through a path, the path reads the value. -/
theorem get?_set_self {b : Bag} {p : String} {v : Value} (h : (b.set p v).2 = true) :
    (b.set p v).1.get? p = some v := by
  obtain ⟨i, index, ha, hset⟩ := set_of_eq_true h
  rw [get?_eq_address?, address?_set, ha, Option.bind_some, hset]
  rw [hset] at h
  rw [element?_writeSlot h, if_pos ⟨rfl, rfl⟩]

/-- After a successful write through a path, every path that addresses another slot or another
element reads what it read before. -/
theorem get?_set_other {b : Bag} {p q : String} {v : Value} (h : (b.set p v).2 = true)
    (hq : b.address? q ≠ b.address? p) : (b.set p v).1.get? q = b.get? q := by
  obtain ⟨i, index, ha, hset⟩ := set_of_eq_true h
  rw [get?_eq_address?, get?_eq_address?, address?_set]
  cases hqa : b.address? q with
  | none => rfl
  | some a =>
    obtain ⟨k, index'⟩ := a
    rw [Option.bind_some, Option.bind_some, hset]
    rw [hset] at h
    rw [element?_writeSlot h, if_neg]
    rintro ⟨rfl, rfl⟩
    exact hq (hqa.trans ha.symm)

/-- Declaring a property returns the slot its name then reaches. -/
theorem slotOf?_define (b : Bag) (n : String) (v : Value) (flags : Flags) :
    (b.define n v flags).1.slotOf? n = some (b.define n v flags).2 := by
  unfold define
  rw [slotOf?_insert, if_pos rfl, insert_snd]

/-- Declaring a list property returns the slot its name then reaches. -/
theorem slotOf?_defineList (b : Bag) (n : String) (kind : Kind) (items : List Value) :
    (b.defineList n kind items).1.slotOf? n = some (b.defineList n kind items).2 := by
  unfold defineList
  rw [slotOf?_insert, if_pos rfl, insert_snd]

/-- In a linked bag, a declared slot is found at the number its name reaches. -/
theorem insert_getElem? {b : Bag} (hb : b.Linked) (s : Slot) :
    (b.insert s).1.slots[(b.insert s).2]? = some s := by
  rw [insert_slots, insert_snd]
  cases hs : b.slotOf? s.name with
  | some i =>
    obtain ⟨t, ht, -⟩ := hb.slotOf? hs
    exact List.getElem?_set_self (List.getElem?_eq_some_iff.mp ht).1
  | none => exact List.getElem?_concat_length

/-- In a linked bag, a property declared under a name written as lookup keys are, with no last
index, reads back its value. -/
theorem get?_define_self {b : Bag} (hb : b.Linked) {n : String} {path : Path}
    (hpath : Path.parse n = .ok path) (hkey : path.lookupKey = n) (hlast : path.lastIndex = none)
    (v : Value) (flags : Flags) : (b.define n v flags).1.get? n = some v := by
  have hslot := slotOf?_define b n v flags
  have hget := insert_getElem? hb ⟨n, v.kind, flags, .single v⟩
  rw [get?_eq_address?]
  unfold address?
  rw [hpath]
  simp only [Except.toOption, Option.bind_some, hkey, hslot, Option.map_some, hlast]
  unfold define
  rw [hget]
  rfl

/-- A name with an index written with a leading zero is declared under its text but looked up as
`A[1].B`, so it reads nothing back. -/
theorem get?_define_leading_zero :
    (({} : Bag).define "A[01].B" (.bool true)).1.get? "A[01].B" = none := by
  decide

/-- What a bag does, as its documentation says. -/
structure Consistent (b : Bag) : Prop where
  /-- Every name reaches a slot that exists and bears that name. -/
  slotOf? : ∀ n i, b.slotOf? n = some i → ∃ s, b.slots[i]? = some s ∧ s.name = n
  /-- Two names never reach one slot. -/
  distinct : ∀ n m i, b.slotOf? n = some i → b.slotOf? m = some i → n = m
  /-- Every operation keeps every slot under its name. -/
  slots_stay : ∀ (op : BagOp) (k : Nat) (s : Slot), b.slots[k]? = some s →
    ∃ s', (op.run b).slots[k]? = some s' ∧ s'.name = s.name
  /-- Every operation keeps every name on its slot, except the name it forgets. -/
  names_stay : ∀ (op : BagOp) n i, b.slotOf? n = some i → op.forgets ≠ some n →
    (op.run b).slotOf? n = some i
  /-- A declaration returns the slot its name then reaches. -/
  define_slot : ∀ n v flags, (b.define n v flags).1.slotOf? n = some (b.define n v flags).2
  /-- A list declaration returns the slot its name then reaches. -/
  defineList_slot : ∀ n kind items,
    (b.defineList n kind items).1.slotOf? n = some (b.defineList n kind items).2
  /-- A write through a path succeeds exactly when the path reaches a slot of the value's kind
  holding a value at the path's last index. -/
  set_iff : ∀ p v, (b.set p v).2 = true ↔ ∃ path i s, Path.parse p = .ok path ∧
      b.slotOf? path.lookupKey = some i ∧ b.slots[i]? = some s ∧ s.kind = v.kind ∧
      (((∃ x, s.data = .single x) ∧ path.lastIndex = none) ∨
        ∃ items j, s.data = .list items ∧ path.lastIndex = some j ∧ j < items.length)
  /-- After a successful write the path reads the value. -/
  set_get : ∀ p v, (b.set p v).2 = true → (b.set p v).1.get? p = some v
  /-- After a successful write every path that addresses another slot or element reads what it
  read before. -/
  set_other : ∀ p v q, (b.set p v).2 = true → b.address? q ≠ b.address? p →
    (b.set p v).1.get? q = b.get? q
  /-- A property declared under a name written as lookup keys are, with no last index, reads
  back its value. -/
  define_get : ∀ n path v flags, Path.parse n = .ok path → path.lookupKey = n →
    path.lastIndex = none → (b.define n v flags).1.get? n = some v

/-- Every bag built by the operations behaves as documented. -/
theorem reachable_consistent {b : Bag} (h : b.Reachable) : b.Consistent where
  slotOf? _ _ hn := h.linked.slotOf? hn
  distinct _ _ _ hn hm := h.linked.injective hn hm
  slots_stay op _ _ hs := run_slot_name h.linked op hs
  names_stay op _ _ hn hf := run_slotOf? op hn hf
  define_slot := slotOf?_define b
  defineList_slot := slotOf?_defineList b
  set_iff := set_eq_true_iff b
  set_get _ _ hset := get?_set_self hset
  set_other _ _ _ hset hq := get?_set_other hset hq
  define_get _ _ v flags hpath hkey hlast := get?_define_self h.linked hpath hkey hlast v flags

/-- A bag with a list property and a property under a nested name, one of them redeclared and
another removed, behaves as documented. -/
theorem reachable_consistent_redeclared :
    let b := (BagOp.remove "X").run ((BagOp.define "X" (.int 3) {}).run
      ((BagOp.define "Items[2].Position" (.bool false) {}).run
        ((BagOp.defineList "Points" .bool [.bool true]).run ((BagOp.define "X" (.bool true) {}).run {}))))
    b.Reachable ∧ b.Consistent := by
  intro b
  have h : b.Reachable := .step _ (.step _ (.step _ (.step _ (.step _ .empty))))
  exact ⟨h, reachable_consistent h⟩

end Bag

end Timeline

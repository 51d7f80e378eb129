import Timeline.Path
import Timeline.Value.Basic

/-!
# Property bags

A property bag is a small object model: properties in numbered slots, each a single value or a
list of values of one kind, found by name. Slot numbers never change, so they serve as handles:
declaring a name again replaces its slot in place, and removing a name only forgets the name,
so its slot stays (unreachable by name) in the list of slots.

A path reaches a slot through its lookup key, the path without its last index; that index, if
any, picks an element of a list slot. The bag counts successful writes.
-/

namespace Timeline

/-- Access flags of a property. -/
structure Flags where
  /-- Whether animators may write it. -/
  writable : Bool := true
  /-- Whether a write to it is a signal for the owner rather than plain state. -/
  triggerable : Bool := false
  deriving DecidableEq, Repr

/-- What a slot holds. -/
inductive SlotData where
  /-- One value. -/
  | single (v : Value)
  /-- A list of values. -/
  | list (items : List Value)
  deriving DecidableEq

/-- A declared property. -/
structure Slot where
  /-- The name it was declared under. -/
  name : String
  /-- The kind of its values. -/
  kind : Kind
  /-- Its access flags. -/
  flags : Flags
  /-- Its value or values. -/
  data : SlotData
  deriving DecidableEq

/-- The number of elements of a list slot. -/
def Slot.len? (s : Slot) : Option Nat :=
  match s.data with
  | .list items => some items.length
  | .single _ => none

/-- A property bag. -/
structure Bag where
  /-- Every slot ever declared, in order. -/
  slots : List Slot := []
  /-- The names that reach a slot, with its number. -/
  names : List (String × Nat) := []
  /-- The number of successful writes. -/
  writes : Nat := 0

namespace Bag

/-- The slot number of a name. -/
def slotOf? (b : Bag) (name : String) : Option Nat := (b.names.find? (·.1 == name)).map (·.2)

/-- Declares a slot under its name, replacing the slot the name reaches; returns its number. -/
def insert (b : Bag) (s : Slot) : Bag × Nat :=
  match b.slotOf? s.name with
  | some i => ({ b with slots := b.slots.set i s }, i)
  | none => ({ b with slots := b.slots ++ [s], names := b.names ++ [(s.name, b.slots.length)] },
      b.slots.length)

/-- Declares a single-value property with the given flags. -/
def define (b : Bag) (name : String) (v : Value) (flags : Flags := {}) : Bag × Nat :=
  b.insert ⟨name, v.kind, flags, .single v⟩

/-- Declares a writable list property of the given kind. -/
def defineList (b : Bag) (name : String) (kind : Kind) (items : List Value) : Bag × Nat :=
  b.insert ⟨name, kind, {}, .list items⟩

/-- Forgets a name; its slot stays. Says whether the name was known. -/
def remove (b : Bag) (name : String) : Bag × Bool :=
  match b.slotOf? name with
  | some _ => ({ b with names := b.names.filter (·.1 != name) }, true)
  | none => (b, false)

/-- The number of names. -/
def size (b : Bag) : Nat := b.names.length

/-- The slot a path reaches through its lookup key, with its number. -/
def slotFor? (b : Bag) (p : Path) : Option (Nat × Slot) := do
  let i ← b.slotOf? p.lookupKey
  let s ← b.slots[i]?
  pure (i, s)

/-- The value a path addresses: a single slot without an index, or an element of a list slot. -/
def get? (b : Bag) (path : String) : Option Value := do
  let p ← (Path.parse path).toOption
  let (_, s) ← b.slotFor? p
  match s.data, p.lastIndex with
  | .single v, none => some v
  | .list items, some i => items[i]?
  | _, _ => none

/-- Writes into slot `slot`: the value of a single slot when no index is given, or an element of
a list slot. No kind is checked. Says whether something was written. -/
def writeSlot (b : Bag) (slot : Nat) (index : Option Nat) (v : Value) : Bag × Bool :=
  match b.slots[slot]? with
  | none => (b, false)
  | some s =>
    let data? : Option SlotData := match s.data, index with
      | .single _, none => some (.single v)
      | .list items, some i => if i < items.length then some (.list (items.set i v)) else none
      | _, _ => none
    match data? with
    | some d => ({ b with slots := b.slots.set slot { s with data := d }, writes := b.writes + 1 },
        true)
    | none => (b, false)

/-- Writes the value a path addresses, if the path reaches a slot of the value's kind. -/
def set (b : Bag) (path : String) (v : Value) : Bag × Bool :=
  match (Path.parse path).toOption with
  | none => (b, false)
  | some p =>
    match b.slotFor? p with
    | none => (b, false)
    | some (i, s) => if s.kind = v.kind then b.writeSlot i p.lastIndex v else (b, false)

end Bag

end Timeline

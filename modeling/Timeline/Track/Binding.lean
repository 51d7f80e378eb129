import Timeline.Bag

/-!
# Binding animators to properties

An animator does not write an object directly. It asks a `Target` once to resolve its property
path, checks what the target reports, and keeps the resulting `Binding`: a handle issued by the
target and the element index of the path. Later writes go through the handle.

`bind` checks in this order: the path parses, the target has the property, the property is
writable, its kind is the animator's kind, and, when the path ends in an index, the property is
a list long enough for it. The first check that fails gives the `BindFailure`.
-/

namespace Timeline

/-- What a target reports about a resolved property. -/
structure PropertyInfo where
  /-- The handle for later writes. -/
  handle : Nat
  /-- The kind of its values. -/
  kind : Kind
  /-- Whether animators may write it. -/
  writable : Bool
  /-- Whether writes to it signal the owner. -/
  triggerable : Bool
  /-- The number of elements, for a list. -/
  len : Option Nat

/-- An object animators can write to. -/
class Target (τ : Type) where
  /-- The property a path names, if the object has it. -/
  resolve : τ → Path → Option PropertyInfo
  /-- Writes a value through a handle, into an element when an index is given. -/
  write : τ → Nat → Option Nat → Value → τ
  /-- Asks the object to repaint, once per advance that wrote a value; by default nothing
  happens. -/
  invalidate : τ → τ := fun t => t

/-- A bag resolves a path to the slot of its lookup key; the handle is the slot number. It has
nothing to repaint. -/
instance : Target Bag where
  resolve b p := (b.slotFor? p).map fun (i, s) => ⟨i, s.kind, s.flags.writable, s.flags.triggerable, s.len?⟩
  write b h i v := (b.writeSlot h i v).1

/-- Why an animator could not bind. -/
inductive BindFailure where
  /-- The path does not parse; the message says why. -/
  | invalidPath (message : String)
  /-- The target has no such property. -/
  | missingProperty
  /-- The property is not writable. -/
  | readOnly
  /-- The property holds another kind of value. -/
  | kindMismatch (expected actual : Kind)
  /-- The path ends in an index but the property is not a list. -/
  | notIndexable
  /-- The index is past the end of the list. -/
  | indexOutOfRange (index len : Nat)
  deriving DecidableEq

/-- The message of a bind failure. -/
def BindFailure.message : BindFailure → String
  | .invalidPath m => "invalid path: " ++ m
  | .missingProperty => "property not found"
  | .readOnly => "property is read-only"
  | .kindMismatch e a => "kind mismatch: animator " ++ e.title ++ ", property " ++ a.title
  | .notIndexable => "indexed path on a non-list property"
  | .indexOutOfRange i n => "index " ++ toString i ++ " out of range (len " ++ toString n ++ ")"

/-- The name of the kind of a bind failure. -/
def BindFailure.name : BindFailure → String
  | .invalidPath _ => "InvalidPath"
  | .missingProperty => "MissingProperty"
  | .readOnly => "ReadOnly"
  | .kindMismatch _ _ => "KindMismatch"
  | .notIndexable => "NotIndexable"
  | .indexOutOfRange _ _ => "IndexOutOfRange"

/-- A resolved property, as an animator keeps it. -/
structure Binding where
  /-- The target's handle. -/
  handle : Nat
  /-- The element index, when the path ends in one. -/
  index : Option Nat
  /-- Whether writes signal the owner. -/
  triggerable : Bool
  deriving DecidableEq

/-- Where an animator stands with its property: not yet resolved, bound, or inert after a failed
attempt until it is unbound again. -/
inductive BindingState where
  | unbound
  | bound (b : Binding)
  | zombie (f : BindFailure)
  deriving DecidableEq

/-- Resolves `path` on a target and checks it for values of kind `kind`. -/
def bind {τ : Type} [Target τ] (t : τ) (path : String) (kind : Kind) : Except BindFailure Binding :=
  match Path.parse path with
  | .error e => .error (.invalidPath e.message)
  | .ok p =>
    match Target.resolve t p with
    | none => .error .missingProperty
    | some info =>
      if !info.writable then .error .readOnly
      else if info.kind ≠ kind then .error (.kindMismatch kind info.kind)
      else
        match p.lastIndex, info.len with
        | some _, none => .error .notIndexable
        | some i, some n =>
          if n ≤ i then .error (.indexOutOfRange i n) else .ok ⟨info.handle, some i, info.triggerable⟩
        | none, _ => .ok ⟨info.handle, none, info.triggerable⟩

end Timeline

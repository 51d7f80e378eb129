import Timeline.Value.Basic
import Timeline.Json.Decode

/-!
# Values in JSON

A value is written `{"type": kind, "data": payload}`: the payload is a number for `float` and
`int`, a boolean, a string for `text`, and an array of numbers for the vector kinds. Reading
accepts the two members in either order, skips unknown members, and also accepts the array
`[kind, payload]`. In the object the kind may also be written `{"name": null}`; in the array
only its name is accepted. When the payload comes before the kind it is kept and read once the kind is
known.

Keys of a typed track use a plainer form (`Value.readPlain`, `Value.toPlainDoc`): a bare
number, boolean or string, or a record of named components, `{"x": 1, "y": 2}` for a `vec2` and
`{"m": [...]}` for a matrix.
-/

namespace Timeline

open Timeline.Json

/-- The document names of all kinds, in declaration order. -/
def Kind.names : List String := Kind.all.map Kind.name

/-- A kind as a document. -/
def Kind.toDoc (k : Kind) : Doc := .str k.name

/-- Reads a kind written as its name or as `{"name": null}`. -/
def Kind.reader : Reader Kind := do
  let i ← readVariant Kind.names
  pure (Kind.all.getD i .float)

/-- Reads a kind written as its name only, as the first element of a value's array. -/
def Kind.tagReader : Reader Kind := do
  let i ← readName Kind.names "variant identifier"
  pure (Kind.all.getD i .float)

/-- A vector from a list that has its length. -/
def vectorOf (n : Nat) (xs : List Float32) : Vector Float32 n := Vector.ofFn fun i => xs.getD i 0

/-- The number of floats in a payload of kind `k`, for the vector kinds. -/
def Kind.width? : Kind → Option Nat
  | .vec2 => some 2
  | .vec3 => some 3
  | .quat | .colorRgba | .thickness => some 4
  | .matrix44 => some 16
  | _ => none

/-- The vector value of kind `k` with the given floats. -/
def Value.ofFloats (k : Kind) (xs : List Float32) : Value :=
  match k with
  | .vec2 => .vec2 (vectorOf 2 xs)
  | .vec3 => .vec3 (vectorOf 3 xs)
  | .quat => .quat (vectorOf 4 xs)
  | .colorRgba => .colorRgba (vectorOf 4 xs)
  | .matrix44 => .matrix44 (vectorOf 16 xs)
  | .thickness => .thickness (vectorOf 4 xs)
  | k => Value.zero k

/-- The payload of a value as a document. -/
def Value.payloadDoc : Value → Doc
  | .float x => .float32 x
  | .int n => .int n.toInt
  | .bool b => .bool b
  | .vec2 v => .arr (v.toList.map .float32)
  | .vec3 v => .arr (v.toList.map .float32)
  | .quat v => .arr (v.toList.map .float32)
  | .colorRgba v => .arr (v.toList.map .float32)
  | .matrix44 v => .arr (v.toList.map .float32)
  | .thickness v => .arr (v.toList.map .float32)
  | .text s => .str s

/-- A value as the document `{"type": kind, "data": payload}`. -/
def Value.toDoc (v : Value) : Doc := .obj [("type", v.kind.toDoc), ("data", v.payloadDoc)]

/-- Reads the payload of a value of kind `k`. -/
def Value.payloadReader (k : Kind) : Reader Value :=
  match k with
  | .float => .float <$> readFloat32
  | .int => .int <$> readInt32
  | .bool => .bool <$> readBool
  | .text => .text <$> readString
  | k => Value.ofFloats k <$> readArray (k.width?.getD 0) readFloat32

/-- Reads a kept payload of a value of kind `k`. -/
def Value.payloadOfContent (k : Kind) (d : Doc) : Except String Value :=
  match k with
  | .float => .float <$> Content.float32 d
  | .int => .int <$> Content.int32 d
  | .bool => .bool <$> Content.bool d
  | .text => .text <$> Content.string d
  | k => Value.ofFloats k <$> Content.array (k.width?.getD 0) Content.float32 d

/-- The next member of a value's object that matters: `some true` for `type`, `some false`
for `data`; others are skipped. -/
def nextTagMember : Nat → Bool → Reader (Option Bool)
  | 0, _ => pure none
  | fuel + 1, first => do
    match ← nextKey first with
    | none => pure none
    | some "type" => pure (some true)
    | some "data" => pure (some false)
    | some _ => do objectColon; skipValue; nextTagMember fuel false

/-- The next member of a value's object that matters, after the first. -/
def nextTag : Reader (Option Bool) := do nextTagMember (← remaining) false

/-- What a value's object may still hold once kind and payload are read: nothing more. -/
def noMoreTags (v : Value) : Reader Value := do
  match ← nextTag with
  | some true => failBare (duplicateField "type")
  | some false => failBare (duplicateField "data")
  | none => pure v

/-- Reads the members of a value's object. -/
def valueMembers : Reader Value := do
  match ← nextTagMember (← remaining) true with
  | none => failBare (missingField "type")
  | some true =>
    objectColon
    let k ← Kind.reader
    match ← nextTag with
    | some true => failBare (duplicateField "type")
    | some false =>
      objectColon
      let v ← Value.payloadReader k
      noMoreTags v
    | none => failBare (missingField "data")
  | some false =>
    objectColon
    let content ← readAny
    match ← nextTag with
    | some true =>
      objectColon
      let k ← Kind.reader
      match Value.payloadOfContent k content with
      | .error m => failBare m
      | .ok v => noMoreTags v
    | some false => failBare (duplicateField "data")
    | none => failBare (missingField "type")

/-- Reads the elements of a value's array: kind, then payload. -/
def valueElements : Reader Value := do
  let expected := "adjacently tagged enum Value"
  if ← hasNextElement true then
    let k ← Kind.tagReader
    if ← hasNextElement false then Value.payloadReader k
    else failBare (invalidLength 1 expected)
  else failBare (invalidLength 0 expected)

/-- Reads a value. -/
def Value.reader : Reader Value :=
  readComposite "adjacently tagged enum Value" valueElements valueMembers

/-! ## The plain form of typed tracks -/

/-- The record name and component names of the plain form of a vector kind. -/
def Kind.components : Kind → String × List String
  | .vec2 => ("Vector2", ["x", "y"])
  | .vec3 => ("Vector3", ["x", "y", "z"])
  | .quat => ("Quaternion", ["x", "y", "z", "w"])
  | .colorRgba => ("Color4", ["r", "g", "b", "a"])
  | .thickness => ("Thickness", ["left", "right", "top", "bottom"])
  | _ => ("Matrix44", ["m"])

/-- A record of float components, read into a list of optional floats. -/
def componentMembers (names : List String) : List (Member (List (Option Float32))) :=
  names.zipIdx.map fun (name, i) =>
    { name := name
      read := fun s => do let x ← readFloat32; pure (s.set i (some x))
      present := fun s => (s.getD i none).isSome
      defaulted := false }

/-- The components of a draft, or the first missing one. -/
def completeComponents (names : List String) (s : List (Option Float32)) :
    Except String (List Float32) :=
  match (names.zip s).find? (fun (_, x) => x.isNone) with
  | some (name, _) => .error (missingField name)
  | none => .ok (s.map (·.getD 0))

/-- Reads a value of kind `k` in the plain form. -/
def Value.readPlain (k : Kind) : Reader Value :=
  match k with
  | .float => .float <$> readFloat32
  | .int => .int <$> readInt32
  | .bool => .bool <$> readBool
  | .text => .text <$> readString
  | .matrix44 =>
    readRecord "Matrix44"
      [{ name := "m"
         read := fun _ => some <$> readArray 16 readFloat32
         present := Option.isSome
         defaulted := false }]
      none
      fun s => match s with
        | some xs => .ok (.matrix44 (vectorOf 16 xs))
        | none => .error (missingField "m")
  | k =>
    let (name, names) := k.components
    readRecord name (componentMembers names) (names.map fun _ => none)
      fun s => Value.ofFloats k <$> completeComponents names s

/-- A value in the plain form. -/
def Value.toPlainDoc : Value → Doc
  | .float x => .float32 x
  | .int n => .int n.toInt
  | .bool b => .bool b
  | .text s => .str s
  | .matrix44 m => .obj [("m", .arr (m.toList.map .float32))]
  | v =>
    let floats : List Float32 := match v with
      | .vec2 x => x.toList
      | .vec3 x => x.toList
      | .quat x => x.toList
      | .colorRgba x => x.toList
      | .thickness x => x.toList
      | _ => []
    .obj ((v.kind.components.2.zip floats).map fun (n, x) => (n, .float32 x))

end Timeline

import Timeline.Text.Blank

/-!
# Property paths

A property path names a property of an object: segments separated by dots, each a name with an
optional element index, as in `Items[2].Points[3]`.

A text is a path when it is not empty and every dot-separated piece is a segment: a name
without brackets, or a name, `[`, decimal digits and a final `]`. Names are not empty and no
piece holds a blank. Indices are read as 64-bit unsigned numbers and may have leading zeros,
which the path's text (`Path.render`) drops. The first failing piece, from the left, decides the
error: an empty piece, then a blank, then a malformed bracket, except that a bracket with no
name before it counts as an empty piece.

The lookup key of a path (`Path.lookupKey`) is its text with the index of the last segment
left out: the name under which an object keeps a list, whose element the index selects.
-/

namespace Timeline

/-- One segment of a path: a name and an optional element index. -/
structure Segment where
  /-- The property name. -/
  name : String
  /-- The element index, if any. -/
  index : Option Nat
  deriving DecidableEq, Repr

/-- A parsed property path. -/
structure Path where
  /-- The segments, outermost first. -/
  segments : List Segment
  deriving DecidableEq, Repr

/-- Why a text is not a path. -/
inductive PathError where
  /-- The text is empty. -/
  | empty
  /-- A piece between dots, or a name before a bracket, is empty. -/
  | emptySegment (path : String)
  /-- A piece holds a blank. -/
  | blank (path : String)
  /-- A piece's brackets are malformed, or its index does not fit in 64 bits. -/
  | badIndex (path : String) (segment : String)
  deriving DecidableEq, Repr

/-- The message of a path error. -/
def PathError.message : PathError → String
  | .empty => "empty path"
  | .emptySegment p => "invalid property path '" ++ p ++ "': empty segment"
  | .blank p => "invalid property path '" ++ p ++ "': segment contains whitespace"
  | .badIndex p s => "invalid property path '" ++ p ++ "': malformed index in '" ++ s ++ "'"

/-- The largest index: `2 ^ 64 - 1`. -/
def maxIndex : Nat := Nat.pow 2 64 - 1

/-- The value of a list of decimal digits. -/
def digitsValue (ds : List Char) : Nat := ds.foldl (fun n c => n * 10 + (c.toNat - '0'.toNat)) 0

/-- Reads one piece that has no blank and is not empty. -/
def parseSegment (path : String) (raw : List Char) : Except PathError Segment :=
  let bad : PathError := .badIndex path (String.ofList raw)
  match raw.span (· ≠ '[') with
  | (name, []) => if name.contains ']' then .error bad else .ok ⟨String.ofList name, none⟩
  | (name, _ :: rest) =>
    if rest.getLast? ≠ some ']' then .error bad
    else if name.isEmpty then .error (.emptySegment path)
    else
      let digits := rest.dropLast
      if digits.isEmpty ∨ !digits.all Char.isDigit then .error bad
      else if maxIndex < digitsValue digits then .error bad
      else .ok ⟨String.ofList name, some (digitsValue digits)⟩

/-- Reads one dot-separated piece. -/
def parsePiece (path : String) (raw : List Char) : Except PathError Segment :=
  if raw.isEmpty then .error (.emptySegment path)
  else if raw.any Text.isBlank then .error (.blank path)
  else parseSegment path raw

/-- Reads a property path. -/
def Path.parse (s : String) : Except PathError Path :=
  if s.isEmpty then .error .empty
  else Path.mk <$> ((s.toList.splitOn '.').mapM (parsePiece s))

/-- The text of a segment: its name, then its index in brackets. -/
def Segment.render (seg : Segment) : String :=
  match seg.index with
  | some i => seg.name ++ "[" ++ toString i ++ "]"
  | none => seg.name

/-- The text of a path: its segments joined by dots, indices without leading zeros. -/
def Path.render (p : Path) : String := ".".intercalate (p.segments.map Segment.render)

/-- The index of the last segment, if it has one. -/
def Path.lastIndex (p : Path) : Option Nat := p.segments.getLast?.bind (·.index)

/-- The text of a path with the last segment's index left out. -/
def Path.lookupKey (p : Path) : String :=
  match p.segments.reverse with
  | [] => ""
  | last :: before => ".".intercalate ((before.reverse.map Segment.render) ++ [last.name])

/-- Whether the path is the single segment `name` without an index. -/
def Path.isSingle (p : Path) (name : String) : Bool :=
  match p.segments with
  | [seg] => seg.index.isNone && seg.name == name
  | _ => false

end Timeline

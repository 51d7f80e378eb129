import Timeline.Json.Doc

/-!
# Reading JSON text: cursor and faults

A reader walks the characters of a JSON text with a `Cursor` that counts the bytes consumed.
It stops at the first fault. A fault is reported at a byte offset, which the final message
turns into a line and a column (`at line 1 column 28`): lines count from one, columns count
the bytes since the last line feed. Faults found by the grammar carry their offset at once;
those found while interpreting a value (a wrong type, a missing field) get the offset where the
enclosing value ended, or none at all when no enclosing reader adds one.

Offsets come in two kinds: `fail` reports the offset of the next unread character, and
`failAhead` the offset just past its first byte, capped at the end of the text. A reader that
rejects a character therefore looks at it without consuming it and reports the fault with
`failAhead`: the offset is then the same whatever the width of the character.
-/

namespace Timeline.Json

/-- What went wrong while reading. -/
inductive Fault where
  | eofWhileParsingList
  | eofWhileParsingObject
  | eofWhileParsingString
  | eofWhileParsingValue
  | expectedColon
  | expectedListCommaOrEnd
  | expectedObjectCommaOrEnd
  | expectedSomeIdent
  | expectedSomeValue
  | invalidEscape
  | invalidNumber
  | numberOutOfRange
  | controlCharacterWhileParsingString
  | keyMustBeAString
  | loneLeadingSurrogateInHexEscape
  | trailingComma
  | trailingCharacters
  | unexpectedEndOfHexEscape
  | recursionLimitExceeded
  /-- A fault found while interpreting a value, with its description. -/
  | custom (message : String)

/-- The description of a fault. -/
def Fault.message : Fault → String
  | .eofWhileParsingList => "EOF while parsing a list"
  | .eofWhileParsingObject => "EOF while parsing an object"
  | .eofWhileParsingString => "EOF while parsing a string"
  | .eofWhileParsingValue => "EOF while parsing a value"
  | .expectedColon => "expected `:`"
  | .expectedListCommaOrEnd => "expected `,` or `]`"
  | .expectedObjectCommaOrEnd => "expected `,` or `\x7d`"
  | .expectedSomeIdent => "expected ident"
  | .expectedSomeValue => "expected value"
  | .invalidEscape => "invalid escape"
  | .invalidNumber => "invalid number"
  | .numberOutOfRange => "number out of range"
  | .controlCharacterWhileParsingString =>
    "control character (\\u0000-\\u001F) found while parsing a string"
  | .keyMustBeAString => "key must be a string"
  | .loneLeadingSurrogateInHexEscape => "lone leading surrogate in hex escape"
  | .trailingComma => "trailing comma"
  | .trailingCharacters => "trailing characters"
  | .unexpectedEndOfHexEscape => "unexpected end of hex escape"
  | .recursionLimitExceeded => "recursion limit exceeded"
  | .custom message => message

/-- A fault and the byte offset it is reported at, if any. -/
structure ReadError where
  /-- What went wrong. -/
  fault : Fault
  /-- Where, in bytes from the start of the text. -/
  offset : Option Nat

/-- The line (from one) and column (bytes since the last line feed) of a byte offset. -/
def lineColumn (text : String) (offset : Nat) : Nat × Nat :=
  let bytes := (text.toUTF8.toList.take offset).map UInt8.toNat
  let lineStart := match bytes.reverse.findIdx? (· == 10) with
    | some k => bytes.length - k
    | none => 0
  (1 + bytes.count 10, offset - lineStart)

/-- The message of an error in `text`: the fault, then its line and column if it has an
offset. -/
def ReadError.message (text : String) (e : ReadError) : String :=
  match e.offset with
  | none => e.fault.message
  | some i =>
    let (line, column) := lineColumn text i
    e.fault.message ++ " at line " ++ toString line ++ " column " ++ toString column

/-- Where a reader stands: the characters left, the bytes consumed and how many more arrays or
objects may still open before the nesting limit. -/
structure Cursor where
  /-- The characters not yet read. -/
  rest : List Char
  /-- Bytes consumed so far. -/
  offset : Nat
  /-- Containers that may still open. -/
  depth : Nat

/-- A cursor at the start of `text`; at most 127 containers may nest. -/
def Cursor.start (text : String) : Cursor := ⟨text.toList, 0, 128⟩

/-- A reader: consumes characters and yields a value or stops at a fault. A fault keeps the
cursor at the point where it was found. -/
abbrev Reader := EStateM ReadError Cursor

/-- The next character, not consumed. -/
def peek : Reader (Option Char) := fun c => .ok c.rest.head? c

/-- Consumes the next character, if any. -/
def eat : Reader Unit := fun c =>
  match c.rest with
  | [] => .ok () c
  | ch :: rest => .ok () { c with rest := rest, offset := c.offset + ch.utf8Size }

/-- Consumes and returns the next character. -/
def next : Reader (Option Char) := do
  let c ← peek
  eat
  pure c

/-- Stops with a fault at the offset of the next unread character. -/
def fail {α : Type} (f : Fault) : Reader α := fun c => .error ⟨f, some c.offset⟩ c

/-- Stops with a fault at the offset just past the first byte of the next unread character. -/
def failAhead {α : Type} (f : Fault) : Reader α := fun c =>
  .error ⟨f, some (if c.rest.isEmpty then c.offset else c.offset + 1)⟩ c

/-- Stops with a fault at a given offset. -/
def failAt {α : Type} (f : Fault) (offset : Nat) : Reader α := fun c => .error ⟨f, some offset⟩ c

/-- Stops with a fault that has no offset yet. -/
def failBare {α : Type} (message : String) : Reader α := fun c => .error ⟨.custom message, none⟩ c

/-- Runs `r`; a fault without an offset gets the offset where `r` stopped. -/
def fixing {α : Type} (r : Reader α) : Reader α := fun c =>
  match r c with
  | .ok a c' => .ok a c'
  | .error e c' => .error (if e.offset.isSome then e else { e with offset := some c'.offset }) c'

/-- Runs `body` and then `close` even when `body` stopped; the first fault wins. -/
def thenClose {α : Type} (body : Reader α) (close : Reader Unit) : Reader α := fun c =>
  match body c with
  | .ok a c' =>
    match close c' with
    | .ok _ c'' => .ok a c''
    | .error e c'' => .error e c''
  | .error e c' =>
    match close c' with
    | .ok _ c'' => .error e c''
    | .error _ c'' => .error e c''

/-- Opens one level of nesting around `body`, which starts at an opening bracket; fails when
the nesting limit is reached. -/
def nested {α : Type} (body : Reader α) : Reader α := fun c =>
  if c.depth ≤ 1 then failAhead .recursionLimitExceeded c
  else
    match body { c with depth := c.depth - 1 } with
    | .ok a c' => .ok a { c' with depth := c.depth }
    | .error e c' => .error e { c' with depth := c.depth }

/-- Skips blanks (space, tab, line feed, carriage return) and returns the next character. -/
def skipBlanks : Reader (Option Char) := fun c =>
  let blank (ch : Char) : Bool := ch = ' ' || ch = '\n' || ch = '\t' || ch = '\r'
  let skipped := c.rest.takeWhile blank
  .ok (c.rest.dropWhile blank).head?
    { c with rest := c.rest.dropWhile blank, offset := c.offset + skipped.length }

/-- The characters that are left, and their count in bytes. -/
def restBytes : Reader Nat := fun c => .ok (c.rest.foldl (fun n ch => n + ch.utf8Size) 0) c

/-- Consumes the rest of a keyword whose first letter was read. -/
def keyword (letters : List Char) : Reader Unit :=
  letters.forM fun l => do
    match ← peek with
    | none => fail .eofWhileParsingValue
    | some ch => if ch = l then eat else failAhead .expectedSomeIdent

end Timeline.Json

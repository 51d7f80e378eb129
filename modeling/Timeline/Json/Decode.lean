import Timeline.Json.Scan

/-!
# Reading typed values from JSON text

Readers for the shapes a document is made of: booleans, strings, numbers of a given width,
optional values, sequences, arrays of a fixed length, records and names from a fixed list.
Each one reads exactly one JSON value and stops at the first fault, with the messages of a
typed reader: `invalid type: integer `5`, expected a string`, `missing field `data``,
`unknown variant `nope`, expected one of `a`, `b``, and so on.

Records are read from an object, whose members may come in any order and may include unknown
ones, which are skipped; or from an array holding the fields in order. A value of any shape can
be kept as a `Doc` and read later (`Content`), the way a record reads a member whose meaning
depends on a later one.

`decodeText` reads a whole text: one value, then only blanks.
-/

namespace Timeline.Json

open Timeline.Decimal Timeline.Text

/-- A value that did not fit, as messages describe it. -/
inductive Unexpected where
  | bool (b : Bool)
  | int (n : Int)
  | float (x : Float)
  | str (s : String)
  | unit
  | seq
  | map

/-- The description of an unexpected value. -/
def Unexpected.describe : Unexpected → String
  | .bool b => "boolean `" ++ (if b then "true" else "false") ++ "`"
  | .int n => "integer `" ++ toString n ++ "`"
  | .float x => "floating point `" ++ (floatText x).getD (nonFiniteName x.isNaN (x < 0)) ++ "`"
  | .str s => "string " ++ debugQuote s
  | .unit => "null"
  | .seq => "sequence"
  | .map => "map"

/-- A value of the wrong type. -/
def invalidType (u : Unexpected) (expected : String) : String :=
  "invalid type: " ++ u.describe ++ ", expected " ++ expected

/-- A value of the right type out of range. -/
def invalidValue (u : Unexpected) (expected : String) : String :=
  "invalid value: " ++ u.describe ++ ", expected " ++ expected

/-- A sequence of the wrong length. -/
def invalidLength (n : Nat) (expected : String) : String :=
  "invalid length " ++ toString n ++ ", expected " ++ expected

/-- A record without a required member. -/
def missingField (name : String) : String := "missing field `" ++ name ++ "`"

/-- A record with a member given twice. -/
def duplicateField (name : String) : String := "duplicate field `" ++ name ++ "`"

/-- Names in backquotes: one, two joined by `or`, or a list after `one of`. -/
def oneOf (names : List String) : String :=
  let q (s : String) : String := "`" ++ s ++ "`"
  match names with
  | [a] => q a
  | [a, b] => q a ++ " or " ++ q b
  | _ => "one of " ++ ", ".intercalate (names.map q)

/-- A name that is not in the list. -/
def unknownVariant (name : String) (names : List String) : String :=
  if names.isEmpty then "unknown variant `" ++ name ++ "`, there are no variants"
  else "unknown variant `" ++ name ++ "`, expected " ++ oneOf names

/-- How a number is described when it does not fit. -/
def Number.unexpected : Number → Unexpected
  | .int n => .int n
  | .float x => .float x
  | .float32 x => .float x.toFloat

/-- Stops with `invalid type` for the value ahead, consuming it if it is a scalar. -/
def typeMismatch {α : Type} (expected : String) : Reader α := fixing do
  match ← peek with
  | some 'n' => eat; keyword ['u', 'l', 'l']; failBare (invalidType .unit expected)
  | some 't' => eat; keyword ['r', 'u', 'e']; failBare (invalidType (.bool true) expected)
  | some 'f' => eat; keyword ['a', 'l', 's', 'e']; failBare (invalidType (.bool false) expected)
  | some '-' => eat; let n ← readNumber false; failBare (invalidType n.unexpected expected)
  | some '"' => eat; let s ← readStringBody; failBare (invalidType (.str s) expected)
  | some '[' => failBare (invalidType .seq expected)
  | some '\x7b' => failBare (invalidType .map expected)
  | some c =>
    if isDigitChar c then do
      let n ← readNumber true
      failBare (invalidType n.unexpected expected)
    else failAhead .expectedSomeValue
  | none => failAhead .expectedSomeValue

/-- Reads a boolean. -/
def readBool : Reader Bool := fixing do
  match ← skipBlanks with
  | none => failAhead .eofWhileParsingValue
  | some 't' => eat; keyword ['r', 'u', 'e']; pure true
  | some 'f' => eat; keyword ['a', 'l', 's', 'e']; pure false
  | some _ => typeMismatch "a boolean"

/-- Reads a string. -/
def readString : Reader String := fixing do
  match ← skipBlanks with
  | none => failAhead .eofWhileParsingValue
  | some '"' => eat; readStringBody
  | some _ => typeMismatch "a string"

/-- Reads a number and interprets it with `visit`, whose faults read `expected`. -/
def readNumeric {α : Type} (expected : String) (visit : Number → Except String α) :
    Reader α := fixing do
  let n ← match ← skipBlanks with
    | none => failAhead .eofWhileParsingValue
    | some '-' => do eat; readNumber false
    | some c => if isDigitChar c then readNumber true else typeMismatch expected
  match visit n with
  | .ok a => pure a
  | .error m => failBare m

/-- A number as a binary32 float: whole numbers and binary64 floats are each rounded once. -/
def Number.toFloat32 : Number → Float32
  | .int n => Float32.ofInt n
  | .float x => x.toFloat32
  | .float32 x => x

/-- A number as a binary64 float. -/
def Number.toFloat : Number → Float
  | .int n => Float.ofInt n
  | .float x => x
  | .float32 x => x.toFloat

/-- A whole number within `lo` to `hi`, named `name` in faults. -/
def Number.toRange (name : String) (lo hi : Int) : Number → Except String Int
  | .int n => if lo ≤ n ∧ n ≤ hi then .ok n else .error (invalidValue (.int n) name)
  | n => .error (invalidType n.unexpected name)

/-- Reads a binary32 float. -/
def readFloat32 : Reader Float32 := readNumeric "f32" fun n => .ok n.toFloat32

/-- Reads a 32-bit signed whole number. -/
def readInt32 : Reader Int32 :=
  readNumeric "i32" fun n => (n.toRange "i32" (-2147483648) 2147483647).map Int32.ofInt

/-- Reads a 32-bit unsigned whole number. -/
def readUInt32 : Reader UInt32 :=
  readNumeric "u32" fun n => (n.toRange "u32" 0 4294967295).map fun k => UInt32.ofNat k.toNat

/-- Reads `null` as `none`, anything else with `r`. -/
def readOption {α : Type} (r : Reader α) : Reader (Option α) := do
  match ← skipBlanks with
  | some 'n' => eat; keyword ['u', 'l', 'l']; pure none
  | _ => some <$> r

/-- Reads `null`. -/
def readUnit : Reader Unit := fixing do
  match ← skipBlanks with
  | none => failAhead .eofWhileParsingValue
  | some 'n' => eat; keyword ['u', 'l', 'l']
  | some _ => typeMismatch "unit"

/-- Whether an array has another element; `first` says none was read yet. -/
def hasNextElement (first : Bool) : Reader Bool := do
  match ← skipBlanks with
  | none => failAhead .eofWhileParsingList
  | some ']' => pure false
  | some c =>
    if first then pure true
    else if c = ',' then do
      eat
      match ← skipBlanks with
      | some ']' => failAhead .trailingComma
      | some _ => pure true
      | none => failAhead .eofWhileParsingValue
    else failAhead .expectedListCommaOrEnd

/-- Closes an array. -/
def endSeq : Reader Unit := do
  match ← skipBlanks with
  | some ']' => eat
  | some ',' =>
    eat
    match ← skipBlanks with
    | some ']' => failAhead .trailingComma
    | _ => failAhead .trailingCharacters
  | some _ => failAhead .trailingCharacters
  | none => failAhead .eofWhileParsingList

/-- Closes an object. -/
def endMap : Reader Unit := do
  match ← skipBlanks with
  | some '\x7d' => eat
  | some ',' => failAhead .trailingComma
  | some _ => failAhead .trailingCharacters
  | none => failAhead .eofWhileParsingObject

/-- The name of the next member of an object, or `none` at its end; `first` says none was read
yet. -/
def nextKey (first : Bool) : Reader (Option String) := do
  let ahead ← match ← skipBlanks with
    | some '\x7d' => pure none
    | some ',' =>
      if first then failAhead .keyMustBeAString
      else do eat; pure (some (← skipBlanks))
    | some c => if first then pure (some (some c)) else failAhead .expectedObjectCommaOrEnd
    | none => failAhead .eofWhileParsingObject
  match ahead with
  | none => pure none
  | some (some '"') => eat; some <$> readStringBody
  | some (some '\x7d') => failAhead .trailingComma
  | some (some _) => failAhead .keyMustBeAString
  | some none => failAhead .eofWhileParsingValue

/-- Reads the colon between a member's name and its value. -/
def objectColon : Reader Unit := do
  match ← skipBlanks with
  | some ':' => eat
  | some _ => failAhead .expectedColon
  | none => failAhead .eofWhileParsingObject

mutual

/-- Reads any value as a document; `fuel` bounds the nesting and the members read. -/
def readAnyWith : Nat → Reader Doc
  | 0 => failAhead .recursionLimitExceeded
  | fuel + 1 => fixing do
    match ← skipBlanks with
    | none => failAhead .eofWhileParsingValue
    | some 'n' => eat; keyword ['u', 'l', 'l']; pure .null
    | some 't' => eat; keyword ['r', 'u', 'e']; pure (.bool true)
    | some 'f' => eat; keyword ['a', 'l', 's', 'e']; pure (.bool false)
    | some '-' => eat; return .num (← readNumber false)
    | some '"' => eat; return .str (← readStringBody)
    | some '[' => nested (thenClose (do eat; return .arr (← anyItems fuel true [])) endSeq)
    | some '\x7b' => nested (thenClose (do eat; return .obj (← anyMembers fuel true [])) endMap)
    | some c =>
      if isDigitChar c then return .num (← readNumber true) else failAhead .expectedSomeValue

/-- Reads the elements of an array as documents. -/
def anyItems : Nat → Bool → List Doc → Reader (List Doc)
  | 0, _, acc => pure acc.reverse
  | fuel + 1, first, acc => do
    if ← hasNextElement first then
      let d ← readAnyWith fuel
      anyItems fuel false (d :: acc)
    else pure acc.reverse

/-- Reads the members of an object as named documents. -/
def anyMembers : Nat → Bool → List (String × Doc) → Reader (List (String × Doc))
  | 0, _, acc => pure acc.reverse
  | fuel + 1, first, acc => do
    match ← nextKey first with
    | none => pure acc.reverse
    | some k =>
      objectColon
      let d ← readAnyWith fuel
      anyMembers fuel false ((k, d) :: acc)

end

/-- Reads any value as a document. -/
def readAny : Reader Doc := do readAnyWith (← remaining)

mutual

/-- Skips one value, checking its grammar only; `fuel` bounds the nesting and the members. -/
def skipValueWith : Nat → Reader Unit
  | 0 => pure ()
  | fuel + 1 => do
    match ← skipBlanks with
    | none => failAhead .eofWhileParsingValue
    | some 'n' => eat; keyword ['u', 'l', 'l']
    | some 't' => eat; keyword ['r', 'u', 'e']
    | some 'f' => eat; keyword ['a', 'l', 's', 'e']
    | some '-' => eat; skipNumber
    | some '"' => eat; skipString
    | some '[' =>
      eat
      match ← skipBlanks with
      | some ']' => eat
      | some _ => skipValueWith fuel; skipItems fuel
      | none => failAhead .eofWhileParsingList
    | some '\x7b' =>
      eat
      match ← skipBlanks with
      | some '\x7d' => eat
      | some _ => skipMember fuel; skipMembers fuel
      | none => failAhead .eofWhileParsingObject
    | some c => if isDigitChar c then skipNumber else failAhead .expectedSomeValue

/-- Skips the elements of an array after its first one, and the closing bracket. -/
def skipItems : Nat → Reader Unit
  | 0 => pure ()
  | fuel + 1 => do
    match ← skipBlanks with
    | some ',' => eat; skipValueWith fuel; skipItems fuel
    | some ']' => eat
    | some _ => failAhead .expectedListCommaOrEnd
    | none => failAhead .eofWhileParsingList

/-- Skips one member of an object: its name, colon and value. -/
def skipMember : Nat → Reader Unit
  | 0 => pure ()
  | fuel + 1 => do
    match ← skipBlanks with
    | some '"' => eat; skipString
    | some _ => failAhead .keyMustBeAString
    | none => failAhead .eofWhileParsingObject
    match ← skipBlanks with
    | some ':' => eat
    | some _ => failAhead .expectedColon
    | none => failAhead .eofWhileParsingObject
    skipValueWith fuel

/-- Skips the members of an object after its first one, and the closing brace. -/
def skipMembers : Nat → Reader Unit
  | 0 => pure ()
  | fuel + 1 => do
    match ← skipBlanks with
    | some ',' => eat; skipMember fuel; skipMembers fuel
    | some '\x7d' => eat
    | some _ => failAhead .expectedObjectCommaOrEnd
    | none => failAhead .eofWhileParsingObject

end

/-- Skips one value. -/
def skipValue : Reader Unit := do skipValueWith (← remaining)

/-- Reads an array whose elements are read by `r`. -/
def readSeq {α : Type} (r : Reader α) : Reader (List α) := fixing do
  match ← skipBlanks with
  | none => failAhead .eofWhileParsingValue
  | some '[' =>
    let rec items : Nat → Bool → List α → Reader (List α)
      | 0, _, acc => pure acc.reverse
      | fuel + 1, first, acc => do
        if ← hasNextElement first then
          let a ← r
          items fuel false (a :: acc)
        else pure acc.reverse
    nested (thenClose (do eat; items (← remaining) true []) endSeq)
  | some _ => typeMismatch "a sequence"

/-- Reads an array of exactly `n` elements, each read by `r`. -/
def readArray {α : Type} (n : Nat) (r : Reader α) : Reader (List α) := fixing do
  let expected := "an array of length " ++ toString n
  match ← skipBlanks with
  | none => failAhead .eofWhileParsingValue
  | some '[' =>
    let rec items : Nat → Nat → List α → Reader (List α)
      | 0, _, acc => pure acc.reverse
      | left + 1, i, acc => do
        if ← hasNextElement (i == 0) then
          let a ← r
          items left (i + 1) (a :: acc)
        else failBare (invalidLength i expected)
    nested (thenClose (do eat; items n 0 []) endSeq)
  | some _ => typeMismatch expected

/-- Reads one of `names` and returns its position in the list. -/
def readName (names : List String) (expected : String) : Reader Nat := fixing do
  match ← skipBlanks with
  | none => failAhead .eofWhileParsingValue
  | some '"' =>
    eat
    let s ← readStringBody
    match names.idxOf? s with
    | some i => pure i
    | none => failBare (unknownVariant s names)
  | some _ => typeMismatch expected

/-- Reads a name from a fixed list, written as a string or as `{"name": null}`; returns its
position in the list. -/
def readVariant (names : List String) : Reader Nat := do
  match ← skipBlanks with
  | some '"' => readName names "variant identifier"
  | some '\x7b' =>
    let i ← nested do
      eat
      let i ← match ← skipBlanks with
        | some '"' => readName names "variant identifier"
        | some '\x7d' => failAhead .expectedSomeValue
        | some _ => failAhead .keyMustBeAString
        | none => failAhead .eofWhileParsingObject
      objectColon
      readUnit
      pure i
    match ← skipBlanks with
    | some '\x7d' => eat; pure i
    | some _ => fail .expectedSomeValue
    | none => fail .eofWhileParsingObject
  | some _ => failAhead .expectedSomeValue
  | none => failAhead .eofWhileParsingValue

/-- Reads a value written as an array, read by `elements`, or as an object, read by
`members`; both start after the opening bracket or brace. -/
def readComposite {α : Type} (expected : String) (elements members : Reader α) : Reader α :=
  fixing do
    match ← skipBlanks with
    | none => failAhead .eofWhileParsingValue
    | some '[' => nested (thenClose (do eat; elements) endSeq)
    | some '\x7b' => nested (thenClose (do eat; members) endMap)
    | some _ => typeMismatch expected

/-- One field of a record: its name, how its value is read into the draft `σ`, whether the
draft has it already, and whether it has a default. -/
structure Member (σ : Type) where
  /-- The member name. -/
  name : String
  /-- Reads the member's value into the draft. -/
  read : σ → Reader σ
  /-- Whether the draft has the field already. -/
  present : σ → Bool
  /-- Whether the field may be left out. -/
  defaulted : Bool

/-- Reads a record named `name` into the draft `init` and completes it with `finish`, whose
fault names a missing field. -/
def readRecord {σ α : Type} (name : String) (fields : List (Member σ)) (init : σ)
    (finish : σ → Except String α) : Reader α :=
  let complete (s : σ) : Reader α :=
    match finish s with
    | .ok a => pure a
    | .error m => failBare m
  let rec members : Nat → Bool → σ → Reader α
    | 0, _, s => complete s
    | fuel + 1, first, s => do
      match ← nextKey first with
      | none => complete s
      | some key =>
        match fields.find? (·.name == key) with
        | some f =>
          if f.present s then failBare (duplicateField key)
          else do
            objectColon
            let s' ← f.read s
            members fuel false s'
        | none => do objectColon; skipValue; members fuel false s
  let count := fields.length
  let rec elements : List (Member σ) → Nat → Bool → σ → Reader σ
    | [], _, _, s => pure s
    | f :: fs, i, first, s => do
      if ← hasNextElement first then
        let s' ← f.read s
        elements fs (i + 1) false s'
      else if f.defaulted then elements fs (i + 1) first s
      else
        failBare (invalidLength i ("struct " ++ name ++ " with " ++ toString count ++
          (if count = 1 then " element" else " elements")))
  readComposite ("struct " ++ name) (do let s ← elements fields 0 true init; complete s)
    (do members (← remaining) true init)

/-- Reads a whole text with `r`: one value, then only blanks. -/
def decodeText {α : Type} (r : Reader α) (text : String) : Except String α :=
  let whole : Reader α := do
    let a ← r
    match ← skipBlanks with
    | some _ => failAhead .trailingCharacters
    | none => pure a
  match whole (Cursor.start text) with
  | .ok a _ => .ok a
  | .error e _ => .error (e.message text)

/-! ## Kept values

A value kept as a `Doc` is read later with the same faults, except that they carry no offset:
the reader that kept it adds one.
-/

namespace Content

/-- How a kept value is described when it does not fit. -/
def unexpected : Doc → Unexpected
  | .null => .unit
  | .bool b => .bool b
  | .num n => n.unexpected
  | .str s => .str s
  | .arr _ => .seq
  | .obj _ => .map

/-- A kept binary32 float. -/
def float32 : Doc → Except String Float32
  | .num n => .ok n.toFloat32
  | d => .error (invalidType (unexpected d) "f32")

/-- A kept 32-bit signed whole number. -/
def int32 : Doc → Except String Int32
  | .num n => (n.toRange "i32" (-2147483648) 2147483647).map Int32.ofInt
  | d => .error (invalidType (unexpected d) "i32")

/-- A kept boolean. -/
def bool : Doc → Except String Bool
  | .bool b => .ok b
  | d => .error (invalidType (unexpected d) "a boolean")

/-- A kept string. -/
def string : Doc → Except String String
  | .str s => .ok s
  | d => .error (invalidType (unexpected d) "a string")

/-- A kept array of exactly `n` elements, each read by `f`: the elements are read in order,
then the length is checked. -/
def array {α : Type} (n : Nat) (f : Doc → Except String α) : Doc → Except String (List α)
  | .arr items =>
    match (items.take n).mapM f with
    | .error m => .error m
    | .ok xs =>
      if items.length < n then
        .error (invalidLength items.length ("an array of length " ++ toString n))
      else if n < items.length then
        .error (invalidLength items.length
          (toString n ++ (if n = 1 then " element in sequence" else " elements in sequence")))
      else .ok xs
  | d => .error (invalidType (unexpected d) ("an array of length " ++ toString n))

end Content

end Timeline.Json

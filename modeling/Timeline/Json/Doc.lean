import Timeline.Decimal.Text
import Timeline.Text.Quote

/-!
# JSON documents

A `Doc` is a JSON tree whose objects keep their members in order, duplicates included. Numbers
are kept as they were read or as they will be written: a whole number, a binary64 float or a
binary32 float.

`Doc.render` writes compact JSON text: no blanks, members in order, strings quoted by
`jsonQuote`, floats as their shortest decimals. What a float that is not finite becomes is a
choice of the writer (`NonFinite`): `null` in documents, or its name as a string.
-/

namespace Timeline.Json

open Timeline.Decimal Timeline.Text

/-- A JSON number. -/
inductive Number where
  /-- A whole number, written with its digits. -/
  | int (n : Int)
  /-- A binary64 float. -/
  | float (x : Float)
  /-- A binary32 float. -/
  | float32 (x : Float32)

/-- A JSON tree with ordered members. -/
inductive Doc where
  | null
  | bool (b : Bool)
  | num (n : Number)
  | str (s : String)
  | arr (items : List Doc)
  | obj (members : List (String × Doc))

/-- How a writer spells a float that is not finite. -/
inductive NonFinite where
  /-- As `null`, the way JSON documents do. -/
  | asNull
  /-- As the string `"NaN"`, `"inf"` or `"-inf"`. -/
  | asName

namespace Doc

/-- A whole number. -/
def int (n : Int) : Doc := .num (.int n)

/-- A binary64 float. -/
def float (x : Float) : Doc := .num (.float x)

/-- A binary32 float. -/
def float32 (x : Float32) : Doc := .num (.float32 x)

/-- `none` as `null`. -/
def opt {α : Type} (f : α → Doc) : Option α → Doc
  | some a => f a
  | none => .null

/-- A string or `null`. -/
def optStr (s : Option String) : Doc := opt .str s

end Doc

/-- The text of a non-finite float under a writer's choice. -/
def NonFinite.text (nf : NonFinite) (isNaN negative : Bool) : String :=
  match nf with
  | .asNull => "null"
  | .asName => jsonQuote (nonFiniteName isNaN negative)

/-- The text of a number. -/
def Number.render (nf : NonFinite) : Number → String
  | .int n => if n < 0 then "-" ++ digitText n.natAbs else digitText n.natAbs
  | .float x => (floatText x).getD (nf.text x.isNaN (x < 0))
  | .float32 x => (float32Text x).getD (nf.text x.isNaN (x < 0))

mutual

/-- Compact JSON text of a document. -/
def Doc.render (nf : NonFinite) : Doc → String
  | .null => "null"
  | .bool b => if b then "true" else "false"
  | .num n => n.render nf
  | .str s => jsonQuote s
  | .arr items => "[" ++ renderItems nf items ++ "]"
  | .obj members => "\x7b" ++ renderMembers nf members ++ "\x7d"

/-- Array items separated by commas. -/
def renderItems (nf : NonFinite) : List Doc → String
  | [] => ""
  | [d] => d.render nf
  | d :: ds => d.render nf ++ "," ++ renderItems nf ds

/-- Object members separated by commas. -/
def renderMembers (nf : NonFinite) : List (String × Doc) → String
  | [] => ""
  | [(k, d)] => jsonQuote k ++ ":" ++ d.render nf
  | (k, d) :: ms => jsonQuote k ++ ":" ++ d.render nf ++ "," ++ renderMembers nf ms

end

/-- The value of member `key` of an object, the first one of that name. -/
def Doc.field? (d : Doc) (key : String) : Option Doc :=
  match d with
  | .obj members => (members.find? (·.1 == key)).map (·.2)
  | _ => none

end Timeline.Json

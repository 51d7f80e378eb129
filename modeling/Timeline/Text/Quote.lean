import Timeline.Text.GraphemeExtend
import Timeline.Text.Printable

/-!
# Quoted strings

Two ways to quote a string.

* `jsonQuote`: JSON text escapes the quote, the backslash and the control characters below
  U+0020 and nothing else. Backspace, tab, line feed, form feed and carriage return have short
  escapes; the other controls are written `\u00XX` with lowercase hex digits.
* `debugQuote`: debugging text escapes the quote, the backslash, NUL, tab, line feed and
  carriage return with a backslash, and writes every other character that is not printable, or
  that extends a grapheme, as `\u{X}` with the fewest lowercase hex digits.
-/

namespace Timeline.Text

/-- The lowercase hex digits of `n`, at least one. -/
def hexDigits (n : Nat) : List Char := Nat.toDigits 16 n

/-- The lowercase hex digits of `n`, padded with zeros to four. -/
def hex4 (n : Nat) : List Char :=
  let ds := hexDigits n
  List.replicate (4 - ds.length) '0' ++ ds

/-- The JSON escape of one character. -/
def jsonEscapeChar (c : Char) : List Char :=
  if c = '"' then ['\\', '"']
  else if c = '\\' then ['\\', '\\']
  else if c.toNat < 0x20 then
    match c.toNat with
    | 0x08 => ['\\', 'b']
    | 0x09 => ['\\', 't']
    | 0x0A => ['\\', 'n']
    | 0x0C => ['\\', 'f']
    | 0x0D => ['\\', 'r']
    | n => ['\\', 'u'] ++ hex4 n
  else [c]

/-- A JSON string literal of `s`. -/
def jsonQuote (s : String) : String :=
  String.ofList ('"' :: s.toList.flatMap jsonEscapeChar ++ ['"'])

/-- Whether debugging text writes the character as an escape: it extends a grapheme or is
not printable. -/
def isHidden (c : Char) : Bool := isGraphemeExtend c || !isPrintable c

/-- The debugging escape of one character inside a double-quoted string. -/
def debugEscapeChar (c : Char) : List Char :=
  if c = '"' then ['\\', '"']
  else if c = '\\' then ['\\', '\\']
  else if c = '\n' then ['\\', 'n']
  else if c = '\r' then ['\\', 'r']
  else if c = '\t' then ['\\', 't']
  else if c.toNat = 0 then ['\\', '0']
  else if isHidden c then ['\\', 'u', '\x7b'] ++ hexDigits c.toNat ++ ['\x7d']
  else [c]

/-- The debugging text of a string: double-quoted, with escapes. -/
def debugQuote (s : String) : String :=
  String.ofList ('"' :: s.toList.flatMap debugEscapeChar ++ ['"'])

end Timeline.Text

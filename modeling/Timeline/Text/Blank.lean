/-!
# Blank characters

`isBlank` is the Unicode `White_Space` property: the ASCII tab, line feed, vertical tab, form
feed, carriage return and space, the next line control, the no-break space, the Ogham space
mark, the spaces from en quad to hair space, the line and paragraph separators, the narrow
no-break space, the medium mathematical space and the ideographic space. The zero width space
U+200B is not among them. Property paths refuse blanks, and trigger tokens are trimmed of them.
-/

namespace Timeline.Text

/-- The Unicode `White_Space` property. -/
def isBlank (c : Char) : Bool :=
  let n := c.toNat
  (0x09 ≤ n && n ≤ 0x0D) || n == 0x20 || n == 0x85 || n == 0xA0 || n == 0x1680 ||
    (0x2000 ≤ n && n ≤ 0x200A) || n == 0x2028 || n == 0x2029 || n == 0x202F ||
    n == 0x205F || n == 0x3000

/-- The characters of `s` without its leading and trailing blanks. -/
def trimBlanks (s : String) : String :=
  String.ofList (((s.toList.dropWhile isBlank).reverse.dropWhile isBlank).reverse)

end Timeline.Text

import Timeline.Json.Cursor

/-!
# Reading JSON strings and numbers

Strings: after the opening quote, characters up to the closing quote, with the escapes of
JSON. A control character below U+0020 inside a string is a fault, and so is a `\u` escape of
a lone surrogate; a high surrogate must be followed by the escape of a low one.

Numbers: an optional minus, then digits with no leading zero, an optional fraction and an
optional exponent. A number without fraction and exponent that fits in 64 bits is whole;
anything else is a binary64 float, computed as `digits · 10 ^ exponent` with one rounding for
the digits and one for the scaling by a power of ten. More than 19 significant digits are
dropped beyond the point where they would overflow 64 bits. A float too large for binary64 is
a fault, one too small is zero.
-/

namespace Timeline.Json

/-- Whether `c` is an ASCII digit. -/
def isDigitChar (c : Char) : Bool := '0' ≤ c && c ≤ '9'

/-- The value of an ASCII digit. -/
def digitValue (c : Char) : Nat := c.toNat - '0'.toNat

/-- The value of a hex digit, if `c` is one. -/
def hexValue (c : Char) : Option Nat :=
  if '0' ≤ c && c ≤ '9' then some (c.toNat - '0'.toNat)
  else if 'a' ≤ c && c ≤ 'f' then some (c.toNat - 'a'.toNat + 10)
  else if 'A' ≤ c && c ≤ 'F' then some (c.toNat - 'A'.toNat + 10)
  else none

/-- Reads the four hex digits of a `\u` escape. -/
def hexEscape : Reader Nat := do
  let bytes ← restBytes
  let c ← get
  if bytes < 4 then
    set { c with rest := [], offset := c.offset + bytes }
    fail .eofWhileParsingString
  else
    let four := c.rest.take 4
    match four.mapM hexValue with
    | some [a, b, d, e] =>
      set { c with rest := c.rest.drop 4, offset := c.offset + 4 }
      pure (((a * 16 + b) * 16 + d) * 16 + e)
    | _ => failAt .invalidEscape (c.offset + 4)

/-- The next character of an unfinished string, not consumed. -/
def peekStringChar : Reader Char := do
  match ← peek with
  | some ch => pure ch
  | none => fail .eofWhileParsingString

/-- Reads what follows `\u`: a character, or a surrogate pair written as two escapes. -/
def unicodeEscape : Reader Char := do
  let n ← hexEscape
  if 0xDC00 ≤ n ∧ n ≤ 0xDFFF then fail .loneLeadingSurrogateInHexEscape
  else if n < 0xD800 ∨ 0xDBFF < n then pure (Char.ofNat n)
  else
    if (← peekStringChar) = '\\' then eat else failAhead .unexpectedEndOfHexEscape
    if (← peekStringChar) = 'u' then eat else failAhead .unexpectedEndOfHexEscape
    let low ← hexEscape
    if low < 0xDC00 ∨ 0xDFFF < low then fail .loneLeadingSurrogateInHexEscape
    else pure (Char.ofNat ((n - 0xD800) * 0x400 + (low - 0xDC00) + 0x10000))

/-- The character that a one-letter escape stands for. -/
def simpleEscape? : Char → Option Char
  | '"' => some '"'
  | '\\' => some '\\'
  | '/' => some '/'
  | 'b' => some (Char.ofNat 8)
  | 'f' => some (Char.ofNat 12)
  | 'n' => some '\n'
  | 'r' => some '\r'
  | 't' => some '\t'
  | _ => none

/-- Reads the character of an escape, after its backslash. -/
def escape : Reader Char := do
  let ch ← peekStringChar
  if ch = 'u' then eat; unicodeEscape
  else
    match simpleEscape? ch with
    | some e => eat; pure e
    | none => failAhead .invalidEscape

/-- The rest of a string after its opening quote, with at most `fuel` characters. -/
def stringBody : Nat → List Char → Reader String
  | 0, acc => pure (String.ofList acc.reverse)
  | fuel + 1, acc => do
    match ← peek with
    | none => fail .eofWhileParsingString
    | some '"' => eat; pure (String.ofList acc.reverse)
    | some '\\' => eat; let ch ← escape; stringBody fuel (ch :: acc)
    | some ch =>
      eat
      if ch.toNat < 0x20 then fail .controlCharacterWhileParsingString
      else stringBody fuel (ch :: acc)

/-- Reads a string whose opening quote was consumed. -/
def readStringBody : Reader String := do
  let c ← get
  stringBody (c.rest.length + 1) []

/-- Skips the escape after a backslash, without checking surrogates. -/
def skipEscape : Reader Unit := do
  let ch ← peekStringChar
  if ch = 'u' then eat; discard hexEscape
  else if (simpleEscape? ch).isSome then eat
  else failAhead .invalidEscape

/-- Skips the rest of a string, with at most `fuel` characters. -/
def skipStringBody : Nat → Reader Unit
  | 0 => pure ()
  | fuel + 1 => do
    match ← peek with
    | none => fail .eofWhileParsingString
    | some '"' => eat
    | some '\\' => eat; skipEscape; skipStringBody fuel
    | some ch =>
      if ch.toNat < 0x20 then fail .controlCharacterWhileParsingString
      else eat; skipStringBody fuel

/-- Skips a string whose opening quote was consumed. -/
def skipString : Reader Unit := do
  let c ← get
  skipStringBody (c.rest.length + 1)

/-! ## Numbers -/

/-- The largest 64-bit unsigned number. -/
def maxU64 : Nat := Nat.pow 2 64 - 1

/-- Whether `a * 10 + d` exceeds `bound`. -/
def overflows (a d bound : Nat) : Bool := a * 10 + d > bound

/-- Powers of ten `1e0` to `1e308` as binary64 floats. -/
def powersOfTen : Array Float := (List.range 309).toArray.map fun k => Float.ofScientific 1 false k

/-- `10 ^ k` as a binary64 float, for `k ≤ 308`. -/
def powerOfTen (k : Nat) : Float := powersOfTen.getD k 0

/-- `significand · 10 ^ exponent` in binary64: the significand rounded once, then multiplied or
divided by a power of ten; exponents below `-308` divide by `1e308` first, and the result is
zero if the significand is. Too large a result is a fault. -/
def scaleDecimal (positive : Bool) (significand : Nat) (exponent : Int) : Reader Float :=
  let sign (f : Float) : Float := if positive then f else -f
  let rec go (fuel : Nat) (f : Float) (exponent : Int) : Reader Float :=
    if exponent.natAbs ≤ 308 then
      if 0 ≤ exponent then
        let g := f * powerOfTen exponent.natAbs
        if g.isInf then fail .numberOutOfRange else pure (sign g)
      else pure (sign (f / powerOfTen exponent.natAbs))
    else if f == 0 then pure (sign f)
    else if 0 ≤ exponent then fail .numberOutOfRange
    else match fuel with
      | 0 => pure (sign 0)
      | fuel + 1 => go fuel (f / powerOfTen 308) (exponent + 308)
  go (exponent.natAbs / 308 + 1) (Float.ofNat significand) exponent

/-- Clamps to the 32-bit signed range. -/
def clampI32 (n : Int) : Int := max (-2147483648) (min 2147483647 n)

/-- Consumes digits, at most `fuel`, and returns how many. -/
def skipDigits : Nat → Reader Nat
  | 0 => pure 0
  | fuel + 1 => do
    match ← peek with
    | some c => if isDigitChar c then do eat; return (← skipDigits fuel) + 1 else pure 0
    | none => pure 0

/-- The remaining characters, as a bound for loops over them. -/
def remaining : Reader Nat := fun c => .ok (c.rest.length + 1) c

/-- An exponent too large for 32 bits: a fault for a positive exponent of a nonzero number, a
zero otherwise. -/
def hugeExponent (positive zeroSignificand positiveExponent : Bool) : Reader Float := do
  if !zeroSignificand && positiveExponent then fail .numberOutOfRange
  else
    discard (skipDigits (← remaining))
    pure (if positive then 0 else -0)

/-- Reads the digits of an exponent after its first one, at most `fuel`, accumulating `exp`. -/
def exponentDigits (positive zero positiveExponent : Bool) :
    Nat → Nat → Reader (Sum Float Nat)
  | 0, exp => pure (.inr exp)
  | fuel + 1, exp => do
    match ← peek with
    | some c =>
      if isDigitChar c then
        eat
        if overflows exp (digitValue c) 2147483647 then
          return .inl (← hugeExponent positive zero positiveExponent)
        else exponentDigits positive zero positiveExponent fuel (exp * 10 + digitValue c)
      else pure (.inr exp)
    | none => pure (.inr exp)

/-- Reads an exponent, from its `e`, and scales the significand. -/
def readExponent (positive : Bool) (significand : Nat) (start : Int) : Reader Float := do
  eat
  let positiveExponent ← do
    match ← peek with
    | some '+' => eat; pure true
    | some '-' => eat; pure false
    | _ => pure true
  match ← peek with
  | none => fail .eofWhileParsingValue
  | some c =>
    if isDigitChar c then
      eat
      match ← exponentDigits positive (significand == 0) positiveExponent (← remaining)
          (digitValue c) with
      | .inl f => pure f
      | .inr exp =>
        let final := if positiveExponent then clampI32 (start + exp) else clampI32 (start - exp)
        scaleDecimal positive significand final
    else failAhead .invalidNumber

/-- After digits that no longer fit: skips the remaining digits, then an exponent if any. -/
def readOverflowedFraction (positive : Bool) (significand : Nat) (exponent : Int) :
    Reader Float := do
  discard (skipDigits (← remaining))
  match ← peek with
  | some 'e' | some 'E' => readExponent positive significand exponent
  | _ => scaleDecimal positive significand exponent

/-- Reads fraction digits, at most `fuel`, with the significand so far and the count of them. -/
def fractionDigits (positive : Bool) (before : Int) :
    Nat → Nat → Int → Reader (Sum Float (Nat × Int))
  | 0, s, after => pure (.inr (s, after))
  | fuel + 1, s, after => do
    match ← peek with
    | some c =>
      if isDigitChar c then
        if overflows s (digitValue c) maxU64 then
          return .inl (← readOverflowedFraction positive s (before + after))
        else
          eat
          fractionDigits positive before fuel (s * 10 + digitValue c) (after - 1)
      else pure (.inr (s, after))
    | none => pure (.inr (s, after))

/-- Reads a fraction, from its point. -/
def readFraction (positive : Bool) (significand : Nat) (before : Int) : Reader Float := do
  eat
  match ← fractionDigits positive before (← remaining) significand 0 with
  | .inl f => pure f
  | .inr (s, after) =>
    if after = 0 then
      match ← peek with
      | some _ => failAhead .invalidNumber
      | none => failAhead .eofWhileParsingValue
    else
      match ← peek with
      | some 'e' | some 'E' => readExponent positive s (before + after)
      | _ => scaleDecimal positive s (before + after)

/-- After an integer too long for 64 bits: counts the remaining digits into the exponent. -/
def readLongInteger (positive : Bool) (significand : Nat) : Reader Float := do
  let extra ← skipDigits (← remaining)
  match ← peek with
  | some '.' => readFraction positive significand extra
  | some 'e' | some 'E' => readExponent positive significand extra
  | _ => scaleDecimal positive significand extra

/-- What follows the integer digits: a fraction, an exponent, or nothing. -/
def readNumberTail (positive : Bool) (significand : Nat) : Reader Number := do
  match ← peek with
  | some '.' => return .float (← readFraction positive significand 0)
  | some 'e' | some 'E' => return .float (← readExponent positive significand 0)
  | _ =>
    if positive then pure (.int significand)
    else if significand = 0 ∨ Nat.pow 2 63 < significand then pure (.float (-(Float.ofNat significand)))
    else pure (.int (-(significand : Int)))

/-- Reads integer digits after the first, at most `fuel`. -/
def integerDigits (positive : Bool) : Nat → Nat → Reader Number
  | 0, s => readNumberTail positive s
  | fuel + 1, s => do
    match ← peek with
    | some c =>
      if isDigitChar c then
        if overflows s (digitValue c) maxU64 then
          return .float (← readLongInteger positive s)
        else
          eat
          integerDigits positive fuel (s * 10 + digitValue c)
      else readNumberTail positive s
    | none => readNumberTail positive s

/-- Reads a number after its optional minus sign. -/
def readNumber (positive : Bool) : Reader Number := do
  match ← peek with
  | none => fail .eofWhileParsingValue
  | some '0' =>
    eat
    match ← peek with
    | some c => if isDigitChar c then failAhead .invalidNumber else readNumberTail positive 0
    | none => readNumberTail positive 0
  | some c =>
    if isDigitChar c then do eat; integerDigits positive (← remaining) (digitValue c)
    else failAhead .invalidNumber

/-- Skips an exponent, from its `e`. -/
def skipExponent : Reader Unit := do
  eat
  match ← peek with
  | some '+' | some '-' => eat
  | _ => pure ()
  match ← peek with
  | some c =>
    if isDigitChar c then do eat; discard (skipDigits (← remaining)) else failAhead .invalidNumber
  | none => fail .invalidNumber

/-- Skips a number after its optional minus sign, checking only its grammar. -/
def skipNumber : Reader Unit := do
  match ← peek with
  | some '0' =>
    eat
    match ← peek with
    | some c => if isDigitChar c then failAhead .invalidNumber else pure ()
    | none => pure ()
  | some c =>
    if isDigitChar c then do eat; discard (skipDigits (← remaining)) else failAhead .invalidNumber
  | none => fail .invalidNumber
  match ← peek with
  | some '.' =>
    eat
    if (← skipDigits (← remaining)) = 0 then failAhead .invalidNumber
    else
      match ← peek with
      | some 'e' | some 'E' => skipExponent
      | _ => pure ()
  | some 'e' | some 'E' => skipExponent
  | _ => pure ()

end Timeline.Json

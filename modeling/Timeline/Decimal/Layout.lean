import Timeline.Decimal.Shortest

/-!
# Laying out decimals as text

A `Layout` says which decimals are written positionally (`1250.0`, `0.00125`) and how the
others are written in scientific notation (`1.25e+15`, `1.25e-7`). Positional text always has a
fraction, `.0` when the number is whole; scientific text has one digit before the point and no
point at all when there is only one digit.

A layout also says which of two shortest decimals equally near the float is written.

Two layouts are used: `Layout.json` for numbers in JSON documents, whose positional range
depends on the width of the float, and `Layout.debug` for the debugging text of binary64
numbers.
-/

namespace Timeline.Decimal

/-- Where positional notation ends, the marks of scientific notation, and how ties go. -/
structure Layout where
  /-- The lowest power of ten of a leading digit written positionally. -/
  positionalFrom : Int
  /-- The highest power of ten of a leading digit written positionally. -/
  positionalTo : Int
  /-- The text between the digits and a non-negative exponent. -/
  raiseMark : String
  /-- The text between the digits and a negative exponent. -/
  lowerMark : String
  /-- Which of two equally near shortest decimals is written. -/
  tie : Tie

/-- JSON numbers from floats whose leading digit has a power of ten from `lo` to `hi` are
positional; the exponent of the others always carries its sign; a tie goes to the even
decimal. -/
def Layout.json (lo hi : Int) : Layout := ⟨lo, hi, "e+", "e-", .toEven⟩

/-- Debugging text is positional from `0.0001` to below `1e16`; a positive exponent has no
sign; a tie goes to the larger decimal. -/
def Layout.debug : Layout := ⟨-4, 15, "e", "e-", .up⟩

/-- `n` zero digits. -/
def zeros (n : Nat) : String := String.ofList (List.replicate n '0')

/-- The decimal digits of `n`. -/
def digitText (n : Nat) : String := String.ofList (Nat.toDigits 10 n)

/-- Positional text of `significand · 10 ^ exponent`, whose leading digit has power `lead`. -/
def positional (s : String) (exponent lead : Int) : String :=
  if 0 ≤ exponent then s ++ zeros exponent.toNat ++ ".0"
  else if 0 ≤ lead then
    let whole := (lead + 1).toNat
    String.ofList (s.toList.take whole) ++ "." ++ String.ofList (s.toList.drop whole)
  else "0." ++ zeros (-lead - 1).toNat ++ s

/-- Scientific text: the first digit, the others after a point, then the exponent. -/
def scientific (l : Layout) (s : String) (lead : Int) : String :=
  let mantissa := match s.toList with
    | [] => "0"
    | [c] => String.singleton c
    | c :: rest => String.singleton c ++ "." ++ String.ofList rest
  if 0 ≤ lead then mantissa ++ l.raiseMark ++ digitText lead.toNat
  else mantissa ++ l.lowerMark ++ digitText (-lead).toNat

/-- Text of a finite decimal with a sign; zero is `0.0` or `-0.0`. -/
def Layout.render (l : Layout) (negative : Bool) (d : Digits) : String :=
  let sign := if negative then "-" else ""
  if d.significand = 0 then sign ++ "0.0"
  else
    let s := digitText d.significand
    let lead := d.exponent + s.length - 1
    if l.positionalFrom ≤ lead ∧ lead ≤ l.positionalTo then sign ++ positional s d.exponent lead
    else sign ++ scientific l s lead

/-- Text of the float with bits `bits` in format `f`, or `none` for a NaN or an infinity. -/
def Layout.renderBits (l : Layout) (f : BinaryFormat) (bits : Nat) : Option String :=
  match f.unpack bits with
  | .finite negative m e => some (l.render negative (shortest f m e l.tie))
  | _ => none

end Timeline.Decimal

/-!
# Shortest decimal digits of a binary float

A finite binary float denotes `m · 2 ^ e`. The reals that round back to it form an interval
around it whose ends are the midpoints to its two neighbours; the ends belong to the interval
when `m` is even, since a tie rounds to the even neighbour. The lower neighbour is twice as
close as the upper one when `m` is the smallest significand of a binade above the lowest.

`shortest` finds the fewest significant decimal digits that land in that interval: for one,
two, three … digits it tests the value's two neighbours on the decimal grid of that many
digits, in exact `Nat` arithmetic. The first grid with a hit fixes the number of digits; of two
hits the nearer one wins, and of two equally near ones the one that `Tie` names.
-/

namespace Timeline.Decimal

/-- A binary interchange format, given by the widths of its fraction and exponent fields. -/
structure BinaryFormat where
  /-- Width of the stored fraction. -/
  fractionBits : Nat
  /-- Width of the biased exponent. -/
  exponentBits : Nat

/-- IEEE 754 binary32. -/
def BinaryFormat.binary32 : BinaryFormat := ⟨23, 8⟩

/-- IEEE 754 binary64. -/
def BinaryFormat.binary64 : BinaryFormat := ⟨52, 11⟩

/-- The exponent bias: `2 ^ (exponentBits - 1) - 1`. -/
def BinaryFormat.bias (f : BinaryFormat) : Nat := Nat.pow 2 (f.exponentBits - 1) - 1

/-- The binary exponent of the subnormal numbers and of the lowest binade. -/
def BinaryFormat.minExponent (f : BinaryFormat) : Int :=
  1 - (f.bias : Int) - f.fractionBits

/-- What the bits of a float denote. -/
inductive Unpacked where
  /-- Not a number. -/
  | nan
  /-- An infinity of the given sign. -/
  | infinite (negative : Bool)
  /-- The number `(-1) ^ negative · significand · 2 ^ exponent`. -/
  | finite (negative : Bool) (significand : Nat) (exponent : Int)

/-- Reads the sign, exponent and fraction fields of a float's bits. -/
def BinaryFormat.unpack (f : BinaryFormat) (bits : Nat) : Unpacked :=
  let fraction := bits % Nat.pow 2 f.fractionBits
  let biased := bits / Nat.pow 2 f.fractionBits % Nat.pow 2 f.exponentBits
  let negative := bits / Nat.pow 2 (f.fractionBits + f.exponentBits) % 2 == 1
  if biased = Nat.pow 2 f.exponentBits - 1 then
    if fraction = 0 then .infinite negative else .nan
  else if biased = 0 then
    .finite negative fraction f.minExponent
  else
    .finite negative (fraction + Nat.pow 2 f.fractionBits)
      ((biased : Int) - f.bias - f.fractionBits)

/-- A decimal number `significand · 10 ^ exponent`. -/
structure Digits where
  /-- The digits, read as a natural number. -/
  significand : Nat
  /-- The power of ten of the last digit. -/
  exponent : Int
  deriving DecidableEq, Repr

/-- The number of decimal digits of `n`, at least one. -/
def digitCount (n : Nat) : Nat := (Nat.toDigits 10 n).length

/-- Drops trailing zero digits, raising the exponent to match; the value is unchanged. -/
def Digits.trim (d : Digits) : Digits :=
  if h : d.significand ≠ 0 ∧ d.significand % 10 = 0 then
    have : d.significand / 10 < d.significand := Nat.div_lt_self (Nat.pos_of_ne_zero h.1) (by decide)
    Digits.trim ⟨d.significand / 10, d.exponent + 1⟩
  else d
termination_by d.significand

/-- Which of two grid points equally near the value is taken. -/
inductive Tie where
  /-- The one whose last digit is even. -/
  | toEven
  /-- The larger one. -/
  | up
  deriving DecidableEq, Repr

/-- A positive rational `num / den` with the interval `(lo / den, hi / den)` around it. -/
structure RoundingInterval where
  /-- Numerator of the value. -/
  num : Nat
  /-- Numerator of the lower end. -/
  lo : Nat
  /-- Numerator of the upper end. -/
  hi : Nat
  /-- The common denominator. -/
  den : Nat
  /-- Whether the ends belong to the interval. -/
  closed : Bool

/-- The rounding interval of the float `m · 2 ^ e` of format `f`, counted in quarters of its last
place. -/
def roundingInterval (f : BinaryFormat) (m : Nat) (e : Int) : RoundingInterval :=
  let lowGap := if m = Nat.pow 2 f.fractionBits ∧ e > f.minExponent then 1 else 2
  if 2 ≤ e then
    let unit := Nat.pow 2 (e - 2).toNat
    ⟨4 * m * unit, (4 * m - lowGap) * unit, (4 * m + 2) * unit, 1, m % 2 == 0⟩
  else
    ⟨4 * m, 4 * m - lowGap, 4 * m + 2, Nat.pow 2 (2 - e).toNat, m % 2 == 0⟩

/-- The power of ten of the leading digit of `num / den`, for positive `num` and `den`. -/
def leadingExponent (num den : Nat) : Int :=
  let t : Int := (digitCount num : Int) - digitCount den
  let atLeast : Bool :=
    if 0 ≤ t then decide (den * Nat.pow 10 t.toNat ≤ num)
    else decide (den ≤ num * Nat.pow 10 (-t).toNat)
  if atLeast then t else t - 1

/-- The grid point `k · 10 ^ q` nearest to the value among those inside the interval, if any
lies between the value's two grid neighbours; `tie` picks between two equally near ones. -/
def gridHit (tie : Tie) (b : RoundingInterval) (q : Int) : Option Digits :=
  let mult := if 0 ≤ q then 1 else Nat.pow 10 (-q).toNat
  let scale := if 0 ≤ q then b.den * Nat.pow 10 q.toNat else b.den
  let x := b.num * mult
  let k := x / scale
  let inside (c : Nat) : Bool :=
    if b.closed then b.lo * mult ≤ c * scale && c * scale ≤ b.hi * mult
    else b.lo * mult < c * scale && c * scale < b.hi * mult
  let below := x - k * scale
  let above := (k + 1) * scale - x
  match inside k, inside (k + 1) with
  | true, true =>
    if below < above then some ⟨k, q⟩
    else if above < below then some ⟨k + 1, q⟩
    else
      match tie with
      | .toEven => if k % 2 = 0 then some ⟨k, q⟩ else some ⟨k + 1, q⟩
      | .up => some ⟨k + 1, q⟩
  | true, false => some ⟨k, q⟩
  | false, true => some ⟨k + 1, q⟩
  | false, false => none

/-- The first grid, of `1, 2, … , count` significant digits below `lead`, with a hit. -/
def firstHit (tie : Tie) (b : RoundingInterval) (lead : Int) : List Nat → Option Digits
  | [] => none
  | n :: ns => (gridHit tie b (lead - n)).orElse fun _ => firstHit tie b lead ns

/-- The shortest decimal inside the rounding interval of `m · 2 ^ e`, nearest to it among the
shortest, `tie` picking between two equally near ones, trimmed of trailing zeros. Seventeen
digits always suffice for binary64 and nine for binary32; the fallback is never reached. -/
def shortest (f : BinaryFormat) (m : Nat) (e : Int) (tie : Tie) : Digits :=
  if m = 0 then ⟨0, 0⟩
  else
    let b := roundingInterval f m e
    let lead := leadingExponent b.num b.den
    match firstHit tie b lead (List.range 17) with
    | some d => d.trim
    | none => ⟨m, 0⟩

end Timeline.Decimal

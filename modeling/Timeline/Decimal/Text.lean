import Timeline.Decimal.Layout

/-!
# Text of floats

The JSON text of binary32 and binary64 numbers and the debugging text of binary64 numbers,
each the shortest decimal that reads back to the same float, laid out by a `Layout`.
JSON numbers from binary32 floats are positional for leading powers `-6` to `12`, those from
binary64 floats for `-5` to `15`.
-/

namespace Timeline.Decimal

/-- Layout of JSON numbers from binary32 floats. -/
def Layout.json32 : Layout := Layout.json (-6) 12

/-- Layout of JSON numbers from binary64 floats. -/
def Layout.json64 : Layout := Layout.json (-5) 15

/-- JSON text of a binary32 float, `none` when it is not finite. -/
def float32Text (x : Float32) : Option String :=
  Layout.json32.renderBits .binary32 x.toBits.toNat

/-- JSON text of a binary64 float, `none` when it is not finite. -/
def floatText (x : Float) : Option String :=
  Layout.json64.renderBits .binary64 x.toBits.toNat

/-- Names of the values that are not finite: `NaN`, `inf` and `-inf`. -/
def nonFiniteName (isNaN negative : Bool) : String :=
  if isNaN then "NaN" else if negative then "-inf" else "inf"

/-- Debugging text of a binary64 float; not finite values have their names. -/
def floatDebugText (x : Float) : String :=
  (Layout.debug.renderBits .binary64 x.toBits.toNat).getD
    (nonFiniteName x.isNaN (x < 0))

end Timeline.Decimal

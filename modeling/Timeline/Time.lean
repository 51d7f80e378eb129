/-!
# Frames and seconds

Keys and markers sit on whole frames at thirty frames a second; animation time runs in
binary64 seconds. A time belongs to the frame `n` whose interval `[n, n + 1)` contains it, after
adding a millionth of a frame so that the seconds of a frame map back to it. Times beyond the
32-bit range of frames saturate, and NaN is frame zero.
-/

namespace Timeline

/-- A frame number. -/
abbrev Frame := Int32

/-- The seconds of one frame, `1 / 30` in binary64. -/
def secondsPerFrame : Float := 1.0 / 30.0

/-- A binary64 float as a 32-bit whole number, toward zero: NaN is zero and out of range values
saturate. -/
def Float.toInt32Sat (x : Float) : Int32 :=
  if x.isNaN then 0
  else if x ≥ 2147483648 then Int32.ofInt 2147483647
  else if x < -2147483648 then Int32.ofInt (-2147483648)
  else x.toInt32

/-- The frame whose interval contains `seconds`: `⌊seconds · 30 + 10⁻⁶⌋`, saturated. -/
def toFrame (seconds : Float) : Frame :=
  Float.toInt32Sat (seconds * 30.0 + 1e-6).floor

/-- The start of a frame in seconds: `frame · (1 / 30)`. -/
def toSeconds (frame : Frame) : Float := Float.ofInt frame.toInt * secondsPerFrame

end Timeline

import Timeline.Value.Basic

/-!
# Blending values

How an animator moves between keys, in binary32 arithmetic evaluated left to right.

* `lerp a b t = a + (b - a) · t`.
* `catmullRom t p₀ p₁ p₂ p₃` is the uniform Catmull-Rom segment from `p₁` (at `t = 0`) to `p₂`
  (at `t = 1`), shaped by the outer points.
* `slerp` moves along the shorter arc between two quaternions, negating the second when their
  dot product is negative, and falls back to a normalized `lerp` when they are nearly parallel.

`Value.lerp` blends floats, vectors, colors, matrices and thicknesses component by component,
whole numbers through floats rounded half away from zero, and quaternions by `slerp`; booleans
and texts hold the left value. `Value.spline` uses `catmullRom` for floats, whole numbers,
vectors and thicknesses; the other kinds fall back to `Value.lerp` of the two middle values.
-/

namespace Timeline

/-- `a + (b - a) · t`. -/
def lerp (a b t : Float32) : Float32 := a + (b - a) * t

/-- The uniform Catmull-Rom segment through `p1` (at `t = 0`) and `p2` (at `t = 1`). -/
def catmullRom (t p0 p1 p2 p3 : Float32) : Float32 :=
  let t2 := t * t
  let t3 := t2 * t
  p1 + 0.5 * ((p2 - p0) * t + (2.0 * p0 - 5.0 * p1 + 4.0 * p2 - p3) * t2 +
    (3.0 * p1 - p0 - 3.0 * p2 + p3) * t3)

/-- `lerp` component by component. -/
def lerpVector {n : Nat} (a b : Vector Float32 n) (t : Float32) : Vector Float32 n :=
  Vector.zipWith (fun x y => lerp x y t) a b

/-- `catmullRom` component by component. -/
def catmullRomVector {n : Nat} (t : Float32) (p0 p1 p2 p3 : Vector Float32 n) :
    Vector Float32 n :=
  Vector.ofFn fun i => catmullRom t (p0.get i) (p1.get i) (p2.get i) (p3.get i)

/-- The dot product of two quaternions, summed left to right. -/
def dot4 (a b : Vector Float32 4) : Float32 :=
  a[0] * b[0] + a[1] * b[1] + a[2] * b[2] + a[3] * b[3]

/-- Scales a nonzero quaternion to unit length; zero stays zero. -/
def normalize4 (q : Vector Float32 4) : Vector Float32 4 :=
  let len2 := dot4 q q
  if len2 > 0 then
    let inv := 1 / len2.sqrt
    q.map (· * inv)
  else q

/-- `x` limited to `lo` to `hi`; a NaN stays NaN. -/
def clampFloat32 (x lo hi : Float32) : Float32 :=
  if x < lo then lo else if x > hi then hi else x

/-- Spherical interpolation along the shorter arc, normalized `lerp` when nearly parallel. -/
def slerp (a b : Vector Float32 4) (t : Float32) : Vector Float32 4 :=
  let d := dot4 a b
  let (b, d) := if d < 0 then (b.map (- ·), -d) else (b, d)
  if d > 0.9995 then normalize4 (lerpVector a b t)
  else
    let theta := (clampFloat32 d (-1) 1).acos
    let sinTheta := theta.sin
    let wa := ((1 - t) * theta).sin / sinTheta
    let wb := (t * theta).sin / sinTheta
    Vector.zipWith (fun x y => x * wa + y * wb) a b

/-- A float rounded to a 32-bit whole number: NaN is zero and out of range values saturate. -/
def Float32.toInt32Sat (x : Float32) : Int32 :=
  if x.isNaN then 0
  else if x ≥ 2147483648 then Int32.ofInt 2147483647
  else if x < -2147483648 then Int32.ofInt (-2147483648)
  else x.toInt32

/-- A 32-bit whole number as a float. -/
def Int32.toFloat32 (n : Int32) : Float32 := Float32.ofInt n.toInt

/-- A float rounded half away from zero to a saturated 32-bit whole number. -/
def roundToInt32 (x : Float32) : Int32 := Float32.toInt32Sat x.round

namespace Value

/-- Linear blend of two values at `t`. -/
def lerp (a b : Value) (t : Float32) : Value :=
  match a, b with
  | .float x, .float y => .float (Timeline.lerp x y t)
  | .int x, .int y => .int (roundToInt32 (Timeline.lerp (Int32.toFloat32 x) (Int32.toFloat32 y) t))
  | .vec2 x, .vec2 y => .vec2 (lerpVector x y t)
  | .vec3 x, .vec3 y => .vec3 (lerpVector x y t)
  | .quat x, .quat y => .quat (slerp x y t)
  | .colorRgba x, .colorRgba y => .colorRgba (lerpVector x y t)
  | .matrix44 x, .matrix44 y => .matrix44 (lerpVector x y t)
  | .thickness x, .thickness y => .thickness (lerpVector x y t)
  | _, _ => a

/-- Catmull-Rom blend from `b` to `c` at `t`, shaped by `a` and `d`. -/
def spline (a b c d : Value) (t : Float32) : Value :=
  match a, b, c, d with
  | .float p0, .float p1, .float p2, .float p3 => .float (catmullRom t p0 p1 p2 p3)
  | .int p0, .int p1, .int p2, .int p3 =>
    .int (roundToInt32 (catmullRom t (Int32.toFloat32 p0) (Int32.toFloat32 p1)
      (Int32.toFloat32 p2) (Int32.toFloat32 p3)))
  | .vec2 p0, .vec2 p1, .vec2 p2, .vec2 p3 => .vec2 (catmullRomVector t p0 p1 p2 p3)
  | .vec3 p0, .vec3 p1, .vec3 p2, .vec3 p3 => .vec3 (catmullRomVector t p0 p1 p2 p3)
  | .thickness p0, .thickness p1, .thickness p2, .thickness p3 =>
    .thickness (catmullRomVector t p0 p1 p2 p3)
  | _, _, _, _ => lerp b c t

end Value

end Timeline

import Timeline.Value.Basic

/-!
# Named values

Constructors of common values: rotations about an axis, shifts, uniform thicknesses and
the white and black colors.
-/

namespace Timeline.Value

/-- A two-component vector. -/
def ofVec2 (x y : Float32) : Value := .vec2 #v[x, y]

/-- A three-component vector. -/
def ofVec3 (x y z : Float32) : Value := .vec3 #v[x, y, z]

/-- The rotation by `angle` radians about the unit vector `(ax, ay, az)`: the quaternion
`(ax · s, ay · s, az · s, c)` with `s` and `c` the sine and cosine of half the angle. -/
def rotation (ax ay az angle : Float32) : Value :=
  let half := angle * 0.5
  let s := half.sin
  let c := half.cos
  .quat #v[ax * s, ay * s, az * s, c]

/-- The identity rotation. -/
def noRotation : Value := .quat identityQuat

/-- The row-major matrix that shifts points by `(x, y, z)`: the identity with the shift in
entries 12 to 14. -/
def shift (x y z : Float32) : Value :=
  .matrix44 ((identityMatrix.set 12 x).set 13 y |>.set 14 z)

/-- The identity matrix. -/
def noTransform : Value := .matrix44 identityMatrix

/-- A thickness with the same width on every edge. -/
def uniformThickness (v : Float32) : Value := .thickness #v[v, v, v, v]

/-- A thickness from its left, right, top and bottom widths. -/
def thicknessOf (left right top bottom : Float32) : Value :=
  .thickness #v[left, right, top, bottom]

/-- Opaque white. -/
def white : Value := .colorRgba #v[1, 1, 1, 1]

/-- Opaque black. -/
def black : Value := .colorRgba #[0, 0, 0, 1].toVector

/-- Transparent black, the default color. -/
def clear : Value := .colorRgba #v[0, 0, 0, 0]

end Timeline.Value

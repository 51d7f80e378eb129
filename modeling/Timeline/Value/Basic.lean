/-!
# Values

The values that animators produce and properties hold. Numbers are binary32 floats, except
`int`, a 32-bit signed integer. Vectors, quaternions `(x, y, z, w)`, colors `(r, g, b, a)`,
row-major 4×4 matrices and thicknesses `(left, right, top, bottom)` are fixed-length vectors of
floats.

Each value has a `Kind`. Two values stand for "nothing set": `Value.zero`, all zeros with the
identity quaternion, is what a property holds when declared without a value; `Value.rest`, with
the identity quaternion and the identity matrix, is what an animator without keys yields.
-/

namespace Timeline

/-- The kinds of values. -/
inductive Kind where
  | float
  | int
  | bool
  | vec2
  | vec3
  | quat
  | colorRgba
  | matrix44
  | thickness
  | text
  deriving DecidableEq, Repr

namespace Kind

/-- Every kind, in declaration order. -/
def all : List Kind := [.float, .int, .bool, .vec2, .vec3, .quat, .colorRgba, .matrix44,
  .thickness, .text]

/-- The name of a kind in documents. -/
def name : Kind → String
  | .float => "float"
  | .int => "int"
  | .bool => "bool"
  | .vec2 => "vec2"
  | .vec3 => "vec3"
  | .quat => "quat"
  | .colorRgba => "colorRgba"
  | .matrix44 => "matrix44"
  | .thickness => "thickness"
  | .text => "text"

/-- The name of a kind in messages. -/
def title : Kind → String
  | .float => "Float"
  | .int => "Int"
  | .bool => "Bool"
  | .vec2 => "Vec2"
  | .vec3 => "Vec3"
  | .quat => "Quat"
  | .colorRgba => "ColorRgba"
  | .matrix44 => "Matrix44"
  | .thickness => "Thickness"
  | .text => "Text"

/-- The kind with a given document name. -/
def ofName? (s : String) : Option Kind := all.find? (·.name == s)

end Kind

/-- A value a property can hold. -/
inductive Value where
  | float (x : Float32)
  | int (n : Int32)
  | bool (b : Bool)
  | vec2 (v : Vector Float32 2)
  | vec3 (v : Vector Float32 3)
  | quat (q : Vector Float32 4)
  | colorRgba (c : Vector Float32 4)
  | matrix44 (m : Vector Float32 16)
  | thickness (t : Vector Float32 4)
  | text (s : String)
  deriving DecidableEq

namespace Value

/-- The kind of a value. -/
def kind : Value → Kind
  | .float _ => .float
  | .int _ => .int
  | .bool _ => .bool
  | .vec2 _ => .vec2
  | .vec3 _ => .vec3
  | .quat _ => .quat
  | .colorRgba _ => .colorRgba
  | .matrix44 _ => .matrix44
  | .thickness _ => .thickness
  | .text _ => .text

/-- The identity quaternion `(0, 0, 0, 1)`. -/
def identityQuat : Vector Float32 4 := #v[0, 0, 0, 1]

/-- The row-major identity matrix. -/
def identityMatrix : Vector Float32 16 :=
  #v[1, 0, 0, 0, 0, 1, 0, 0, 0, 0, 1, 0, 0, 0, 0, 1]

/-- The value of a property declared without one: zeros, `false`, the empty text, and the
identity quaternion. -/
def zero : Kind → Value
  | .float => .float 0
  | .int => .int 0
  | .bool => .bool false
  | .vec2 => .vec2 (Vector.replicate 2 0)
  | .vec3 => .vec3 (Vector.replicate 3 0)
  | .quat => .quat identityQuat
  | .colorRgba => .colorRgba (Vector.replicate 4 0)
  | .matrix44 => .matrix44 (Vector.replicate 16 0)
  | .thickness => .thickness (Vector.replicate 4 0)
  | .text => .text ""

/-- The value of an animator without keys: like `zero`, but the matrix is the identity. -/
def rest : Kind → Value
  | .matrix44 => .matrix44 identityMatrix
  | k => zero k

/-- The float of a `float` value. -/
def asFloat? : Value → Option Float32
  | .float x => some x
  | _ => none

/-- The text of a `text` value. -/
def asText? : Value → Option String
  | .text s => some s
  | _ => none

theorem kind_zero (k : Kind) : (zero k).kind = k := by cases k <;> rfl

theorem kind_rest (k : Kind) : (rest k).kind = k := by cases k <;> rfl

end Value

end Timeline

import Timeline.Console.View
import Timeline.Samples
import Timeline.Value.Shapes
import Timeline.Playback.Config

/-!
# Queries

The answers to one-off questions of a scripted session: reading paths, trigger texts and
documents, converting times, blending values and building markers and values. Each answer is a
document, or a failure with its kind and message.
-/

namespace Timeline.Console

open Timeline.Json

/-- The largest index a view shows; larger indices are shown as this. -/
def indexCap : Nat := Nat.pow 2 63 - 1

/-- An index as a document, capped at `indexCap`. -/
def indexDoc (i : Nat) : Doc := .int (min i indexCap)

/-- A parsed path: its segments, text, last index and lookup key, whether its text reads back
to it, its JSON text and, when `single` is given, whether it is that single name. -/
def pathQuery (path : String) (single : Option String) : Except Failure Doc :=
  match Path.parse path with
  | .error e => .error (pathFailure e)
  | .ok p =>
    let display := p.render
    .ok (.obj ([("segments", .arr (p.segments.map fun s =>
        .obj [("name", .str s.name), ("index", Doc.opt indexDoc s.index)])),
      ("display", .str display),
      ("last_index", Doc.opt indexDoc p.lastIndex),
      ("lookup_key", .str p.lookupKey),
      ("from_str_equal", .bool true),
      ("display_round_trip", .bool (match Path.parse display with
        | .ok q => q == p
        | .error _ => false)),
      ("serde", .str (Text.jsonQuote display))] ++
      match single with
      | some name => [("is_single", .bool (p.isSingle name))]
      | none => []))

/-- Reads a path written as a JSON string. -/
def Path.reader : Reader Path := do
  let s ← readString
  match Path.parse s with
  | .ok p => pure p
  | .error e => failBare e.message

/-- A path read from JSON text, by its text. -/
def pathTextQuery (json : String) : Except Failure Doc :=
  match decodeText Path.reader json with
  | .ok p => .ok (.obj [("display", .str p.render)])
  | .error m => .error (readFailure m)

/-- The tokens of a trigger text. -/
def triggerQuery (value : String) : Doc :=
  let t := parseTrigger value
  .obj [("tokens", .arr (t.tokens.map fun k =>
      .obj [("marker", .str k.marker), ("animation", .optStr k.animation)])),
    ("malformed", .arr (t.malformed.map .str))]

/-- How `values` blend at `t` for kind `k`: linearly between the first two, or along the
spline through all four. -/
def blendQuery (splined : Bool) (values : List Value) (t : Float32) : Except Failure Doc :=
  match splined, values with
  | false, [a, b] => .ok (Value.lerp a b t).toDoc
  | true, [a, b, c, d] => .ok (Value.spline a b c d t).toDoc
  | _, _ => .error ⟨"bad_input", "wrong number of values"⟩

/-- A value read from JSON text: the value, its kind, its JSON text and its float and text
readings. -/
def valueTextQuery (json : String) : Except Failure Doc :=
  match decodeText Value.reader json with
  | .ok v =>
    .ok (.obj [("value", v.toDoc), ("kind", v.kind.toDoc), ("json", .str (storedText v.toDoc)),
      ("as_float", Doc.opt .float32 v.asFloat?), ("as_text", .optStr v.asText?)])
  | .error m => .error (readFailure m)

/-- Settings read from JSON text. -/
def configTextQuery (json : String) : Except Failure Doc :=
  match decodeText Config.reader json with
  | .ok c =>
    .ok (.obj [("maxJumpsPerAdvance", .int c.maxJumpsPerAdvance.toNat),
      ("applyOnRun", .bool c.applyOnRun), ("json", .str (storedText c.toDoc)),
      ("is_default", .bool (c == {}))])
  | .error m => .error (readFailure m)

/-- A marker read from JSON text. -/
def markerTextQuery (json : String) : Except Failure Doc :=
  match decodeText Marker.reader json with
  | .ok m => .ok (.obj [("marker", markerView m), ("json", .str (storedText m.toDoc))])
  | .error m => .error (readFailure m)

/-- A key list of kind `k` read from JSON text. -/
def keysTextQuery (k : Kind) (json : String) : Except Failure Doc :=
  match decodeText (KeyList.reader k) json with
  | .ok l =>
    .ok (.obj [("keys", .arr (l.keys.map keyView)), ("version", .int l.version),
      ("last_frame", .int l.lastFrame.toInt),
      ("json", .str (storedText (.arr (l.keys.map (Key.toDoc Value.toPlainDoc)))))])
  | .error m => .error (readFailure m)

/-- Reads a stored node document; faults become stored-node errors. -/
def readStored (doc : String) : Except PlaybackError StoredNode :=
  match decodeText StoredNode.reader doc with
  | .ok n => .ok n
  | .error m => .error (.stored ("parse error: " ++ m))

/-- A stored node read from JSON text, built into a node and stored again. -/
def storedQuery (doc : String) : Except Failure Doc :=
  match readStored doc with
  | .error e => .error (playbackFailure e)
  | .ok s =>
    match s.build (({} : Bag)) 0 with
    | .error e => .error (playbackFailure e)
    | .ok (n, _) =>
      let back := n.toStored
      .ok (.obj [("parsed", storedView s),
        ("resolved_kinds", .arr (s.animators.map fun a => Doc.opt Kind.toDoc a.resolvedKind)),
        ("stored", storedView back), ("json", .str (storedText back.toDoc)),
        ("same_animations", .bool (back.animations == s.animations))])

/-- The sample names, and with a name the sample's document, stored node and file. -/
def sampleQuery (name : Option String) : Except Failure Doc :=
  let names : Doc := .arr (Sample.names.map .str)
  match name with
  | none => .ok (.obj [("keys", names)])
  | some name =>
    match Sample.find? name with
    | none => .error ⟨"fixture", Sample.unknown name⟩
    | some s =>
      match decodeText StoredNode.reader s.text with
      | .error m => .error ⟨"fixture", m⟩
      | .ok stored =>
        .ok (.obj [("keys", names), ("json", .str s.text), ("stored", storedView stored),
          ("file", .str s.file), ("exists", .bool true)])

/-- A value built from a shape. -/
inductive Shape where
  | rotation (axis : Vector Float32 3) (angle : Float32)
  | noRotation
  | shift (x y z : Float32)
  | noTransform
  | uniformThickness (v : Float32)
  | thickness (v : Vector Float32 4)
  | white
  | black
  | clear
  | origin2
  | vec3 (v : Vector Float32 3)

/-- The value of a shape. -/
def Shape.value : Shape → Value
  | .rotation a angle => Value.rotation a[0]! a[1]! a[2]! angle
  | .noRotation => Value.noRotation
  | .shift x y z => Value.shift x y z
  | .noTransform => Value.noTransform
  | .uniformThickness v => Value.uniformThickness v
  | .thickness v => Value.thicknessOf v[0]! v[1]! v[2]! v[3]!
  | .white => Value.white
  | .black => Value.black
  | .clear => Value.clear
  | .origin2 => Value.ofVec2 0 0
  | .vec3 v => Value.ofVec3 v[0]! v[1]! v[2]!

end Timeline.Console

import Timeline.Stored.Load

/-!
# Views

The documents a scripted session answers with: each library value as an object whose members
are all present, absent values being `null`. These differ from the stored forms, which leave
absent members out.
-/

namespace Timeline.Console

open Timeline.Json

/-- A failed request or step: the kind of failure and its message. -/
structure Failure where
  /-- The kind. -/
  kind : String
  /-- The message. -/
  message : String

/-- A failure as a document. -/
def Failure.toDoc (f : Failure) : Doc := .obj [("error", .str f.kind), ("message", .str f.message)]

/-- The kind name of a path error. -/
def pathErrorKind : PathError → String
  | .empty => "PathError::Empty"
  | .emptySegment _ => "PathError::EmptySegment"
  | .blank _ => "PathError::Whitespace"
  | .badIndex _ _ => "PathError::BadIndex"

/-- A path error as a failure. -/
def pathFailure (e : PathError) : Failure := ⟨pathErrorKind e, e.message⟩

/-- A playback error as a failure. -/
def playbackFailure (e : PlaybackError) : Failure := ⟨"AnimationError::" ++ e.name, e.message⟩

/-- A fault of reading a document as a failure. -/
def readFailure (message : String) : Failure := ⟨"serde", message⟩

/-- The answer of a step that may fail: its result, or the failure. -/
def answer (r : Except Failure Doc) : Doc :=
  match r with
  | .ok d => d
  | .error f => f.toDoc

/-- A marker with every member. -/
def markerView (m : Marker) : Doc :=
  .obj [("id", .str m.id), ("frame", .int m.frame.toInt), ("action", m.action.toDoc),
    ("jumpTo", .optStr m.jumpTo)]

/-- A key of values. -/
def keyView (k : Key Value) : Doc := Key.toDoc Value.toDoc k

/-- A bind failure. -/
def failureView (f : BindFailure) : Doc := .obj [("kind", .str f.name), ("message", .str f.message)]

/-- A binding. -/
def bindingView (b : Binding) : Doc :=
  .obj [("handle", .int b.handle), ("index", Doc.opt (fun i => .int i) b.index),
    ("triggerable", .bool b.triggerable)]

/-- The binding state of an animator. -/
def bindingStateView : BindingState → Doc
  | .unbound => .str "unbound"
  | .bound b => .obj [("bound", bindingView b)]
  | .zombie f => .obj [("zombie", failureView f)]

/-- The slots of a bag, every slot ever made. -/
def slotsView (b : Bag) : Doc :=
  .arr (b.slots.map fun s =>
    .obj [("name", .str s.name), ("kind", s.kind.toDoc), ("writable", .bool s.flags.writable),
      ("triggerable", .bool s.flags.triggerable),
      ("data", match s.data with
        | .single v => .obj [("single", v.toDoc)]
        | .list items => .obj [("list", .arr (items.map Value.toDoc))])])

/-- A diagnostic. -/
def diagnosticView : Diagnostic → Doc
  | .bindingFailed path f =>
    .obj [("kind", .str "BindingFailed"), ("path", .str path), ("failure", failureView f)]
  | .markerNotFound a m =>
    .obj [("kind", .str "MarkerNotFound"), ("animation", .optStr a), ("marker", .str m)]
  | .malformedTrigger t => .obj [("kind", .str "MalformedTrigger"), ("token", .str t)]
  | .jumpLimitReached a n =>
    .obj [("kind", .str "JumpLimitReached"), ("animation", .optStr a), ("jumps", .int n)]

/-- A stored node with every member. -/
def storedView (n : StoredNode) : Doc :=
  .obj [("id", .optStr n.id), ("trigger", .str n.trigger),
    ("animations", .arr (n.animations.map fun a =>
      .obj [("id", .optStr a.id), ("markers", .arr (a.markers.map markerView))])),
    ("animators", .arr (n.animators.map fun a =>
      .obj [("targetProperty", .str a.target), ("animationId", .optStr a.animation),
        ("enabled", .bool a.enabled), ("kind", Doc.opt Kind.toDoc a.kind),
        ("keys", .arr (a.keys.map keyView))]))]

/-- Compact text of a document in its stored form, non-finite floats as `null`. -/
def storedText (d : Doc) : String := d.render .asNull

end Timeline.Console

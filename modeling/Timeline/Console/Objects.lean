import Timeline.Console.View

/-!
# Scripted marker lists and bags

Commands on a marker list and on a property bag, each answered with a document. A session
runs its commands in order on one list or bag.
-/

namespace Timeline.Console

open Timeline.Json

/-- A command on a marker list. -/
inductive MarkerCommand where
  | add (m : Marker)
  | find (id : String)
  | atFrame (f : Frame)
  | firstInRange (after upTo : Frame)
  | remove (id : String)
  | size
  | isEmpty

/-- Runs a command on a marker list, with its result. -/
def MarkerCommand.run (l : MarkerList) : MarkerCommand → MarkerList × Doc
  | .add m => (l.add m, .null)
  | .find id => (l, Doc.opt markerView (l.find? id))
  | .atFrame f => (l, Doc.opt markerView (l.atFrame? f))
  | .firstInRange a u => (l, Doc.opt markerView (l.firstInRange? a u))
  | .remove id => let (l, m) := l.remove id; (l, Doc.opt markerView m)
  | .size => (l, .int l.size)
  | .isEmpty => (l, .bool (l.size == 0))

/-- Runs commands on a marker list; each answers its result and the markers after it. -/
def markerSession (l : MarkerList) : List MarkerCommand → List Doc
  | [] => []
  | c :: cs =>
    let (l, r) := c.run l
    .obj [("result", r), ("markers", .arr (l.markers.map markerView))] :: markerSession l cs

/-- A command on a property bag. -/
inductive BagCommand where
  | define (name : String) (v : Value) (flags : Flags)
  | defineList (name : String) (kind : Kind) (items : List Value)
  | remove (name : String)
  | get (path : String)
  | set (path : String) (v : Value)
  | writeSlot (slot : Nat) (index : Option Nat) (v : Value)
  | size
  | isEmpty
  | writes
  | bind (path : String) (kind : Kind)
  | resolve (path : String)

/-- What a bag reports about a path it resolves. -/
def propertyView (i : PropertyInfo) : Doc :=
  .obj [("handle", .int i.handle), ("kind", i.kind.toDoc), ("writable", .bool i.writable),
    ("triggerable", .bool i.triggerable), ("len", Doc.opt (fun n => .int n) i.len)]

/-- Runs a command on a bag, with its result. -/
def BagCommand.run (b : Bag) : BagCommand → Bag × Doc
  | .define name v flags => let (b, i) := b.define name v flags; (b, .int i)
  | .defineList name k items => let (b, i) := b.defineList name k items; (b, .int i)
  | .remove name => let (b, ok) := b.remove name; (b, .bool ok)
  | .get path => (b, Doc.opt Value.toDoc (b.get? path))
  | .set path v => let (b, ok) := b.set path v; (b, .bool ok)
  | .writeSlot slot index v => let (b, ok) := b.writeSlot slot index v; (b, .bool ok)
  | .size => (b, .int b.size)
  | .isEmpty => (b, .bool (b.size == 0))
  | .writes => (b, .int b.writes)
  | .bind path k =>
    (b, match Timeline.bind b path k with
      | .ok x => .obj [("ok", bindingStateView (.bound x))]
      | .error f => .obj [("err", failureView f)])
  | .resolve path =>
    (b, match Path.parse path with
      | .error e => (pathFailure e).toDoc
      | .ok p => Doc.opt propertyView (Target.resolve b p))

/-- Runs commands on a bag, ignoring their results. -/
def BagCommand.runAll (b : Bag) (cs : List BagCommand) : Bag := cs.foldl (fun b c => (c.run b).1) b

/-- Runs commands on a bag; each answers its result, the number of names, the writes and the
slots after it. -/
def bagSession (b : Bag) : List BagCommand → List Doc
  | [] => []
  | c :: cs =>
    let (b, r) := c.run b
    .obj [("result", r), ("len", .int b.size), ("writes", .int b.writes), ("slots", slotsView b)] ::
      bagSession b cs

end Timeline.Console

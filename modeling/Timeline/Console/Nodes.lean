import Timeline.Console.Animators
import Timeline.Console.Queries

/-!
# Scripted nodes

A theater holds nodes over bags, in numbered places; cloning a node adds one. Each command acts
on the node in the place it names and is answered with its result and a view of that node: its
id, trigger text, running count, default animation, animations, animators and bag, and what the
command reported and which stopped callbacks it fired. Diagnostics start out switched on.

An animator's `refs` is the number of animators of all nodes reading its key list.
-/

namespace Timeline.Console

open Timeline.Json

/-- How a command changes diagnostics reporting. -/
inductive ReportMode where
  /-- Switches reporting off. -/
  | clear
  /-- Switches reporting off. -/
  | silent
  /-- Switches reporting on. -/
  | withSink
  /-- Switches reporting on. -/
  | setSink
  /-- Leaves reporting as it is. -/
  | keep

/-- A command on a node. -/
inductive NodeCommand where
  | run (marker : String) (animation : Option String)
  | tryRun (marker : String) (animation : Option String) (correction : Float)
  | advance (delta : Float)
  | onTrigger (property : String) (correction : Float)
  | setTrigger (value : String)
  | setRunning (running : Bool)
  | setTime (time : Float)
  | setFrame (frame : Frame)
  | animSetRunning (animation : Option String) (running : Bool)
  | animSetTime (animation : Option String) (time : Float)
  | stop (animation : Option String)
  | refresh
  | unbind
  | setOnStopped (animation : Option String)
  | addMarker (animation : Option String) (m : Marker)
  | removeMarker (animation : Option String) (id : String)
  | addAnimation (id : Option String) (markers : List Marker)
  | removeAnimation (animation : Option String)
  | setConfig (c : Config)
  | applyAnimation (animation : Option String)
  | addAnimator (a : StoredAnimator)
  | removeAnimator (path : String) (animation : Option String)
  | setEnabled (path : String) (animation : Option String) (enabled : Bool)
  | addKey (path : String) (animation : Option String) (k : Key Value) (ordered : Bool)
  | clearKeys (path : String) (animation : Option String)
  | removeKeyAtFrame (path : String) (animation : Option String) (frame : Frame)
  | findOrAdd (path : String) (animation : Option String) (kind : Kind)
  | bag (c : BagCommand)
  | setId (id : Option String)
  | find (path : String) (animation : Option String) (kind : Kind)
  | insertAnimator (a : StoredAnimator) (kind : Kind)
  | copyAnimatorsFrom (source : Nat)
  | config
  | animationsInfo
  | diagnostics (mode : ReportMode)
  | debug
  | toStored
  | sharedClone

/-- Debugging text of an optional string. -/
def optionDebug : Option String → String
  | some s => "Some(" ++ Text.debugQuote s ++ ")"
  | none => "None"

/-- Debugging text of a marker. -/
def markerDebug (m : Marker) : String :=
  "Marker \x7b id: " ++ Text.debugQuote m.id ++ ", frame: " ++ toString m.frame.toInt ++
    ", action: " ++ m.action.title ++ ", jump_to: " ++ optionDebug m.jumpTo ++ " \x7d"

/-- Debugging text of an animation. -/
def animationDebug (a : Animation) : String :=
  "Animation \x7b id: " ++ optionDebug a.id ++ ", time: " ++ Decimal.floatDebugText a.time ++
    ", is_running: " ++ toString a.running ++ ", running_marker_id: " ++
    optionDebug a.runningMarker ++ ", markers: MarkerList \x7b markers: [" ++
    ", ".intercalate (a.markers.markers.map markerDebug) ++ "] \x7d, on_stopped: " ++
    toString a.onStopped ++ " \x7d"

/-- Debugging text of diagnostics reporting. -/
def reporterDebug (r : Reporter) : String :=
  "Diagnostics \x7b enabled: " ++ toString r.enabled ++ " \x7d"

/-- Nodes in numbered places. -/
structure Theater where
  /-- The nodes. -/
  nodes : List (Node Bag) := []
  /-- The next unused key list name. -/
  next : Nat := 0

namespace Theater

/-- The number of animators of all nodes reading the key list named `listId`. -/
def refs (t : Theater) (listId : Nat) : Nat :=
  (t.nodes.map fun n => (n.animators.animators.filter (·.listId == listId)).length).foldr
    (· + ·) 0

/-- A view of a node. -/
def view (t : Theater) (n : Node Bag) (result : Doc) (diagnostics : List Diagnostic)
    (stopped : List String) : Doc :=
  .obj [("result", result), ("id", .optStr n.id), ("trigger", .str n.trigger),
    ("running_count", .int n.runningCount), ("is_running", .bool n.isRunning),
    ("time", .float n.time), ("frame", .int n.frame.toInt), ("current", .optStr n.current),
    ("animations", .arr (n.animations.map fun a =>
      .obj [("id", .optStr a.id), ("time", .float a.time), ("frame", .int a.frame.toInt),
        ("running", .bool a.running), ("marker", .optStr a.runningMarker),
        ("has_on_stopped", .bool a.onStopped),
        ("markers", .arr (a.markers.markers.map markerView))])),
    ("animators", .arr (n.animators.animators.map fun a =>
      .obj [("path", .str a.target), ("animation", .optStr a.animation), ("kind", a.kind.toDoc),
        ("enabled", .bool a.enabled), ("keys", .int a.keys.size),
        ("refs", .int (t.refs a.listId)), ("duration", .int a.duration.toInt),
        ("binding", bindingStateView a.binding)])),
    ("writes", .int n.object.writes), ("props", slotsView n.object),
    ("diagnostics", .arr (diagnostics.map diagnosticView)), ("stopped", .arr (stopped.map .str))]

/-- The failure of a command naming an animation that does not exist. -/
def missingAnimation (name : String) : Failure := ⟨"no_such_animation", "no animation '" ++ name ++ "'"⟩

/-- Changes an animation directly: a named one must exist; the default one is made if needed. -/
def direct {β : Type} (n : Node Bag) (id : Option String) (f : Animation → Animation × β) :
    Except Failure (Node Bag × β) :=
  match id with
  | none => .ok (n.withDefault f)
  | some name =>
    match n.modify? id f with
    | some r => .ok r
    | none => .error (missingAnimation name)

/-- Lifts a direct change with no result to a command's answer. -/
def directly (n : Node Bag) (id : Option String) (f : Animation → Animation) : Node Bag × Doc :=
  match direct n id fun a => (f a, ()) with
  | .ok (n, ()) => (n, .null)
  | .error e => (n, e.toDoc)

/-- Edits the keys of an animator of the node, giving it a key list of its own. -/
def editKeys {β : Type} (t : Theater) (n : Node Bag) (path : String) (id : Option String)
    (f : KeyList Value → KeyList Value × β) : Theater × Node Bag × Option β :=
  match n.animators.modify? path id (·.editKeys t.next f) with
  | some (c, r) => ({ t with next := t.next + 1 }, { n with animators := c }, some r)
  | none => (t, n, none)

/-- Adds an animator built from a stored animator; answers whether it replaced one. -/
def addStored (t : Theater) (n : Node Bag) (s : StoredAnimator) : Theater × Node Bag × Doc :=
  match s.build t.next with
  | .error e => (t, n, (playbackFailure e).toDoc)
  | .ok a =>
    let (c, old) := n.animators.add a
    ({ t with next := t.next + 1 }, { n with animators := c }, .bool old.isSome)

/-- Runs a command on the node in place `i`, with its result. -/
def step (t : Theater) (i : Nat) (n : Node Bag) : NodeCommand → Theater × Node Bag × Doc
  | .run m id =>
    let (n, r) := n.run m id
    (t, n, match r with
      | .ok () => .str "ok"
      | .error e => (playbackFailure e).toDoc)
  | .tryRun m id c => let (n, ok) := n.tryRun m id c; (t, n, .bool ok)
  | .advance d => (t, n.advance d, .null)
  | .onTrigger p c => (t, n.onTrigger p c, .null)
  | .setTrigger v => (t, { n with trigger := v }, .null)
  | .setRunning r => (t, n.setRunning r, .null)
  | .setTime x => (t, n.setTime x, .null)
  | .setFrame f => (t, n.setFrame f, .null)
  | .animSetRunning id r => let (n, d) := directly n id fun a => { a with running := r }; (t, n, d)
  | .animSetTime id x => let (n, d) := directly n id fun a => { a with time := x }; (t, n, d)
  | .stop id => let (n, d) := directly n id fun a => { a with running := false }; (t, n, d)
  | .refresh => (t, n.refresh, .null)
  | .unbind => (t, n.unbind, .null)
  | .setOnStopped id => let (n, d) := directly n id fun a => { a with onStopped := true }; (t, n, d)
  | .addMarker id m =>
    let (n, d) := directly n id fun a => { a with markers := a.markers.add m }; (t, n, d)
  | .removeMarker id m =>
    match direct n id fun a => let (l, r) := a.markers.remove m; ({ a with markers := l }, r) with
    | .ok (n, r) => (t, n, Doc.opt markerView r)
    | .error e => (t, n, e.toDoc)
  | .addAnimation id ms =>
    match n.addAnimation { id := id, markers := MarkerList.ofList ms } with
    | .ok n => (t, n, .str "ok")
    | .error e => (t, n, (playbackFailure e).toDoc)
  | .removeAnimation id => let (n, ok) := n.removeAnimation id; (t, n, .bool ok)
  | .setConfig c => (t, { n with config := c }, .null)
  | .applyAnimation id => (t, n.applyAnimation id, .null)
  | .addAnimator s => t.addStored n s
  | .removeAnimator p id =>
    let (c, old) := n.animators.remove p id
    (t, { n with animators := c }, .bool old.isSome)
  | .setEnabled p id e =>
    match n.animators.modify? p id fun a => ({ a with enabled := e }, ()) with
    | some (c, ()) => (t, { n with animators := c }, .bool true)
    | none => (t, n, .bool false)
  | .addKey p id k ordered =>
    let (t, n, _) := t.editKeys n p id fun l => (if ordered then l.insert k else l.push k, ())
    (t, n, .null)
  | .clearKeys p id => let (t, n, _) := t.editKeys n p id fun l => (l.clear, ()); (t, n, .null)
  | .removeKeyAtFrame p id f =>
    let (t, n, r) := t.editKeys n p id (·.eraseFrame f)
    (t, n, Doc.opt keyView r.join)
  | .findOrAdd p id k =>
    match n.animators.findOrAdd p id k t.next with
    | .ok (c, _) => ({ t with next := t.next + 1 }, { n with animators := c }, .str "ok")
    | .error e => (t, n, (playbackFailure e).toDoc)
  | .bag c => let (b, r) := c.run n.object; (t, { n with object := b }, r)
  | .setId id => (t, { n with id := id }, .null)
  | .find p id k =>
    let found := n.animators.find? p id
    let typed := (found.map (·.kind == k)).getD false
    (t, n, .obj [("found", Doc.opt (fun a => .obj [("path", .str a.target),
        ("animation", .optStr a.animation), ("kind", a.kind.toDoc), ("keys", .int a.keys.size)])
        found),
      ("typed", .bool typed), ("typed_mut", .bool typed), ("len", .int n.animators.size),
      ("is_empty", .bool (n.animators.size == 0))])
  | .insertAnimator s k =>
    let (c, old) := n.animators.add (s.assemble k t.next)
    ({ t with next := t.next + 1 }, { n with animators := c }, .bool old.isSome)
  | .copyAnimatorsFrom j =>
    match t.nodes[j]? with
    | some src =>
      let c := if j = i then n.animators.sharedClone else src.animators.sharedClone
      (t, { n with animators := c }, .int c.size)
    | none => (t, n, .null)
  | .config => (t, n, n.config.toDoc)
  | .animationsInfo =>
    (t, n, .obj [("len", .int n.animations.length), ("is_empty", .bool n.animations.isEmpty),
      ("has_default", .bool n.defaultAnimation?.isSome),
      ("running_count", .int (n.animations.filter (·.running)).length)])
  | .diagnostics m =>
    let enabled := match m with
      | .clear | .silent => false
      | .withSink | .setSink => true
      | .keep => n.reporter.enabled
    (t, { n with reporter := { n.reporter with enabled := enabled } }, .bool enabled)
  | .debug =>
    (t, n, .obj [("animations", .arr (n.animations.map fun a => .str (animationDebug a))),
      ("diagnostics", .str (reporterDebug n.reporter))])
  | .toStored =>
    let s := n.toStored
    (t, n, .obj [("stored", storedView s), ("json", .str (storedText s.toDoc))])
  | .sharedClone =>
    let c := n.sharedClone
    ({ t with nodes := t.nodes ++ [{ c with reporter := { enabled := true } }] }, n,
      .int t.nodes.length)

/-- Runs a command on the node in place `i` and answers it with a view of the node. -/
def answer (t : Theater) (i : Nat) (c : NodeCommand) : Theater × Doc :=
  match t.nodes[i]? with
  | none => (t, .obj [("result", .null)])
  | some n =>
    let n := { n with reporter := { n.reporter with log := [] }, stopped := [] }
    let t := { t with nodes := t.nodes.set i n }
    let (t, n, r) := t.step i n c
    let diagnostics := n.reporter.log
    let stopped := n.stopped
    let n := { n with reporter := { n.reporter with log := [] }, stopped := [] }
    let t := { t with nodes := t.nodes.set i n }
    (t, t.view n r diagnostics stopped)

end Theater

/-- Runs commands, each on the node in the place it names. -/
def nodeSession (t : Theater) : List (Nat × NodeCommand) → List Doc
  | [] => []
  | (i, c) :: cs => let (t, d) := t.answer i c; d :: nodeSession t cs

/-- How a node session starts: from a stored node document or empty, over a bag, with an id
and settings when given. -/
structure Opening where
  /-- The stored node document. -/
  doc : Option String := none
  /-- The bag. -/
  bag : Bag := {}
  /-- The id. -/
  id : Option String := none
  /-- The settings. -/
  config : Option Config := none

/-- The theater a session starts with: one node, with reporting switched on. -/
def Opening.theater (o : Opening) : Except Failure Theater :=
  let finish (n : Node Bag) (next : Nat) : Theater :=
    let n := { n with id := o.id.orElse fun _ => n.id, config := o.config.getD n.config,
                      reporter := { enabled := true } }
    { nodes := [n], next := next }
  match o.doc with
  | none => .ok (finish { object := o.bag } 0)
  | some doc =>
    match readStored doc >>= fun s => s.build o.bag 0 with
    | .ok (n, next) => .ok (finish n next)
    | .error e => .error (playbackFailure e)

end Timeline.Console

import Timeline.Playback.Animation
import Timeline.Trigger

/-!
# Nodes

A node hosts an object with its animators and animations. Besides the object's properties it
offers one of its own, the trigger: a text property that animators may key. When a tick has
written every animator, each trigger key that fired runs the markers its text names
(`marker[@animation]`, comma separated), so trigger handlers see the fully written state. Each
fired key keeps the trigger text as it stood right after its own animation wrote, so two
animations keying the trigger on one frame both get their markers run. An empty trigger text
restarts the default animation.

The node keeps a count of running animations, refreshed after its own operations; direct
changes to an animation leave it stale until `refresh`. The default animation (`id = none`) is
made on first use by the operations that need it.
-/

namespace Timeline

/-- The name of the trigger property. -/
def triggerProperty : String := "Trigger"

/-- The handle of the trigger property, which objects never issue. -/
def triggerHandle : Nat := 4294967295

/-- An object with a node's trigger text: what animators of a node write to. -/
structure Stage (τ : Type) where
  /-- The object. -/
  object : τ
  /-- The trigger text. -/
  trigger : String

/-- The trigger property is resolved by the stage; every other path by the object, which is
also the one that repaints. -/
instance {τ : Type} [Target τ] : Target (Stage τ) where
  resolve s p :=
    if p.isSingle triggerProperty then some ⟨triggerHandle, .text, true, true, none⟩
    else Target.resolve s.object p
  write s h i v :=
    if h = triggerHandle then
      match v with
      | .text str => { s with trigger := str }
      | _ => s
    else { s with object := Target.write s.object h i v }
  invalidate s := { s with object := Target.invalidate s.object }

/-- An animated object. -/
structure Node (τ : Type) where
  /-- Its id. -/
  id : Option String := none
  /-- The object. -/
  object : τ
  /-- The trigger text. -/
  trigger : String := ""
  /-- Its animators. -/
  animators : Collection := {}
  /-- Its animations, unique by id. -/
  animations : List Animation := []
  /-- The count of running animations as last refreshed. -/
  runningCount : Nat := 0
  /-- Its settings. -/
  config : Config := {}
  /-- Where its diagnostics go. -/
  reporter : Reporter := {}
  /-- The labels of the stopped callbacks that fired, oldest first. -/
  stopped : List String := []

namespace Node

variable {τ : Type}

/-- The name of the node in errors. -/
def label (n : Node τ) : String := n.id.getD "<unnamed>"

/-- The animation with an id. -/
def find? (n : Node τ) (id : Option String) : Option Animation := n.animations.find? (·.id = id)

/-- The default animation, if made. -/
def defaultAnimation? (n : Node τ) : Option Animation := n.find? none

/-- Changes the animation with an id; `none` when there is none. -/
def modify? {β : Type} (n : Node τ) (id : Option String) (f : Animation → Animation × β) :
    Option (Node τ × β) :=
  match n.animations.findIdx? (·.id = id) with
  | some i =>
    match n.animations[i]? with
    | some a => let (a', r) := f a; some ({ n with animations := n.animations.set i a' }, r)
    | none => none
  | none => none

/-- Changes the default animation, making it first if needed. -/
def withDefault {β : Type} (n : Node τ) (f : Animation → Animation × β) : Node τ × β :=
  match n.modify? none f with
  | some r => r
  | none =>
    let (a, r) := f {}
    ({ n with animations := n.animations ++ [a] }, r)

/-- Changes the default animation, making it first if needed. -/
def updateDefault (n : Node τ) (f : Animation → Animation) : Node τ :=
  (n.withDefault fun a => (f a, ())).1

/-- Recounts the running animations. -/
def refresh (n : Node τ) : Node τ :=
  { n with runningCount := (n.animations.filter (·.running)).length }

/-- Records conditions. -/
def report (n : Node τ) (ds : List Diagnostic) : Node τ := { n with reporter := n.reporter.emitAll ds }

/-- Adds an animation; fails when its id is taken. -/
def addAnimation (n : Node τ) (a : Animation) : Except PlaybackError (Node τ) :=
  if (n.find? a.id).isSome then .error (.duplicateAnimation (animationLabel a.id))
  else .ok { n with animations := n.animations ++ [a] }

/-- Removes the animation with an id; says whether there was one. -/
def removeAnimation (n : Node τ) (id : Option String) : Node τ × Bool :=
  match n.animations.findIdx? (·.id = id) with
  | some i => ({ n with animations := n.animations.eraseIdx i }, true)
  | none => (n, false)

/-- Whether the default animation runs. -/
def isRunning (n : Node τ) : Bool := (n.defaultAnimation?.map (·.running)).getD false

/-- The time of the default animation, zero without one. -/
def time (n : Node τ) : Float := (n.defaultAnimation?.map (·.time)).getD 0

/-- The frame of the default animation, zero without one. -/
def frame (n : Node τ) : Frame := (n.defaultAnimation?.map (·.frame)).getD 0

/-- The marker the default animation was last started from. -/
def current (n : Node τ) : Option String := n.defaultAnimation?.bind (·.runningMarker)

/-- Starts or stops the default animation, and recounts. -/
def setRunning (n : Node τ) (running : Bool) : Node τ :=
  (n.updateDefault fun a => { a with running := running }).refresh

/-- Sets the time of the default animation. -/
def setTime (n : Node τ) (time : Float) : Node τ := n.updateDefault fun a => { a with time := time }

/-- Moves the default animation to the start of a frame. -/
def setFrame (n : Node τ) (f : Frame) : Node τ := n.updateDefault (·.setFrame f)

/-- Forgets every animator binding. -/
def unbind (n : Node τ) : Node τ := { n with animators := n.animators.unbindAll }

/-- Writes one animation's animators at its time, and asks the object to repaint when a value
was written; no triggers fire. -/
def applyAnimation [Target τ] (n : Node τ) (id : Option String) : Node τ :=
  match n.find? id with
  | none => n
  | some a =>
    let p := a.applyAnimators n.animators (Stage.mk n.object n.trigger)
    let stage := if 0 < p.written then Target.invalidate p.target else p.target
    { n with animators := ⟨p.animators⟩, object := stage.object, trigger := stage.trigger }
      |>.report p.diagnostics

/-- After a start: writes the animation when the settings say so, then recounts. -/
def afterRun [Target τ] (n : Node τ) (id : Option String) : Node τ :=
  (if n.config.applyOnRun then n.applyAnimation id else n).refresh

/-- Starts an animation from a marker, `correction` seconds past it; `false` when the
animation or the marker does not exist. The default animation is made if needed. -/
def tryRun [Target τ] (n : Node τ) (marker : String) (id : Option String) (correction : Float) :
    Node τ × Bool :=
  let (n, ok) := match id with
    | none => n.withDefault fun a =>
        match a.tryRun marker correction with
        | some a => (a, true)
        | none => (a, false)
    | some _ =>
      match n.modify? id fun a =>
          match a.tryRun marker correction with
          | some a => (a, true)
          | none => (a, false) with
      | some r => r
      | none => (n, false)
  if ok then (n.afterRun id, true) else (n, false)

/-- Starts an animation from a marker; errors name the node and the missing id. The default
animation is made if needed. -/
def run [Target τ] (n : Node τ) (marker : String) (id : Option String) :
    Node τ × Except PlaybackError Unit :=
  let node := n.label
  let started : Node τ × Except PlaybackError Unit := match id with
    | none => n.withDefault fun a =>
        match a.run marker node with
        | .ok a => (a, .ok ())
        | .error e => (a, .error e)
    | some name =>
      match n.modify? id fun a =>
          match a.run marker node with
          | .ok a => (a, .ok ())
          | .error e => (a, .error e) with
      | some r => r
      | none => (n, .error (.animationNotFound node name))
  match started with
  | (n, .ok ()) => (n.afterRun id, .ok ())
  | (n, .error e) => (n, .error e)

/-- Handles a fired trigger key with the trigger text `value`: only the trigger property
counts. An empty text restarts the default animation at `correction`; otherwise every token
runs, and malformed tokens and missing markers are reported. -/
def handleTrigger [Target τ] (n : Node τ) (property value : String) (correction : Float) :
    Node τ :=
  if property != triggerProperty then n
  else if value.isEmpty then
    (n.updateDefault fun a => { a with time := correction, running := true }).refresh
  else
    let parsed := parseTrigger value
    let n := n.report (parsed.malformed.map .malformedTrigger)
    parsed.tokens.foldl
      (fun n token =>
        let (n, ok) := n.tryRun token.marker token.animation correction
        if ok then n else n.report [.markerNotFound token.animation token.marker])
      n

/-- Handles a trigger of a property with the current trigger text. -/
def onTrigger [Target τ] (n : Node τ) (property : String) (correction : Float) : Node τ :=
  n.handleTrigger property n.trigger correction

/-- What advancing the animations in turn gathers. -/
structure Tick (τ : Type) where
  /-- The animations advanced so far, in order. -/
  done : List Animation
  /-- The animators. -/
  animators : Collection
  /-- The object and trigger text. -/
  stage : Stage τ
  /-- The trigger keys that fired, each with the trigger text right after its animation. -/
  fired : List (FiredTrigger × String)
  /-- The labels of stopped callbacks that fired. -/
  stopped : List String
  /-- The conditions met. -/
  diagnostics : List Diagnostic

/-- Advances one more animation. -/
def Tick.advance [Target τ] (delta : Float) (config : Config) (k : Tick τ) (a : Animation) :
    Tick τ :=
  let s := a.advance delta config k.animators k.stage
  { done := k.done ++ [s.animation]
    animators := s.animators
    stage := s.target
    fired := k.fired ++ s.fired.map (·, s.target.trigger)
    stopped := k.stopped ++ (if s.stopped then [animationLabel a.id] else [])
    diagnostics := k.diagnostics ++ s.diagnostics }

/-- Advances every running animation by `delta` seconds, then handles the trigger keys that
fired, then recounts. Nothing happens while the count of running animations is zero. -/
def advance [Target τ] (n : Node τ) (delta : Float) : Node τ :=
  if n.runningCount = 0 then n
  else
    let k := n.animations.foldl (Tick.advance delta n.config)
      ⟨[], n.animators, Stage.mk n.object n.trigger, [], [], []⟩
    let n := { n with animations := k.done, animators := k.animators, object := k.stage.object,
                      trigger := k.stage.trigger, stopped := n.stopped ++ k.stopped }
      |>.report k.diagnostics
    let n := k.fired.foldl (fun n (t, value) => n.handleTrigger t.property value t.correction) n
    n.refresh

/-- A copy whose animators share key lists and start unbound; stopped callbacks and the
diagnostics destination are not copied. -/
def sharedClone (n : Node τ) : Node τ :=
  { n with animators := n.animators.sharedClone
           animations := n.animations.map fun a => { a with onStopped := false }
           reporter := {}
           stopped := [] }

end Node

end Timeline

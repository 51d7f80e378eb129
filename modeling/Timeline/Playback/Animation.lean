import Timeline.Marker
import Timeline.Track.Collection
import Timeline.Playback.Config
import Timeline.Playback.Diagnostic

/-!
# Animations

An animation is a named time cursor over a list of markers. Advancing it by `delta` seconds
first crosses the markers between the current frame and the frame of the new time: a play
marker is passed, a stop marker parks the cursor on its frame and stops the animation, and a
jump marker moves the cursor to its target marker, keeping the overshoot past the jump marker.
At most `maxJumpsPerAdvance` jumps are followed; at the next one the cursor parks a frame
before that jump marker, to cross it again on the next tick. Then every animator of the
animation writes its value at the new time; when the frame changed, the animators bound to
trigger properties whose key lies on the new frame fire; and when any value was written, the
target is asked once to repaint.

A jump to a missing marker, or to itself, is passed like a play marker; the missing case is
reported. Crossing ends because each step either follows one more jump, of which there are
finitely many, or passes a marker, leaving fewer markers ahead of the cursor.
-/

namespace Timeline

/-- A named time cursor with its markers. -/
structure Animation where
  /-- Its id; `none` is the default animation. -/
  id : Option String := none
  /-- The time in seconds. -/
  time : Float := 0
  /-- Whether it advances. -/
  running : Bool := false
  /-- The marker it was last started from. -/
  runningMarker : Option String := none
  /-- Its markers. -/
  markers : MarkerList := {}
  /-- Whether a stopped callback is installed. -/
  onStopped : Bool := false

/-- What crossing markers gave: the time reached, whether a stop marker was hit, and the
conditions met on the way. -/
structure Crossing where
  /-- The time reached. -/
  time : Float
  /-- Whether a stop marker was hit. -/
  stopped : Bool
  /-- The conditions met, in order. -/
  diagnostics : List Diagnostic

/-- What writing an animation's animators gave. -/
structure Pass (τ : Type) where
  /-- The animators after writing. -/
  animators : List Animator
  /-- The target after writing. -/
  target : τ
  /-- How many values were written. -/
  written : Nat
  /-- The conditions met, in order. -/
  diagnostics : List Diagnostic

/-- What advancing an animation gave. -/
structure Step (τ : Type) where
  /-- The animation after the advance. -/
  animation : Animation
  /-- The animators after writing. -/
  animators : Collection
  /-- The target after writing. -/
  target : τ
  /-- The trigger keys that fired. -/
  fired : List FiredTrigger
  /-- Whether the stopped callback fired. -/
  stopped : Bool
  /-- The conditions met, in order. -/
  diagnostics : List Diagnostic

namespace Animation

/-- The frame of the cursor. -/
def frame (a : Animation) : Frame := toFrame a.time

/-- Moves the cursor to the start of a frame. -/
def setFrame (a : Animation) (f : Frame) : Animation := { a with time := toSeconds f }

/-- Starts from a marker, `correction` seconds past it; the stopped callback is dropped.
`none` when there is no such marker. -/
def tryRun (a : Animation) (marker : String) (correction : Float) : Option Animation :=
  (a.markers.find? marker).map fun m =>
    { a with time := toSeconds m.frame + correction, runningMarker := some marker,
             running := true, onStopped := false }

/-- Starts from a marker; the error names the node `node`. -/
def run (a : Animation) (marker node : String) : Except PlaybackError Animation :=
  match a.tryRun marker 0 with
  | some a => .ok a
  | none => .error (.markerNotFound node (animationLabel a.id) marker)

/-- Crosses the markers after frame `start` up to the frame of `time`, having followed `jumps`
jumps of at most `maxJumps`. -/
def cross (markers : MarkerList) (id : Option String) (maxJumps : Nat) (start : Frame)
    (jumps : Nat) (time : Float) (log : List Diagnostic) : Crossing :=
  match _found : markers.firstInRange? start (toFrame time) with
  | none => ⟨time, false, log⟩
  | some m =>
    match m.action with
    | .play => cross markers id maxJumps m.frame jumps time log
    | .stop => ⟨toSeconds m.frame, true, log⟩
    | .jump =>
      match (m.jumpTo.bind markers.find?).filter (·.id != m.id) with
      | none =>
        let log := match m.jumpTo with
          | some missing => if missing != m.id then log ++ [.markerNotFound id missing] else log
          | none => log
        cross markers id maxJumps m.frame jumps time log
      | some t =>
        if hj : maxJumps ≤ jumps then
          ⟨toSeconds (m.frame - 1), false, log ++ [.jumpLimitReached id jumps]⟩
        else
          cross markers id maxJumps t.frame (jumps + 1) (toSeconds t.frame + (time - toSeconds m.frame))
            log
termination_by (maxJumps - jumps, markers.laterCount start)
decreasing_by
  all_goals first
    | (apply Prod.Lex.right
       have hm := MarkerList.firstInRange?_spec markers start (toFrame time) m _found
       exact MarkerList.laterCount_lt markers start m hm.1 hm.2)
    | (apply Prod.Lex.left; omega)

/-- Writes the animators of animation `id` at `time`, in order. -/
def applyAll {τ : Type} [Target τ] (id : Option String) (time : Float) :
    List Animator → τ → Pass τ
  | [], t => ⟨[], t, 0, []⟩
  | a :: rest, t =>
    if a.animation = id then
      let (a', t, status) := a.apply time t
      let p := applyAll id time rest t
      let written := match status with | .written => 1 | _ => 0
      let diag := match status with
        | .bindFailed f => [Diagnostic.bindingFailed a.target f]
        | _ => []
      ⟨a' :: p.animators, p.target, written + p.written, diag ++ p.diagnostics⟩
    else
      let p := applyAll id time rest t
      { p with animators := a :: p.animators }

/-- Writes this animation's animators at its time. -/
def applyAnimators {τ : Type} [Target τ] (a : Animation) (c : Collection) (t : τ) : Pass τ :=
  applyAll a.id a.time c.animators t

/-- The trigger keys of this animation's animators that fire on `frame`. -/
def triggers (a : Animation) (c : Collection) (frame : Frame) (correction : Float) :
    List FiredTrigger :=
  c.animators.filterMap fun x => if x.animation = a.id then x.trigger? frame correction else none

/-- Advances by `delta` seconds; nothing happens while stopped. The target is asked to repaint
once when a value was written. -/
def advance {τ : Type} [Target τ] (a : Animation) (delta : Float) (config : Config)
    (c : Collection) (t : τ) : Step τ :=
  if !a.running then ⟨a, c, t, [], false, []⟩
  else
    let before := a.frame
    let x := cross a.markers a.id config.maxJumpsPerAdvance.toNat before 0 (a.time + delta) []
    let a := { a with time := x.time, running := a.running && !x.stopped }
    let p := a.applyAnimators c t
    let c : Collection := ⟨p.animators⟩
    let f := a.frame
    let fired := if f != before then a.triggers c f (a.time - toSeconds f) else []
    let target := if 0 < p.written then Target.invalidate p.target else p.target
    let fires := x.stopped && a.onStopped
    let a := if x.stopped then { a with onStopped := false } else a
    ⟨a, c, target, fired, fires, x.diagnostics ++ p.diagnostics⟩

end Animation

end Timeline

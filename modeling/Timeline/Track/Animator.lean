import Timeline.Key.Basic
import Timeline.Track.Binding
import Timeline.Value.Blend

/-!
# Animators

An animator plays one key list into one property of an object. Its value at a time `t` is
found from the frame `f = toFrame t`: the value of the rest pose without keys, the first key's
value before it, the last key's value from it on, and otherwise the segment from the last key
at or before `f` to the next one, blended along the segment's curve by how far `t` is between
the two keys' times.

The animator keeps the segment it used last in a `Window`: its frames `[lo, hi)`, its times,
the position of its first key and what it blends (`Piece`). While the frame stays inside the
window and the key list is unchanged (its version is the one the window was made from), the
value comes from the window; otherwise the window is made anew, searching from the last
position, and `recomputes` counts how often that happened.

Key lists may be shared between animators. `listId` names the list an animator reads; an
edit through an animator gives it a list of its own under a new name.

Binding is lazy: the first `apply` resolves the property; if that fails the animator becomes a
zombie and ignores every `apply` until it is unbound.
-/

namespace Timeline

/-- What a window blends. -/
inductive Piece where
  /-- A held value. -/
  | hold (v : Value)
  /-- A straight line between two values. -/
  | linear (a b : Value)
  /-- A Catmull-Rom segment from `p1` to `p2`, shaped by `p0` and `p3`. -/
  | spline (p0 p1 p2 p3 : Value)

/-- The segment an animator evaluated last. -/
structure Window where
  /-- First frame of the window. -/
  lo : Frame
  /-- First frame after the window. -/
  hi : Frame
  /-- Time of the window's first key. -/
  start : Float
  /-- Time of the key after the window. -/
  stop : Float
  /-- Position of the window's first key. -/
  keyIndex : Nat
  /-- What the window blends. -/
  piece : Piece
  /-- The version of the key list the window was made from. -/
  version : Nat
  /-- How many windows were made. -/
  recomputes : Nat

/-- The window of a new animator: empty, so the first evaluation makes one. -/
def Window.initial (k : Kind) : Window := ⟨0, 0, 0, 0, 0, .hold (Value.rest k), 0, 0⟩

/-- How far `time` is from `start` to `stop`, limited to `[0, 1]`, as a binary32 float. -/
def segmentT (time start stop : Float) : Float32 :=
  let r := (time - start) / (stop - start)
  let r := if r < 0 then 0 else if r > 1 then 1 else r
  r.toFloat32

/-- The value of a piece at `time`, between the window's times. -/
def Window.eval (w : Window) (time : Float) : Value :=
  match w.piece with
  | .hold v => v
  | .linear a b => Value.lerp a b (segmentT time w.start w.stop)
  | .spline p0 p1 p2 p3 => Value.spline p0 p1 p2 p3 (segmentT time w.start w.stop)

/-- The smallest frame. -/
def Frame.min : Frame := Int32.ofInt (-2147483648)

/-- The largest frame. -/
def Frame.max : Frame := Int32.ofInt 2147483647

/-- From position `i`, moves right while the key there is on a frame before `f` and a key
follows. -/
def seekForward {α : Type} (keys : List (Key α)) (f : Frame) (i : Nat) : Nat :=
  if h : i + 1 < keys.length then
    if f > (keys.get ⟨i, by omega⟩).frame then seekForward keys f (i + 1) else i
  else i
termination_by keys.length - i

/-- From position `j`, moves left to the first key on a frame at or before `f`; `none` when
every key from `j` down is after `f`. -/
def seekBack {α : Type} (keys : List (Key α)) (f : Frame) : Nat → Option Nat
  | 0 =>
    match keys[0]? with
    | some k => if k.frame ≤ f then some 0 else none
    | none => none
  | j + 1 =>
    match keys[j + 1]? with
    | some k => if k.frame ≤ f then some (j + 1) else seekBack keys f j
    | none => none

/-- The position of the last key at or before frame `f`, searching from position `from`. -/
def seekKey {α : Type} (keys : List (Key α)) (f : Frame) (start : Nat) : Option Nat :=
  seekBack keys f (seekForward keys f (min start (keys.length - 1)))

/-- The value at position `i`, or `d` past the end. -/
def valueAt (keys : List (Key Value)) (i : Nat) (d : Value) : Value :=
  ((keys[i]?).map (·.value)).getD d

/-- The window for frame `f` of a key list, searching from position `start`. -/
def makeWindow (k : Kind) (l : KeyList Value) (f : Frame) (start recomputes : Nat) : Window :=
  let keys := l.keys
  let n := keys.length
  let d := Value.rest k
  let recomputes := recomputes + 1
  match keys.head? with
  | none => ⟨Frame.min, Frame.max, -(1 / 0), 1 / 0, 0, .hold d, l.version, recomputes⟩
  | some k0 =>
    match seekKey keys f start with
    | none =>
      ⟨Frame.min, k0.frame, -(1 / 0), toSeconds k0.frame, 0, .hold k0.value, l.version, recomputes⟩
    | some i =>
      match keys[i]?, keys[i + 1]? with
      | some k1, some k2 =>
        let piece : Piece := match k1.ease with
          | .steep => .hold k1.value
          | .linear => .linear k1.value k2.value
          | .spline =>
            let prev := i - 1
            let next := if n - 1 ≤ i + 1 then n - 1 else i + 2
            .spline (valueAt keys prev d) k1.value k2.value (valueAt keys next d)
          | .closedSpline =>
            let prev := if i < 1 then n - 2 else i - 1
            let next := if n - 1 ≤ i + 1 then 1 else i + 2
            .spline (valueAt keys prev d) k1.value k2.value (valueAt keys next d)
        ⟨k1.frame, k2.frame, toSeconds k1.frame, toSeconds k2.frame, i, piece, l.version,
          recomputes⟩
      | some k1, none =>
        ⟨k1.frame, Frame.max, toSeconds k1.frame, 1 / 0, i, .hold k1.value, l.version, recomputes⟩
      | none, _ => ⟨Frame.min, Frame.max, -(1 / 0), 1 / 0, 0, .hold d, l.version, recomputes⟩

/-- An animator. -/
structure Animator where
  /-- The path of the property it writes. -/
  target : String
  /-- The animation it belongs to; `none` is the default animation. -/
  animation : Option String := none
  /-- Whether `apply` writes. -/
  enabled : Bool := true
  /-- The kind of its values. -/
  kind : Kind
  /-- Its keys. -/
  keys : KeyList Value := {}
  /-- The name of the key list, shared with the animators that read the same list. -/
  listId : Nat
  /-- Its binding. -/
  binding : BindingState := .unbound
  /-- The segment it evaluated last. -/
  window : Window := Window.initial kind

/-- What `apply` did. -/
inductive ApplyStatus where
  /-- The value was written. -/
  | written
  /-- The animator is disabled. -/
  | disabled
  /-- The animator is inert from an earlier failed binding. -/
  | zombie
  /-- This call failed to bind; the animator is now inert. -/
  | bindFailed (f : BindFailure)

/-- A trigger key that fired: the property it targets and how far past the frame's start the
time was. -/
structure FiredTrigger where
  /-- The target property. -/
  property : String
  /-- Seconds past the start of the frame. -/
  correction : Float

namespace Animator

/-- A new animator for a property, over a key list named `listId`. -/
def new (target : String) (kind : Kind) (keys : KeyList Value) (listId : Nat) : Animator :=
  { target := target, kind := kind, keys := keys, listId := listId }

/-- Makes the next evaluation make a new window; the rest of the window stays. -/
def resetCache (a : Animator) : Animator := { a with window := { a.window with lo := 0, hi := 0 } }

/-- The value at `time`, through the window. -/
def sample (a : Animator) (time : Float) : Animator × Value :=
  let f := toFrame time
  let w := a.window
  let a :=
    if f < w.lo || f ≥ w.hi || w.version != a.keys.version then
      { a with window := makeWindow a.kind a.keys f w.keyIndex w.recomputes }
    else a
  (a, a.window.eval time)

/-- Whether the animator is bound to a property whose writes signal the owner. -/
def isTriggerable (a : Animator) : Bool :=
  match a.binding with
  | .bound b => b.triggerable
  | _ => false

/-- Whether the animator is inert. -/
def isZombie (a : Animator) : Bool :=
  match a.binding with
  | .zombie _ => true
  | _ => false

/-- Whether the animator is bound. -/
def isBound (a : Animator) : Bool :=
  match a.binding with
  | .bound _ => true
  | _ => false

/-- Forgets the binding, and the inert state. -/
def unbind (a : Animator) : Animator := { a with binding := .unbound }

/-- Points the animator at another property, which it binds anew. -/
def retarget (a : Animator) (path : String) : Animator := { a with target := path }.unbind

/-- Writes the value at `time` into the target, binding first if needed. -/
def apply {τ : Type} [Target τ] (a : Animator) (time : Float) (t : τ) : Animator × τ × ApplyStatus :=
  if !a.enabled then (a, t, .disabled)
  else
    let write (a : Animator) (b : Binding) : Animator × τ × ApplyStatus :=
      let (a, v) := a.sample time
      (a, Target.write t b.handle b.index v, .written)
    match a.binding with
    | .zombie _ => (a, t, .zombie)
    | .bound b => write a b
    | .unbound =>
      match bind t a.target a.kind with
      | .error f => ({ a with binding := .zombie f }, t, .bindFailed f)
      | .ok b => write { a with binding := .bound b } b

/-- Fires when the animator is enabled and bound to a triggerable property and the key of its
window sits exactly on `frame`. -/
def trigger? (a : Animator) (frame : Frame) (correction : Float) : Option FiredTrigger :=
  if a.enabled && a.isTriggerable &&
      ((a.keys.get? a.window.keyIndex).map (·.frame) == some frame) then
    some ⟨a.target, correction⟩
  else none

/-- Edits the keys: the window is reset and the animator gets a list of its own, named
`fresh`. -/
def editKeys {β : Type} (a : Animator) (fresh : Nat) (f : KeyList Value → KeyList Value × β) :
    Animator × β :=
  let (keys, r) := f a.keys
  ({ a.resetCache with keys := keys, listId := fresh }, r)

/-- Reads the keys of another list, named `listId`; the window is reset. -/
def shareKeys (a : Animator) (keys : KeyList Value) (listId : Nat) : Animator :=
  { a.resetCache with keys := keys, listId := listId }

/-- A copy that reads the same key list, unbound and with a new window. -/
def clone (a : Animator) : Animator :=
  { a with binding := .unbound, window := Window.initial a.kind }

/-- The frame of the last key. -/
def duration (a : Animator) : Frame := a.keys.lastFrame

/-- The window's times. -/
def interval (a : Animator) : Float × Float := (a.window.start, a.window.stop)

end Animator

end Timeline

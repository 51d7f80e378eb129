import Timeline.Track.Animator
import Timeline.Playback.Error

/-!
# Animator collections

The animators of one node, in order, at most one per pair of target path and animation id.
Adding an animator for a taken pair replaces the one there, in place; otherwise it goes last.
-/

namespace Timeline

/-- The animators of a node. -/
structure Collection where
  /-- The animators, in order. -/
  animators : List Animator := []

/-- Whether an animator is the one for a path and an animation. -/
def Animator.owns (a : Animator) (path : String) (animation : Option String) : Bool :=
  a.target == path && a.animation == animation

namespace Collection

/-- The position of the animator for a path and an animation. -/
def position? (c : Collection) (path : String) (animation : Option String) : Option Nat :=
  c.animators.findIdx? (Animator.owns · path animation)

/-- Adds an animator, replacing the one for its pair; returns the replaced one. -/
def add (c : Collection) (a : Animator) : Collection × Option Animator :=
  match c.position? a.target a.animation with
  | some i => (⟨c.animators.set i a⟩, c.animators[i]?)
  | none => (⟨c.animators ++ [a]⟩, none)

/-- The animator for a path and an animation. -/
def find? (c : Collection) (path : String) (animation : Option String) : Option Animator :=
  c.animators.find? (Animator.owns · path animation)

/-- Changes the animator for a path and an animation with `f`; `none` when there is none. -/
def modify? {β : Type} (c : Collection) (path : String) (animation : Option String)
    (f : Animator → Animator × β) : Option (Collection × β) :=
  match c.position? path animation with
  | some i =>
    match c.animators[i]? with
    | some a => let (a', r) := f a; some (⟨c.animators.set i a'⟩, r)
    | none => none
  | none => none

/-- The animator for a path and an animation, added empty for kind `kind` under the list name
`fresh` when there is none; fails when the one there has another kind. -/
def findOrAdd (c : Collection) (path : String) (animation : Option String) (kind : Kind)
    (fresh : Nat) : Except PlaybackError (Collection × Nat) :=
  let (c, i) := match c.position? path animation with
    | some i => (c, i)
    | none =>
      (⟨c.animators ++ [{ Animator.new path kind {} fresh with animation := animation }]⟩,
        c.animators.length)
  match c.animators[i]? with
  | some a =>
    if a.kind = kind then .ok (c, i)
    else .error (.invalidKeys path
      ("existing animator is " ++ a.kind.title ++ ", requested " ++ kind.title))
  | none => .ok (c, i)

/-- Removes the animator for a path and an animation and returns it. -/
def remove (c : Collection) (path : String) (animation : Option String) :
    Collection × Option Animator :=
  match c.position? path animation with
  | some i => (⟨c.animators.eraseIdx i⟩, c.animators[i]?)
  | none => (c, none)

/-- The number of animators. -/
def size (c : Collection) : Nat := c.animators.length

/-- A copy whose animators read the same key lists and start unbound. -/
def sharedClone (c : Collection) : Collection := ⟨c.animators.map Animator.clone⟩

/-- Forgets every binding. -/
def unbindAll (c : Collection) : Collection := ⟨c.animators.map Animator.unbind⟩

end Collection

end Timeline

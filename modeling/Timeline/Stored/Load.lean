import Timeline.Stored.Basic
import Timeline.Playback.Node

/-!
# Building nodes from stored nodes

`StoredNode.build` makes a live node around an object: the animations in order, each with its
markers added one by one, then the animators in order, each replacing an earlier one for the
same path and animation. An animator's keys are pushed in order after two checks per key: the
frame is not negative and the value has the animator's kind. Animators start unbound, so tracks
naming missing properties load. Each animator gets a key list of its own, named by a fresh
number counted up from `next`.

`Node.toStored` gives the authored part of a node back.
-/

namespace Timeline

/-- An animator of a stored animator, over the key list named `listId`. -/
def StoredAnimator.build (a : StoredAnimator) (listId : Nat) : Except PlaybackError Animator := do
  let invalid (reason : String) : PlaybackError := .invalidKeys a.target reason
  let some kind := a.resolvedKind | throw (invalid "empty track without a kind")
  let keys ← a.keys.foldlM
    (fun (l : KeyList Value) k =>
      if k.frame < 0 then throw (invalid ("negative frame " ++ toString k.frame.toInt))
      else if k.value.kind ≠ kind then
        throw (invalid ("frame " ++ toString k.frame.toInt ++ ": expected " ++ kind.title ++
          ", found " ++ k.value.kind.title))
      else pure (l.push k))
    {}
  pure { Animator.new a.target kind keys listId with animation := a.animation, enabled := a.enabled }

/-- An animator of kind `kind` over the keys of a stored animator, pushed in order without
checks; it belongs to the stored animation and is enabled as stored. -/
def StoredAnimator.assemble (a : StoredAnimator) (kind : Kind) (listId : Nat) : Animator :=
  { Animator.new a.target kind (KeyList.ofKeys a.keys) listId with
    animation := a.animation, enabled := a.enabled }

/-- Builds a node around `object`; key lists are named from `next` on, and the next free name is
returned with the node. -/
def StoredNode.build {τ : Type} (s : StoredNode) (object : τ) (next : Nat) :
    Except PlaybackError (Node τ × Nat) := do
  let node : Node τ := { object := object, id := s.id, trigger := s.trigger }
  let node ← s.animations.foldlM
    (fun n a => n.addAnimation { id := a.id, markers := MarkerList.ofList a.markers }) node
  s.animators.foldlM
    (fun (n, next) a => do
      let x ← a.build next
      pure ({ n with animators := (n.animators.add x).1 }, next + 1))
    (node, next)

/-- The keys of an animator, for storing. -/
def Animator.toStored (a : Animator) : StoredAnimator :=
  { target := a.target, animation := a.animation, enabled := a.enabled, kind := some a.kind,
    keys := a.keys.keys }

/-- The authored part of a node. -/
def Node.toStored {τ : Type} (n : Node τ) : StoredNode :=
  { id := n.id, trigger := n.trigger,
    animations := n.animations.map fun a => ⟨a.id, a.markers.markers⟩,
    animators := n.animators.animators.map Animator.toStored }

end Timeline

import Timeline.Key.Codec
import Timeline.Marker.Codec

/-!
# Stored nodes

The authored part of a node as a document: its id, trigger text, animations with their
markers, and animators with their keys. Time, running state and bindings are not stored; they
are made anew when a node is built from the document.

Every member except an animator's target may be left out. When written, an absent id,
animation id or kind and an empty trigger text are left out.
-/

namespace Timeline

open Timeline.Json

/-- A stored animation. -/
structure StoredAnimation where
  /-- Its id; `none` is the default animation. -/
  id : Option String := none
  /-- Its markers, as written. -/
  markers : List Marker := []
  deriving DecidableEq

/-- A stored animator. -/
structure StoredAnimator where
  /-- The path of its property. -/
  target : String
  /-- Its animation. -/
  animation : Option String := none
  /-- Whether it writes. -/
  enabled : Bool := true
  /-- The kind of its values, when given. -/
  kind : Option Kind := none
  /-- Its keys, as written. -/
  keys : List (Key Value) := []
  deriving DecidableEq

/-- A stored node. -/
structure StoredNode where
  /-- Its id. -/
  id : Option String := none
  /-- Its trigger text. -/
  trigger : String := ""
  /-- Its animations. -/
  animations : List StoredAnimation := []
  /-- Its animators. -/
  animators : List StoredAnimator := []
  deriving DecidableEq

/-- The kind of a stored animator: the given one, or that of its first key. -/
def StoredAnimator.resolvedKind (a : StoredAnimator) : Option Kind :=
  match a.kind with
  | some k => some k
  | none => a.keys.head?.map (·.value.kind)

/-- A member that is written only when present. -/
def memberIf (name : String) : Option Doc → List (String × Doc)
  | some d => [(name, d)]
  | none => []

/-- A stored animation as a document. -/
def StoredAnimation.toDoc (a : StoredAnimation) : Doc :=
  .obj (memberIf "id" (a.id.map .str) ++ [("markers", .arr (a.markers.map Marker.toDoc))])

/-- A stored animator as a document. -/
def StoredAnimator.toDoc (a : StoredAnimator) : Doc :=
  .obj ([("targetProperty", .str a.target)] ++ memberIf "animationId" (a.animation.map .str) ++
    [("enabled", .bool a.enabled)] ++ memberIf "kind" (a.kind.map Kind.toDoc) ++
    [("keys", .arr (a.keys.map (Key.toDoc Value.toDoc)))])

/-- A stored node as a document. -/
def StoredNode.toDoc (n : StoredNode) : Doc :=
  .obj (memberIf "id" (n.id.map .str) ++
    memberIf "trigger" (if n.trigger.isEmpty then none else some (.str n.trigger)) ++
    [("animations", .arr (n.animations.map StoredAnimation.toDoc)),
     ("animators", .arr (n.animators.map StoredAnimator.toDoc))])

/-- A member of a record that may be left out, read into an optional slot of the draft. -/
def optionalMember {σ α : Type} (name : String) (r : Reader α) (get : σ → Option α)
    (put : σ → α → σ) : Member σ :=
  { name := name
    read := fun s => do let v ← r; pure (put s v)
    present := fun s => (get s).isSome
    defaulted := true }

/-- Reads a stored animation. -/
def StoredAnimation.reader : Reader StoredAnimation :=
  readRecord "StoredAnimation"
    [optionalMember "id" (readOption readString) (·.1) (fun s v => (some v, s.2)),
     optionalMember "markers" (readSeq Marker.reader) (·.2) (fun s v => (s.1, some v))]
    ((none, none) : Option (Option String) × Option (List Marker))
    fun (id, markers) => .ok ⟨id.getD none, markers.getD []⟩

/-- The members of a stored animator read so far. -/
structure AnimatorDraft where
  /-- The target path. -/
  target : Option String := none
  /-- The animation. -/
  animation : Option (Option String) := none
  /-- Whether it writes. -/
  enabled : Option Bool := none
  /-- The kind. -/
  kind : Option (Option Kind) := none
  /-- The keys. -/
  keys : Option (List (Key Value)) := none

/-- Reads a stored animator. -/
def StoredAnimator.reader : Reader StoredAnimator :=
  readRecord "StoredAnimator"
    [{ name := "targetProperty"
       read := fun s => do let v ← readString; pure { s with target := some v }
       present := fun s => s.target.isSome
       defaulted := false },
     optionalMember "animationId" (readOption readString) (·.animation)
       (fun s v => { s with animation := some v }),
     optionalMember "enabled" readBool (·.enabled) (fun s v => { s with enabled := some v }),
     optionalMember "kind" (readOption Kind.reader) (·.kind) (fun s v => { s with kind := some v }),
     optionalMember "keys" (readSeq (Key.reader Value.reader)) (·.keys)
       (fun s v => { s with keys := some v })]
    ({} : AnimatorDraft)
    fun s => match s.target with
      | some t => .ok ⟨t, s.animation.getD none, s.enabled.getD true, s.kind.getD none, s.keys.getD []⟩
      | none => .error (missingField "targetProperty")

/-- The members of a stored node read so far. -/
structure NodeDraft where
  /-- The id. -/
  id : Option (Option String) := none
  /-- The trigger text. -/
  trigger : Option String := none
  /-- The animations. -/
  animations : Option (List StoredAnimation) := none
  /-- The animators. -/
  animators : Option (List StoredAnimator) := none

/-- Reads a stored node. -/
def StoredNode.reader : Reader StoredNode :=
  readRecord "StoredNode"
    [optionalMember "id" (readOption readString) (·.id) (fun s v => { s with id := some v }),
     optionalMember "trigger" readString (·.trigger) (fun s v => { s with trigger := some v }),
     optionalMember "animations" (readSeq StoredAnimation.reader) (·.animations)
       (fun s v => { s with animations := some v }),
     optionalMember "animators" (readSeq StoredAnimator.reader) (·.animators)
       (fun s v => { s with animators := some v })]
    ({} : NodeDraft)
    fun s => .ok ⟨s.id.getD none, s.trigger.getD "", s.animations.getD [], s.animators.getD []⟩

end Timeline

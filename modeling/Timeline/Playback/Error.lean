/-!
# Playback errors

The errors of looking up animations and markers by name and of loading stored nodes. Each has
a kind name and a message; optional animation ids are shown as `<default>` when absent.
-/

namespace Timeline

/-- An error of a playback request. -/
inductive PlaybackError where
  /-- A named animation does not exist on the node. -/
  | animationNotFound (node animation : String)
  /-- A marker does not exist in the animation. -/
  | markerNotFound (node animation marker : String)
  /-- An animation id is taken. -/
  | duplicateAnimation (id : String)
  /-- Keys do not fit the animator they are meant for. -/
  | invalidKeys (path reason : String)
  /-- A stored node could not be loaded. -/
  | stored (message : String)
  deriving DecidableEq, Repr

/-- The label of an optional animation id. -/
def animationLabel : Option String → String
  | some id => id
  | none => "<default>"

namespace PlaybackError

/-- The name of the kind of an error. -/
def name : PlaybackError → String
  | .animationNotFound _ _ => "AnimationNotFound"
  | .markerNotFound _ _ _ => "MarkerNotFound"
  | .duplicateAnimation _ => "DuplicateAnimation"
  | .invalidKeys _ _ => "InvalidKeys"
  | .stored _ => "Stored"

/-- The message of an error. -/
def message : PlaybackError → String
  | .animationNotFound node a => "animation '" ++ a ++ "' not found on node '" ++ node ++ "'"
  | .markerNotFound node a m =>
    "marker '" ++ m ++ "' not found in animation '" ++ a ++ "' on node '" ++ node ++ "'"
  | .duplicateAnimation id => "duplicate animation id '" ++ id ++ "'"
  | .invalidKeys path reason => "invalid keys for '" ++ path ++ "': " ++ reason
  | .stored m => "stored node: " ++ m

end PlaybackError

end Timeline

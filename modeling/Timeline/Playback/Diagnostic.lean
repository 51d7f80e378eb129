import Timeline.Track.Binding

/-!
# Diagnostics

Conditions playback tolerates without failing: an animator that could not bind, a marker
named by a jump or a trigger that does not exist, a malformed trigger token, and the jump limit
of one advance. A node reports them only while reporting is switched on; otherwise they are
dropped.
-/

namespace Timeline

/-- A tolerated condition. -/
inductive Diagnostic where
  /-- An animator could not bind to its property. -/
  | bindingFailed (path : String) (failure : BindFailure)
  /-- A marker named by a jump or a trigger does not exist. -/
  | markerNotFound (animation : Option String) (marker : String)
  /-- A trigger token could not be read. -/
  | malformedTrigger (token : String)
  /-- An advance stopped following jumps after `jumps` of them. -/
  | jumpLimitReached (animation : Option String) (jumps : Nat)
  deriving DecidableEq

/-- Where diagnostics go: a log that records while it is enabled. -/
structure Reporter where
  /-- Whether conditions are recorded. -/
  enabled : Bool := false
  /-- What was recorded, oldest first. -/
  log : List Diagnostic := []
  deriving DecidableEq

/-- Records a condition when enabled. -/
def Reporter.emit (r : Reporter) (d : Diagnostic) : Reporter :=
  if r.enabled then { r with log := r.log ++ [d] } else r

/-- Records conditions in order. -/
def Reporter.emitAll (r : Reporter) (ds : List Diagnostic) : Reporter := ds.foldl Reporter.emit r

end Timeline

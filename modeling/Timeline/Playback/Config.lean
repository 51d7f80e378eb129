import Timeline.Json.Decode

/-!
# Playback settings

Two settings shared by every animation of a node: how many jump markers one `advance` follows
(further crossings wait for the next tick), and whether starting an animation writes its
animators at once. In JSON both members may be left out, and then take their defaults.
-/

namespace Timeline

open Timeline.Json

/-- Playback settings of a node. -/
structure Config where
  /-- Jumps followed within one advance. -/
  maxJumpsPerAdvance : UInt32 := 8
  /-- Whether a run writes the animation's animators at once. -/
  applyOnRun : Bool := true
  deriving DecidableEq, Repr

namespace Config

/-- The settings as a document. -/
def toDoc (c : Config) : Doc :=
  .obj [("maxJumpsPerAdvance", .int c.maxJumpsPerAdvance.toNat), ("applyOnRun", .bool c.applyOnRun)]

/-- Reads settings; missing members take their defaults and unknown ones are skipped. -/
def reader : Reader Config :=
  readRecord "Config"
    [{ name := "maxJumpsPerAdvance"
       read := fun s => do let n ← readUInt32; pure (some n, s.2)
       present := fun s => s.1.isSome
       defaulted := true },
     { name := "applyOnRun"
       read := fun s => do let b ← readBool; pure (s.1, some b)
       present := fun s => s.2.isSome
       defaulted := true }]
    ((none, none) : Option UInt32 × Option Bool)
    fun (n, b) => .ok { maxJumpsPerAdvance := n.getD 8, applyOnRun := b.getD true }

end Config

end Timeline

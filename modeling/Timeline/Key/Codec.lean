import Timeline.Key.Basic
import Timeline.Value.Codec

/-!
# Keys in JSON

A key is written `{"frame": f, "value": v, "function": curve}`; the curve may be left out and
is then `linear`. A key list is written as the array of its keys; reading one pushes the keys
in order, so keys out of order are put in place and a later key on a taken frame replaces the
earlier one.
-/

namespace Timeline

open Timeline.Json

/-- A curve as a document. -/
def Ease.toDoc (e : Ease) : Doc := .str e.name

/-- Reads a curve written as its name. -/
def Ease.reader : Reader Ease := do
  let i ← readVariant Ease.names
  pure (Ease.all.getD i .linear)

/-- A key whose value is written by `value`. -/
def Key.toDoc {α : Type} (value : α → Doc) (k : Key α) : Doc :=
  .obj [("frame", .int k.frame.toInt), ("value", value k.value), ("function", k.ease.toDoc)]

/-- The members of a key read so far. -/
structure KeyDraft (α : Type) where
  /-- The frame. -/
  frame : Option Frame := none
  /-- The value. -/
  value : Option α := none
  /-- The curve. -/
  ease : Option Ease := none

/-- Reads a key whose value is read by `value`. -/
def Key.reader {α : Type} (value : Reader α) : Reader (Key α) :=
  readRecord "Keyframe"
    [{ name := "frame"
       read := fun s => do let f ← readInt32; pure { s with frame := some f }
       present := fun s => s.frame.isSome
       defaulted := false },
     { name := "value"
       read := fun s => do let v ← value; pure { s with value := some v }
       present := fun s => s.value.isSome
       defaulted := false },
     { name := "function"
       read := fun s => do let e ← Ease.reader; pure { s with ease := some e }
       present := fun s => s.ease.isSome
       defaulted := true }]
    ({} : KeyDraft α)
    fun s => match s.frame, s.value with
      | some f, some v => .ok ⟨f, v, s.ease.getD .linear⟩
      | none, _ => .error (missingField "frame")
      | _, none => .error (missingField "value")

/-- Reads a key list of kind `k`, its values in the plain form. -/
def KeyList.reader (k : Kind) : Reader (KeyList Value) :=
  KeyList.ofKeys <$> readSeq (Key.reader (Value.readPlain k))

end Timeline

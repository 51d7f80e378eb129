import Timeline.Marker
import Timeline.Json.Decode

/-!
# Markers in JSON

A marker is written `{"id", "frame", "action", "jumpTo"}`. The action may be left out and is
then `play`; the jump target is written only when there is one. A marker list is written as the
array of its markers, and read back as that array, as written: reading neither sorts the markers
nor drops repeated ids.
-/

namespace Timeline

open Timeline.Json

/-- An action as a document. -/
def MarkerAction.toDoc (a : MarkerAction) : Doc := .str a.name

/-- Reads an action written as its name. -/
def MarkerAction.reader : Reader MarkerAction := do
  let i ← readVariant MarkerAction.names
  pure (MarkerAction.all.getD i .play)

/-- A marker as a document; the jump target only when there is one. -/
def Marker.toDoc (m : Marker) : Doc :=
  .obj ([("id", .str m.id), ("frame", .int m.frame.toInt), ("action", m.action.toDoc)] ++
    match m.jumpTo with
    | some t => [("jumpTo", .str t)]
    | none => [])

/-- The members of a marker read so far. -/
structure MarkerDraft where
  /-- The id. -/
  id : Option String := none
  /-- The frame. -/
  frame : Option Frame := none
  /-- The action. -/
  action : Option MarkerAction := none
  /-- The jump target, once read. -/
  jumpTo : Option (Option String) := none

/-- Reads a marker. -/
def Marker.reader : Reader Marker :=
  readRecord "Marker"
    [{ name := "id"
       read := fun s => do let v ← readString; pure { s with id := some v }
       present := fun s => s.id.isSome
       defaulted := false },
     { name := "frame"
       read := fun s => do let f ← readInt32; pure { s with frame := some f }
       present := fun s => s.frame.isSome
       defaulted := false },
     { name := "action"
       read := fun s => do let a ← MarkerAction.reader; pure { s with action := some a }
       present := fun s => s.action.isSome
       defaulted := true },
     { name := "jumpTo"
       read := fun s => do let t ← readOption readString; pure { s with jumpTo := some t }
       present := fun s => s.jumpTo.isSome
       defaulted := true }]
    ({} : MarkerDraft)
    fun s => match s.id, s.frame with
      | some id, some f => .ok ⟨id, f, s.action.getD .play, s.jumpTo.getD none⟩
      | none, _ => .error (missingField "id")
      | _, none => .error (missingField "frame")

/-- Reads a marker list as the array of its markers, kept in the order and with the ids they are
written with. -/
def MarkerList.reader : Reader MarkerList := MarkerList.mk <$> readSeq Marker.reader

end Timeline

import Timeline.Time

/-!
# Markers

A marker names a frame of an animation and says what playback does on crossing it: go on
(`play`), stop there (`stop`), or continue from another marker (`jump`). A `MarkerList` keeps
markers in non-decreasing frame order with distinct ids: adding a marker removes the first one
with its id, then inserts it after every marker on a frame at or before its own.
-/

namespace Timeline

/-- What crossing a marker does. -/
inductive MarkerAction where
  | play
  | stop
  | jump
  deriving DecidableEq, Repr

/-- The document names of the actions. -/
def MarkerAction.names : List String := ["play", "stop", "jump"]

/-- Every action, in the order of `MarkerAction.names`. -/
def MarkerAction.all : List MarkerAction := [.play, .stop, .jump]

/-- The document name of an action. -/
def MarkerAction.name : MarkerAction → String
  | .play => "play"
  | .stop => "stop"
  | .jump => "jump"

/-- The name of an action in debugging text. -/
def MarkerAction.title : MarkerAction → String
  | .play => "Play"
  | .stop => "Stop"
  | .jump => "Jump"

/-- A named frame of an animation. -/
structure Marker where
  /-- Its id, unique in its list. -/
  id : String
  /-- Its frame. -/
  frame : Frame
  /-- What crossing it does. -/
  action : MarkerAction := .play
  /-- The marker a jump continues from. -/
  jumpTo : Option String := none
  deriving DecidableEq, Repr

/-- A marker that playback goes through. -/
def Marker.play (id : String) (frame : Frame) : Marker := ⟨id, frame, .play, none⟩

/-- A marker where playback stops. -/
def Marker.stop (id : String) (frame : Frame) : Marker := ⟨id, frame, .stop, none⟩

/-- A marker where playback continues from marker `target`. -/
def Marker.jump (id : String) (frame : Frame) (target : String) : Marker :=
  ⟨id, frame, .jump, some target⟩

/-- Markers in non-decreasing frame order with distinct ids. -/
structure MarkerList where
  /-- The markers. -/
  markers : List Marker := []
  deriving DecidableEq, Repr

namespace MarkerList

/-- Adds a marker: the first one with its id goes, and it is inserted after every marker on a
frame at or before its own. -/
def add (l : MarkerList) (m : Marker) : MarkerList :=
  let rest := l.markers.eraseP (·.id == m.id)
  let i := (rest.takeWhile (·.frame ≤ m.frame)).length
  ⟨rest.insertIdx i m⟩

/-- The markers added one by one. -/
def ofList (ms : List Marker) : MarkerList := ms.foldl add {}

/-- The marker with an id. -/
def find? (l : MarkerList) (id : String) : Option Marker := l.markers.find? (·.id == id)

/-- The first marker on a frame. -/
def atFrame? (l : MarkerList) (f : Frame) : Option Marker := l.markers.find? (·.frame == f)

/-- The first marker after every marker on a frame at or before `after`, if its frame is at most
`upTo`. -/
def firstInRange? (l : MarkerList) (after upTo : Frame) : Option Marker :=
  match l.markers.dropWhile (·.frame ≤ after) with
  | m :: _ => if m.frame ≤ upTo then some m else none
  | [] => none

/-- Removes the marker with an id and returns it. -/
def remove (l : MarkerList) (id : String) : MarkerList × Option Marker :=
  match l.markers.findIdx? (·.id == id) with
  | some i => (⟨l.markers.eraseIdx i⟩, l.markers[i]?)
  | none => (l, none)

/-- The number of markers. -/
def size (l : MarkerList) : Nat := l.markers.length

/-- The number of markers on a frame after `f`. -/
def laterCount (l : MarkerList) (f : Frame) : Nat := (l.markers.filter (f < ·.frame)).length

end MarkerList

/-- The head of what `dropWhile` leaves is a member of the list that fails the test. -/
theorem head_of_dropWhile_eq_cons {α : Type} (p : α → Bool) (l : List α) (m : α) (rest : List α)
    (h : l.dropWhile p = m :: rest) : m ∈ l ∧ p m = false := by
  induction l with
  | nil => simp at h
  | cons x xs ih =>
    cases hp : p x
    · simp only [List.dropWhile, hp, List.cons.injEq] at h
      obtain ⟨rfl, _⟩ := h
      exact ⟨List.mem_cons_self, hp⟩
    · simp only [List.dropWhile, hp] at h
      exact ⟨List.mem_cons_of_mem _ (ih h).1, (ih h).2⟩

/-- The marker `firstInRange?` finds is in the list, after `after`. -/
theorem MarkerList.firstInRange?_spec (l : MarkerList) (after upTo : Frame) (m : Marker)
    (h : l.firstInRange? after upTo = some m) : m ∈ l.markers ∧ after < m.frame := by
  unfold MarkerList.firstInRange? at h
  split at h
  · rename_i m' rest hd
    have hm := head_of_dropWhile_eq_cons _ _ _ _ hd
    split at h
    · cases h
      refine ⟨hm.1, ?_⟩
      have := hm.2
      simp only [decide_eq_false_iff_not] at this
      exact Int32.not_le.mp this
    · cases h
  · cases h

/-- Fewer markers lie after a later frame. -/
theorem filter_after_mono (l : List Marker) (a b : Frame) (hab : a < b) :
    (l.filter (b < ·.frame)).length ≤ (l.filter (a < ·.frame)).length := by
  induction l with
  | nil => simp
  | cons x xs ih =>
    simp only [List.filter_cons]
    by_cases hb : b < x.frame
    · have ha : a < x.frame := Int32.lt_trans hab hb
      simp [hb, ha, ih]
    · by_cases ha : a < x.frame
      · simp [hb, ha]; omega
      · simp [hb, ha, ih]

/-- Strictly fewer markers lie after the frame of a marker than after an earlier frame. -/
theorem MarkerList.laterCount_lt (l : MarkerList) (a : Frame) (m : Marker) (hm : m ∈ l.markers)
    (h : a < m.frame) : l.laterCount m.frame < l.laterCount a := by
  unfold MarkerList.laterCount
  generalize l.markers = xs at hm
  induction xs with
  | nil => simp at hm
  | cons x xs ih =>
    simp only [List.filter_cons]
    rcases List.mem_cons.mp hm with rfl | hm'
    · have hmono := filter_after_mono xs a m.frame h
      simp [Int32.lt_irrefl, h]
      omega
    · have := ih hm'
      by_cases hb : m.frame < x.frame
      · have ha : a < x.frame := Int32.lt_trans h hb
        simp [hb, ha]; omega
      · by_cases ha : a < x.frame
        · simp [hb, ha]; omega
        · simp [hb, ha]; omega

end Timeline

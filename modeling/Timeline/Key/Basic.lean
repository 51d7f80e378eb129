import Timeline.Time

/-!
# Keys and key lists

A key puts a value on a frame, with the curve (`Ease`) that leads from it to the next key. A
`KeyList` holds keys in strictly increasing frame order, one per frame, and counts the changes
made to it in `version`.

Every insertion (`push`, `insert`) counts one change: a key on a new frame goes in at its place,
a key on a taken frame replaces the key there. Replacing the value of the key at a position
(`setAt`), removing one (`eraseIdx`, `eraseFrame`) and emptying the list (`clear`) count one
change when they find something to change, and none otherwise.
-/

namespace Timeline

/-- How a segment moves from its key to the next one. -/
inductive Ease where
  /-- Hold the key's value until the next key. -/
  | steep
  /-- Move in a straight line. -/
  | linear
  /-- Catmull-Rom through the neighbouring keys, the ends clamped. -/
  | spline
  /-- Catmull-Rom with the list read as a loop. -/
  | closedSpline
  deriving DecidableEq, Repr

/-- The document names of the curves. -/
def Ease.names : List String := ["steep", "linear", "spline", "closedSpline"]

/-- Every curve, in the order of `Ease.names`. -/
def Ease.all : List Ease := [.steep, .linear, .spline, .closedSpline]

/-- The document name of a curve. -/
def Ease.name : Ease → String
  | .steep => "steep"
  | .linear => "linear"
  | .spline => "spline"
  | .closedSpline => "closedSpline"

/-- A value on a frame. -/
structure Key (α : Type) where
  /-- The frame. -/
  frame : Frame
  /-- The value. -/
  value : α
  /-- The curve to the next key. -/
  ease : Ease := .linear
  deriving DecidableEq

/-- Keys in strictly increasing frame order, with a count of changes. -/
structure KeyList (α : Type) where
  /-- The keys. -/
  keys : List (Key α) := []
  /-- The number of changes made. -/
  version : Nat := 0
  deriving DecidableEq

namespace KeyList

variable {α : Type}

/-- The position where a key on frame `f` belongs: after every key on an earlier frame. -/
def slot (l : KeyList α) (f : Frame) : Nat := (l.keys.takeWhile (·.frame < f)).length

/-- Inserts a key at its place, replacing a key on the same frame. -/
def insert (l : KeyList α) (k : Key α) : KeyList α :=
  let i := l.slot k.frame
  let keys := match l.keys[i]? with
    | some old => if old.frame = k.frame then l.keys.set i k else l.keys.insertIdx i k
    | none => l.keys.insertIdx i k
  { keys := keys, version := l.version + 1 }

/-- Appends a key after the last one, or inserts it at its place when it does not come after
the last key. -/
def push (l : KeyList α) (k : Key α) : KeyList α :=
  match l.keys.getLast? with
  | some last => if k.frame ≤ last.frame then l.insert k
    else { keys := l.keys ++ [k], version := l.version + 1 }
  | none => { keys := [k], version := l.version + 1 }

/-- The list of keys pushed one by one. -/
def ofKeys (ks : List (Key α)) : KeyList α := ks.foldl push {}

/-- The key on frame `f`. -/
def atFrame? (l : KeyList α) (f : Frame) : Option (Key α) := l.keys.find? (·.frame = f)

/-- The key at position `i`. -/
def get? (l : KeyList α) (i : Nat) : Option (Key α) := l.keys[i]?

/-- Replaces the value and curve of the key at position `i`, keeping its frame. -/
def setAt (l : KeyList α) (i : Nat) (v : α) (e : Ease) : KeyList α × Bool :=
  match l.keys[i]? with
  | some k => ({ keys := l.keys.set i { k with value := v, ease := e }, version := l.version + 1 },
      true)
  | none => (l, false)

/-- Removes the key at position `i`. -/
def eraseIdx (l : KeyList α) (i : Nat) : KeyList α × Option (Key α) :=
  match l.keys[i]? with
  | some k => ({ keys := l.keys.eraseIdx i, version := l.version + 1 }, some k)
  | none => (l, none)

/-- Removes the key on frame `f`. -/
def eraseFrame (l : KeyList α) (f : Frame) : KeyList α × Option (Key α) :=
  match l.keys.findIdx? (·.frame = f) with
  | some i => l.eraseIdx i
  | none => (l, none)

/-- Removes every key. -/
def clear (l : KeyList α) : KeyList α :=
  if l.keys.isEmpty then l else { keys := [], version := l.version + 1 }

/-- The frame of the last key, zero for an empty list. -/
def lastFrame (l : KeyList α) : Frame := (l.keys.getLast?.map (·.frame)).getD 0

/-- The number of keys. -/
def size (l : KeyList α) : Nat := l.keys.length

/-- The first key frame at or after `f`. -/
def nextFrame? (l : KeyList α) (f : Frame) : Option Frame :=
  (l.keys.map (·.frame)).find? (f ≤ ·)

end KeyList

end Timeline

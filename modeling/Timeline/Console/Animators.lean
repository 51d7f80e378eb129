import Timeline.Console.Objects

/-!
# Scripted animators

A workshop holds animators in numbered places, with one bag they write to. Cloning an animator
puts the copy in a new place, reading the same key list; dropping one empties its place for
good. An animator's `refs` is the number of animators in the workshop reading its key list.

Every command names the place of the animator it acts on. Most answer their result with a view
of that animator; comparing key lists and commands on the bag answer differently.
-/

namespace Timeline.Console

open Timeline.Json

/-- Animators in numbered places, and the bag they write to. -/
structure Workshop where
  /-- The places; an empty place held an animator that was dropped. -/
  places : List (Option Animator) := []
  /-- The bag. -/
  bag : Bag := {}
  /-- The next unused key list name. -/
  next : Nat := 0

/-- A command on an animator. -/
inductive AnimatorCommand where
  | sample (time : Float)
  | apply (time : Float)
  | trigger (frame : Frame) (correction : Float)
  | push (k : Key Value)
  | insert (k : Key Value)
  | setAt (index : Nat) (v : Value) (ease : Ease)
  | remove (index : Nat)
  | removeAtFrame (frame : Frame)
  | clear
  | get (index : Nat)
  | getAtFrame (frame : Frame)
  | nextKeyFrame (start : Frame)
  | unbind
  | resetCache
  | setEnabled (enabled : Bool)
  | setTarget (path : String)
  | clone
  | drop
  | shareFrom (source : Nat)
  | inspect
  | setAnimation (animation : Option String)
  | describe (start : Frame)
  | sameKeys (other : Nat)
  | bag (c : BagCommand)

namespace Workshop

/-- The animator in a place. -/
def get? (w : Workshop) (i : Nat) : Option Animator := (w.places[i]?).bind id

/-- Puts an animator in a place. -/
def put (w : Workshop) (i : Nat) (a : Animator) : Workshop := { w with places := w.places.set i (some a) }

/-- The number of animators reading the key list named `listId`. -/
def refs (w : Workshop) (listId : Nat) : Nat :=
  (w.places.filter fun p => (p.map (·.listId == listId)).getD false).length

/-- The number of animators. -/
def live (w : Workshop) : Nat := (w.places.filter Option.isSome).length

/-- Adds an animator in a new place, reading a new key list. -/
def add (w : Workshop) (a : Animator) : Workshop :=
  { w with places := w.places ++ [some { a with listId := w.next }], next := w.next + 1 }

/-- A view of an animator. -/
def view (w : Workshop) (a : Animator) : Doc :=
  let (lo, hi) := a.interval
  .obj [("keys", .arr (a.keys.keys.map keyView)), ("version", .int a.keys.version),
    ("refs", .int (w.refs a.listId)), ("duration", .int a.duration.toInt),
    ("recomputes", .int a.window.recomputes), ("interval", .arr [.float lo, .float hi]),
    ("binding", bindingStateView a.binding), ("target", .str a.target),
    ("enabled", .bool a.enabled), ("animators", .int w.live)]

/-- The status of an apply. -/
def statusView : ApplyStatus → Doc
  | .written => .str "written"
  | .disabled => .str "disabled"
  | .zombie => .str "zombie"
  | .bindFailed f => .obj [("bind_failed", failureView f)]

/-- Edits the keys of an animator, giving it a key list of its own. -/
def edit {β : Type} (w : Workshop) (i : Nat) (a : Animator)
    (f : KeyList Value → KeyList Value × β) : Workshop × β :=
  let (a, r) := a.editKeys w.next f
  ({ w.put i a with next := w.next + 1 }, r)

/-- Runs a command on the animator in place `i`, with its result. -/
def step (w : Workshop) (i : Nat) (a : Animator) : AnimatorCommand → Workshop × Doc
  | .sample t => let (a, v) := a.sample t; (w.put i a, v.toDoc)
  | .apply t =>
    let (a, b, s) := a.apply t w.bag
    let w := { w.put i a with bag := b }
    (w, .obj [("status", statusView s), ("slots", slotsView w.bag), ("writes", .int w.bag.writes)])
  | .trigger f c =>
    (w, .arr ((a.trigger? f c).toList.map fun t =>
      .obj [("property", .str t.property), ("correction", .float t.correction)]))
  | .push k => ((w.edit i a fun l => (l.push k, ())).1, .null)
  | .insert k => ((w.edit i a fun l => (l.insert k, ())).1, .null)
  | .setAt j v e => let (w, ok) := w.edit i a (·.setAt j v e); (w, .bool ok)
  | .remove j => let (w, k) := w.edit i a (·.eraseIdx j); (w, Doc.opt keyView k)
  | .removeAtFrame f => let (w, k) := w.edit i a (·.eraseFrame f); (w, Doc.opt keyView k)
  | .clear => ((w.edit i a fun l => (l.clear, ())).1, .null)
  | .get j => (w, Doc.opt keyView (a.keys.get? j))
  | .getAtFrame f => (w, Doc.opt keyView (a.keys.atFrame? f))
  | .nextKeyFrame f => (w, Doc.opt (fun f => .int f.toInt) (a.keys.nextFrame? f))
  | .unbind => (w.put i a.unbind, .null)
  | .resetCache => (w.put i a.resetCache, .null)
  | .setEnabled e => (w.put i { a with enabled := e }, .null)
  | .setTarget p => (w.put i (a.retarget p), .null)
  | .clone => ({ w with places := w.places ++ [some a.clone] }, .null)
  | .drop => ({ w with places := w.places.set i none }, .null)
  | .shareFrom j =>
    match w.get? j with
    | some src => (w.put i (a.shareKeys src.keys src.listId), .null)
    | none => (w, .null)
  | .inspect =>
    (w, .obj [("animation", .optStr a.animation), ("is_zombie", .bool a.isZombie),
      ("is_bound", .bool a.isBound), ("state_is_zombie", .bool a.isZombie),
      ("is_triggerable", .bool a.isTriggerable), ("keys_empty", .bool (a.keys.size == 0)),
      ("key_count", .int a.keys.size)])
  | .setAnimation id => (w.put i { a with animation := id }, .null)
  | .describe f =>
    (w, .obj [("target", .str a.target), ("animation", .optStr a.animation),
      ("enabled", .bool a.enabled), ("kind", a.kind.toDoc), ("duration", .int a.duration.toInt),
      ("key_count", .int a.keys.size), ("refs", .int (w.refs a.listId)),
      ("binding", bindingStateView a.binding), ("is_triggerable", .bool a.isTriggerable),
      ("next_key_frame", Doc.opt (fun f => .int f.toInt) (a.keys.nextFrame? f)),
      ("value_keys", .arr (a.keys.keys.map keyView))])
  | .sameKeys j => (w, .bool (((w.get? j).map (·.listId == a.listId)).getD false))
  | .bag c => let (b, r) := c.run w.bag; ({ w with bag := b }, r)

/-- Runs a command on the animator in place `i` and answers it: the result with a view of the
animator, or the bare result when comparing key lists, or the result with the slots and writes
of the bag for a bag command. -/
def answer (w : Workshop) (i : Nat) (c : AnimatorCommand) : Workshop × Doc :=
  match w.get? i with
  | none => (w, .obj [("result", .null), ("animator", .null)])
  | some a =>
    let (w, r) := w.step i a c
    match c with
    | .sameKeys _ => (w, .obj [("result", r)])
    | .bag _ => (w, .obj [("result", r), ("slots", slotsView w.bag), ("writes", .int w.bag.writes)])
    | _ => (w, .obj [("result", r), ("animator", Doc.opt w.view (w.get? i))])

end Workshop

/-- Runs commands, each on the animator in the place it names. -/
def animatorSession (w : Workshop) : List (Nat × AnimatorCommand) → List Doc
  | [] => []
  | (i, c) :: cs => let (w, d) := w.answer i c; d :: animatorSession w cs

end Timeline.Console

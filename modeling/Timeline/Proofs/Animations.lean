import Timeline.Proofs.Lifecycle
import Timeline.Proofs.StoredForm

/-!
# The animations of a node

A node keeps its animations in a list, unique by id, and a count of the running ones that it
refreshes after its own operations. The node's operations change that list in few ways: an
animation is changed in its slot by an edit that keeps its id, the default animation is made,
empty and stopped, at the end when it is missing, an animation is added at the end under an id
no other has, or one is removed. An attribute that an edit keeps is therefore kept by the whole
change, up to the empty animation added at the end (`Node.modify?_map`, `Node.withDefault_map`).

A start from a marker either succeeds, and then changes exactly the animation it names, or
fails and leaves the node as it was, except that asking for the default animation makes it when
it is missing (`Node.startStage_of_failed`). `run` is the start with no correction whose failure
names what was missing (`Node.run_eq_tryRun`).

Two invariants follow. The ids stay distinct under every call on the animations as a collection
(`Node.performAll_animationsLawful`). The running flags change only where the count is refreshed
afterwards, so the count of a node built by its own operations is exact, and an advance that
returns early because nothing runs does what the full advance would do
(`Node.Reachable.runningCount_exact`).
-/

namespace Timeline

namespace Node

variable {τ β γ : Type}

/-! ## Changes that keep an attribute of every animation -/

section Attribute

variable (g : Animation → γ) {f : Animation → Animation × β}

/-- Changing an animation in its slot by an edit that keeps an attribute keeps that attribute of
every animation. -/
theorem modify?_map (hf : ∀ a, g (f a).1 = g a) {n : Node τ} {id : Option String}
    {r : Node τ × β} (h : n.modify? id f = some r) :
    r.1.animations.map g = n.animations.map g := by
  cases hd : n.find? id with
  | none =>
    rw [modify?_of_find?_none f hd] at h
    cases h
  | some a =>
    obtain ⟨i, hi, hget⟩ := findIdx?_of_find? hd
    rw [modify?_eq_some f hi hget] at h
    cases h
    exact List.map_set_of_getElem? g hget (hf a)

/-- Changing the default animation by an edit that keeps an attribute keeps that attribute of
every animation; when the default animation was missing, it comes last with the attribute of an
empty animation. -/
theorem withDefault_map (hf : ∀ a, g (f a).1 = g a) (n : Node τ) :
    (n.withDefault f).1.animations.map g =
      n.animations.map g ++ if (n.find? none).isSome then [] else [g {}] := by
  cases hd : n.find? none with
  | none =>
    unfold withDefault
    rw [modify?_of_find?_none f hd]
    simp [hf]
  | some a =>
    obtain ⟨i, hi, hget⟩ := findIdx?_of_find? hd
    have hm := modify?_eq_some f hi hget
    unfold withDefault
    rw [hm]
    simpa using modify?_map g hf hm

end Attribute

/-! ## Starts that fail -/

section Start

variable (marker : String) (c : Float)

/-- A start that fails leaves the animation as it was. -/
theorem startFrom_of_failed {a : Animation} (h : (startFrom marker c a).2 = false) :
    (startFrom marker c a).1 = a := by
  unfold startFrom at h ⊢
  cases ha : a.tryRun marker c with
  | none => rfl
  | some a' =>
    rw [ha] at h
    cases h

/-- A start that fails leaves the node as it was, except that asking for the default animation
makes it, empty and stopped, when it is missing. -/
theorem startStage_of_failed {n : Node τ} {id : Option String}
    (h : (n.startStage marker id c).2 = false) :
    (n.startStage marker id c).1 = n ∨
      id = none ∧ n.find? none = none ∧
        (n.startStage marker id c).1 = { n with animations := n.animations ++ [{}] } := by
  rcases startStage_cases marker c n id with
    ⟨a, i, -, -, hget, hs⟩ | ⟨-, -, hs⟩ | ⟨hn, hid, hs⟩
  · rw [hs] at h ⊢
    left
    rw [startFrom_of_failed marker c h, List.set_of_getElem? hget]
  · exact .inl (by rw [hs])
  · exact .inr ⟨hid, hid ▸ hn, by rw [hs]⟩

end Start

/-- The error of a start by `run` that fails: the named animation is missing, or else the
marker is. -/
def runError (n : Node τ) (marker : String) (id : Option String) : PlaybackError :=
  match id, n.find? id with
  | some name, none => .animationNotFound n.label name
  | _, _ => .markerNotFound n.label (animationLabel id) marker

/-- The start `run` makes is the start with no correction, failing with the error that names
what is missing. -/
theorem runStage_eq (n : Node τ) (marker : String) (id : Option String) :
    n.runStage marker id =
      ((n.startStage marker id 0).1,
        if (n.startStage marker id 0).2 then .ok () else .error (n.runError marker id)) := by
  unfold runStage startStage
  cases hd : n.find? id with
  | none =>
    cases id with
    | none =>
      -- the default animation is made empty, and an empty animation has no marker
      unfold withDefault
      rw [modify?_of_find?_none _ hd, modify?_of_find?_none _ hd]
      simp [Animation.run, startFrom, Animation.tryRun, MarkerList.find?, runError]
    | some name =>
      rw [modify?_of_find?_none _ hd, modify?_of_find?_none _ hd]
      simp [runError, hd]
  | some a =>
    obtain ⟨i, hi, hget⟩ := findIdx?_of_find? hd
    have hid := find?_id hd
    cases id with
    | none =>
      unfold withDefault
      rw [modify?_eq_some _ hi hget, modify?_eq_some _ hi hget]
      unfold Animation.run startFrom
      cases a.tryRun marker 0 <;> simp [runError, hid]
    | some name =>
      rw [modify?_eq_some _ hi hget, modify?_eq_some _ hi hget]
      unfold Animation.run startFrom
      cases a.tryRun marker 0 <;> simp [runError, hd, hid]

/-- `run` is `tryRun` with no correction; when it fails, its error names the missing animation
or marker. -/
theorem run_eq_tryRun [Target τ] (n : Node τ) (marker : String) (id : Option String) :
    n.run marker id =
      ((n.tryRun marker id 0).1,
        if (n.tryRun marker id 0).2 then .ok () else .error (n.runError marker id)) := by
  rw [run_eq, runStage_eq, tryRun_eq]
  by_cases h : (n.startStage marker id 0).2 = true <;> simp [h]

/-! ## Distinct ids -/

/-- No two animations of a node share an id, the default animation's included. -/
def IdsDistinct (n : Node τ) : Prop := (n.animations.map (·.id)).Nodup

/-- A node lacks an id exactly when none of its animations has it. -/
theorem find?_eq_none_iff (n : Node τ) (id : Option String) :
    n.find? id = none ↔ id ∉ n.animations.map (·.id) := by
  simp [Node.find?, List.find?_eq_none]

namespace IdsDistinct

variable {n : Node τ} {f : Animation → Animation × β}

/-- Changing an animation in its slot, keeping its id, keeps the ids distinct. -/
theorem modify? (h : n.IdsDistinct) (hf : ∀ a, (f a).1.id = a.id) {id : Option String}
    {r : Node τ × β} (hr : n.modify? id f = some r) : r.1.IdsDistinct := by
  unfold IdsDistinct
  rw [modify?_map (·.id) hf hr]
  exact h

/-- Changing the default animation, keeping its id, keeps the ids distinct: it is made only when
no animation has the default id. -/
theorem withDefault (h : n.IdsDistinct) (hf : ∀ a, (f a).1.id = a.id) :
    (n.withDefault f).1.IdsDistinct := by
  unfold IdsDistinct at h ⊢
  rw [withDefault_map (·.id) hf n]
  cases hd : n.find? none with
  | some a => simpa using h
  | none =>
    rw [if_neg (by simp), ← List.concat_eq_append]
    exact h.concat ((find?_eq_none_iff n none).mp hd)

/-- A start keeps the ids distinct. -/
theorem startStage (h : n.IdsDistinct) (marker : String) (id : Option String) (c : Float) :
    (n.startStage marker id c).1.IdsDistinct := by
  unfold Node.startStage
  cases id with
  | none => exact h.withDefault (startFrom_id marker c)
  | some name =>
    cases hm : n.modify? (some name) (startFrom marker c) with
    | none => exact h
    | some r => exact h.modify? (startFrom_id marker c) hm

/-- Adding an animation whose id is new keeps the ids distinct. -/
theorem addAnimation (h : n.IdsDistinct) {a : Animation} {n' : Node τ}
    (ha : n.addAnimation a = .ok n') : n'.IdsDistinct := by
  unfold Node.addAnimation at ha
  split at ha
  · cases ha
  · rename_i hnew
    cases ha
    have hid : a.id ∉ n.animations.map (·.id) :=
      (find?_eq_none_iff n a.id).mp (by simpa using hnew)
    show (n.animations ++ [a]).map (·.id) |>.Nodup
    rw [List.map_append, List.map_singleton, ← List.concat_eq_append]
    exact List.Nodup.concat hid h

/-- Removing an animation keeps the ids distinct. -/
theorem removeAnimation (h : n.IdsDistinct) (id : Option String) :
    (n.removeAnimation id).1.IdsDistinct := by
  unfold Node.removeAnimation
  split
  · exact List.Nodup.sublist ((List.eraseIdx_sublist n.animations _).map Animation.id) h
  · exact h

end IdsDistinct

/-! ## The animations as a collection -/

/-- Changing the default animation changes it in its slot when there is one. -/
theorem withDefault_of_find? {f : Animation → Animation × β} {n : Node τ} {a : Animation}
    (h : n.find? none = some a) :
    ∃ i, n.animations[i]? = some a ∧
      n.withDefault f = ({ n with animations := n.animations.set i (f a).1 }, (f a).2) := by
  obtain ⟨i, hi, hget⟩ := findIdx?_of_find? h
  refine ⟨i, hget, ?_⟩
  unfold withDefault
  rw [modify?_eq_some f hi hget]

/-- Changing the default animation makes it last when there is none. -/
theorem withDefault_of_find?_none {f : Animation → Animation × β} {n : Node τ}
    (h : n.find? none = none) :
    n.withDefault f = ({ n with animations := n.animations ++ [(f {}).1] }, (f {}).2) := by
  unfold withDefault
  rw [modify?_of_find?_none f h]

/-- Adding an animation fails exactly when its id is taken, and otherwise puts it last. -/
theorem addAnimation_eq (n : Node τ) (a : Animation) :
    n.addAnimation a =
      if (n.find? a.id).isSome then .error (.duplicateAnimation (animationLabel a.id))
      else .ok { n with animations := n.animations ++ [a] } := rfl

section Start

variable [Target τ] {n : Node τ} (marker : String) (id : Option String) (c : Float)

/-- A start keeps the ids distinct: it changes the animation in its slot, and writing it changes
no animation. -/
theorem IdsDistinct.tryRun (h : n.IdsDistinct) : (n.tryRun marker id c).1.IdsDistinct := by
  have hs := h.startStage marker id c
  rw [tryRun_eq]
  split
  · unfold IdsDistinct
    rw [(afterRun_rewritten _ id).animations]
    exact hs
  · exact hs

/-- A start by `run` keeps the ids distinct. -/
theorem IdsDistinct.run (h : n.IdsDistinct) : (n.run marker id).1.IdsDistinct := by
  rw [run_eq_tryRun]
  exact h.tryRun marker id 0

variable {marker id c}

/-- A start that succeeds starts the animation with the id in its slot, from the marker, `c`
seconds past it, with no stopped callback; writing it afterwards changes no animation. -/
theorem tryRun_of_started (h : (n.tryRun marker id c).2 = true) :
    ∃ i a m, n.animations[i]? = some a ∧ a.id = id ∧ a.markers.find? marker = some m ∧
      (n.tryRun marker id c).1.animations =
        n.animations.set i { a with time := toSeconds m.frame + c, runningMarker := some marker,
                                    running := true, onStopped := false } := by
  rw [tryRun_ok, hasMarker] at h
  cases ha : n.find? id with
  | none =>
    rw [ha] at h
    cases h
  | some a =>
    rw [ha] at h
    cases hm : a.markers.find? marker with
    | none => simp [hm] at h
    | some m =>
      obtain ⟨i, hget, hrun⟩ := tryRun_of_hasMarker marker c ha hm
      refine ⟨i, a, m, hget, find?_id ha, hm, ?_⟩
      rw [hrun, (afterRun_rewritten _ id).animations]

/-- A start that fails leaves the node as it was, except that asking for the default animation
makes it, empty and stopped, when it is missing. -/
theorem tryRun_of_failed (h : (n.tryRun marker id c).2 = false) :
    (n.tryRun marker id c).1 = n ∨
      id = none ∧ n.find? none = none ∧
        (n.tryRun marker id c).1 = { n with animations := n.animations ++ [{}] } := by
  rw [tryRun_eq] at h ⊢
  by_cases hs : (n.startStage marker id c).2 = true
  · rw [if_pos hs] at h
    cases h
  · rw [if_neg hs]
    exact startStage_of_failed marker c (by simpa using hs)

end Start

/-- A call on a node's animations as a collection: changing the default animation, made first
when missing; adding or removing an animation; changing the animation with an id, or every
animation, through the animation's own methods; and starting an animation from a marker. -/
inductive AnimationCall where
  | editDefault (edit : Animation → Animation)
  | add (a : Animation)
  | remove (id : Option String)
  | edit (id : Option String) (edit : Animation → Animation)
  | editAll (edit : Animation → Animation)
  | tryRun (marker : String) (id : Option String) (correction : Float)
  | run (marker : String) (id : Option String)

namespace AnimationCall

/-- The edits of a call keep every animation's id, as an animation's own methods do. -/
def KeepsIds : AnimationCall → Prop
  | .editDefault e | .edit _ e | .editAll e => ∀ a, (e a).id = a.id
  | _ => True

/-- Makes a call; an add that fails, or an edit of an animation the node lacks, leaves the node
as it was. -/
def perform [Target τ] : AnimationCall → Node τ → Node τ
  | .editDefault e, n => n.updateDefault e
  | .add a, n =>
    match n.addAnimation a with
    | .ok n' => n'
    | .error _ => n
  | .remove id, n => (n.removeAnimation id).1
  | .edit id e, n => ((n.modify? id fun a => (e a, ())).map (·.1)).getD n
  | .editAll e, n => { n with animations := n.animations.map e }
  | .tryRun marker id correction, n => (n.tryRun marker id correction).1
  | .run marker id, n => (n.run marker id).1

/-- Makes calls in order. -/
def performAll [Target τ] (cs : List AnimationCall) (n : Node τ) : Node τ :=
  cs.foldl (fun n c => c.perform n) n

variable [Target τ]

/-- Every call whose edits keep ids keeps the ids distinct. -/
theorem perform_idsDistinct {n : Node τ} (h : n.IdsDistinct) {c : AnimationCall}
    (hc : c.KeepsIds) : (c.perform n).IdsDistinct := by
  cases c with
  | editDefault e => exact h.withDefault (f := fun a => (e a, ())) hc
  | add a =>
    show (match n.addAnimation a with | .ok n' => n' | .error _ => n).IdsDistinct
    cases ha : n.addAnimation a with
    | ok n' => exact h.addAnimation ha
    | error e => exact h
  | remove id => exact h.removeAnimation id
  | edit id e =>
    show (((n.modify? id fun a => (e a, ())).map (·.1)).getD n).IdsDistinct
    cases hm : n.modify? id fun a => (e a, ()) with
    | none => exact h
    | some r => exact h.modify? (f := fun a => (e a, ())) hc hm
  | editAll e =>
    show ((n.animations.map e).map (·.id)).Nodup
    rw [List.map_map, show (Animation.id ∘ e) = Animation.id from funext hc]
    exact h
  | tryRun marker id correction => exact h.tryRun marker id correction
  | run marker id => exact h.run marker id

/-- Calls whose edits keep ids keep the ids distinct. -/
theorem performAll_idsDistinct {cs : List AnimationCall} (hcs : ∀ c ∈ cs, c.KeepsIds)
    {n : Node τ} (h : n.IdsDistinct) : (performAll cs n).IdsDistinct := by
  induction cs generalizing n with
  | nil => exact h
  | cons c cs ih =>
    exact ih (fun c' hc' => hcs c' (List.mem_cons_of_mem c hc'))
      (perform_idsDistinct h (hcs c List.mem_cons_self))

end AnimationCall

/-- What a node's animations promise as a collection. -/
structure AnimationsLawful [Target τ] (n : Node τ) : Prop where
  /-- No two animations share an id, the default animation's included. -/
  ids : (n.animations.map (·.id)).Nodup
  /-- Access to the default animation changes the one there is in its slot. -/
  defaultKept : ∀ {β : Type} (f : Animation → Animation × β) (a : Animation),
    n.find? none = some a →
      ∃ i, n.animations[i]? = some a ∧ (n.withDefault f).1.animations = n.animations.set i (f a).1
  /-- Access to the default animation makes it, last, only when there is none. -/
  defaultMade : ∀ {β : Type} (f : Animation → Animation × β), n.find? none = none →
    (n.withDefault f).1.animations = n.animations ++ [(f {}).1]
  /-- Adding an animation fails, naming its id, exactly when an animation has that id, and
  otherwise puts it last. -/
  add : ∀ a : Animation,
    (n.addAnimation a = .error (.duplicateAnimation (animationLabel a.id)) ↔
      (n.find? a.id).isSome) ∧
    (n.find? a.id = none → n.addAnimation a = .ok { n with animations := n.animations ++ [a] })
  /-- A start succeeds exactly when the node has the animation and the animation the marker. -/
  starts : ∀ marker id c, (n.tryRun marker id c).2 = n.hasMarker id marker
  /-- A start that fails changes no animation; it only makes the default animation, empty and
  stopped, when that one was asked for and missing. -/
  tryRunFails : ∀ marker id c, (n.tryRun marker id c).2 = false →
    (n.tryRun marker id c).1 = n ∨
      id = none ∧ n.find? none = none ∧
        (n.tryRun marker id c).1 = { n with animations := n.animations ++ [{}] }
  /-- A start that succeeds sets exactly the animation with the id running from the marker,
  `c` seconds past it, and drops its stopped callback. -/
  tryRunStarts : ∀ marker id c, (n.tryRun marker id c).2 = true →
    ∃ i a m, n.animations[i]? = some a ∧ a.id = id ∧ a.markers.find? marker = some m ∧
      (n.tryRun marker id c).1.animations =
        n.animations.set i { a with time := toSeconds m.frame + c, runningMarker := some marker,
                                    running := true, onStopped := false }
  /-- `run` is the start with no correction; when it fails its error names the missing
  animation or marker. -/
  run : ∀ marker id, n.run marker id =
    ((n.tryRun marker id 0).1,
      if (n.tryRun marker id 0).2 then .ok () else .error (n.runError marker id))

/-- Every node whose animations were built by calls on them as a collection, from animations
with distinct ids, keeps its promises. -/
theorem performAll_animationsLawful [Target τ] {cs : List AnimationCall}
    (hcs : ∀ c ∈ cs, c.KeepsIds) {n : Node τ} (hn : (n.animations.map (·.id)).Nodup) :
    (AnimationCall.performAll cs n).AnimationsLawful where
  ids := AnimationCall.performAll_idsDistinct hcs hn
  defaultKept f _ ha := by
    obtain ⟨i, hget, hw⟩ := withDefault_of_find? (f := f) ha
    exact ⟨i, hget, by rw [hw]⟩
  defaultMade f ha := by rw [withDefault_of_find?_none ha]
  add a := by
    rw [addAnimation_eq]
    refine ⟨?_, fun ha => by simp [ha]⟩
    cases (AnimationCall.performAll cs n).find? a.id <;> simp
  starts marker id c := tryRun_ok marker c _ id
  tryRunFails _ _ _ h := tryRun_of_failed h
  tryRunStarts _ _ _ h := tryRun_of_started h
  run marker id := run_eq_tryRun _ marker id

/-- The promises hold after a named animation is added and edited and the default one started
from a marker it lacks. -/
theorem performAll_animationsLawful_walk :
    let cs : List AnimationCall :=
      [.add { id := some "Walk" }, .edit (some "Walk") fun a => { a with time := 1 },
       .tryRun "start" none 0]
    (∀ c ∈ cs, c.KeepsIds) ∧ (([] : List Animation).map (·.id)).Nodup ∧
      (AnimationCall.performAll cs ({ object := {} } : Node Bag)).AnimationsLawful := by
  intro cs
  have hcs : ∀ c ∈ cs, c.KeepsIds := by
    intro c hc
    simp only [cs, List.mem_cons, List.not_mem_nil, or_false] at hc
    rcases hc with rfl | rfl | rfl
    · trivial
    · exact fun a => (rfl : a.id = a.id)
    · trivial
  exact ⟨hcs, List.nodup_nil, performAll_animationsLawful hcs List.nodup_nil⟩

/-! ## The running count -/

/-- The count of running animations is the number of animations that run. -/
def Counted (n : Node τ) : Prop := n.runningCount = (n.animations.filter (·.running)).length

/-- A recount makes the count exact. -/
theorem refresh_counted (n : Node τ) : n.refresh.Counted := rfl

/-- The number of running animations, read off their running flags. -/
theorem length_filter_running (as : List Animation) :
    (as.filter (·.running)).length = (as.map (·.running)).count true := by
  rw [List.count, List.countP_map, ← List.countP_eq_length_filter]
  simp [Function.comp_def]

namespace Counted

variable {n : Node τ}

/-- A change that keeps the count, and the number of running flags, keeps the count exact. -/
theorem of_running (h : n.Counted) {n' : Node τ} (hc : n'.runningCount = n.runningCount)
    (hr : (n'.animations.map (·.running)).count true =
      (n.animations.map (·.running)).count true) :
    n'.Counted := by
  unfold Counted at *
  rw [hc, h, length_filter_running, length_filter_running, hr]

/-- Changing the default animation by an edit that keeps it running or stopped keeps the count
exact: a default animation made on the way is stopped. -/
theorem updateDefault (h : n.Counted) {f : Animation → Animation}
    (hf : ∀ a, (f a).running = a.running) : (n.updateDefault f).Counted := by
  obtain ⟨as, has⟩ := updateDefault_eq n f
  refine h.of_running (by rw [has]) ?_
  show ((n.withDefault fun a => (f a, ())).1.animations.map (·.running)).count true = _
  rw [withDefault_map (·.running) hf n]
  split <;> simp

/-- A start that fails keeps the count exact. -/
theorem startStage_failed (h : n.Counted) {marker : String} {id : Option String} {c : Float}
    (hf : (n.startStage marker id c).2 = false) : (n.startStage marker id c).1.Counted := by
  rcases startStage_of_failed marker c hf with hs | ⟨-, -, hs⟩ <;> rw [hs]
  · exact h
  · exact h.of_running rfl (by simp)

/-- Reporting keeps the count exact. -/
theorem report (h : n.Counted) (ds : List Diagnostic) : (n.report ds).Counted := h

end Counted

section Calls

variable [Target τ]

/-- With nothing counted as running, an advance returns the node as it was. -/
theorem advance_of_zero {n : Node τ} (h0 : n.runningCount = 0) (delta : Float) :
    n.advance delta = n := by
  unfold Node.advance
  rw [if_pos h0]

/-- What follows a successful start ends with a recount. -/
theorem afterRun_counted (n : Node τ) (id : Option String) : (n.afterRun id).Counted :=
  refresh_counted _

/-- Writing one animation's animators keeps the count and the animations. -/
theorem applyAnimation_runningCount (n : Node τ) (id : Option String) :
    (n.applyAnimation id).runningCount = n.runningCount := by
  unfold applyAnimation
  split <;> rfl

namespace Counted

variable {n : Node τ}

/-- Writing an animation's animators keeps the count exact. -/
theorem applyAnimation (h : n.Counted) (id : Option String) : (n.applyAnimation id).Counted :=
  h.of_running (applyAnimation_runningCount n id)
    (by rw [(applyAnimation_rewritten n id).animations])

/-- A start recounts when it succeeds and keeps the count exact when it fails. -/
theorem tryRun (h : n.Counted) (marker : String) (id : Option String) (c : Float) :
    (n.tryRun marker id c).1.Counted := by
  rw [tryRun_eq]
  split
  · exact afterRun_counted _ id
  · rename_i hf
    exact h.startStage_failed (by simpa using hf)

/-- A start by `run` keeps the count exact. -/
theorem run (h : n.Counted) (marker : String) (id : Option String) :
    (n.run marker id).1.Counted := by
  rw [run_eq_tryRun]
  exact h.tryRun marker id 0

/-- Running the tokens of a trigger text keeps the count exact. -/
theorem foldl_runToken (c : Float) (tokens : List TriggerToken) (h : n.Counted) :
    (tokens.foldl (runToken c) n).Counted := by
  induction tokens generalizing n with
  | nil => exact h
  | cons t ts ih =>
    apply ih
    rw [runToken_eq]
    split
    · exact h.tryRun t.marker t.animation c
    · exact (h.tryRun t.marker t.animation c).report _

/-- Handling a fired trigger key keeps the count exact: an empty text recounts, and any other
runs its tokens. -/
theorem handleTrigger (h : n.Counted) (property value : String) (c : Float) :
    (n.handleTrigger property value c).Counted := by
  by_cases hp : property = triggerProperty
  · subst hp
    by_cases hv : value = ""
    · subst hv
      unfold Node.handleTrigger
      rw [if_neg (by simp), if_pos (show "".isEmpty = true from rfl)]
      exact refresh_counted _
    · rw [handleTrigger_tokens c n hv]
      exact foldl_runToken c _ (h.report _)
  · rw [handleTrigger_other c n value hp]
    exact h

/-- An advance either returns at once or ends with a recount. -/
theorem advance (h : n.Counted) (delta : Float) : (n.advance delta).Counted := by
  rcases Nat.eq_zero_or_pos n.runningCount with h0 | hpos
  · rw [advance_of_zero h0]
    exact h
  · rw [advance_eq n delta hpos]
    exact refresh_counted _

end Counted

/-! ## Advancing with nothing running -/

/-- What an advance does past its early return: every animation advanced in turn, the fired keys
handled in firing order, and a recount. -/
def advanceAll (n : Node τ) (delta : Float) : Node τ :=
  ((n.tick delta).fired.foldl handleFired (n.afterTick (n.tick delta))).refresh

/-- Advancing stopped animations only moves them to the done list. -/
theorem Tick.foldl_stopped (delta : Float) (config : Config) {as : List Animation}
    (h : ∀ a ∈ as, a.running = false) (k : Tick τ) :
    as.foldl (Tick.advance delta config) k = { k with done := k.done ++ as } := by
  induction as generalizing k with
  | nil => simp
  | cons a as ih =>
    rw [List.foldl_cons, ih fun b hb => h b (List.mem_cons_of_mem a hb)]
    simp [Tick.advance, Animation.advance, h a List.mem_cons_self]

/-- With the count exact, the early return of an advance does what the full advance does: when
the count is zero no animation runs, so advancing every animation changes nothing. -/
theorem advance_eq_advanceAll {n : Node τ} (h : n.Counted) (delta : Float) :
    n.advance delta = n.advanceAll delta := by
  rcases Nat.eq_zero_or_pos n.runningCount with h0 | hpos
  · have hstopped : ∀ a ∈ n.animations, a.running = false := by
      have hnil : n.animations.filter (·.running) = [] := by
        rw [← List.length_eq_zero_iff, ← h, h0]
      simpa using List.filter_eq_nil_iff.mp hnil
    have htick : n.tick delta = { n.tickStart with done := n.animations } := by
      rw [tick, Tick.foldl_stopped delta n.config hstopped]
      rfl
    rw [advance_of_zero h0, advanceAll, htick]
    -- nothing fired and nothing was reported, and the recount finds the count it had
    have hcount : n.runningCount = (n.animations.filter (·.running)).length := h
    simp only [afterTick, tickStart, report, Reporter.emitAll, refresh, List.append_nil,
      List.foldl_nil, ← hcount]
  · exact advance_eq n delta hpos

end Calls

/-- A shared clone keeps the count and the running flags. -/
theorem Counted.sharedClone {n : Node τ} (h : n.Counted) : n.sharedClone.Counted :=
  h.of_running rfl (by simp [Node.sharedClone, Function.comp_def])

/-- A node built from a stored node has no running animation and a count of zero. -/
theorem counted_of_build {s : StoredNode} {object : τ} {next next' : Nat} {n : Node τ}
    (h : s.build object next = .ok (n, next')) : n.Counted := by
  rw [StoredNode.build_eq, Except.bind_eq_ok_iff] at h
  obtain ⟨node, hnode, hrest⟩ := h
  obtain ⟨-, rfl⟩ := (StoredNode.foldlM_addAnimation_eq_ok_iff _ _ _).mp hnode
  obtain ⟨xs, -, hn⟩ := StoredNode.foldlM_addBuilt_eq_ok hrest
  simp only at hn
  subst hn
  -- loaded animations start stopped
  have hstopped : ∀ a, (StoredNode.animationOf a).running = false := fun a => rfl
  simp [Counted, List.filter_map, Function.comp_def, hstopped]

/-! ## Nodes built by their own methods -/

/-- A call of one of a node's own methods. Direct access to the animations, which leaves the
count stale until a recount, is not among them. -/
inductive NodeMethod where
  | advance (delta : Float)
  | onTrigger (property : String) (correction : Float)
  | tryRun (marker : String) (id : Option String) (correction : Float)
  | run (marker : String) (id : Option String)
  | applyAnimation (id : Option String)
  | setRunning (running : Bool)
  | setTime (time : Float)
  | setFrame (frame : Frame)
  | editMarkers (edit : MarkerList → MarkerList)
  | setOnStopped
  | setTrigger (text : String)
  | setConfig (config : Config)
  | unbind

/-- Makes a call; the edits of markers and the stopped callback act on the default animation,
made first if needed. -/
def NodeMethod.perform [Target τ] : NodeMethod → Node τ → Node τ
  | .advance delta, n => n.advance delta
  | .onTrigger property correction, n => n.onTrigger property correction
  | .tryRun marker id correction, n => (n.tryRun marker id correction).1
  | .run marker id, n => (n.run marker id).1
  | .applyAnimation id, n => n.applyAnimation id
  | .setRunning running, n => n.setRunning running
  | .setTime time, n => n.setTime time
  | .setFrame frame, n => n.setFrame frame
  | .editMarkers edit, n => n.updateDefault fun a => { a with markers := edit a.markers }
  | .setOnStopped, n => n.updateDefault fun a => { a with onStopped := true }
  | .setTrigger text, n => { n with trigger := text }
  | .setConfig config, n => { n with config := config }
  | .unbind, n => n.unbind

/-- Every call of a node's own methods keeps the count exact. -/
theorem Counted.perform [Target τ] {n : Node τ} (h : n.Counted) (c : NodeMethod) :
    (c.perform n).Counted := by
  cases c with
  | advance delta => exact h.advance delta
  | onTrigger property correction => exact h.handleTrigger property n.trigger correction
  | tryRun marker id correction => exact h.tryRun marker id correction
  | run marker id => exact h.run marker id
  | applyAnimation id => exact h.applyAnimation id
  | setRunning running => exact refresh_counted _
  | setTime time => exact h.updateDefault fun a => rfl
  | setFrame frame => exact h.updateDefault fun a => rfl
  | editMarkers edit => exact h.updateDefault fun a => rfl
  | setOnStopped => exact h.updateDefault fun a => rfl
  | setTrigger text => exact h
  | setConfig config => exact h
  | unbind => exact h

/-- The nodes made new around an object or built from a stored node, the shared clones of such
nodes, and what calls of their own methods make of them. -/
inductive Reachable [Target τ] : Node τ → Prop
  | new (object : τ) : Reachable { object := object }
  | build {s : StoredNode} {object : τ} {next next' : Nat} {n : Node τ} :
      s.build object next = .ok (n, next') → Reachable n
  | sharedClone {n : Node τ} : Reachable n → Reachable n.sharedClone
  | call {n : Node τ} (c : NodeMethod) : Reachable n → Reachable (c.perform n)

/-- Every node built by its own methods counts its running animations exactly. -/
theorem Reachable.counted [Target τ] {n : Node τ} (h : n.Reachable) : n.Counted := by
  induction h with
  | new object => rfl
  | build hb => exact counted_of_build hb
  | sharedClone _ ih => exact ih.sharedClone
  | call c _ ih => exact ih.perform c

/-- On every node built by its own methods, the running count is the number of animations that
run, so an advance that returns early because the count is zero does what advancing every
animation would do. -/
theorem Reachable.runningCount_exact [Target τ] {n : Node τ} (h : n.Reachable) :
    n.runningCount = (n.animations.filter (·.running)).length ∧
      ∀ delta, n.advance delta = n.advanceAll delta :=
  ⟨h.counted, advance_eq_advanceAll h.counted⟩

/-- A node started through its own method counts its one running animation. -/
theorem Reachable.runningCount_exact_started :
    let n : Node Bag := (NodeMethod.setRunning true).perform { object := {} }
    n.Reachable ∧ (n.runningCount = (n.animations.filter (·.running)).length ∧
      ∀ delta, n.advance delta = n.advanceAll delta) :=
  have hn : ((NodeMethod.setRunning true).perform ({ object := {} } : Node Bag)).Reachable :=
    .call _ (.new _)
  ⟨hn, Reachable.runningCount_exact hn⟩

end Node

end Timeline

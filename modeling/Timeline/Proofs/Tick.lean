import Mathlib.Tactic.SplitIfs
import Timeline.Playback.Node
import Timeline.Proofs.Crossing

/-!
# A node's tick: every animation advances, then the fired triggers are handled

`Node.advance` first advances the animations one after another (`Node.tick`), each from the
animators and the stage that the animations before it left. Every trigger key an animation fires
is queued with the trigger text as it stands right after that animation's own advance, behind the
keys of the animations before it (`Node.tick_snapshot`). Only then are the queued keys handled,
in firing order, on the node as the whole tick left it, and the running count is refreshed last.

Handling a key does nothing unless its property is the trigger. An empty text restarts the
default animation at the key's correction (`handleTrigger_empty_find?`). Any other text reports
its malformed tokens, in order, and then runs each well-formed token; the node reports a missing
marker for exactly the tokens whose animation or marker the node did not have before the
handling began (`handleTrigger_reports`), since running an animation never adds or removes
markers. A token that runs starts its animation from the marker and writes its animators once
when the settings say so (`Node.tryRun_of_hasMarker`).
-/

namespace Timeline

/-! ## Finding by a key after changing the first match -/

section Lookup

variable {α : Type}

/-- The first match of a search is at the first index the search finds. -/
theorem List.findIdx?_of_find? {xs : List α} {p : α → Bool} {a : α} (h : xs.find? p = some a) :
    ∃ i, xs.findIdx? p = some i ∧ xs[i]? = some a := by
  induction xs with
  | nil => cases h
  | cons x xs ih =>
    by_cases hx : p x
    · rw [List.find?_cons, hx] at h
      cases h
      exact ⟨0, by rw [List.findIdx?_cons, if_pos hx], rfl⟩
    · have hx' : p x = false := by simpa using hx
      rw [List.find?_cons, hx'] at h
      obtain ⟨i, hi, hget⟩ := ih h
      refine ⟨i + 1, ?_, hget⟩
      rw [List.findIdx?_cons, if_neg hx, hi]
      rfl

/-- A search that finds nothing finds no index either. -/
theorem List.findIdx?_of_find?_none {xs : List α} {p : α → Bool} (h : xs.find? p = none) :
    xs.findIdx? p = none :=
  List.findIdx?_eq_none_iff.mpr fun x hx => by simpa using List.find?_eq_none.mp h x hx

/-- Replacing the first element with a key by one with the same key changes the search for
that key only. -/
theorem List.find?_set_first {κ : Type} [DecidableEq κ] (key : α → κ) {xs : List α} {i : Nat}
    {y : α} (hi : xs.findIdx? (key · = key y) = some i) (j : κ) :
    (xs.set i y).find? (key · = j) = if key y = j then some y else xs.find? (key · = j) := by
  induction xs generalizing i with
  | nil => cases hi
  | cons x xs ih =>
    rw [List.findIdx?_cons] at hi
    by_cases hx : key x = key y
    · -- the first element is the one replaced
      rw [if_pos (decide_eq_true hx)] at hi
      cases hi
      rw [List.set_cons_zero, List.find?_cons, List.find?_cons]
      by_cases hyj : key y = j
      · simp [hyj]
      · have hxj : ¬ key x = j := hx ▸ hyj
        simp [hyj, hxj]
    · rw [if_neg (by simpa using hx)] at hi
      obtain ⟨i', hi', rfl⟩ := Option.map_eq_some_iff.mp hi
      rw [List.set_cons_succ, List.find?_cons, List.find?_cons, ih hi']
      by_cases hxj : key x = j
      · have hyj : ¬ key y = j := fun h => hx (hxj.trans h.symm)
        simp [hxj, hyj]
      · simp [hxj]

/-- Setting an element to the one already there changes nothing. -/
theorem List.set_of_getElem? {l : List α} {i : Nat} {a : α} (h : l[i]? = some a) :
    l.set i a = l := by
  obtain ⟨hi, rfl⟩ := List.getElem?_eq_some_iff.mp h
  exact List.set_getElem_self hi

/-- Setting an element to one with the same image keeps the image of the list. -/
theorem List.map_set_of_getElem? {β : Type} (g : α → β) {l : List α} {i : Nat} {a b : α}
    (h : l[i]? = some a) (hb : g b = g a) : (l.set i b).map g = l.map g := by
  rw [List.map_set, hb]
  exact List.set_of_getElem? (by simp [h])

end Lookup

/-! ## Recording conditions -/

/-- Recording keeps a reporter enabled or disabled. -/
@[simp] theorem Reporter.emitAll_enabled (r : Reporter) (ds : List Diagnostic) :
    (r.emitAll ds).enabled = r.enabled := by
  induction ds generalizing r with
  | nil => rfl
  | cons d ds ih =>
    show ((r.emit d).emitAll ds).enabled = r.enabled
    rw [ih]
    unfold Reporter.emit
    split <;> rfl

/-- Recording appends the conditions to the log when the reporter is enabled. -/
theorem Reporter.emitAll_log (r : Reporter) (ds : List Diagnostic) :
    (r.emitAll ds).log = r.log ++ if r.enabled then ds else [] := by
  induction ds generalizing r with
  | nil => simp [Reporter.emitAll]
  | cons d ds ih =>
    show ((r.emit d).emitAll ds).log = _
    rw [ih]
    unfold Reporter.emit
    by_cases hr : r.enabled <;> simp [hr]

/-- `r'` is `r` after recording, besides failed bindings, exactly the conditions `L` in order:
the old log is kept, and what is appended, failed bindings left out, is `L` when `r` is enabled
and nothing otherwise. -/
def Reporter.Records (r r' : Reporter) (L : List Diagnostic) : Prop :=
  r'.enabled = r.enabled ∧
    ∃ new, r'.log = r.log ++ new ∧
      new.filter (!·.isBindingFailure) = if r.enabled then L else []

theorem Reporter.Records.refl (r : Reporter) : r.Records r [] :=
  ⟨rfl, [], by simp⟩

/-- Recording is recording its conditions other than failed bindings. -/
theorem Reporter.Records.emitAll (r : Reporter) (ds : List Diagnostic) :
    r.Records (r.emitAll ds) (ds.filter (!·.isBindingFailure)) := by
  refine ⟨Reporter.emitAll_enabled r ds, if r.enabled then ds else [], Reporter.emitAll_log r ds, ?_⟩
  cases r.enabled <;> simp

/-- Recording in two rounds records both lists, in order. -/
theorem Reporter.Records.trans {r r' r'' : Reporter} {L L' : List Diagnostic}
    (h : r.Records r' L) (h' : r'.Records r'' L') : r.Records r'' (L ++ L') := by
  obtain ⟨hen, new, hlog, hnew⟩ := h
  obtain ⟨hen', new', hlog', hnew'⟩ := h'
  refine ⟨hen'.trans hen, new ++ new', by rw [hlog', hlog, List.append_assoc], ?_⟩
  rw [List.filter_append, hnew, hnew', hen]
  cases r.enabled <;> simp

/-- Recording only failed bindings records nothing else. -/
theorem Reporter.Records.of_bindings (r : Reporter) {ds : List Diagnostic}
    (hds : ∀ d ∈ ds, d.isBindingFailure) : r.Records (r.emitAll ds) [] := by
  have h := Reporter.Records.emitAll r ds
  rwa [List.filter_eq_nil_iff.mpr fun d hd => by simp [hds d hd]] at h

/-- The missing marker a trigger token reports. -/
def TriggerToken.missing (token : TriggerToken) : Diagnostic :=
  .markerNotFound token.animation token.marker

namespace Node

variable {τ : Type}

/-- `n'` is `n` after writing animators: the animations and the settings are the same, and what
is recorded on the way are failed bindings only. -/
structure Rewritten (n n' : Node τ) : Prop where
  animations : n'.animations = n.animations
  config : n'.config = n.config
  reporter : ∃ ds, (∀ d ∈ ds, d.isBindingFailure) ∧ n'.reporter = n.reporter.emitAll ds

theorem Rewritten.refl (n : Node τ) : Rewritten n n := ⟨rfl, rfl, [], by simp, rfl⟩

/-- Recounting the running animations changes nothing a rewrite keeps. -/
theorem Rewritten.refresh {n n' : Node τ} (h : Rewritten n n') : Rewritten n n'.refresh :=
  ⟨h.animations, h.config, h.reporter⟩

/-- Writing one animation's animators is a rewrite. -/
theorem applyAnimation_rewritten [Target τ] (n : Node τ) (id : Option String) :
    Rewritten n (n.applyAnimation id) := by
  unfold applyAnimation
  split
  · exact Rewritten.refl n
  · rename_i a _
    let p := a.applyAnimators n.animators (Stage.mk n.object n.trigger)
    exact ⟨rfl, rfl, p.diagnostics, Animation.applyAll_diagnostics _ _ _ _, rfl⟩

/-- What follows a start is a rewrite. -/
theorem afterRun_rewritten [Target τ] (n : Node τ) (id : Option String) :
    Rewritten n (n.afterRun id) := by
  unfold afterRun
  split
  · exact (applyAnimation_rewritten n id).refresh
  · exact (Rewritten.refl n).refresh

/-- Whether the node has the animation with an id, and that animation has the marker. -/
def hasMarker (n : Node τ) (id : Option String) (marker : String) : Bool :=
  ((n.find? id).bind (·.markers.find? marker)).isSome

/-- The animation found for an id sits at the first index with that id. -/
theorem findIdx?_of_find? {n : Node τ} {id : Option String} {a : Animation}
    (h : n.find? id = some a) :
    ∃ i, n.animations.findIdx? (·.id = id) = some i ∧ n.animations[i]? = some a :=
  List.findIdx?_of_find? (show n.animations.find? (·.id = id) = some a from h)

/-- The animation found for an id has that id. -/
theorem find?_id {n : Node τ} {id : Option String} {a : Animation} (h : n.find? id = some a) :
    a.id = id := by
  have hfound := List.find?_some (show n.animations.find? (·.id = id) = some a from h)
  simpa using hfound

/-! ## Changing one animation -/

section Change

variable {β : Type} (f : Animation → Animation × β)

/-- Changing the animation with an id replaces it in its slot. -/
theorem modify?_eq_some {n : Node τ} {id : Option String} {i : Nat} {a : Animation}
    (hi : n.animations.findIdx? (·.id = id) = some i) (hget : n.animations[i]? = some a) :
    n.modify? id f = some ({ n with animations := n.animations.set i (f a).1 }, (f a).2) := by
  unfold modify?
  simp only [hi, hget]

/-- Changing an animation the node does not have fails. -/
theorem modify?_of_find?_none {n : Node τ} {id : Option String} (h : n.find? id = none) :
    n.modify? id f = none := by
  unfold modify?
  rw [List.findIdx?_of_find?_none (show n.animations.find? (·.id = id) = none from h)]

/-- After an animation is replaced in its slot by one with its id, finding that id gives the new
one and finding any other id gives what it gave before. -/
theorem find?_set {n : Node τ} {id : Option String} {i : Nat} {a' : Animation}
    (hi : n.animations.findIdx? (·.id = id) = some i) (hid : a'.id = id) (j : Option String) :
    ({ n with animations := n.animations.set i a' } : Node τ).find? j =
      if j = id then some a' else n.find? j := by
  subst hid
  have h := List.find?_set_first Animation.id hi j
  simp only [eq_comm (a := a'.id) (b := j)] at h
  exact h

variable {f}

/-- Changing the default animation, made first when missing, gives it in place of the old one
(or of a new one) and leaves the other animations. -/
theorem withDefault_find? (n : Node τ) (hf : ∀ a, (f a).1.id = a.id) (j : Option String) :
    (n.withDefault f).1.find? j =
      if j = none then some (f ((n.find? none).getD {})).1 else n.find? j := by
  cases hd : n.find? none with
  | none =>
    -- the new default animation goes last, where only a search for the default id reaches it
    unfold withDefault
    rw [modify?_of_find?_none f hd]
    show (n.animations ++ [(f {}).1]).find? (·.id = j) = _
    rw [List.find?_append]
    by_cases hj : j = none
    · subst hj
      have hnone : n.animations.find? (·.id = none) = none := hd
      simp [hnone, hf]
    · have hnew : (f {}).1.id ≠ j := by rw [hf]; exact Ne.symm hj
      simp [hj, hnew]
      rfl
  | some a =>
    obtain ⟨i, hi, hget⟩ := findIdx?_of_find? hd
    unfold withDefault
    rw [modify?_eq_some f hi hget]
    exact find?_set hi ((hf a).trans (find?_id hd)) j

end Change

/-! ## Running from a marker -/

/-- Starting an animation from a marker, `correction` seconds past it, and whether it started. -/
def startFrom (marker : String) (correction : Float) (a : Animation) : Animation × Bool :=
  match a.tryRun marker correction with
  | some a => (a, true)
  | none => (a, false)

/-- The start `tryRun` makes before writing: the node with the animation started, and whether
it started. -/
def startStage (n : Node τ) (marker : String) (id : Option String) (correction : Float) :
    Node τ × Bool :=
  match id with
  | none => n.withDefault (startFrom marker correction)
  | some _ => (n.modify? id (startFrom marker correction)).getD (n, false)

section Start

variable (marker : String) (c : Float)

/-- The animation a start gives keeps its id. -/
@[simp] theorem startFrom_id (a : Animation) : (startFrom marker c a).1.id = a.id := by
  unfold startFrom Animation.tryRun
  cases a.markers.find? marker <;> rfl

/-- The animation a start gives keeps its markers. -/
@[simp] theorem startFrom_markers (a : Animation) :
    (startFrom marker c a).1.markers = a.markers := by
  unfold startFrom Animation.tryRun
  cases a.markers.find? marker <;> rfl

/-- A start succeeds exactly when the animation has the marker. -/
theorem startFrom_snd (a : Animation) :
    (startFrom marker c a).2 = (a.markers.find? marker).isSome := by
  unfold startFrom Animation.tryRun
  cases a.markers.find? marker <;> rfl

/-- A start from a marker the animation has sets it running, `c` seconds past the marker. -/
theorem startFrom_of_find? {a : Animation} {m : Marker} (h : a.markers.find? marker = some m) :
    startFrom marker c a =
      ({ a with time := toSeconds m.frame + c, runningMarker := some marker, running := true,
                onStopped := false }, true) := by
  unfold startFrom Animation.tryRun
  rw [h]
  rfl

end Start

/-- The markers of the animation with an id; none when there is no such animation. -/
def markersOf (n : Node τ) (id : Option String) : MarkerList :=
  ((n.find? id).map (·.markers)).getD {}

/-- A node has a marker of an animation exactly when the markers of that animation hold it. -/
theorem hasMarker_eq (n : Node τ) (id : Option String) (marker : String) :
    n.hasMarker id marker = ((n.markersOf id).find? marker).isSome := by
  unfold hasMarker markersOf
  cases n.find? id <;> rfl

/-- `tryRun` starts the animation, then writes it when it started. -/
theorem tryRun_eq (n : Node τ) [Target τ] (marker : String) (id : Option String) (c : Float) :
    n.tryRun marker id c =
      if (n.startStage marker id c).2 then ((n.startStage marker id c).1.afterRun id, true)
      else ((n.startStage marker id c).1, false) := by
  unfold tryRun startStage
  cases id with
  | none => rfl
  | some name =>
    -- the change is written inline in `tryRun`, so each side is rewritten on its own
    cases hd : n.find? (some name) with
    | none =>
      rw [modify?_of_find?_none _ hd, modify?_of_find?_none _ hd]
      rfl
    | some a =>
      obtain ⟨i, hi, hget⟩ := findIdx?_of_find? hd
      rw [modify?_eq_some _ hi hget, modify?_eq_some _ hi hget]
      rfl

section Start

variable (marker : String) (c : Float)

/-- What a start can do: start, in its slot, the animation the node has; or, when the node lacks
it, fail, after making an empty default animation when the default one was asked for. -/
theorem startStage_cases (n : Node τ) (id : Option String) :
    (∃ a i, n.find? id = some a ∧ n.animations.findIdx? (·.id = id) = some i ∧
      n.animations[i]? = some a ∧
      n.startStage marker id c =
        ({ n with animations := n.animations.set i (startFrom marker c a).1 },
          (startFrom marker c a).2)) ∨
    (n.find? id = none ∧ id ≠ none ∧ n.startStage marker id c = (n, false)) ∨
    (n.find? id = none ∧ id = none ∧
      n.startStage marker id c = ({ n with animations := n.animations ++ [{}] }, false)) := by
  cases hd : n.find? id with
  | some a =>
    obtain ⟨i, hi, hget⟩ := findIdx?_of_find? hd
    refine .inl ⟨a, i, rfl, hi, hget, ?_⟩
    cases id with
    | none =>
      unfold startStage withDefault
      rw [modify?_eq_some _ hi hget]
    | some name => simp only [startStage, modify?_eq_some _ hi hget, Option.getD_some]
  | none =>
    cases id with
    | none =>
      -- the empty default animation has no marker to start from
      refine .inr (.inr ⟨rfl, rfl, ?_⟩)
      unfold startStage withDefault
      rw [modify?_of_find?_none _ hd]
      rfl
    | some name =>
      refine .inr (.inl ⟨rfl, by simp, ?_⟩)
      simp only [startStage, modify?_of_find?_none _ hd, Option.getD_none]

/-- Starting changes the animations only. -/
theorem startStage_fst (n : Node τ) (id : Option String) :
    ∃ as, (n.startStage marker id c).1 = { n with animations := as } := by
  rcases startStage_cases marker c n id with ⟨a, i, -, -, -, hs⟩ | ⟨-, -, hs⟩ | ⟨-, -, hs⟩ <;>
    rw [hs]
  · exact ⟨_, rfl⟩
  · exact ⟨n.animations, rfl⟩
  · exact ⟨_, rfl⟩

/-- A start succeeds exactly when the node has the animation and the animation has the marker. -/
theorem startStage_snd (n : Node τ) (id : Option String) :
    (n.startStage marker id c).2 = n.hasMarker id marker := by
  rcases startStage_cases marker c n id with ⟨a, i, ha, -, -, hs⟩ | ⟨hn, -, hs⟩ | ⟨hn, -, hs⟩ <;>
    rw [hs, hasMarker]
  · rw [ha, startFrom_snd]
    rfl
  · rw [hn]
    rfl
  · rw [hn]
    rfl

/-- Starting never changes the markers of any animation. -/
theorem startStage_markersOf (n : Node τ) (id j : Option String) :
    (n.startStage marker id c).1.markersOf j = n.markersOf j := by
  rcases startStage_cases marker c n id with ⟨a, i, ha, hi, -, hs⟩ | ⟨-, -, hs⟩ | ⟨hn, rfl, hs⟩
  · rw [hs]
    unfold markersOf
    rw [find?_set hi ((startFrom_id marker c a).trans (find?_id ha)) j]
    by_cases hj : j = id
    · subst hj
      simp [ha]
    · simp [hj]
  · rw [hs]
  · -- the empty default animation is found only by the default id, and holds no markers
    have hnone : n.animations.find? (·.id = none) = none := hn
    rw [hs]
    unfold markersOf find?
    dsimp only
    rw [List.find?_append]
    by_cases hj : j = none
    · subst hj
      simp [hnone]
    · simp [Ne.symm hj]

/-- Starting an animation the node has replaces it in its slot by the started one. -/
theorem startStage_of_find? {n : Node τ} {id : Option String} {a : Animation}
    (h : n.find? id = some a) :
    ∃ i, n.animations[i]? = some a ∧
      n.startStage marker id c =
        ({ n with animations := n.animations.set i (startFrom marker c a).1 },
          (startFrom marker c a).2) := by
  rcases startStage_cases marker c n id with ⟨a', i, ha', -, hget, hs⟩ | ⟨hn, -⟩ | ⟨hn, -⟩
  · rw [h, Option.some_inj] at ha'
    subst ha'
    exact ⟨i, hget, hs⟩
  · rw [h] at hn
    cases hn
  · rw [h] at hn
    cases hn

/-- The markers of an animation depend on the animations only. -/
theorem markersOf_of_animations {n n' : Node τ} (h : n'.animations = n.animations)
    (j : Option String) : n'.markersOf j = n.markersOf j := by
  unfold markersOf find?
  rw [h]

variable [Target τ]

/-- `tryRun` succeeds exactly when the node has the animation and the animation has the
marker. -/
theorem tryRun_ok (n : Node τ) (id : Option String) :
    (n.tryRun marker id c).2 = n.hasMarker id marker := by
  rw [tryRun_eq, ← startStage_snd marker c n id]
  by_cases h : (n.startStage marker id c).2 = true
  · rw [if_pos h, h]
  · rw [if_neg h]
    simpa using h

/-- `tryRun` never changes the markers of any animation. -/
theorem tryRun_markersOf (n : Node τ) (id j : Option String) :
    (n.tryRun marker id c).1.markersOf j = n.markersOf j := by
  rw [tryRun_eq]
  split
  · rw [markersOf_of_animations (afterRun_rewritten _ id).animations, startStage_markersOf]
  · exact startStage_markersOf marker c n id j

/-- `tryRun` records failed bindings only. -/
theorem tryRun_reporter (n : Node τ) (id : Option String) :
    ∃ ds, (∀ d ∈ ds, d.isBindingFailure) ∧
      (n.tryRun marker id c).1.reporter = n.reporter.emitAll ds := by
  obtain ⟨as, hstage⟩ := startStage_fst marker c n id
  rw [tryRun_eq]
  split
  · obtain ⟨ds, hds, hrep⟩ := (afterRun_rewritten (n.startStage marker id c).1 id).reporter
    exact ⟨ds, hds, by rw [hrep, hstage]⟩
  · exact ⟨[], (fun d hd => by cases hd), by rw [hstage]; rfl⟩

/-- A token that names an animation and a marker the node has starts that animation from the
marker, `c` seconds past it, in its slot, and then writes it when the settings say so. -/
theorem tryRun_of_hasMarker {n : Node τ} {id : Option String} {a : Animation} {m : Marker}
    (h : n.find? id = some a) (hm : a.markers.find? marker = some m) :
    ∃ i, n.animations[i]? = some a ∧
      n.tryRun marker id c =
        (afterRun { n with animations := n.animations.set i ({ a with
            time := toSeconds m.frame + c, runningMarker := some marker, running := true,
            onStopped := false }) } id, true) := by
  obtain ⟨i, hget, hstage⟩ := startStage_of_find? marker c h
  refine ⟨i, hget, ?_⟩
  rw [tryRun_eq, hstage, startFrom_of_find? marker c hm]
  rfl

/-- `tryRun` records nothing but failed bindings. -/
theorem tryRun_records (n : Node τ) (id : Option String) :
    n.reporter.Records (n.tryRun marker id c).1.reporter [] := by
  obtain ⟨ds, hds, hrep⟩ := tryRun_reporter marker c n id
  rw [hrep]
  exact Reporter.Records.of_bindings _ hds

end Start

/-! ## Handling a trigger text -/

/-- Runs one token of a trigger text, reporting a missing marker when it does not start. -/
def runToken [Target τ] (c : Float) (n : Node τ) (token : TriggerToken) : Node τ :=
  let (n, ok) := n.tryRun token.marker token.animation c
  if ok then n else n.report [.markerNotFound token.animation token.marker]

variable [Target τ] (c : Float)

/-- A token starts its animation, and reports a missing marker when it does not start. -/
theorem runToken_eq (n : Node τ) (token : TriggerToken) :
    runToken c n token =
      if (n.tryRun token.marker token.animation c).2 then (n.tryRun token.marker token.animation c).1
      else (n.tryRun token.marker token.animation c).1.report [token.missing] :=
  rfl

/-- A token never changes the markers of any animation. -/
theorem runToken_markersOf (n : Node τ) (token : TriggerToken) (j : Option String) :
    (runToken c n token).markersOf j = n.markersOf j := by
  have hrun := tryRun_markersOf token.marker c n token.animation j
  rw [runToken_eq]
  split
  · exact hrun
  · rw [← hrun]
    rfl

/-- A token records, besides failed bindings, a missing marker exactly when the node lacks its
animation or its marker. -/
theorem runToken_records (n : Node τ) (token : TriggerToken) :
    n.reporter.Records (runToken c n token).reporter
      (if n.hasMarker token.animation token.marker then [] else [token.missing]) := by
  have hrun := tryRun_records token.marker c n token.animation
  rw [runToken_eq, tryRun_ok]
  by_cases hflag : n.hasMarker token.animation token.marker
  · rw [if_pos hflag, if_pos hflag]
    exact hrun
  · rw [if_neg hflag, if_neg hflag, ← List.nil_append [token.missing]]
    have hmissing := Reporter.Records.emitAll (n.tryRun token.marker token.animation c).1.reporter
      [token.missing]
    simp only [List.filter_cons, TriggerToken.missing, Diagnostic.isBindingFailure] at hmissing
    exact hrun.trans hmissing

/-- Running tokens in order changes no markers, and records a missing marker for exactly the
tokens whose animation or marker the node lacked before the first of them ran. -/
theorem foldl_runToken (tokens : List TriggerToken) (m : Node τ) :
    (∀ j, (tokens.foldl (runToken c) m).markersOf j = m.markersOf j) ∧
      m.reporter.Records (tokens.foldl (runToken c) m).reporter
        ((tokens.filter fun t => !m.hasMarker t.animation t.marker).map TriggerToken.missing) := by
  induction tokens generalizing m with
  | nil => exact ⟨fun j => rfl, Reporter.Records.refl _⟩
  | cons t ts ih =>
    obtain ⟨hmarkers, hrecords⟩ := ih (runToken c m t)
    -- the first token keeps every marker, so the later ones fail where they failed before it
    have hsame : (fun t' : TriggerToken => !(runToken c m t).hasMarker t'.animation t'.marker) =
        fun t' => !m.hasMarker t'.animation t'.marker := by
      funext t'
      rw [hasMarker_eq, hasMarker_eq, runToken_markersOf]
    rw [hsame] at hrecords
    refine ⟨fun j => (hmarkers j).trans (runToken_markersOf c m t j), ?_⟩
    have hall := (runToken_records c m t).trans hrecords
    rw [List.foldl_cons]
    by_cases hflag : m.hasMarker t.animation t.marker
    · rw [if_pos hflag, List.nil_append] at hall
      simpa [List.filter_cons, hflag] using hall
    · rw [if_neg hflag] at hall
      simpa [List.filter_cons, hflag] using hall

/-- A key of a property other than the trigger is ignored. -/
theorem handleTrigger_other (n : Node τ) {property : String} (value : String)
    (h : property ≠ triggerProperty) : n.handleTrigger property value c = n := by
  unfold handleTrigger
  rw [if_pos (bne_iff_ne.mpr h)]

/-- An empty trigger text restarts the default animation at the correction, made first when
missing, and leaves the other animations. -/
theorem handleTrigger_empty_find? (n : Node τ) (j : Option String) :
    (n.handleTrigger triggerProperty "" c).find? j =
      if j = none then some { (n.find? none).getD {} with time := c, running := true }
      else n.find? j := by
  unfold handleTrigger
  rw [if_neg (by simp), if_pos (show "".isEmpty = true from rfl)]
  exact withDefault_find? n (fun a => rfl) j

/-- Any other text reports its malformed tokens, then runs its tokens in order. -/
theorem handleTrigger_tokens (n : Node τ) {value : String} (h : value ≠ "") :
    n.handleTrigger triggerProperty value c =
      (parseTrigger value).tokens.foldl (runToken c)
        (n.report ((parseTrigger value).malformed.map .malformedTrigger)) := by
  unfold handleTrigger
  rw [if_neg (by simp), if_neg (by simpa using h)]
  rfl

/-- Handling a text other than the empty one records, besides failed bindings, its malformed
tokens in order, then a missing marker for each token whose animation or marker the node
lacked, in order. -/
theorem handleTrigger_reports (n : Node τ) {value : String} (h : value ≠ "") :
    n.reporter.Records (n.handleTrigger triggerProperty value c).reporter
      ((parseTrigger value).malformed.map .malformedTrigger ++
        ((parseTrigger value).tokens.filter fun t => !n.hasMarker t.animation t.marker).map
          TriggerToken.missing) := by
  let bad := (parseTrigger value).malformed.map Diagnostic.malformedTrigger
  -- a malformed token is no failed binding, so all of them count
  have hbad : n.reporter.Records (n.report bad).reporter bad := by
    have hrec := Reporter.Records.emitAll n.reporter bad
    rwa [List.filter_eq_self.mpr fun d hd => by
      obtain ⟨tok, -, rfl⟩ := List.mem_map.mp hd
      rfl] at hrec
  -- reporting leaves the markers, so the tokens fail where they failed on the node itself
  have hsame : (fun t : TriggerToken => !(n.report bad).hasMarker t.animation t.marker) =
      fun t => !n.hasMarker t.animation t.marker := rfl
  have htokens := (foldl_runToken c (parseTrigger value).tokens (n.report bad)).2
  rw [hsame] at htokens
  rw [handleTrigger_tokens c n h]
  exact hbad.trans htokens

/-! ## The tick -/

/-- What a tick starts from: no animation advanced yet, the node's animators, object and trigger
text, and nothing fired, stopped or met. -/
def tickStart (n : Node τ) : Tick τ := ⟨[], n.animators, Stage.mk n.object n.trigger, [], [], []⟩

/-- Every animation advanced in turn by `delta` seconds. -/
def tick (n : Node τ) (delta : Float) : Tick τ :=
  n.animations.foldl (Tick.advance delta n.config) n.tickStart

/-- The node as a tick left it, before any fired key is handled. -/
def afterTick (n : Node τ) (k : Tick τ) : Node τ :=
  report { n with animations := k.done, animators := k.animators, object := k.stage.object,
                  trigger := k.stage.trigger, stopped := n.stopped ++ k.stopped } k.diagnostics

/-- Handles one fired key with the trigger text it was queued with. -/
def handleFired (n : Node τ) (fired : FiredTrigger × String) : Node τ :=
  n.handleTrigger fired.1.property fired.2 fired.1.correction

/-- With animations running, an advance is the tick, then the fired keys handled in firing
order on the node the tick left, then a recount. -/
theorem advance_eq (n : Node τ) (delta : Float) (h : 0 < n.runningCount) :
    n.advance delta =
      ((n.tick delta).fired.foldl handleFired (n.afterTick (n.tick delta))).refresh := by
  unfold advance
  rw [if_neg (Nat.pos_iff_ne_zero.mp h)]
  rfl

/-- Advancing more animations only appends to what a tick gathered: the advanced animations
behind those already done, and their fired keys behind those already queued. -/
theorem Tick.foldl_extends (delta : Float) (config : Config) (as : List Animation) (k : Tick τ) :
    (∃ done, (as.foldl (Tick.advance delta config) k).done = k.done ++ done) ∧
      ∃ fired, (as.foldl (Tick.advance delta config) k).fired = k.fired ++ fired := by
  induction as generalizing k with
  | nil => exact ⟨⟨[], by simp⟩, [], by simp⟩
  | cons a as ih =>
    let s := a.advance delta config k.animators k.stage
    obtain ⟨⟨done, hdone⟩, fired, hfired⟩ := ih (k.advance delta config a)
    rw [List.foldl_cons]
    refine ⟨⟨s.animation :: done, ?_⟩, s.fired.map (·, s.target.trigger) ++ fired, ?_⟩
    · rw [hdone]
      simp only [Tick.advance, List.append_assoc, List.cons_append, List.nil_append]
      rfl
    · rw [hfired]
      simp only [Tick.advance, List.append_assoc]
      rfl

/-- A tick advances exactly the node's animations. -/
theorem Tick.foldl_done_length (delta : Float) (config : Config) (as : List Animation)
    (k : Tick τ) :
    (as.foldl (Tick.advance delta config) k).done.length = k.done.length + as.length := by
  induction as generalizing k with
  | nil => rfl
  | cons a as ih =>
    rw [List.foldl_cons, ih]
    simp only [Tick.advance, List.length_append, List.length_cons, List.length_nil]
    omega

/-- Each animation advances from the animators and the stage that the animations before it
left, and lands in its own slot; the keys it fires are queued behind those of the animations
before it, each with the trigger text as it stood right after its own advance. -/
theorem tick_snapshot (n : Node τ) (delta : Float) {pre post : List Animation} {a : Animation}
    (h : n.animations = pre ++ a :: post) :
    let k := pre.foldl (Tick.advance delta n.config) n.tickStart
    let s := a.advance delta n.config k.animators k.stage
    (n.tick delta).done[pre.length]? = some s.animation ∧
      ∃ rest, (n.tick delta).fired = k.fired ++ s.fired.map (·, s.target.trigger) ++ rest := by
  intro k s
  have hk : k.done.length = pre.length := by
    show (pre.foldl (Tick.advance delta n.config) n.tickStart).done.length = pre.length
    rw [Tick.foldl_done_length]
    simp [tickStart]
  have htick : n.tick delta =
      post.foldl (Tick.advance delta n.config) (k.advance delta n.config a) := by
    rw [tick, h, List.foldl_append, List.foldl_cons]
  obtain ⟨⟨done, hdone⟩, rest, hrest⟩ :=
    Tick.foldl_extends delta n.config post (k.advance delta n.config a)
  refine ⟨?_, rest, by rw [htick, hrest]; rfl⟩
  -- the slot of `a` is the first one after the animations before it
  have hslot : (n.tick delta).done = k.done ++ s.animation :: done := by
    rw [htick, hdone]
    simp only [Tick.advance, List.append_assoc, List.cons_append, List.nil_append]
    rfl
  rw [hslot, List.getElem?_append_right (by omega), hk, Nat.sub_self]
  rfl

/-- What one advance of a node does, stated for the node and the advance: the tick first, the
keys it fired after, and how each key and each token is handled. -/
structure TickSpec (n : Node τ) (delta : Float) : Prop where
  /-- Each animation advances in collection order from what the animations before it left; the
  keys it fires are queued behind theirs, each with the trigger text right after its own
  advance. -/
  snapshot : ∀ pre a post, n.animations = pre ++ a :: post →
    let k := pre.foldl (Tick.advance delta n.config) n.tickStart
    let s := a.advance delta n.config k.animators k.stage
    (n.tick delta).done[pre.length]? = some s.animation ∧
      ∃ rest, (n.tick delta).fired = k.fired ++ s.fired.map (·, s.target.trigger) ++ rest
  /-- Only after the whole tick are the queued keys handled, in firing order, and the running
  count is recounted last. -/
  handled : n.advance delta =
    ((n.tick delta).fired.foldl handleFired (n.afterTick (n.tick delta))).refresh
  /-- A key of another property changes nothing. -/
  ignores : ∀ (m : Node τ) property value c, property ≠ triggerProperty →
    m.handleTrigger property value c = m
  /-- An empty text restarts the default animation, made first when missing, at the key's
  correction, and leaves the other animations. -/
  restarts : ∀ (m : Node τ) c j, (m.handleTrigger triggerProperty "" c).find? j =
    if j = none then some { (m.find? none).getD {} with time := c, running := true }
    else m.find? j
  /-- Any other text runs its well-formed tokens in order, after reporting the malformed ones. -/
  runs : ∀ (m : Node τ) value c, value ≠ "" →
    m.handleTrigger triggerProperty value c =
      (parseTrigger value).tokens.foldl (runToken c)
        (m.report ((parseTrigger value).malformed.map .malformedTrigger))
  /-- Besides failed bindings, it records its malformed tokens in order, then a missing marker
  for each token whose animation or marker the node lacked, in order. -/
  reports : ∀ (m : Node τ) value c, value ≠ "" →
    m.reporter.Records (m.handleTrigger triggerProperty value c).reporter
      ((parseTrigger value).malformed.map .malformedTrigger ++
        ((parseTrigger value).tokens.filter fun t => !m.hasMarker t.animation t.marker).map
          TriggerToken.missing)
  /-- A token starts exactly when the node has its animation and marker; then the animation
  runs from the marker, the correction past it, and is written once when the settings say so. -/
  starts : ∀ (m : Node τ) marker id c, (m.tryRun marker id c).2 = m.hasMarker id marker ∧
    ∀ a mk, m.find? id = some a → a.markers.find? marker = some mk →
      ∃ i, m.animations[i]? = some a ∧
        m.tryRun marker id c =
          (afterRun { m with animations := m.animations.set i ({ a with
              time := toSeconds mk.frame + c, runningMarker := some marker, running := true,
              onStopped := false }) } id, true)

/-- An advance of a node with running animations advances every animation in order, queueing
each fired key with the trigger text its own animation left, and handles the keys only
afterwards, in firing order. -/
theorem advance_tick_spec (n : Node τ) (delta : Float) (h : 0 < n.runningCount) :
    n.TickSpec delta where
  snapshot _ _ _ hsplit := tick_snapshot n delta hsplit
  handled := advance_eq n delta h
  ignores m _ value c hp := handleTrigger_other c m value hp
  restarts m c j := handleTrigger_empty_find? c m j
  runs m _ c hv := handleTrigger_tokens c m hv
  reports m _ c hv := handleTrigger_reports c m hv
  starts m marker id c :=
    ⟨tryRun_ok marker c m id, fun _ _ ha hmk => tryRun_of_hasMarker marker c ha hmk⟩

/-- The spec holds of a node whose default animation runs. -/
theorem advance_tick_spec_running :
    let n : Node Bag := { object := {}, animations := [{ running := true }], runningCount := 1 }
    0 < n.runningCount ∧ n.TickSpec 0.5 := by
  intro n
  exact ⟨by decide, advance_tick_spec n 0.5 (by decide)⟩

end Node

end Timeline

import Mathlib.Data.List.Forall2
import Timeline.Proofs.Tick

/-!
# The binding lifecycle of animators

An animator stands in one of three states with its property: unbound, bound, or inert after a
failed attempt (a zombie). Only an enabled apply of an unbound animator resolves the path; it
either binds, or fails, turns the animator into a zombie and reports the failure once. A bound
animator writes through its binding and never resolves again, a zombie writes nothing and fires
nothing, and a disabled animator is left as it is (`Animator.apply_cases`).

Between two states of an animator, `Animator.Later` says what applies can change: the binding
and the window only, and the binding only from unbound. Across any sequence of node calls that
write animators without replacing, retargeting or unbinding them (`NodeCall`), every animator
moves later, and the failed bindings reported are exactly one for each animator that went from
unbound to zombie (`Node.Settles`, `NodeCall.performAll_settles`). Unbinding a node makes every
animator unbound again, and the next enabled apply binds anew.
-/

namespace Timeline

namespace Animator

/-! ## One apply -/

section Apply

variable {σ : Type} [Target σ] (time : Float) (t : σ)

/-- Sampling only moves the window. -/
theorem sample_fst (a : Animator) :
    (a.sample time).1 = { a with window := (a.sample time).1.window } := by
  unfold sample
  dsimp only
  split <;> rfl

/-- A disabled animator's apply changes nothing. -/
theorem apply_disabled {a : Animator} (h : a.enabled = false) :
    a.apply time t = (a, t, .disabled) := by
  unfold apply
  rw [if_pos (by simp [h])]

/-- A zombie's apply changes nothing: it writes neither the target nor itself. -/
theorem apply_zombie {a : Animator} {f : BindFailure} (h : a.binding = .zombie f) :
    a.apply time t = (a, t, if a.enabled then .zombie else .disabled) := by
  cases hen : a.enabled with
  | false => exact apply_disabled time t hen
  | true =>
    unfold apply
    simp [hen, h]

/-- A bound animator writes its value through its binding, without resolving its path. -/
theorem apply_bound {a : Animator} {b : Binding} (hen : a.enabled = true)
    (h : a.binding = .bound b) :
    a.apply time t =
      ((a.sample time).1, Target.write t b.handle b.index (a.sample time).2, .written) := by
  unfold apply
  simp only [hen, Bool.not_true, Bool.false_eq_true, if_false, h]

/-- An enabled unbound animator resolves its path; when that fails it becomes a zombie and
reports the failure. -/
theorem apply_unbound_error {a : Animator} {f : BindFailure} (hen : a.enabled = true)
    (h : a.binding = .unbound) (hb : bind t a.target a.kind = .error f) :
    a.apply time t = ({ a with binding := .zombie f }, t, .bindFailed f) := by
  unfold apply
  simp only [hen, Bool.not_true, Bool.false_eq_true, if_false, h, hb]

/-- An enabled unbound animator resolves its path; when that succeeds it keeps the binding and
writes through it. -/
theorem apply_unbound_ok {a : Animator} {b : Binding} (hen : a.enabled = true)
    (h : a.binding = .unbound) (hb : bind t a.target a.kind = .ok b) :
    a.apply time t =
      (({ a with binding := .bound b }.sample time).1,
        Target.write t b.handle b.index ({ a with binding := .bound b }.sample time).2,
        .written) := by
  unfold apply
  simp only [hen, Bool.not_true, Bool.false_eq_true, if_false, h, hb]

/-- What an apply can do: nothing when disabled or a zombie; write through a binding, kept or
just resolved; or fail to resolve and become a zombie. -/
theorem apply_cases (a : Animator) :
    (a.enabled = false ∧ a.apply time t = (a, t, .disabled)) ∨
    (∃ f, a.enabled = true ∧ a.binding = .zombie f ∧ a.apply time t = (a, t, .zombie)) ∨
    (∃ b, a.enabled = true ∧
      (a.binding = .bound b ∨ a.binding = .unbound ∧ bind t a.target a.kind = .ok b) ∧
      a.apply time t =
        (({ a with binding := .bound b }.sample time).1,
          Target.write t b.handle b.index ({ a with binding := .bound b }.sample time).2,
          .written)) ∨
    (∃ f, a.enabled = true ∧ a.binding = .unbound ∧ bind t a.target a.kind = .error f ∧
      a.apply time t = ({ a with binding := .zombie f }, t, .bindFailed f)) := by
  rcases Bool.eq_false_or_eq_true a.enabled with hen | hen
  · cases hbinding : a.binding with
    | zombie f =>
      refine .inr (.inl ⟨f, hen, rfl, ?_⟩)
      rw [apply_zombie time t hbinding, hen, if_pos rfl]
    | bound b =>
      -- the animator already holds its binding, so rebinding it to the same changes nothing
      have hsame : { a with binding := .bound b } = a := by rw [← hbinding]
      refine .inr (.inr (.inl ⟨b, hen, .inl rfl, ?_⟩))
      rw [hsame, apply_bound time t hen hbinding]
    | unbound =>
      cases hb : bind t a.target a.kind with
      | error f =>
        exact .inr (.inr (.inr ⟨f, hen, rfl, rfl, apply_unbound_error time t hen hbinding hb⟩))
      | ok b =>
        exact .inr (.inr (.inl
          ⟨b, hen, .inr ⟨rfl, rfl⟩, apply_unbound_ok time t hen hbinding hb⟩))
  · exact .inl ⟨hen, apply_disabled time t hen⟩

end Apply

/-- A trigger key of a zombie never fires: the animator is not bound to a triggerable
property. -/
theorem trigger?_zombie {a : Animator} {f : BindFailure} (h : a.binding = .zombie f)
    (frame : Frame) (correction : Float) : a.trigger? frame correction = none := by
  unfold trigger? isTriggerable
  simp [h]

/-! ## What applies can change -/

/-- `a'` is `a` after applies: only the binding and the window changed, and the binding only
from unbound, and only while enabled. -/
structure Later (a a' : Animator) : Prop where
  /-- Everything but the binding and the window is kept. -/
  same : a' = { a with binding := a'.binding, window := a'.window }
  /-- The binding is kept, unless it was unbound on an enabled animator. -/
  binding : a'.binding = a.binding ∨ (a.binding = .unbound ∧ a.enabled = true)

theorem Later.refl (a : Animator) : a.Later a := ⟨rfl, .inl rfl⟩

variable {a a' a'' : Animator}

/-- The target path is kept. -/
theorem Later.target (h : a.Later a') : a'.target = a.target := by rw [h.same]

/-- Whether the animator is enabled is kept. -/
theorem Later.enabled (h : a.Later a') : a'.enabled = a.enabled := by rw [h.same]

/-- A zombie stays the same zombie. -/
theorem Later.zombie {f : BindFailure} (h : a.Later a') (hz : a.binding = .zombie f) :
    a'.binding = .zombie f := by
  rcases h.binding with hb | ⟨hb, -⟩
  · rw [hb, hz]
  · rw [hz] at hb
    cases hb

/-- A bound animator keeps its binding. -/
theorem Later.bound {b : Binding} (h : a.Later a') (hb : a.binding = .bound b) :
    a'.binding = .bound b := by
  rcases h.binding with h' | ⟨h', -⟩
  · rw [h', hb]
  · rw [hb] at h'
    cases h'

/-- A disabled animator keeps its binding. -/
theorem Later.disabled (h : a.Later a') (hd : a.enabled = false) : a'.binding = a.binding := by
  rcases h.binding with hb | ⟨-, hen⟩
  · exact hb
  · rw [hd] at hen
    cases hen

theorem Later.trans (h : a.Later a') (h' : a'.Later a'') : a.Later a'' where
  same := by
    have e := h.same
    have e' := h'.same
    obtain ⟨⟩ := a
    obtain ⟨⟩ := a'
    obtain ⟨⟩ := a''
    simp only [Animator.mk.injEq] at e e' ⊢
    grind
  binding := by
    rcases h.binding with hb | hb
    · rw [← hb, ← h.enabled]
      exact h'.binding
    · exact .inr hb

/-- An apply moves an animator later. -/
theorem apply_later {σ : Type} [Target σ] (a : Animator) (time : Float) (t : σ) :
    a.Later (a.apply time t).1 := by
  rcases apply_cases time t a with
    ⟨-, h⟩ | ⟨f, -, -, h⟩ | ⟨b, hen, hb, h⟩ | ⟨f, hen, hb, -, h⟩ <;> rw [h]
  · exact Later.refl a
  · exact Later.refl a
  · refine ⟨?_, ?_⟩
    · rw [sample_fst]
    · rcases hb with hb | ⟨hb, -⟩
      · -- rebinding to the binding it holds
        exact .inl ((congrArg Animator.binding (sample_fst time _)).trans hb.symm)
      · exact .inr ⟨hb, hen⟩
  · exact ⟨rfl, .inr ⟨hb, hen⟩⟩

/-! ## The failure an animator reports -/

/-- The failed binding reported between two states of an animator: one exactly when it went
from unbound to zombie. -/
def failure (a a' : Animator) : Option Diagnostic :=
  match a.binding, a'.binding with
  | .unbound, .zombie f => some (.bindingFailed a.target f)
  | _, _ => none

/-- A failure is a failed binding. -/
theorem isBindingFailure_of_failure {d : Diagnostic} (h : a.failure a' = some d) :
    d.isBindingFailure := by
  unfold failure at h
  split at h
  · cases h
    rfl
  · cases h

/-- No failure is reported while the binding stays. -/
theorem failure_of_binding_eq (h : a'.binding = a.binding) : a.failure a' = none := by
  unfold failure
  rw [h]
  split <;> simp_all

/-- The failure only reads the first animator's binding and target. -/
theorem failure_congr_left (hb : a.binding = a'.binding) (ht : a.target = a'.target) :
    a.failure a'' = a'.failure a'' := by
  unfold failure
  rw [hb, ht]

/-- The failure only reads the second animator's binding. -/
theorem failure_congr_right (hb : a'.binding = a''.binding) : a.failure a' = a.failure a'' := by
  unfold failure
  rw [hb]

/-- Over two stretches of applies, the failure is reported in the one where it happens. -/
theorem failure_trans (h : a.Later a') (h' : a'.Later a'') :
    (a.failure a'').toList = (a.failure a').toList ++ (a'.failure a'').toList := by
  rcases h.binding with hb | ⟨hb, -⟩ <;> rcases h'.binding with hb' | ⟨hb', -⟩
  · rw [failure_of_binding_eq (hb'.trans hb), failure_of_binding_eq hb,
      failure_of_binding_eq hb']
    rfl
  · -- still unbound after the first stretch
    rw [failure_of_binding_eq hb, failure_congr_left hb.symm h.target.symm]
    rfl
  · -- the binding was settled in the first stretch
    rw [failure_congr_right hb'.symm, failure_of_binding_eq hb', Option.toList_none,
      List.append_nil]
  · have hnone : a.failure a' = none := by
      unfold failure
      rw [hb, hb']
    rw [hnone, failure_congr_left (hb.trans hb'.symm) h.target.symm]
    rfl

/-- The failure an apply reports is the failure between the animator and its result. -/
theorem apply_failure {σ : Type} [Target σ] (a : Animator) (time : Float) (t : σ) :
    (match (a.apply time t).2.2 with
      | .bindFailed f => [Diagnostic.bindingFailed a.target f]
      | _ => []) = (a.failure (a.apply time t).1).toList := by
  rcases apply_cases time t a with
    ⟨-, h⟩ | ⟨f, -, -, h⟩ | ⟨b, -, -, h⟩ | ⟨f, -, hb, -, h⟩ <;> rw [h]
  · rw [failure_of_binding_eq rfl]
    rfl
  · rw [failure_of_binding_eq rfl]
    rfl
  · have hnone : a.failure ({ a with binding := .bound b }.sample time).1 = none := by
      unfold failure
      rw [sample_fst]
      split <;> simp_all
    rw [hnone]
    rfl
  · unfold failure
    rw [hb]
    rfl

end Animator

/-! ## Many animators -/

/-- The failed bindings reported between two states of a list of animators, one per animator
at most, in order. -/
def failures : List Animator → List Animator → List Diagnostic
  | a :: c, a' :: c' => (a.failure a').toList ++ failures c c'
  | _, _ => []

/-- Every failure reported is a failed binding. -/
theorem isBindingFailure_of_mem_failures {c c' : List Animator} {d : Diagnostic}
    (h : d ∈ failures c c') : d.isBindingFailure := by
  induction c generalizing c' with
  | nil => cases h
  | cons a c ih =>
    cases c' with
    | nil => cases h
    | cons a' c' =>
      rcases List.mem_append.mp h with hd | hd
      · exact Animator.isBindingFailure_of_failure (Option.mem_toList.mp hd)
      · exact ih hd

/-- Nothing is reported between a list and itself. -/
theorem failures_self (c : List Animator) : failures c c = [] := by
  induction c with
  | nil => rfl
  | cons a c ih => rw [failures, Animator.failure_of_binding_eq rfl, ih]; rfl

/-- Later, animator by animator, is transitive. -/
theorem forall₂_later_trans {c c' c'' : List Animator} (h : List.Forall₂ Animator.Later c c')
    (h' : List.Forall₂ Animator.Later c' c'') : List.Forall₂ Animator.Later c c'' := by
  induction h generalizing c'' with
  | nil => exact h'
  | cons ha _ ih =>
    cases h' with
    | cons ha' hrest => exact .cons (ha.trans ha') (ih hrest)

/-- Over two stretches of applies, the failures are those of each stretch. -/
theorem failures_trans {c c' c'' : List Animator} (h : List.Forall₂ Animator.Later c c')
    (h' : List.Forall₂ Animator.Later c' c'') :
    (failures c c'').Perm (failures c c' ++ failures c' c'') := by
  induction h generalizing c'' with
  | nil =>
    cases h'
    exact List.Perm.refl _
  | @cons a a' c c' ha _ ih =>
    cases h' with
    | @cons _ a'' _ c'' ha' hrest =>
      simp only [failures]
      rw [Animator.failure_trans ha ha', List.append_assoc, List.append_assoc]
      -- the failures of the first animator go in front of the rest of their stretch
      refine List.Perm.append_left _ ?_
      exact ((ih hrest).append_left _).trans (List.perm_append_comm_assoc _ _ _)

/-- `c'` is `c` after applies that reported `ds`: each animator moved later, and the failed
bindings among `ds` are exactly the failures between the two lists. -/
structure Settled (c c' : List Animator) (ds : List Diagnostic) : Prop where
  /-- Each animator moved later. -/
  later : List.Forall₂ Animator.Later c c'
  /-- The failed bindings reported are one for each animator that became a zombie. -/
  failures : (ds.filter (·.isBindingFailure)).Perm (failures c c')

namespace Settled

variable {c c' c'' : List Animator} {ds ds' : List Diagnostic}

/-- Reporting no failed binding settles a list on itself. -/
theorem of_clean (c : List Animator) (hds : ∀ d ∈ ds, d.isBindingFailure = false) :
    Settled c c ds := by
  refine ⟨List.forall₂_same.mpr fun a _ => Animator.Later.refl a, ?_⟩
  rw [failures_self, List.filter_eq_nil_iff.mpr fun d hd => by simp [hds d hd]]

theorem refl (c : List Animator) : Settled c c [] := of_clean c fun d hd => by cases hd

theorem trans (h : Settled c c' ds) (h' : Settled c' c'' ds') : Settled c c'' (ds ++ ds') :=
  ⟨forall₂_later_trans h.later h'.later, by
    rw [List.filter_append]
    exact (h.failures.append h'.failures).trans (failures_trans h.later h'.later).symm⟩

end Settled

/-- Writing the animators of an animation reports exactly their failures, in order. -/
theorem Animation.applyAll_settled {σ : Type} [Target σ] (id : Option String) (time : Float)
    (as : List Animator) (t : σ) :
    List.Forall₂ Animator.Later as (applyAll id time as t).animators ∧
      (applyAll id time as t).diagnostics = failures as (applyAll id time as t).animators := by
  fun_induction applyAll id time as t with
  | case1 => exact ⟨.nil, rfl⟩
  | case2 a rest t _ a' t' status happly p written diag ih =>
    -- the animator of this animation is applied, and reports what its apply failed
    have hlater : a.Later a' := by
      have := Animator.apply_later a time t
      rwa [happly] at this
    have hdiag : diag = (a.failure a').toList := by
      have := Animator.apply_failure a time t
      rw [happly] at this
      exact this
    refine ⟨.cons hlater ih.1, ?_⟩
    show diag ++ p.diagnostics = failures (a :: rest) (a' :: p.animators)
    rw [failures, hdiag, ih.2]
  | case3 a rest t _ p ih =>
    refine ⟨.cons (Animator.Later.refl a) ih.1, ?_⟩
    show p.diagnostics = failures (a :: rest) (a :: p.animators)
    rw [failures, Animator.failure_of_binding_eq rfl, ih.2]
    rfl

/-- Writing the animators of an animation settles them. -/
theorem Animation.applyAll_settled' {σ : Type} [Target σ] (id : Option String) (time : Float)
    (as : List Animator) (t : σ) :
    Settled as (applyAll id time as t).animators (applyAll id time as t).diagnostics := by
  obtain ⟨hlater, hdiag⟩ := applyAll_settled id time as t
  refine ⟨hlater, ?_⟩
  rw [hdiag, List.filter_eq_self.mpr fun d hd => isBindingFailure_of_mem_failures hd]

/-! ## Crossing markers reports no failed binding -/

section Cross

variable (markers : MarkerList) (id : Option String) (maxJumps : Nat)

/-- The crossing loop adds missing markers and the jump limit to its log, and no failed
binding. -/
theorem Animation.crossFrom_clean (s : Animation.CrossState)
    (hs : ∀ d ∈ s.log, d.isBindingFailure = false) :
    ∀ d ∈ (Animation.crossFrom markers id maxJumps s).diagnostics,
      d.isBindingFailure = false := by
  obtain ⟨s', hreach, hend⟩ :=
    Animation.crossWithin_ends (Animation.crossWithin_bound markers id maxJumps s)
  -- along the loop, each pass adds at most a missing marker
  have hlog : ∀ d ∈ s'.log, d.isBindingFailure = false := by
    clear hend
    induction hreach with
    | refl => exact hs
    | tail _ hstep ih =>
      obtain ⟨m, -, hp⟩ := hstep
      rcases Animation.crossPass_eq_inr hp with ⟨-, -, hl | ⟨missing, hl⟩⟩ | ⟨-, -, hl⟩
      · rwa [hl]
      · intro d hd
        rw [hl, List.mem_append, List.mem_singleton] at hd
        rcases hd with hd | rfl
        · exact ih d hd
        · rfl
      · rwa [hl]
  -- and the loop ends with its log, or with the jump limit added
  rcases hend with ⟨-, hc⟩ | ⟨m, -, hp⟩
  · rw [hc]
    exact hlog
  · rcases Animation.crossPass_eq_inl hp with hc | ⟨-, hc⟩
    · rw [hc]
      exact hlog
    · rw [hc]
      intro d hd
      rw [List.mem_append, List.mem_singleton] at hd
      rcases hd with hd | rfl
      · exact hlog d hd
      · rfl

end Cross

/-- Advancing an animation writes its animators, and reports besides their failures only what
crossing markers met. -/
theorem Animation.advance_settled {σ : Type} [Target σ] (a : Animation) (delta : Float)
    (config : Config) (c : Collection) (t : σ) :
    Settled c.animators (a.advance delta config c t).animators.animators
      (a.advance delta config c t).diagnostics := by
  unfold advance
  split
  · exact Settled.refl _
  · let x := cross a.markers a.id config.maxJumpsPerAdvance.toNat a.frame 0 (a.time + delta) []
    let a' : Animation := { a with time := x.time, running := a.running && !x.stopped }
    have hx : ∀ d ∈ x.diagnostics, d.isBindingFailure = false :=
      crossFrom_clean a.markers a.id config.maxJumpsPerAdvance.toNat
        ⟨a.frame, 0, a.time + delta, []⟩ (fun d hd => by cases hd)
    exact (Settled.of_clean c.animators hx).trans (applyAll_settled' a'.id a'.time c.animators t)

/-! ## Node calls -/

namespace Node

variable {τ : Type}

/-- `n'` is `n` after calls that write animators: each animator moved later, and among the
conditions reported on the way the failed bindings are exactly one for each animator that
became a zombie. -/
def Settles (n n' : Node τ) : Prop :=
  ∃ ds, n'.reporter = n.reporter.emitAll ds ∧
    Settled n.animators.animators n'.animators.animators ds

namespace Settles

variable {n n' n'' : Node τ}

/-- A call that keeps the animators and reports nothing settles. -/
theorem of_eq (ha : n'.animators = n.animators) (hr : n'.reporter = n.reporter) : n.Settles n' :=
  ⟨[], by rw [hr]; rfl, by rw [ha]; exact Settled.refl _⟩

theorem refl (n : Node τ) : n.Settles n := of_eq rfl rfl

theorem trans (h : n.Settles n') (h' : n'.Settles n'') : n.Settles n'' := by
  obtain ⟨ds, hr, hs⟩ := h
  obtain ⟨ds', hr', hs'⟩ := h'
  refine ⟨ds ++ ds', ?_, hs.trans hs'⟩
  rw [hr', hr, Reporter.emitAll, Reporter.emitAll, Reporter.emitAll, List.foldl_append]

/-- A call that changes only the animations settles. -/
theorem of_animations {as : List Animation} : n.Settles { n with animations := as } :=
  of_eq rfl rfl

/-- Steps that each settle, taken in turn, settle. -/
theorem foldl {β : Type} (step : Node τ → β → Node τ)
    (hstep : ∀ (m : Node τ) (x : β), m.Settles (step m x))
    (xs : List β) (m : Node τ) : m.Settles (xs.foldl step m) := by
  induction xs generalizing m with
  | nil => exact refl m
  | cons x xs ih => exact (hstep m x).trans (ih _)

end Settles

/-- Reporting conditions other than failed bindings settles. -/
theorem report_settles (n : Node τ) {ds : List Diagnostic}
    (hds : ∀ d ∈ ds, d.isBindingFailure = false) : n.Settles (n.report ds) :=
  ⟨ds, rfl, Settled.of_clean _ hds⟩

/-- Recounting the running animations settles. -/
theorem refresh_settles (n : Node τ) : n.Settles n.refresh := Settles.of_eq rfl rfl

/-- Changing an animation leaves the rest of the node. -/
theorem modify?_fst {β : Type} (f : Animation → Animation × β) {n : Node τ}
    {id : Option String} {r : Node τ × β} (h : n.modify? id f = some r) :
    ∃ as, r.1 = { n with animations := as } := by
  cases hd : n.find? id with
  | none =>
    rw [modify?_of_find?_none f hd] at h
    cases h
  | some a =>
    obtain ⟨i, hi, hget⟩ := findIdx?_of_find? hd
    rw [modify?_eq_some f hi hget] at h
    cases h
    exact ⟨_, rfl⟩

/-- Changing the default animation, made first if needed, leaves the rest of the node. -/
theorem withDefault_fst {β : Type} (f : Animation → Animation × β) (n : Node τ) :
    ∃ as, (n.withDefault f).1 = { n with animations := as } := by
  unfold withDefault
  cases h : n.modify? none f with
  | none => exact ⟨_, rfl⟩
  | some r => exact modify?_fst f h

/-- Changing the default animation leaves the rest of the node. -/
theorem updateDefault_eq (n : Node τ) (f : Animation → Animation) :
    ∃ as, n.updateDefault f = { n with animations := as } :=
  withDefault_fst _ n

/-- The start `run` makes before writing: the node with the animation started, or the error. -/
def runStage (n : Node τ) (marker : String) (id : Option String) :
    Node τ × Except PlaybackError Unit :=
  match id with
  | none => n.withDefault fun a =>
      match a.run marker n.label with
      | .ok a => (a, .ok ())
      | .error e => (a, .error e)
  | some name =>
    match n.modify? id fun a =>
        match a.run marker n.label with
        | .ok a => (a, .ok ())
        | .error e => (a, .error e) with
    | some r => r
    | none => (n, .error (.animationNotFound n.label name))

/-- The start leaves everything but the animations. -/
theorem runStage_fst (n : Node τ) (marker : String) (id : Option String) :
    ∃ as, (n.runStage marker id).1 = { n with animations := as } := by
  unfold runStage
  cases id with
  | none => exact withDefault_fst _ n
  | some name =>
    dsimp only
    split
    · rename_i r hr
      exact modify?_fst _ hr
    · exact ⟨n.animations, rfl⟩

section Calls

variable [Target τ]

/-- Writing one animation's animators settles them. -/
theorem applyAnimation_settles (n : Node τ) (id : Option String) :
    n.Settles (n.applyAnimation id) := by
  unfold applyAnimation
  split
  · exact Settles.refl n
  · rename_i a _
    exact ⟨_, rfl, Animation.applyAll_settled' a.id a.time n.animators.animators _⟩

/-- What follows a start settles. -/
theorem afterRun_settles (n : Node τ) (id : Option String) : n.Settles (n.afterRun id) := by
  unfold afterRun
  split
  · exact (applyAnimation_settles n id).trans (refresh_settles _)
  · exact refresh_settles n

/-- Starting from a marker, then writing what started, settles. -/
theorem tryRun_settles (n : Node τ) (marker : String) (id : Option String) (c : Float) :
    n.Settles (n.tryRun marker id c).1 := by
  obtain ⟨as, hs⟩ := startStage_fst marker c n id
  have hstage : n.Settles (n.startStage marker id c).1 := hs ▸ Settles.of_animations
  rw [tryRun_eq]
  split
  · exact hstage.trans (afterRun_settles _ id)
  · exact hstage

/-- `run` starts the animation, then writes it when it started. -/
theorem run_eq (n : Node τ) (marker : String) (id : Option String) :
    n.run marker id =
      match n.runStage marker id with
      | (n', .ok ()) => (n'.afterRun id, .ok ())
      | (n', .error e) => (n', .error e) := rfl

/-- Running from a marker settles. -/
theorem run_settles (n : Node τ) (marker : String) (id : Option String) :
    n.Settles (n.run marker id).1 := by
  obtain ⟨as, hs⟩ := runStage_fst n marker id
  have hstage : n.Settles (n.runStage marker id).1 := hs ▸ Settles.of_animations
  rw [run_eq]
  split
  · rename_i n' heq
    rw [heq] at hstage
    exact hstage.trans (afterRun_settles n' id)
  · rename_i n' e heq
    rw [heq] at hstage
    exact hstage

/-- Running one trigger token settles. -/
theorem runToken_settles (c : Float) (n : Node τ) (token : TriggerToken) :
    n.Settles (runToken c n token) := by
  rw [runToken_eq]
  split
  · exact tryRun_settles n token.marker token.animation c
  · exact (tryRun_settles n token.marker token.animation c).trans
      (report_settles _ fun d hd => by
        rw [List.mem_singleton] at hd
        rw [hd]
        rfl)

/-- Handling a fired trigger key settles. -/
theorem handleTrigger_settles (n : Node τ) (property value : String) (c : Float) :
    n.Settles (n.handleTrigger property value c) := by
  by_cases hp : property = triggerProperty
  · subst hp
    by_cases hv : value = ""
    · -- an empty text restarts the default animation and writes nothing
      subst hv
      unfold handleTrigger
      rw [if_neg (by simp), if_pos (show "".isEmpty = true from rfl)]
      obtain ⟨as, hs⟩ := updateDefault_eq n fun a => { a with time := c, running := true }
      rw [hs]
      exact Settles.of_eq rfl rfl
    · -- the malformed tokens are reported, then every token runs
      rw [handleTrigger_tokens c n hv]
      have hbad : n.Settles (n.report ((parseTrigger value).malformed.map .malformedTrigger)) :=
        report_settles n fun d hd => by
          obtain ⟨tok, -, rfl⟩ := List.mem_map.mp hd
          rfl
      exact hbad.trans (Settles.foldl (runToken c) (runToken_settles c) _ _)
  · rw [handleTrigger_other c n value hp]
    exact Settles.refl n

/-- Advancing animations in turn writes the animators the tick carries, and appends what the
advances reported. -/
theorem Tick.foldl_settled (delta : Float) (config : Config) (as : List Animation) (k : Tick τ) :
    ∃ ds, (as.foldl (Tick.advance delta config) k).diagnostics = k.diagnostics ++ ds ∧
      Settled k.animators.animators (as.foldl (Tick.advance delta config) k).animators.animators
        ds := by
  induction as generalizing k with
  | nil => exact ⟨[], by simp, Settled.refl _⟩
  | cons a as ih =>
    obtain ⟨ds, hds, hset⟩ := ih (k.advance delta config a)
    have hfirst := Animation.advance_settled a delta config k.animators k.stage
    refine ⟨_ ++ ds, ?_, hfirst.trans hset⟩
    rw [List.foldl_cons, hds, ← List.append_assoc]
    rfl

/-- Advancing every running animation, then handling the keys that fired, settles. -/
theorem advance_settles (n : Node τ) (delta : Float) : n.Settles (n.advance delta) := by
  rcases Nat.eq_zero_or_pos n.runningCount with h | h
  · have hstill : n.advance delta = n := by
      unfold advance
      rw [if_pos h]
    rw [hstill]
    exact Settles.refl n
  · rw [advance_eq n delta h]
    -- the tick writes the animators of the running animations
    obtain ⟨ds, hds, hset⟩ := Tick.foldl_settled delta n.config n.animations n.tickStart
    have hafter : n.Settles (n.afterTick (n.tick delta)) := by
      refine ⟨ds, ?_, hset⟩
      show n.reporter.emitAll (n.tick delta).diagnostics = _
      rw [tick, hds]
      rfl
    -- then each fired key is handled in turn
    have hfired := Settles.foldl handleFired
      (fun m fired => handleTrigger_settles m fired.1.property fired.2 fired.1.correction)
      (n.tick delta).fired (n.afterTick (n.tick delta))
    exact (hafter.trans hfired).trans (refresh_settles _)

end Calls

end Node

/-! ## Runs of calls -/

/-- The calls on a node that write animators without replacing, retargeting or unbinding them,
and edits of the object between them, through which properties may appear or go. -/
inductive NodeCall (τ : Type) where
  | advance (delta : Float)
  | applyAnimation (id : Option String)
  | run (marker : String) (id : Option String)
  | tryRun (marker : String) (id : Option String) (correction : Float)
  | onTrigger (property : String) (correction : Float)
  | editObject (edit : τ → τ)

namespace NodeCall

variable {τ : Type} [Target τ]

/-- Makes one call. -/
def perform : NodeCall τ → Node τ → Node τ
  | .advance delta, n => n.advance delta
  | .applyAnimation id, n => n.applyAnimation id
  | .run marker id, n => (n.run marker id).1
  | .tryRun marker id correction, n => (n.tryRun marker id correction).1
  | .onTrigger property correction, n => n.onTrigger property correction
  | .editObject edit, n => { n with object := edit n.object }

/-- Makes calls in order. -/
def performAll (cs : List (NodeCall τ)) (n : Node τ) : Node τ :=
  cs.foldl (fun n c => c.perform n) n

/-- Every call settles. -/
theorem perform_settles (c : NodeCall τ) (n : Node τ) : n.Settles (c.perform n) := by
  cases c with
  | advance delta => exact n.advance_settles delta
  | applyAnimation id => exact n.applyAnimation_settles id
  | run marker id => exact n.run_settles marker id
  | tryRun marker id correction => exact n.tryRun_settles marker id correction
  | onTrigger property correction => exact n.handleTrigger_settles property n.trigger correction
  | editObject edit => exact Node.Settles.of_eq rfl rfl

/-- Every run of calls settles. -/
theorem performAll_settles (cs : List (NodeCall τ)) (n : Node τ) :
    n.Settles (performAll cs n) :=
  Node.Settles.foldl (fun n (c : NodeCall τ) => c.perform n) (fun m c => perform_settles c m)
    cs n

end NodeCall

/-! ## The lifecycle -/

/-- The binding lifecycle of the animators of nodes over objects of type `τ`, and of animators
writing any target. -/
structure BindingLifecycle (τ : Type) [Target τ] : Prop where
  /-- Across any run of calls that write animators, each animator only moves later, its binding
  kept unless it was unbound and enabled, and the failed bindings reported are one for each
  animator that went from unbound to zombie: at most one per animator. -/
  settles : ∀ (n : Node τ) (cs : List (NodeCall τ)), n.Settles (NodeCall.performAll cs n)
  /-- A zombie's apply says zombie, or disabled, and writes neither the target nor itself; none
  of its keys fires. -/
  zombie : ∀ {σ : Type} [Target σ] (a : Animator) (f : BindFailure) (time : Float) (t : σ),
    a.binding = .zombie f →
      a.apply time t = (a, t, if a.enabled then .zombie else .disabled) ∧
        ∀ frame correction, a.trigger? frame correction = none
  /-- An enabled bound animator keeps its binding and writes through it, resolving nothing. -/
  bound : ∀ {σ : Type} [Target σ] (a : Animator) (b : Binding) (time : Float) (t : σ),
    a.enabled = true → a.binding = .bound b →
      (a.apply time t).1.binding = .bound b ∧
        (a.apply time t).2 = (Target.write t b.handle b.index (a.sample time).2, .written)
  /-- A disabled animator's apply changes nothing, its binding state included. -/
  disabled : ∀ {σ : Type} [Target σ] (a : Animator) (time : Float) (t : σ),
    a.enabled = false → a.apply time t = (a, t, .disabled)
  /-- Unbinding a node leaves every animator unbound. -/
  unbind : ∀ n : Node τ, ∀ a ∈ n.unbind.animators.animators, a.binding = .unbound
  /-- The next apply of an enabled unbound animator resolves its path: it binds, or becomes a
  zombie and says why. -/
  rebinds : ∀ {σ : Type} [Target σ] (a : Animator) (time : Float) (t : σ),
    a.enabled = true → a.binding = .unbound →
      match bind t a.target a.kind with
      | .ok b => (a.apply time t).1.binding = .bound b ∧ (a.apply time t).2.2 = .written
      | .error f => (a.apply time t).1.binding = .zombie f ∧ (a.apply time t).2.2 = .bindFailed f

/-- Animators go through the binding lifecycle. -/
theorem binding_lifecycle (τ : Type) [Target τ] : BindingLifecycle τ where
  settles n cs := NodeCall.performAll_settles cs n
  zombie a f time t h := ⟨Animator.apply_zombie time t h, Animator.trigger?_zombie h⟩
  bound a b time t hen h := by
    refine ⟨(Animator.apply_later a time t).bound h, ?_⟩
    rw [Animator.apply_bound time t hen h]
  disabled a time t hd := Animator.apply_disabled time t hd
  unbind n a ha := by
    obtain ⟨a0, -, rfl⟩ := List.mem_map.mp ha
    rfl
  rebinds a time t hen h := by
    cases hb : bind t a.target a.kind with
    | error f =>
      rw [Animator.apply_unbound_error time t hen h hb]
      exact ⟨rfl, rfl⟩
    | ok b =>
      rw [Animator.apply_unbound_ok time t hen h hb, Animator.sample_fst]
      exact ⟨rfl, rfl⟩

end Timeline

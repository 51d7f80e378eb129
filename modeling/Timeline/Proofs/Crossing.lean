import Mathlib.Logic.Relation
import Timeline.Playback.Animation

/-!
# Crossing markers ends within a bounded number of passes

`Animation.cross` is the loop of an advance over the markers ahead of the cursor. Here the loop
is taken apart into its state (`CrossState`), the work of one pass on the marker found
(`crossPass`), and a runner that allows a given number of passes (`crossWithin`); `cross_unfold`
says that `cross` is that loop.

A pass either ends the crossing, passes a marker with the jumps unchanged, or follows one more
jump while fewer than the limit were followed (`crossPass_eq_inr`). So the jumps never exceed the
limit, and the measure `(limit - jumps) · (markers + 1) + markers ahead of the cursor` falls at
each pass that goes on: with `M` the limit and `n` the markers, `(M + 1) · (n + 1)` passes
always suffice. Only the last pass can report the jump limit, and it does so with the jumps
followed equal to the limit. A jump marker found by `firstInRange?` lies strictly after a frame,
so the frame before it, where the cursor parks at the limit, is computed without wrapping.
-/

namespace Timeline

/-- Whether a condition is the jump limit of an advance. -/
def Diagnostic.isJumpLimit : Diagnostic → Bool
  | .jumpLimitReached .. => true
  | _ => false

/-- Whether a condition is a failed binding. -/
def Diagnostic.isBindingFailure : Diagnostic → Bool
  | .bindingFailed .. => true
  | _ => false

/-- A failed binding is no jump limit. -/
theorem Diagnostic.isJumpLimit_of_isBindingFailure {d : Diagnostic} (h : d.isBindingFailure) :
    d.isJumpLimit = false := by
  cases d <;> simp_all [Diagnostic.isBindingFailure, Diagnostic.isJumpLimit]

/-- The frame before one that lies after some frame is computed without wrapping. -/
theorem Int32.toInt_sub_one_of_lt {a b : Int32} (h : a < b) : (b - 1).toInt = b.toInt - 1 := by
  have hab : a.toInt < b.toInt := Int32.lt_iff_toInt_lt.mp h
  have hlo : -2 ^ 31 ≤ a.toInt := Int32.le_toInt a
  have hhi : b.toInt < 2 ^ 31 := Int32.toInt_lt b
  rw [Int32.toInt_sub, Int32.toInt_one]
  apply Int.bmod_eq_of_le <;> omega

/-- No more markers lie after a frame than there are. -/
theorem MarkerList.laterCount_le_size (l : MarkerList) (f : Frame) : l.laterCount f ≤ l.size :=
  List.length_filter_le _ _

namespace Animation

/-- The state of the crossing loop: markers are looked for after frame `start` up to the frame of
`time`, with `jumps` jumps followed so far and `log` the conditions met. -/
structure CrossState where
  /-- Markers on frames up to this one are behind the cursor. -/
  start : Frame
  /-- The jumps followed so far. -/
  jumps : Nat
  /-- The time reached. -/
  time : Float
  /-- The conditions met, in order. -/
  log : List Diagnostic

section Loop

variable (markers : MarkerList) (id : Option String) (maxJumps : Nat)

/-- One pass of the crossing loop over the marker `m` it found: the crossing the pass ends with,
or the state the loop goes on from. -/
def crossPass (s : CrossState) (m : Marker) : Crossing ⊕ CrossState :=
  match m.action with
  | .play => .inr { s with start := m.frame }
  | .stop => .inl ⟨toSeconds m.frame, true, s.log⟩
  | .jump =>
    match (m.jumpTo.bind markers.find?).filter (·.id != m.id) with
    | none =>
      let log := match m.jumpTo with
        | some missing => if missing != m.id then s.log ++ [.markerNotFound id missing] else s.log
        | none => s.log
      .inr { s with start := m.frame, log := log }
    | some t =>
      if maxJumps ≤ s.jumps then
        .inl ⟨toSeconds (m.frame - 1), false, s.log ++ [.jumpLimitReached id s.jumps]⟩
      else
        .inr ⟨t.frame, s.jumps + 1, toSeconds t.frame + (s.time - toSeconds m.frame), s.log⟩

/-- The crossing loop allowed at most `fuel` passes; `none` when they do not suffice. -/
def crossWithin : Nat → CrossState → Option Crossing
  | fuel, s =>
    match markers.firstInRange? s.start (toFrame s.time), fuel with
    | none, _ => some ⟨s.time, false, s.log⟩
    | some _, 0 => none
    | some m, fuel + 1 =>
      match crossPass markers id maxJumps s m with
      | .inl c => some c
      | .inr s' => crossWithin fuel s'

/-- The loop goes on from `s` to `s'`: it finds a marker, and its pass does not end the
crossing. -/
def CrossStep (s s' : CrossState) : Prop :=
  ∃ m, markers.firstInRange? s.start (toFrame s.time) = some m ∧
    crossPass markers id maxJumps s m = .inr s'

/-- The loop ends at `s` with the crossing `c`: no marker is left in range, or the pass over the
marker found ends it. -/
def CrossEnds (s : CrossState) (c : Crossing) : Prop :=
  (markers.firstInRange? s.start (toFrame s.time) = none ∧ c = ⟨s.time, false, s.log⟩) ∨
    ∃ m, markers.firstInRange? s.start (toFrame s.time) = some m ∧
      crossPass markers id maxJumps s m = .inl c

/-- `cross` runs from a state. -/
abbrev crossFrom (s : CrossState) : Crossing :=
  cross markers id maxJumps s.start s.jumps s.time s.log

/-- `cross` is the loop of `crossPass`. -/
theorem cross_unfold (s : CrossState) :
    crossFrom markers id maxJumps s =
      match markers.firstInRange? s.start (toFrame s.time) with
      | none => ⟨s.time, false, s.log⟩
      | some m =>
        match crossPass markers id maxJumps s m with
        | .inl c => c
        | .inr s' => crossFrom markers id maxJumps s' := by
  rw [crossFrom, cross]
  split
  · rename_i hf
    simp only [hf]
  · rename_i m hf
    simp only [hf, crossPass]
    -- on each action the pass ends where `cross` ends, and goes on where `cross` calls itself
    cases m.action
    · rfl
    · rfl
    · dsimp only
      cases (m.jumpTo.bind markers.find?).filter (·.id != m.id)
      · rfl
      · dsimp only
        -- `cross` tests the limit with an `if` that names its proof, the pass with a plain one
        by_cases hj : maxJumps ≤ s.jumps
        · rw [dif_pos hj, if_pos hj]
        · rw [dif_neg hj, if_neg hj]

variable {markers id maxJumps}

/-- What a pass that goes on can do: pass the marker found, keeping the jumps and adding at most
a missing target to the log, or follow one more jump while fewer than the limit were followed. -/
theorem crossPass_eq_inr {s s' : CrossState} {m : Marker}
    (h : crossPass markers id maxJumps s m = .inr s') :
    (s'.start = m.frame ∧ s'.jumps = s.jumps ∧
      (s'.log = s.log ∨ ∃ missing, s'.log = s.log ++ [.markerNotFound id missing])) ∨
    (s.jumps < maxJumps ∧ s'.jumps = s.jumps + 1 ∧ s'.log = s.log) := by
  unfold crossPass at h
  split at h
  · cases h
    exact .inl ⟨rfl, rfl, .inl rfl⟩
  · cases h
  · split at h
    · -- a jump with no target to follow is passed like a play marker
      cases h
      refine .inl ⟨rfl, rfl, ?_⟩
      split
      · split
        · exact .inr ⟨_, rfl⟩
        · exact .inl rfl
      · exact .inl rfl
    · split at h
      · cases h
      · cases h
        exact .inr ⟨by omega, rfl, rfl⟩

/-- What a pass that ends the crossing gives: a stop keeps the log, and a jump at the limit
parks a frame before its marker and reports the jumps followed. -/
theorem crossPass_eq_inl {s : CrossState} {m : Marker} {c : Crossing}
    (h : crossPass markers id maxJumps s m = .inl c) :
    c.diagnostics = s.log ∨
      (maxJumps ≤ s.jumps ∧
        c = ⟨toSeconds (m.frame - 1), false, s.log ++ [.jumpLimitReached id s.jumps]⟩) := by
  unfold crossPass at h
  split at h
  · cases h
  · cases h
    exact .inl rfl
  · split at h
    · cases h
    · split at h
      · rename_i hj
        cases h
        exact .inr ⟨hj, rfl⟩
      · cases h

/-- The jumps stay within the limit along the loop. -/
theorem CrossStep.jumps_le {s s' : CrossState} (h : CrossStep markers id maxJumps s s')
    (hs : s.jumps ≤ maxJumps) : s'.jumps ≤ maxJumps := by
  obtain ⟨m, -, hp⟩ := h
  rcases crossPass_eq_inr hp with ⟨-, hj, -⟩ | ⟨hlt, hj, -⟩ <;> omega

/-- The loop adds no jump limit to the log while it goes on. -/
theorem CrossStep.log_clear {s s' : CrossState} (h : CrossStep markers id maxJumps s s')
    (hs : ∀ d ∈ s.log, d.isJumpLimit = false) : ∀ d ∈ s'.log, d.isJumpLimit = false := by
  obtain ⟨m, -, hp⟩ := h
  rcases crossPass_eq_inr hp with ⟨-, -, hlog | ⟨missing, hlog⟩⟩ | ⟨-, -, hlog⟩
  · rwa [hlog]
  · intro d hd
    rw [hlog, List.mem_append, List.mem_singleton] at hd
    rcases hd with hd | rfl
    · exact hs d hd
    · rfl
  · rwa [hlog]

/-- Along the loop the jumps stay within the limit and the log has no jump limit in it. -/
theorem crossReach_inv {s s' : CrossState}
    (h : Relation.ReflTransGen (CrossStep markers id maxJumps) s s') (hj : s.jumps ≤ maxJumps)
    (hlog : ∀ d ∈ s.log, d.isJumpLimit = false) :
    s'.jumps ≤ maxJumps ∧ ∀ d ∈ s'.log, d.isJumpLimit = false := by
  induction h with
  | refl => exact ⟨hj, hlog⟩
  | tail _ hstep ih => exact ⟨hstep.jumps_le ih.1, hstep.log_clear ih.2⟩

variable (markers id maxJumps)

/-- The measure of the loop: every jump left outweighs all the markers, and every marker ahead of
the cursor counts one. -/
def crossMeasure (s : CrossState) : Nat :=
  (maxJumps - s.jumps) * (markers.size + 1) + markers.laterCount s.start

variable {markers id maxJumps}

/-- Every pass that goes on lowers the measure. -/
theorem CrossStep.measure_lt {s s' : CrossState} (h : CrossStep markers id maxJumps s s') :
    crossMeasure markers maxJumps s' < crossMeasure markers maxJumps s := by
  obtain ⟨m, hf, hp⟩ := h
  rcases crossPass_eq_inr hp with ⟨hstart, hj, -⟩ | ⟨hlt, hj, -⟩
  · -- passing a marker keeps the jumps and leaves fewer markers ahead
    have hm := MarkerList.firstInRange?_spec markers _ _ m hf
    have hfewer := MarkerList.laterCount_lt markers s.start m hm.1 hm.2
    unfold crossMeasure
    rw [hstart, hj]
    omega
  · -- a jump may move the cursor anywhere, but one jump fewer is left
    have hahead := MarkerList.laterCount_le_size markers s'.start
    obtain ⟨k, hk⟩ : ∃ k, maxJumps - s.jumps = k + 1 := ⟨maxJumps - s.jumps - 1, by omega⟩
    have hk' : maxJumps - s'.jumps = k := by omega
    unfold crossMeasure
    rw [hk, hk', Nat.succ_mul]
    omega

variable (markers id maxJumps)

/-- No state has a measure of `(limit + 1) · (markers + 1)` or more. -/
theorem crossMeasure_lt (s : CrossState) :
    crossMeasure markers maxJumps s < (maxJumps + 1) * (markers.size + 1) := by
  have hahead := MarkerList.laterCount_le_size markers s.start
  have hleft : (maxJumps - s.jumps) * (markers.size + 1) ≤ maxJumps * (markers.size + 1) :=
    Nat.mul_le_mul_right _ (Nat.sub_le _ _)
  unfold crossMeasure
  rw [Nat.succ_mul]
  omega

/-- More passes than the measure let the loop finish, with the crossing of `cross`. -/
theorem crossWithin_eq_crossFrom :
    ∀ (fuel : Nat) (s : CrossState), crossMeasure markers maxJumps s < fuel →
      crossWithin markers id maxJumps fuel s = some (crossFrom markers id maxJumps s)
  | 0, _, h => absurd h (Nat.not_lt_zero _)
  | fuel + 1, s, h => by
    unfold crossWithin
    rw [cross_unfold]
    cases hf : markers.firstInRange? s.start (toFrame s.time) with
    | none => rfl
    | some m =>
      dsimp only
      cases hp : crossPass markers id maxJumps s m with
      | inl c => rfl
      | inr s' =>
        have hlt := CrossStep.measure_lt ⟨m, hf, hp⟩
        exact crossWithin_eq_crossFrom fuel s' (by omega)

/-- `(limit + 1) · (markers + 1)` passes always suffice. -/
theorem crossWithin_bound (s : CrossState) :
    crossWithin markers id maxJumps ((maxJumps + 1) * (markers.size + 1)) s =
      some (crossFrom markers id maxJumps s) :=
  crossWithin_eq_crossFrom markers id maxJumps _ s (crossMeasure_lt markers maxJumps s)

variable {markers id maxJumps}

/-- Whatever the loop gives within its passes, it gives at a state it reaches. -/
theorem crossWithin_ends {fuel : Nat} {s : CrossState} {c : Crossing}
    (h : crossWithin markers id maxJumps fuel s = some c) :
    ∃ s', Relation.ReflTransGen (CrossStep markers id maxJumps) s s' ∧
      CrossEnds markers id maxJumps s' c := by
  fun_induction crossWithin markers id maxJumps fuel s with
  | case1 _ s hf =>
    cases h
    exact ⟨s, .refl, .inl ⟨hf, rfl⟩⟩
  | case2 => cases h
  | case3 s m _ hf c' hp =>
    cases h
    exact ⟨s, .refl, .inr ⟨m, hf, hp⟩⟩
  | case4 s m _ hf s' hp ih =>
    obtain ⟨s'', hreach, hend⟩ := ih h
    exact ⟨s'', .head ⟨m, hf, hp⟩ hreach, hend⟩

/-- At a state within the jump limit, the loop ends with the log as it is, or with the jump limit
reported once more, for exactly the limit. -/
theorem CrossEnds.diagnostics {s : CrossState} {c : Crossing}
    (h : CrossEnds markers id maxJumps s c) (hj : s.jumps ≤ maxJumps) :
    c.diagnostics = s.log ∨ c.diagnostics = s.log ++ [.jumpLimitReached id maxJumps] := by
  rcases h with ⟨-, rfl⟩ | ⟨m, -, hp⟩
  · exact .inl rfl
  · rcases crossPass_eq_inl hp with hlog | ⟨hlimit, rfl⟩
    · exact .inl hlog
    · have hjumps : s.jumps = maxJumps := Nat.le_antisymm hj hlimit
      rw [hjumps]
      exact .inr rfl

variable (markers id maxJumps)

/-- The loop started within the jump limit and with no jump limit in its log reports the limit
at most once, at the end, for exactly the limit. -/
theorem crossFrom_diagnostics (s : CrossState) (hj : s.jumps ≤ maxJumps)
    (hlog : ∀ d ∈ s.log, d.isJumpLimit = false) :
    ∃ log, (∀ d ∈ log, d.isJumpLimit = false) ∧
      ((crossFrom markers id maxJumps s).diagnostics = log ∨
        (crossFrom markers id maxJumps s).diagnostics =
          log ++ [.jumpLimitReached id maxJumps]) := by
  obtain ⟨s', hreach, hend⟩ := crossWithin_ends (crossWithin_bound markers id maxJumps s)
  have hinv := crossReach_inv hreach hj hlog
  exact ⟨s'.log, hinv.2, hend.diagnostics hinv.1⟩

end Loop

/-- Writing animators reports nothing but failed bindings. -/
theorem applyAll_diagnostics {τ : Type} [Target τ] (id : Option String) (time : Float)
    (as : List Animator) (t : τ) :
    ∀ d ∈ (applyAll id time as t).diagnostics, d.isBindingFailure := by
  fun_induction applyAll id time as t with
  | case1 => intro d hd; cases hd
  | case2 a rest t _ a' t' status _ p written diag ih =>
    intro d hd
    rcases List.mem_append.mp hd with hd | hd
    · dsimp only [diag] at hd
      split at hd
      · rw [List.mem_singleton] at hd
        rw [hd]
        rfl
      · cases hd
    · exact ih d hd
  | case3 a rest t _ p ih => exact ih

/-- An advance reports what crossing the markers met, then the failed bindings of its writes. -/
theorem advance_diagnostics {τ : Type} [Target τ] (a : Animation) (delta : Float)
    (config : Config) (c : Collection) (t : τ) :
    ∃ ds, (∀ d ∈ ds, d.isBindingFailure) ∧
      (a.advance delta config c t).diagnostics =
        (if a.running then
          (cross a.markers a.id config.maxJumpsPerAdvance.toNat a.frame 0 (a.time + delta) []).diagnostics
        else []) ++ ds := by
  unfold advance
  split
  · rename_i hstop
    have hrun : a.running = false := by simpa using hstop
    exact ⟨[], by simp, by simp [hrun]⟩
  · rename_i hgo
    have hrun : a.running = true := by simpa using hgo
    let x := cross a.markers a.id config.maxJumpsPerAdvance.toNat a.frame 0 (a.time + delta) []
    refine ⟨_, applyAll_diagnostics a.id x.time c.animators t, ?_⟩
    simp only [hrun, if_true]
    rfl

/-- A list free of jump limits, then possibly one jump limit, then failed bindings, holds at most
one jump limit, and that one is the one added. -/
theorem jumpLimit_of_split {log ds : List Diagnostic} {last : Diagnostic}
    (hlog : ∀ d ∈ log, d.isJumpLimit = false) (hds : ∀ d ∈ ds, d.isBindingFailure)
    {tail : List Diagnostic} (htail : tail = [] ∨ tail = [last]) :
    (log ++ tail ++ ds).countP Diagnostic.isJumpLimit ≤ 1 ∧
      ∀ i j, Diagnostic.jumpLimitReached i j ∈ log ++ tail ++ ds →
        Diagnostic.jumpLimitReached i j = last := by
  have hlog0 : log.countP Diagnostic.isJumpLimit = 0 := List.countP_eq_zero.mpr fun d hd => by
    simp [hlog d hd]
  have hds0 : ds.countP Diagnostic.isJumpLimit = 0 := List.countP_eq_zero.mpr fun d hd => by
    simp [Diagnostic.isJumpLimit_of_isBindingFailure (hds d hd)]
  have htail1 : tail.countP Diagnostic.isJumpLimit ≤ 1 :=
    Nat.le_trans List.countP_le_length (by rcases htail with rfl | rfl <;> simp)
  refine ⟨?_, fun i j hmem => ?_⟩
  · rw [List.countP_append, List.countP_append, hlog0, hds0]
    omega
  · rcases List.mem_append.mp hmem with hmem | hmem
    · rcases List.mem_append.mp hmem with hmem | hmem
      · -- the log before the end holds no jump limit
        have := hlog _ hmem
        simp [Diagnostic.isJumpLimit] at this
      · rcases htail with rfl | rfl
        · cases hmem
        · exact List.mem_singleton.mp hmem
    · -- the writes report failed bindings only
      have := hds _ hmem
      simp [Diagnostic.isBindingFailure] at this

/-- What an advance reports: conditions that are no jump limit, then at most the jump limit of
its own animation for exactly `maxJumpsPerAdvance`, then failed bindings. -/
theorem advance_diagnostics_shape {τ : Type} [Target τ] (a : Animation) (delta : Float)
    (config : Config) (c : Collection) (t : τ) :
    ∃ log tail ds, (∀ d ∈ log, d.isJumpLimit = false) ∧
      (tail = [] ∨ tail = [.jumpLimitReached a.id config.maxJumpsPerAdvance.toNat]) ∧
      (∀ d ∈ ds, d.isBindingFailure) ∧
      (a.advance delta config c t).diagnostics = log ++ tail ++ ds := by
  obtain ⟨ds, hds, hadv⟩ := advance_diagnostics a delta config c t
  by_cases hrun : a.running
  · -- a running animation crosses its markers from its frame, with no jump followed yet
    obtain ⟨log, hlog, hx⟩ := crossFrom_diagnostics a.markers a.id
      config.maxJumpsPerAdvance.toNat ⟨a.frame, 0, a.time + delta, []⟩ (Nat.zero_le _)
      (fun d hd => by cases hd)
    rw [hadv, if_pos hrun]
    rcases hx with hx | hx
    · exact ⟨log, [], ds, hlog, .inl rfl, hds, by rw [← hx, List.append_nil]⟩
    · exact ⟨log, _, ds, hlog, .inr rfl, hds, by rw [← hx]⟩
  · refine ⟨[], [], ds, (fun d hd => by cases hd), .inl rfl, hds, ?_⟩
    rw [hadv, if_neg hrun]
    rfl

/-- One advance of an animation crosses its markers in a bounded loop: along the loop at most
`maxJumpsPerAdvance` jumps are followed, and `(maxJumpsPerAdvance + 1) · (markers + 1)` passes
suffice to reach the crossing the advance uses. The advance reports the jump limit at most once,
for its own animation and exactly the limit; and every marker the loop can find lies after the
frame it searched from, so the frame before it, where the cursor parks, is computed without
wrapping. -/
theorem advance_crossing_bounded {τ : Type} [Target τ] (a : Animation) (delta : Float)
    (config : Config) (c : Collection) (t : τ) :
    let M := config.maxJumpsPerAdvance.toNat
    let s0 : CrossState := ⟨a.frame, 0, a.time + delta, []⟩
    (∀ s, Relation.ReflTransGen (CrossStep a.markers a.id M) s0 s → s.jumps ≤ M) ∧
    crossWithin a.markers a.id M ((M + 1) * (a.markers.size + 1)) s0 =
      some (cross a.markers a.id M a.frame 0 (a.time + delta) []) ∧
    (a.advance delta config c t).diagnostics.countP Diagnostic.isJumpLimit ≤ 1 ∧
    (∀ i j, .jumpLimitReached i j ∈ (a.advance delta config c t).diagnostics →
      i = a.id ∧ j = M) ∧
    ∀ after upTo m, a.markers.firstInRange? after upTo = some m →
      after < m.frame ∧ (m.frame - 1).toInt = m.frame.toInt - 1 := by
  intro M s0
  have hclear : ∀ d ∈ s0.log, d.isJumpLimit = false := fun d hd => by cases hd
  obtain ⟨log, tail, ds, hlog, htail, hds, heq⟩ := advance_diagnostics_shape a delta config c t
  have hsplit := jumpLimit_of_split hlog hds htail
  rw [← heq] at hsplit
  refine ⟨fun s hs => (crossReach_inv hs (Nat.zero_le _) hclear).1,
    crossWithin_bound a.markers a.id M s0, hsplit.1, fun i j hmem => ?_, fun after upTo m hm => ?_⟩
  · have h := hsplit.2 i j hmem
    cases h
    exact ⟨rfl, rfl⟩
  · have hafter := (MarkerList.firstInRange?_spec a.markers after upTo m hm).2
    exact ⟨hafter, Int32.toInt_sub_one_of_lt hafter⟩

end Animation

end Timeline

import Timeline.Proofs.MarkerOrder
import Timeline.Proofs.Crossing

/-!
# Where an advance stops

Crossing markers looks at one marker per frame. `firstInRange?` returns the first marker past
the cursor's frame, and after a play marker (or a jump with no other marker to go to) the cursor
moves to that marker's frame, so the next look starts past it. On a list in frame order the
marker found is therefore the first marker on its frame (`MarkerList.atFrame?`), and the other
markers on that frame are passed over unseen.

So when no jump in the crossed range leads to another marker, an advance stops exactly at the
first frame of the range whose first marker is a stop marker (`MarkerList.stopsAt`), and runs on
to its full time when there is none (`Animation.advance_stops_at_first_stop_frame`). A stop
marker placed on a frame after another marker, which `MarkerList.add` does for a stop added
after a play marker on the same frame, never stops the animation.
-/

namespace Timeline

namespace MarkerList

/-- The first marker on frame `f` is a stop marker. -/
def stopsAt (l : MarkerList) (f : Frame) : Prop := (l.atFrame? f).map (·.action) = some .stop

variable {l : MarkerList} {after upTo : Frame} {m : Marker}

/-- On a list in frame order, the marker `firstInRange?` finds lies in the range, is the first
marker on its frame, and no marker lies after `after` and before it. -/
theorem firstInRange?_some_first (h : l.markers.Pairwise (·.frame ≤ ·.frame))
    (hf : l.firstInRange? after upTo = some m) :
    m ∈ l.markers ∧ after < m.frame ∧ m.frame ≤ upTo ∧ l.atFrame? m.frame = some m ∧
      ∀ x ∈ l.markers, after < x.frame → m.frame ≤ x.frame := by
  rw [firstInRange?_eq_find? h] at hf
  obtain ⟨hm, pre, post, hsplit, hpre⟩ := List.find?_eq_some_iff_append.mp hf
  simp only [Bool.and_eq_true, decide_eq_true_eq] at hm
  -- the markers before `m` lie outside the range, the markers after it on later frames
  have hout : ∀ x ∈ pre, after < x.frame → upTo < x.frame := by
    intro x hx hax
    have := hpre x hx
    simp only [Bool.not_and, Bool.or_eq_true, Bool.not_eq_eq_eq_not, Bool.not_true,
      decide_eq_false_iff_not] at this
    rcases this with h1 | h2
    · exact absurd hax h1
    · exact Int32.not_le.mp h2
  have hsorted := h
  rw [hsplit, List.pairwise_append, List.pairwise_cons] at hsorted
  have hmem : m ∈ l.markers := by rw [hsplit]; exact List.mem_append_right _ List.mem_cons_self
  refine ⟨hmem, hm.1, hm.2, ?_, ?_⟩
  · -- no marker before `m` shares its frame, for it would lie in the range
    unfold atFrame?
    rw [hsplit, List.find?_append, List.find?_cons_of_pos (by simp)]
    have hnone : pre.find? (·.frame == m.frame) = none := by
      rw [List.find?_eq_none]
      intro x hx hxm
      have hxm : x.frame = m.frame := by simpa using hxm
      have hgt := hout x hx (hxm ▸ hm.1)
      rw [hxm] at hgt
      exact absurd hm.2 (Int32.not_le.mpr hgt)
    rw [hnone]
    rfl
  · intro x hx hax
    rw [hsplit, List.mem_append, List.mem_cons] at hx
    rcases hx with hx | rfl | hx
    · exact Int32.le_of_lt (Int32.lt_of_le_of_lt hm.2 (hout x hx hax))
    · exact Int32.le_refl _
    · exact hsorted.2.1.1 x hx

/-- On a list in frame order, when `firstInRange?` finds nothing, every marker after `after` lies
after `upTo`. -/
theorem firstInRange?_none_beyond (h : l.markers.Pairwise (·.frame ≤ ·.frame))
    (hf : l.firstInRange? after upTo = none) :
    ∀ x ∈ l.markers, after < x.frame → upTo < x.frame := by
  rw [firstInRange?_eq_find? h, List.find?_eq_none] at hf
  intro x hx hax
  have := hf x hx
  simp only [Bool.and_eq_true, decide_eq_true_eq, not_and] at this
  exact Int32.not_le.mp (this hax)

/-- A frame with no marker on it is no stop frame. -/
theorem not_stopsAt_of_forall_ne {f : Frame} (h : ∀ x ∈ l.markers, x.frame ≠ f) :
    ¬ l.stopsAt f := by
  have hnone : l.atFrame? f = none := by
    unfold atFrame?
    rw [List.find?_eq_none]
    intro x hx hxf
    exact h x hx (by simpa using hxf)
  simp [stopsAt, hnone]

/-- Before the marker `firstInRange?` finds, no frame past a stretch already free of stop frames
is a stop frame: no marker lies there. -/
theorem clear_before_found (h : l.markers.Pairwise (·.frame ≤ ·.frame)) {p : Frame}
    (hf : l.firstInRange? after upTo = some m)
    (hclear : ∀ f, p < f → f ≤ after → ¬ l.stopsAt f) :
    ∀ f, p < f → f < m.frame → ¬ l.stopsAt f := by
  obtain ⟨-, -, -, -, hnext⟩ := firstInRange?_some_first h hf
  intro f hpf hfm
  by_cases hfa : f ≤ after
  · exact hclear f hpf hfa
  · apply not_stopsAt_of_forall_ne
    intro x hx hxf
    have hle := hnext x hx (hxf ▸ Int32.not_le.mp hfa)
    rw [hxf] at hle
    exact Int32.lt_irrefl (Int32.lt_of_lt_of_le hfm hle)

/-- The marker `firstInRange?` finds makes its frame a stop frame exactly when it is a stop
marker. -/
theorem stopsAt_found (h : l.markers.Pairwise (·.frame ≤ ·.frame))
    (hf : l.firstInRange? after upTo = some m) : l.stopsAt m.frame ↔ m.action = .stop := by
  obtain ⟨-, -, -, hfirst, -⟩ := firstInRange?_some_first h hf
  simp [stopsAt, hfirst]

/-- A jump that leads somewhere names a marker other than itself that the list has. -/
theorem target_of_filter {t : Marker}
    (h : (m.jumpTo.bind l.find?).filter (·.id != m.id) = some t) :
    ∃ target, m.jumpTo = some target ∧ target ≠ m.id ∧ l.find? target ≠ none := by
  obtain ⟨hfound, hne⟩ := Option.filter_eq_some_iff.mp h
  obtain ⟨target, hto, hfind⟩ := Option.bind_eq_some_iff.mp hfound
  have hid : t.id = target := by simpa using List.find?_some hfind
  refine ⟨target, hto, fun heq => ?_, by rw [hfind]; exact Option.some_ne_none t⟩
  simp [hid, heq] at hne

end MarkerList

namespace Animation

variable {l : MarkerList} (id : Option String) (maxJumps : Nat)

/-- With the markers in frame order and no jump of the range leading to another marker, the
crossing loop, started at or after `p` with no stop frame from `p` to its start, ends at the
first stop frame after `p` up to the frame of its time, or at its time when there is none. -/
theorem cross_stops_at_first_stop (hsorted : l.markers.Pairwise (·.frame ≤ ·.frame)) {p : Frame}
    (start : Frame) (jumps : Nat) (time : Float) (log : List Diagnostic)
    (hjump : ∀ m ∈ l.markers, p < m.frame → m.frame ≤ toFrame time → m.action = .jump →
      ∀ target, m.jumpTo = some target → target = m.id ∨ l.find? target = none)
    (hp : p ≤ start) (hclear : ∀ f, p < f → f ≤ start → ¬ l.stopsAt f) :
    (∃ f, p < f ∧ f ≤ toFrame time ∧ l.stopsAt f ∧ (∀ f', p < f' → f' < f → ¬ l.stopsAt f') ∧
        (cross l id maxJumps start jumps time log).time = toSeconds f ∧
        (cross l id maxJumps start jumps time log).stopped = true) ∨
      ((∀ f, p < f → f ≤ toFrame time → ¬ l.stopsAt f) ∧
        (cross l id maxJumps start jumps time log).time = time ∧
        (cross l id maxJumps start jumps time log).stopped = false) := by
  -- passing the marker found moves the cursor onto its frame, still free of stop frames
  have pass : ∀ {start time m}, l.firstInRange? start (toFrame time) = some m →
      m.action ≠ .stop → p ≤ start → (∀ f, p < f → f ≤ start → ¬ l.stopsAt f) →
      p ≤ m.frame ∧ ∀ f, p < f → f ≤ m.frame → ¬ l.stopsAt f := by
    intro start time m hf hact hp hclear
    obtain ⟨-, hsm, -, -, -⟩ := MarkerList.firstInRange?_some_first hsorted hf
    refine ⟨Int32.le_of_lt (Int32.lt_of_le_of_lt hp hsm), fun f hpf hfm => ?_⟩
    rcases Int32.lt_or_eq_of_le hfm with hlt | rfl
    · exact MarkerList.clear_before_found hsorted hf hclear f hpf hlt
    · exact fun hstop => hact ((MarkerList.stopsAt_found hsorted hf).mp hstop)
  -- a jump found in range leads nowhere else, so it cannot be followed
  have stuck : ∀ {start time m t}, l.firstInRange? start (toFrame time) = some m →
      p ≤ start → m.action = .jump → (m.jumpTo.bind l.find?).filter (·.id != m.id) = some t →
      (∀ m ∈ l.markers, p < m.frame → m.frame ≤ toFrame time → m.action = .jump →
        ∀ target, m.jumpTo = some target → target = m.id ∨ l.find? target = none) → False := by
    intro start time m t hf hp hact ht hjump
    obtain ⟨hm, hsm, hmq, -, -⟩ := MarkerList.firstInRange?_some_first hsorted hf
    obtain ⟨target, hto, hne, hfind⟩ := MarkerList.target_of_filter ht
    rcases hjump m hm (Int32.lt_of_le_of_lt hp hsm) hmq hact target hto with heq | hnone
    · exact hne heq
    · exact hfind hnone
  fun_induction cross l id maxJumps start jumps time log with
  | case1 start jumps time log hf =>
    -- nothing is left in range: no stop frame lies past the start either
    refine .inr ⟨fun f hpf hfq => ?_, rfl, rfl⟩
    by_cases hfs : f ≤ start
    · exact hclear f hpf hfs
    · apply MarkerList.not_stopsAt_of_forall_ne
      intro x hx hxf
      have hbeyond := MarkerList.firstInRange?_none_beyond hsorted hf x hx
        (hxf ▸ Int32.not_le.mp hfs)
      rw [hxf] at hbeyond
      exact Int32.not_le.mpr hbeyond hfq
  | case2 start jumps time log m hf hplay ih =>
    obtain ⟨hp', hclear'⟩ := pass hf (by rw [hplay]; exact nofun) hp hclear
    exact ih hjump hp' hclear'
  | case3 start jumps time log m hf hstop =>
    obtain ⟨-, hsm, hmq, -, -⟩ := MarkerList.firstInRange?_some_first hsorted hf
    exact .inl ⟨m.frame, Int32.lt_of_le_of_lt hp hsm, hmq,
      (MarkerList.stopsAt_found hsorted hf).mpr hstop,
      MarkerList.clear_before_found hsorted hf hclear, rfl, rfl⟩
  | case4 start jumps log₀ time m hf hjmp hnone log ih =>
    obtain ⟨hp', hclear'⟩ := pass hf (by rw [hjmp]; exact nofun) hp hclear
    exact ih hjump hp' hclear'
  | case5 start jumps time log m hf hjmp t ht =>
    exact (stuck hf hp hjmp ht hjump).elim
  | case6 start jumps time log m hf hjmp t ht =>
    exact (stuck hf hp hjmp ht hjump).elim

/-- A running animation's advance takes its time and whether it stops from crossing its
markers; the stopped callback fires, and is dropped, exactly when a stop marker was hit. -/
theorem advance_of_crossing {τ : Type} [Target τ] (a : Animation) (delta : Float)
    (config : Config) (c : Collection) (t : τ) (hrun : a.running = true) :
    (a.advance delta config c t).animation.time =
        (cross a.markers a.id config.maxJumpsPerAdvance.toNat a.frame 0 (a.time + delta) []).time ∧
      (a.advance delta config c t).animation.running =
        !(cross a.markers a.id config.maxJumpsPerAdvance.toNat a.frame 0 (a.time + delta)
          []).stopped ∧
      (a.advance delta config c t).stopped =
        ((cross a.markers a.id config.maxJumpsPerAdvance.toNat a.frame 0 (a.time + delta)
          []).stopped && a.onStopped) ∧
      (a.advance delta config c t).animation.onStopped =
        (a.onStopped && !(cross a.markers a.id config.maxJumpsPerAdvance.toNat a.frame 0
          (a.time + delta) []).stopped) := by
  unfold advance
  simp only [hrun, Bool.not_true, Bool.false_eq_true, if_false, Bool.true_and]
  cases (cross a.markers a.id config.maxJumpsPerAdvance.toNat a.frame 0 (a.time + delta)
    []).stopped <;> simp

/-- A running animation over a marker list built by adding and removing markers, advanced by
`delta` with no jump in the crossed frames leading to another marker, stops exactly at the
first crossed frame whose first marker is a stop marker: its time is then the start of that
frame, and the stopped callback, if one was installed, has fired and is gone. Without such a
frame it runs on to its full time, and the callback stays. -/
theorem advance_stops_at_first_stop_frame {τ : Type} [Target τ] (a : Animation) (delta : Float)
    (config : Config) (c : Collection) (t : τ) (hrun : a.running = true)
    (hl : a.markers.Reachable)
    (hjump : ∀ m ∈ a.markers.markers, a.frame < m.frame → m.frame ≤ toFrame (a.time + delta) →
      m.action = .jump → ∀ target, m.jumpTo = some target →
        target = m.id ∨ a.markers.find? target = none) :
    (∃ f, a.frame < f ∧ f ≤ toFrame (a.time + delta) ∧ a.markers.stopsAt f ∧
        (∀ f', a.frame < f' → f' < f → ¬ a.markers.stopsAt f') ∧
        (a.advance delta config c t).animation.running = false ∧
        (a.advance delta config c t).animation.time = toSeconds f ∧
        (a.advance delta config c t).stopped = a.onStopped ∧
        (a.advance delta config c t).animation.onStopped = false) ∨
      ((∀ f, a.frame < f → f ≤ toFrame (a.time + delta) → ¬ a.markers.stopsAt f) ∧
        (a.advance delta config c t).animation.running = true ∧
        (a.advance delta config c t).animation.time = a.time + delta ∧
        (a.advance delta config c t).stopped = false ∧
        (a.advance delta config c t).animation.onStopped = a.onStopped) := by
  obtain ⟨htime, hrunning, hstopped, hcallback⟩ := advance_of_crossing a delta config c t hrun
  -- the crossing starts on the animation's own frame, with nothing behind it to clear
  rcases cross_stops_at_first_stop a.id config.maxJumpsPerAdvance.toNat hl.valid.sorted a.frame 0
      (a.time + delta) [] hjump (Int32.le_refl _)
      (fun f hpf hfs => absurd (Int32.lt_of_lt_of_le hpf hfs) Int32.lt_irrefl) with
    ⟨f, hpf, hfq, hstop, hfirst, hx, hxs⟩ | ⟨hnone, hx, hxs⟩
  · refine .inl ⟨f, hpf, hfq, hstop, hfirst, ?_, ?_, ?_, ?_⟩
    · rw [hrunning, hxs]
      rfl
    · rw [htime, hx]
    · rw [hstopped, hxs, Bool.true_and]
    · rw [hcallback, hxs, Bool.not_true, Bool.and_false]
  · refine .inr ⟨hnone, ?_, ?_, ?_, ?_⟩
    · rw [hrunning, hxs]
      rfl
    · rw [htime, hx]
    · rw [hstopped, hxs, Bool.false_and]
    · rw [hcallback, hxs, Bool.not_false, Bool.and_true]

/-- An animation whose markers put a play and then a stop marker on frame 5, advanced by a
third of a second from time zero: the theorem applies, and the stop marker, which is not the
first marker on its frame, makes no stop frame. -/
theorem advance_stops_at_first_stop_frame_shared :
    let a : Animation :=
      { running := true, onStopped := true,
        markers := MarkerList.ofList [.play "start" 0, .play "go" 5, .stop "halt" 5] }
    let s := a.advance 0.333333333333333 {} {} ({} : Bag)
    a.running = true ∧ a.markers.Reachable ∧
    (∀ m ∈ a.markers.markers, a.frame < m.frame →
      m.frame ≤ toFrame (a.time + 0.333333333333333) → m.action = .jump →
      ∀ target, m.jumpTo = some target → target = m.id ∨ a.markers.find? target = none) ∧
    ((∃ f, a.frame < f ∧ f ≤ toFrame (a.time + 0.333333333333333) ∧ a.markers.stopsAt f ∧
        (∀ f', a.frame < f' → f' < f → ¬ a.markers.stopsAt f') ∧
        s.animation.running = false ∧ s.animation.time = toSeconds f ∧
        s.stopped = a.onStopped ∧ s.animation.onStopped = false) ∨
      ((∀ f, a.frame < f → f ≤ toFrame (a.time + 0.333333333333333) → ¬ a.markers.stopsAt f) ∧
        s.animation.running = true ∧ s.animation.time = a.time + 0.333333333333333 ∧
        s.stopped = false ∧ s.animation.onStopped = a.onStopped)) := by
  intro a s
  have hl : a.markers.Reachable := MarkerList.ofList_reachable _
  have hjump : ∀ m ∈ a.markers.markers, a.frame < m.frame →
      m.frame ≤ toFrame (a.time + 0.333333333333333) → m.action = .jump →
      ∀ target, m.jumpTo = some target → target = m.id ∨ a.markers.find? target = none := by
    intro m hm _ _ hact
    -- none of the markers is a jump
    have hms : a.markers.markers = [.play "start" 0, .play "go" 5, .stop "halt" 5] := by decide
    rw [hms] at hm
    simp only [List.mem_cons, List.not_mem_nil, or_false] at hm
    rcases hm with rfl | rfl | rfl <;> cases hact
  exact ⟨rfl, hl, hjump,
    advance_stops_at_first_stop_frame a 0.333333333333333 {} {} ({} : Bag) rfl hl hjump⟩

end Animation

end Timeline

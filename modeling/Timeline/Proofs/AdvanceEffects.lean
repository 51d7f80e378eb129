import Timeline.Proofs.Window
import Timeline.Proofs.Lifecycle
import Timeline.Proofs.StopMarkers

/-!
# What one advance does to animators, triggers and the target

An advance of a running animation writes each of its animators once, in collection order, at
the time the crossing of markers reached, each on the target as the animators before it left
it; the animators of other animations are kept as they are (`Animation.AdvanceSpec.applied`).
When the frame changed, every animator of the animation that is enabled, bound to a
triggerable property and has a key on the new frame fires once, in collection order
(`Animation.AdvanceSpec.fired`). The target is asked to repaint once when some write happened
and not otherwise, and the stopped callback fires, and is dropped, exactly when a stop marker
halted the animation. `Animation.advance_meets_spec` shows every advance of a running animation
does all of this, over any animators whose own animators have a sound window key
(`Animator.Indexed`); those of other animations, and disabled ones, may be anything.

Whether an animator fires is read from the key of its window (`Animator.trigger?`), not from its
keys. The two agree because the window the apply left was made for, or kept on, the frame it
fires on: `Animator.KeySound` says that the window's key stands on a frame of the window
exactly when some key does, `makeWindow_keyAt` that a new window has it, and
`Animator.Reachable.indexed` that every animator callers can make keeps it.
-/

namespace Timeline

variable {α : Type}

/-! ## The key of a window -/

namespace KeyList

variable {l : KeyList α} {g : Frame}

/-- On ordered keys, the key at a position at or before `g`, with the next key beyond `g`,
stands on `g` exactly when some key does. -/
theorem frame_eq_iff_of_last_le (hl : l.Ordered) {i : Nat} {a : Key α}
    (ha : l.keys[i]? = some a) (hag : a.frame ≤ g)
    (hnext : ∀ b, l.keys[i + 1]? = some b → g < b.frame) :
    a.frame = g ↔ ∃ k ∈ l.keys, k.frame = g := by
  refine ⟨fun h => ⟨a, List.mem_of_getElem? ha, h⟩, ?_⟩
  rintro ⟨k, hk, rfl⟩
  obtain ⟨m, hm⟩ := List.mem_iff_getElem?.mp hk
  by_cases hmi : m ≤ i
  · -- a key at or before position `i` lies at or before `a`, which lies at or before it
    exact Int32.le_antisymm hag (hl.frame_le hm ha hmi)
  · -- a key after position `i` lies at or beyond the next key, which lies beyond `g`
    have hlen := (List.getElem?_eq_some_iff.mp hm).1
    obtain ⟨b, hb⟩ : ∃ b, l.keys[i + 1]? = some b := ⟨_, List.getElem?_eq_getElem (by omega)⟩
    exact absurd (hl.frame_le hb hm (by omega)) (Int32.not_le.mpr (hnext b hb))

/-- When every key lies beyond `g`, the first one does not stand on `g`, and neither does any
other. -/
theorem frame_ne_of_beyond {k0 : Key α} (hk0 : l.keys.head? = some k0)
    (h : ∀ k ∈ l.keys, g < k.frame) : ¬ k0.frame = g ∧ ¬ ∃ k ∈ l.keys, k.frame = g := by
  refine ⟨fun he => ?_, fun ⟨k, hk, he⟩ => ?_⟩
  · have := h k0 (List.mem_of_mem_head? hk0)
    rw [he] at this
    exact Int32.lt_irrefl this
  · have := h k hk
    rw [he] at this
    exact Int32.lt_irrefl this

end KeyList

/-- A window made for frame `f` of ordered keys shows, at `f` and at every frame of the window,
whether a key stands there: its key does exactly then. -/
theorem makeWindow_keyAt {kind : Kind} {l : KeyList Value} (hl : l.Ordered) (f : Frame)
    (s r : Nat) (g : Frame)
    (h : g = f ∨ ((makeWindow kind l f s r).lo ≤ g ∧ g < (makeWindow kind l f s r).hi)) :
    (l.get? (makeWindow kind l f s r).keyIndex).map (·.frame) = some g ↔
      ∃ k ∈ l.keys, k.frame = g := by
  cases hhead : l.keys.head? with
  | none =>
    have hnil : l.keys = [] := List.head?_eq_none_iff.mp hhead
    simp [makeWindow, KeyList.get?, hnil]
  | some k0 =>
    cases hseek : seekKey l.keys f s with
    | none =>
      -- every key lies beyond `f`, and the window ends at the first key
      have hbeyond : ∀ k ∈ l.keys, g < k.frame := by
        intro k hk
        rcases h with rfl | ⟨-, hhi⟩
        · exact seekKey_eq_none hl hseek k hk
        · simp only [makeWindow, hhead, hseek] at hhi
          obtain ⟨m, hm⟩ := List.mem_iff_getElem?.mp hk
          have hk0 : l.keys[0]? = some k0 := by rw [← KeyList.head?_eq_getElem?]; exact hhead
          exact Int32.lt_of_lt_of_le hhi (hl.frame_le hk0 hm (Nat.zero_le m))
      obtain ⟨hne, hnone⟩ := KeyList.frame_ne_of_beyond hhead hbeyond
      have hk0 : l.get? 0 = some k0 := by
        rw [KeyList.get?, ← KeyList.head?_eq_getElem?]
        exact hhead
      simp only [makeWindow, hhead, hseek, hk0, Option.map_some, Option.some.injEq]
      exact iff_of_false hne hnone
    | some i =>
      obtain ⟨a, ha, haf, hnext⟩ := seekKey_eq_some hl hseek
      have hga : l.get? i = some a := ha
      cases hb : l.keys[i + 1]? with
      | some b =>
        -- the window is the segment from `a` to `b`, and its key is `a`
        have hbetween : a.frame ≤ g ∧ ∀ b', l.keys[i + 1]? = some b' → g < b'.frame := by
          simp only [makeWindow, hhead, hseek, ha, hb] at h
          rcases h with rfl | ⟨hlo, hhi⟩
          · exact ⟨haf, hnext⟩
          · refine ⟨hlo, fun b' hb' => ?_⟩
            rw [hb] at hb'
            cases hb'
            exact hhi
        simp only [makeWindow, hhead, hseek, ha, hb, hga, Option.map_some, Option.some.injEq]
        exact KeyList.frame_eq_iff_of_last_le hl ha hbetween.1 hbetween.2
      | none =>
        -- `a` is the last key, and the window runs from it on
        have hag : a.frame ≤ g := by
          simp only [makeWindow, hhead, hseek, ha, hb] at h
          rcases h with rfl | ⟨hlo, -⟩
          · exact haf
          · exact hlo
        simp only [makeWindow, hhead, hseek, ha, hb, hga, Option.map_some, Option.some.injEq]
        exact KeyList.frame_eq_iff_of_last_le hl ha hag (fun b' hb' => by rw [hb] at hb'; cases hb')

namespace Animator

/-- The key at the window's position stands on a frame of the window exactly when some key
does. -/
def KeySound (a : Animator) : Prop :=
  ∀ g, a.window.lo ≤ g → g < a.window.hi →
    ((a.keys.get? a.window.keyIndex).map (·.frame) = some g ↔ ∃ k ∈ a.keys.keys, k.frame = g)

/-- What the triggers of an animator rest on: ordered keys, and a window whose key shows whether
a key stands on a frame of the window. -/
structure Indexed (a : Animator) : Prop where
  /-- The keys are ordered. -/
  ordered : a.keys.Ordered
  /-- The window's key is sound. -/
  key : a.KeySound

/-- A window without frames shows nothing, so its key is sound for any keys. -/
theorem keySound_of_empty {a : Animator} (hlo : a.window.lo = 0) (hhi : a.window.hi = 0) :
    a.KeySound := by
  intro g hl hh
  rw [hlo] at hl
  rw [hhi] at hh
  exact absurd (Int32.lt_of_le_of_lt hl hh) Int32.lt_irrefl

/-- Binding does not touch the keys or the window. -/
theorem Indexed.withBinding {a : Animator} (ha : a.Indexed) (b : BindingState) :
    ({ a with binding := b } : Animator).Indexed := ⟨ha.ordered, ha.key⟩

/-- After sampling at `time`, the window's key stands on the frame of `time` exactly when some
key does. -/
theorem sample_keyAt {a : Animator} (ha : a.Indexed) (time : Float) :
    ((a.sample time).1.keys.get? (a.sample time).1.window.keyIndex).map (·.frame) =
        some (toFrame time) ↔ ∃ k ∈ a.keys.keys, k.frame = toFrame time := by
  dsimp only [sample]
  split
  · -- a new window, made for the frame of `time`
    exact makeWindow_keyAt ha.ordered _ _ _ _ (Or.inl rfl)
  · -- the frame lies in the kept window
    rename_i hkeep
    simp only [Bool.or_eq_true, decide_eq_true_eq, not_or] at hkeep
    exact ha.key _ (Int32.not_lt.mp hkeep.1.1) (Int32.not_le.mp hkeep.1.2)

/-- Sampling keeps the window's key sound. -/
theorem sample_indexed {a : Animator} (ha : a.Indexed) (time : Float) :
    (a.sample time).1.Indexed := by
  dsimp only [sample]
  split
  · exact ⟨ha.ordered, fun g hlo hhi => makeWindow_keyAt ha.ordered _ _ _ g (Or.inr ⟨hlo, hhi⟩)⟩
  · exact ha

/-- Writing keeps the window's key sound: it binds and samples, or does nothing. -/
theorem apply_indexed {τ : Type} [Target τ] {a : Animator} (ha : a.Indexed) (time : Float)
    (t : τ) : (a.apply time t).1.Indexed := by
  rcases apply_cases time t a with
    ⟨-, happ⟩ | ⟨f, -, -, happ⟩ | ⟨b, -, -, happ⟩ | ⟨f, -, -, -, happ⟩ <;> rw [happ]
  · exact ha
  · exact ha
  · exact sample_indexed (ha.withBinding _) time
  · exact ha.withBinding _

/-- Every animator callers can make keeps its window's key sound. -/
theorem Reachable.indexed {a : Animator} (ha : a.Reachable) : a.Indexed := by
  induction ha with
  | new target kind listId hk => exact ⟨hk.ordered, keySound_of_empty rfl rfl⟩
  | sample time _ ih => exact sample_indexed ih time
  | apply time t _ ih => exact apply_indexed ih time t
  | edit fresh e _ ih => exact ⟨e.run_ordered ih.ordered, keySound_of_empty rfl rfl⟩
  | share listId _ hk _ => exact ⟨hk.ordered, keySound_of_empty rfl rfl⟩
  | resetCache _ ih => exact ⟨ih.ordered, keySound_of_empty rfl rfl⟩
  | clone _ ih => exact ⟨ih.ordered, keySound_of_empty rfl rfl⟩
  | unbind _ ih | setEnabled _ _ ih | setAnimation _ _ ih | retarget _ _ ih =>
    exact ⟨ih.ordered, ih.key⟩

/-- Whether an animator fires on a frame, read from its keys: it is enabled, bound to a
triggerable property, and a key stands on the frame. -/
def firesOn (a : Animator) (frame : Frame) : Bool :=
  a.enabled && a.isTriggerable && a.keys.keys.any (·.frame == frame)

/-- After sampling at `time`, an animator with a sound window fires on the frame of `time`
exactly as its keys say. -/
theorem sample_trigger? {a : Animator} (ha : a.Indexed) (time correction : Float) :
    (a.sample time).1.trigger? (toFrame time) correction =
      if (a.sample time).1.firesOn (toFrame time) then
        some ⟨(a.sample time).1.target, correction⟩
      else none := by
  -- the test on the window's key is the test on the keys
  have hany : (((a.sample time).1.keys.get? (a.sample time).1.window.keyIndex).map (·.frame) ==
      some (toFrame time)) = (a.sample time).1.keys.keys.any (·.frame == toFrame time) := by
    rw [Bool.eq_iff_iff, beq_iff_eq, sample_keyAt ha, (sample_keys a time).1, List.any_eq_true]
    simp
  simp [trigger?, firesOn, hany]

/-- After an apply at `time`, an animator with a sound window fires on the frame of `time`
exactly as its keys say. -/
theorem apply_trigger? {τ : Type} [Target τ] {a : Animator} (ha : a.Indexed) (time : Float)
    (t : τ) (correction : Float) :
    (a.apply time t).1.trigger? (toFrame time) correction =
      if (a.apply time t).1.firesOn (toFrame time) then
        some ⟨(a.apply time t).1.target, correction⟩
      else none := by
  rcases apply_cases time t a with
    ⟨hen, happ⟩ | ⟨f, -, hz, happ⟩ | ⟨b, -, -, happ⟩ | ⟨f, -, -, -, happ⟩ <;> rw [happ]
  · simp [trigger?, firesOn, hen]
  · simp [trigger?, firesOn, isTriggerable, hz]
  · -- the apply sampled at `time`
    exact sample_trigger? (ha.withBinding _) time correction
  · simp [trigger?, firesOn, isTriggerable]

end Animator

/-! ## Writing the animators of one animation -/

/-- Keeping the members that pass `p` and mapping them by `g` is mapping them to `g` or
nothing. -/
theorem List.filterMap_ite_eq_map_filter {β γ : Type} (p : β → Bool) (g : β → γ) (l : List β) :
    l.filterMap (fun y => if p y then some (g y) else none) = (l.filter p).map g := by
  induction l with
  | nil => rfl
  | cons x l ih => by_cases h : p x <;> simp [h, ih]

/-- The animation an animator belongs to is kept by applies. -/
theorem Animator.Later.animation {a a' : Animator} (h : a.Later a') :
    a'.animation = a.animation := by
  rw [h.same]

/-- The target after the animators of animation `id` among `xs` wrote at `time`, one after
another from `t`. -/
def writeOwn {τ : Type} [Target τ] (id : Option String) (time : Float) (xs : List Animator)
    (t : τ) : τ :=
  xs.foldl (fun t x => if x.animation = id then (x.apply time t).2.1 else t) t

/-- The first animator writes first, if it belongs to the animation. -/
theorem writeOwn_cons {τ : Type} [Target τ] (id : Option String) (time : Float) (x : Animator)
    (xs : List Animator) (t : τ) :
    writeOwn id time (x :: xs) t =
      writeOwn id time xs (if x.animation = id then (x.apply time t).2.1 else t) := rfl

namespace Animation

variable {τ : Type} [Target τ] (id : Option String) (time : Float)

/-- Writing leaves the target the animators of the animation leave, one after another. -/
theorem applyAll_target (xs : List Animator) (t : τ) :
    (applyAll id time xs t).target = writeOwn id time xs t := by
  fun_induction applyAll id time xs t with
  | case1 t => rfl
  | case2 a rest t hown a' t' status happ p written diag ih =>
    rw [writeOwn_cons, if_pos hown, happ]
    exact ih
  | case3 a rest t hown p ih =>
    rw [writeOwn_cons, if_neg hown]
    exact ih

/-- Writing replaces each animator of the animation by its apply at `time`, on the target the
animators before it left, and keeps every other animator in its place. -/
theorem applyAll_getElem? (xs : List Animator) (t : τ) (i : Nat) :
    (applyAll id time xs t).animators[i]? = (xs[i]?).map fun x =>
      if x.animation = id then (x.apply time (writeOwn id time (xs.take i) t)).1 else x := by
  fun_induction applyAll id time xs t generalizing i with
  | case1 t => rfl
  | case2 a rest t hown a' t' status happ p written diag ih =>
    cases i with
    | zero => simp [hown, happ, writeOwn]
    | succ i =>
      rw [List.getElem?_cons_succ, ih i, List.take_succ_cons, writeOwn_cons, if_pos hown, happ]
      rfl
  | case3 a rest t hown p ih =>
    cases i with
    | zero => simp [hown]
    | succ i =>
      rw [List.getElem?_cons_succ, ih i, List.take_succ_cons, writeOwn_cons, if_neg hown]
      rfl

/-- Among `x :: xs`, an apply of the animation reports a write exactly when the first one does,
or one of the rest does on the target the first left. -/
theorem exists_written_cons (x : Animator) (xs : List Animator) (t : τ) :
    (∃ i, ∃ y : Animator, (x :: xs)[i]? = some y ∧ y.animation = id ∧
        (y.apply time (writeOwn id time ((x :: xs).take i) t)).2.2 = .written) ↔
      (x.animation = id ∧ (x.apply time t).2.2 = .written) ∨
        ∃ i, ∃ y : Animator, xs[i]? = some y ∧ y.animation = id ∧
          (y.apply time (writeOwn id time (xs.take i)
            (if x.animation = id then (x.apply time t).2.1 else t))).2.2 = .written := by
  constructor
  · rintro ⟨i, y, hy, ho, hw⟩
    cases i with
    | zero =>
      -- position zero is the first animator, applied to `t` itself
      cases hy
      exact .inl ⟨ho, hw⟩
    | succ i =>
      rw [List.take_succ_cons, writeOwn_cons] at hw
      exact .inr ⟨i, y, hy, ho, hw⟩
  · rintro (⟨ho, hw⟩ | ⟨i, y, hy, ho, hw⟩)
    · exact ⟨0, x, rfl, ho, hw⟩
    · refine ⟨i + 1, y, hy, ho, ?_⟩
      rw [List.take_succ_cons, writeOwn_cons]
      exact hw

/-- Some value was written exactly when the apply of some animator of the animation, on the
target the animators before it left, reported a write. -/
theorem applyAll_written_pos (xs : List Animator) (t : τ) :
    0 < (applyAll id time xs t).written ↔
      ∃ i, ∃ x : Animator, xs[i]? = some x ∧ x.animation = id ∧
        (x.apply time (writeOwn id time (xs.take i) t)).2.2 = .written := by
  fun_induction applyAll id time xs t with
  | case1 t => simp
  | case2 a rest t hown a' t' status happ p written diag ih =>
    -- the first animator counts one exactly when its apply reported a write
    rw [exists_written_cons, if_pos hown, happ, ← ih]
    cases status with
    | written =>
      simp only [written, p, hown, true_and, true_or, iff_true]
      omega
    | disabled | zombie | bindFailed _ => simp [written, p, hown]
  | case3 a rest t hown p ih =>
    rw [exists_written_cons, if_neg hown, ← ih]
    simp [p, hown]

/-- After writing, the animators of the animation whose keys were sound fire on the frame of
`time` exactly as their keys say, in collection order. -/
theorem applyAll_triggers (xs : List Animator) (t : τ)
    (hxs : ∀ x ∈ xs, x.animation = id → x.Indexed) (correction : Float) :
    (applyAll id time xs t).animators.filterMap
        (fun y => if y.animation = id then y.trigger? (toFrame time) correction else none) =
      ((applyAll id time xs t).animators.filter
        (fun y => y.animation == id && y.firesOn (toFrame time))).map
          (fun y => ⟨y.target, correction⟩) := by
  rw [← List.filterMap_ite_eq_map_filter]
  apply List.filterMap_congr
  intro y hy
  obtain ⟨i, hi⟩ := List.mem_iff_getElem?.mp hy
  rw [applyAll_getElem?] at hi
  obtain ⟨x, hx, rfl⟩ := Option.map_eq_some_iff.mp hi
  by_cases hown : x.animation = id
  · -- an animator of the animation was applied at `time`
    have hlater := Animator.apply_later x time (writeOwn id time (xs.take i) t)
    rw [if_pos hown]
    simp only [hlater.animation, hown, if_true, beq_self_eq_true, Bool.true_and]
    exact Animator.apply_trigger? (hxs x (List.mem_of_getElem? hx) hown) time
      (writeOwn id time (xs.take i) t) correction
  · simp [hown]

/-! ## One advance -/

section Crossing

variable {l : MarkerList} (mid : Option String) (maxJumps : Nat)

/-- Crossing stops only on a stop marker of the list, at the start of its frame. -/
theorem cross_stopped (start : Frame) (jumps : Nat) (time : Float) (log : List Diagnostic)
    (h : (cross l mid maxJumps start jumps time log).stopped = true) :
    ∃ m ∈ l.markers, m.action = .stop ∧
      (cross l mid maxJumps start jumps time log).time = toSeconds m.frame := by
  fun_induction cross l mid maxJumps start jumps time log with
  | case1 start jumps time log hf => cases h
  | case2 start jumps time log m hf hplay ih => exact ih h
  | case3 start jumps time log m hf hstop =>
    exact ⟨m, (MarkerList.firstInRange?_spec _ _ _ m hf).1, hstop, rfl⟩
  | case4 start jumps log₀ time m hf hjmp hnone log ih => exact ih h
  | case5 start jumps time log m hf hjmp t ht => cases h
  | case6 start jumps time log m hf hjmp t ht hj ih => exact ih h

end Crossing

/-- A running animation's advance writes its animators at the time it reached, fires the
triggers of the new frame when the frame changed, and asks the target to repaint when a value
was written. -/
theorem advance_writes {τ : Type} [Target τ] (a : Animation) (delta : Float) (config : Config)
    (c : Collection) (t : τ) (hrun : a.running = true) :
    let s := a.advance delta config c t
    let p := applyAll a.id s.animation.time c.animators t
    s.animators.animators = p.animators ∧
      s.target = (if 0 < p.written then Target.invalidate p.target else p.target) ∧
      s.fired = if s.animation.frame ≠ a.frame then
        s.animators.animators.filterMap (fun y => if y.animation = a.id then
          y.trigger? s.animation.frame (s.animation.time - toSeconds s.animation.frame) else none)
      else [] := by
  dsimp only
  unfold advance
  simp only [hrun, Bool.not_true, Bool.false_eq_true, if_false, Bool.true_and]
  -- the callback is dropped or kept, which changes neither the time nor the id
  cases hx : (cross a.markers a.id config.maxJumpsPerAdvance.toNat a.frame 0 (a.time + delta)
    []).stopped <;> simp only [if_true, if_false, Bool.false_eq_true] <;>
    refine ⟨rfl, rfl, ?_⟩ <;> simp [triggers, frame]

/-- What an advance of a running animation `a` over the animators `c` and the target `t` gives
in `s`. -/
structure AdvanceSpec {τ : Type} [Target τ] (a : Animation) (c : Collection) (t : τ)
    (s : Step τ) : Prop where
  /-- Each animator of `a` is replaced by its apply at the time reached, on the target the
  animators of `a` before it left; every other animator stays as it is, in its place. -/
  applied : ∀ i, s.animators.animators[i]? = (c.animators[i]?).map fun (x : Animator) =>
    if x.animation = a.id then
      (x.apply s.animation.time (writeOwn a.id s.animation.time (c.animators.take i) t)).1
    else x
  /-- When the frame changed, the animators of `a` that are enabled, bound to a triggerable
  property and have a key on the new frame fire, in order, each with the time past the start of
  the frame; otherwise none fires. -/
  fired : s.fired = if s.animation.frame ≠ a.frame then
      (s.animators.animators.filter fun y => y.animation == a.id &&
        y.firesOn s.animation.frame).map
          fun y => ⟨y.target, s.animation.time - toSeconds s.animation.frame⟩
    else []
  /-- When some apply reported a write, the target is what the applies left, asked once to
  repaint. -/
  repainted : (∃ i, ∃ x : Animator, c.animators[i]? = some x ∧ x.animation = a.id ∧
      (x.apply s.animation.time (writeOwn a.id s.animation.time (c.animators.take i) t)).2.2 =
        .written) →
    s.target = Target.invalidate (writeOwn a.id s.animation.time c.animators t)
  /-- Otherwise the target is what the applies left, not asked to repaint. -/
  unpainted : (¬ ∃ i, ∃ x : Animator, c.animators[i]? = some x ∧ x.animation = a.id ∧
      (x.apply s.animation.time (writeOwn a.id s.animation.time (c.animators.take i) t)).2.2 =
        .written) →
    s.target = writeOwn a.id s.animation.time c.animators t
  /-- The stopped callback fires exactly when one was installed and the animation stopped. -/
  stopped : s.stopped = (a.onStopped && !s.animation.running)
  /-- It is dropped when it fires, and kept otherwise. -/
  callback : s.animation.onStopped = (a.onStopped && s.animation.running)
  /-- The animation stops only on a stop marker, at the start of its frame. -/
  halted : s.animation.running = false →
    ∃ m ∈ a.markers.markers, m.action = .stop ∧ s.animation.time = toSeconds m.frame

/-- An advance of a running animation, over animators whose animators of that animation have a
sound window key, writes each of its animators once, in order, at the time reached, on the
target the earlier ones left, and no other animator; when the frame changed, exactly its
enabled animators with a key on the new frame fire, in order; the target is asked once to
repaint exactly when a write happened; and the stopped callback fires, and is dropped, exactly
when a stop marker halted the animation. Every animator callers can make has a sound window key
(`Animator.Reachable.indexed`). -/
theorem advance_meets_spec {τ : Type} [Target τ] (a : Animation) (delta : Float)
    (config : Config) (c : Collection) (t : τ) (hrun : a.running = true)
    (hc : ∀ x ∈ c.animators, x.animation = a.id → x.Indexed) :
    a.AdvanceSpec c t (a.advance delta config c t) := by
  obtain ⟨hanim, htarget, hfired⟩ := advance_writes a delta config c t hrun
  obtain ⟨htime, hrunning, hstopped, hcallback⟩ := advance_of_crossing a delta config c t hrun
  -- the animators were written at the time reached, which is the time of the new frame
  have hframe : (a.advance delta config c t).animation.frame =
      toFrame (a.advance delta config c t).animation.time := rfl
  refine ⟨fun i => ?_, ?_, fun hw => ?_, fun hw => ?_, ?_, ?_, fun hr => ?_⟩
  · rw [hanim, applyAll_getElem?]
  · rw [hfired]
    split
    · rw [hanim, hframe, applyAll_triggers _ _ _ _ hc]
    · rfl
  · rw [htarget, if_pos ((applyAll_written_pos _ _ _ _).mpr hw), applyAll_target]
  · rw [htarget, if_neg (fun h => hw ((applyAll_written_pos _ _ _ _).mp h)), applyAll_target]
  · rw [hstopped, hrunning, Bool.not_not, Bool.and_comm]
  · rw [hcallback, hrunning]
  · -- the animation runs on unless crossing hit a stop marker
    rw [hrunning, Bool.not_eq_false'] at hr
    rw [htime]
    exact cross_stopped a.id _ a.frame 0 (a.time + delta) [] hr

/-- A running default animation over three animators of boolean properties keyed on frame 1:
one of its own, one of another animation and a disabled one of its own, advanced by a twentieth
of a second. -/
theorem advance_meets_spec_mixed :
    let keys := (KeyEdit.push ⟨1, .bool true, .steep⟩).run ({} : KeyList Value)
    let a : Animation := { running := true }
    let c : Collection := ⟨[Animator.new "X" .bool keys 0,
      { Animator.new "Y" .bool keys 1 with animation := some "walk" },
      { Animator.new "Z" .bool keys 2 with enabled := false }]⟩
    let t := (({} : Bag).define "X" (.bool false)).1
    a.running = true ∧ (∀ x ∈ c.animators, x.animation = a.id → x.Indexed) ∧
      a.AdvanceSpec c t (a.advance 0.05 {} c t) := by
  intro keys a c t
  have hkeys : keys.Reachable := .edit (.push ⟨1, Value.bool true, .steep⟩) .empty
  -- each animator is made by the setters from a new one
  have hc : ∀ x ∈ c.animators, x.animation = a.id → x.Indexed := by
    intro x hx _
    simp only [c, List.mem_cons, List.not_mem_nil, or_false] at hx
    rcases hx with rfl | rfl | rfl
    · exact (Animator.Reachable.new "X" .bool 0 hkeys).indexed
    · exact (Animator.Reachable.setAnimation (some "walk") (.new "Y" .bool 1 hkeys)).indexed
    · exact (Animator.Reachable.setEnabled false (.new "Z" .bool 2 hkeys)).indexed
  exact ⟨rfl, hc, advance_meets_spec a 0.05 {} c t rfl hc⟩

end Animation

end Timeline

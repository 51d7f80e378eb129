import Mathlib.Tactic.SplitIfs
import Timeline.Track.Animator
import Timeline.Proofs.KeyList

/-!
# The window of an animator never serves a stale value

`KeyList.eval` is the value of a key list at a time found from the keys alone: the rest value of
the animator's kind without keys, the first value before the first key, the last value from the
last key on, and otherwise the blend of the one segment whose keys enclose the frame of the time.
`Animator.sample` answers from the window it kept instead, and walks from the window's last
position to make a new one when the frame leaves it or the keys changed.

`Animator.sample_eq_eval` shows the two agree at every time, on every animator callers can make
(`Animator.Reachable`): a new animator over a reachable key list, then any sequence of
evaluations, writes, key edits, key sharing, cache resets, clones, unbinding and the setters of
the enabled flag, the animation and the target. The invariant is
`Animator.Coherent`: the keys are ordered and every frame in the window evaluates from the window
as from the keys. Edits, sharing, resets and clones leave a window with no frames; a window made
by `makeWindow` is right on all of its frames (`makeWindow_eval`). That rests on the walk: from
any start, however stale, the walk forward stops at a key after which every key lies beyond the
frame (`seekForward_spec`), and the walk back from there finds the last key at or before the
frame (`seekBack_spec`), which on ordered keys is the key that encloses it.
-/

namespace Timeline

variable {α : Type}

/-! ## The value of a key list, found afresh -/

namespace KeyList

/-- The blend of the segment from key `a`, at position `i`, to the next key `b`, at `time`: held,
on a line, or on a Catmull-Rom curve whose outer points are the neighbouring keys, clamped to the
ends of the list or, for a closed spline, taken around the list. -/
def segmentValue (l : KeyList Value) (i : Nat) (a b : Key Value) (time : Float) : Value :=
  let n := l.keys.length
  let value (j : Nat) : Value := (l.keys.map (·.value)).getD j a.value
  let u := segmentT time (toSeconds a.frame) (toSeconds b.frame)
  match a.ease with
  | .steep => a.value
  | .linear => Value.lerp a.value b.value u
  | .spline => Value.spline (value (i - 1)) a.value b.value (value (min (i + 2) (n - 1))) u
  | .closedSpline =>
    Value.spline (value (if i = 0 then n - 2 else i - 1)) a.value b.value
      (value (if i + 2 > n - 1 then 1 else i + 2)) u

/-- The value of a key list at `time`, from the keys alone: the rest value of `kind` without
keys, the first value before the first key, the last value from the last key on, and otherwise
the blend of the segment from the last key at or before the frame of `time`. -/
def eval (kind : Kind) (l : KeyList Value) (time : Float) : Value :=
  let f := toFrame time
  match l.keys.head?, l.keys.getLast? with
  | some first, some last =>
    if f < first.frame then first.value
    else if last.frame ≤ f then last.value
    else
      let i := (l.keys.takeWhile (·.frame ≤ f)).length - 1
      match l.keys[i]?, l.keys[i + 1]? with
      | some a, some b => l.segmentValue i a b time
      | _, _ => Value.rest kind
  | _, _ => Value.rest kind

/-! ## Positions in an ordered list -/

/-- In an ordered list a key at an earlier position lies on an earlier frame. -/
theorem Ordered.frame_lt {l : KeyList α} (hl : l.Ordered) {i j : Nat} {a b : Key α}
    (ha : l.keys[i]? = some a) (hb : l.keys[j]? = some b) (hij : i < j) : a.frame < b.frame := by
  obtain ⟨hi, rfl⟩ := List.getElem?_eq_some_iff.mp ha
  obtain ⟨hj, rfl⟩ := List.getElem?_eq_some_iff.mp hb
  exact List.pairwise_iff_getElem.mp hl i j hi hj hij

/-- In an ordered list a key at a position at or before another lies on a frame at or before
its frame. -/
theorem Ordered.frame_le {l : KeyList α} (hl : l.Ordered) {i j : Nat} {a b : Key α}
    (ha : l.keys[i]? = some a) (hb : l.keys[j]? = some b) (hij : i ≤ j) : a.frame ≤ b.frame := by
  rcases Nat.lt_or_eq_of_le hij with hlt | rfl
  · exact Int32.le_of_lt (hl.frame_lt ha hb hlt)
  · rw [ha] at hb
    cases hb
    exact Int32.le_refl _

/-- Between the keys at positions `i` and `i + 1` of an ordered list, the keys at or before the
frame are the first `i + 1`. -/
theorem takeWhile_length_of_between {l : KeyList α} (hl : l.Ordered) {i : Nat} {a b : Key α}
    {f : Frame} (ha : l.keys[i]? = some a) (hb : l.keys[i + 1]? = some b) (haf : a.frame ≤ f)
    (hfb : f < b.frame) : (l.keys.takeWhile (·.frame ≤ f)).length = i + 1 := by
  obtain ⟨hi1, hbi⟩ := List.getElem?_eq_some_iff.mp hb
  -- The first key after the frame is the one at `i + 1`.
  have hidx : l.keys.findIdx (fun k => !decide (k.frame ≤ f)) = i + 1 := by
    rw [List.findIdx_eq hi1]
    refine ⟨?_, fun j hj => ?_⟩
    · rw [hbi]
      simpa using hfb
    · have hle := hl.frame_le (List.getElem?_eq_getElem (Nat.lt_trans hj hi1)) ha (by omega)
      simpa using Int32.le_trans hle haf
  rw [List.takeWhile_eq_take_findIdx_not, hidx, List.length_take]
  omega

/-! ## The reference at each place -/

/-- The keys of a list at positions `0` and `n - 1` are its first and last keys. -/
theorem head?_eq_getElem? (l : KeyList α) : l.keys.head? = l.keys[0]? := by
  cases l.keys <;> rfl

/-- Before the first key the value is the first key's. -/
theorem eval_of_lt_first {kind : Kind} {l : KeyList Value} {first : Key Value} {time : Float}
    (hfirst : l.keys.head? = some first) (h : toFrame time < first.frame) :
    l.eval kind time = first.value := by
  obtain ⟨last, hlast⟩ : ∃ last, l.keys.getLast? = some last := by
    cases hk : l.keys.getLast? with
    | none =>
      rw [List.getLast?_eq_none_iff] at hk
      rw [hk] at hfirst
      cases hfirst
    | some last => exact ⟨last, rfl⟩
  simp [eval, hfirst, hlast, h]

/-- From the last key on the value is the last key's. -/
theorem eval_of_last_le {kind : Kind} {l : KeyList Value} (hl : l.Ordered) {last : Key Value}
    {time : Float} (hlast : l.keys.getLast? = some last) (h : last.frame ≤ toFrame time) :
    l.eval kind time = last.value := by
  obtain ⟨first, hfirst⟩ : ∃ first, l.keys.head? = some first := by
    cases hk : l.keys.head? with
    | none =>
      rw [List.head?_eq_none_iff] at hk
      rw [hk] at hlast
      cases hlast
    | some first => exact ⟨first, rfl⟩
  -- The first key is at or before the last, so the frame is not before it.
  have hn : l.keys.length - 1 < l.keys.length := by
    have : l.keys ≠ [] := fun e => by rw [e] at hlast; cases hlast
    have := List.length_pos_iff.mpr this
    omega
  have hlast' : l.keys[l.keys.length - 1]? = some last := by
    rw [List.getLast?_eq_getElem?] at hlast
    exact hlast
  have hfirst' : l.keys[0]? = some first := by rw [← head?_eq_getElem?]; exact hfirst
  have hfl : first.frame ≤ last.frame := hl.frame_le hfirst' hlast' (Nat.zero_le _)
  have hnot : ¬ toFrame time < first.frame :=
    Int32.not_lt.mpr (Int32.le_trans hfl h)
  simp [eval, hfirst, hlast, hnot, h]

/-- Between the keys at positions `i` and `i + 1` the value is the blend of their segment. -/
theorem eval_of_between {kind : Kind} {l : KeyList Value} (hl : l.Ordered) {i : Nat}
    {a b : Key Value} {time : Float} (ha : l.keys[i]? = some a) (hb : l.keys[i + 1]? = some b)
    (haf : a.frame ≤ toFrame time) (hfb : toFrame time < b.frame) :
    l.eval kind time = l.segmentValue i a b time := by
  obtain ⟨hi1, -⟩ := List.getElem?_eq_some_iff.mp hb
  obtain ⟨first, hfirst⟩ : ∃ first, l.keys.head? = some first :=
    ⟨l.keys[0], by rw [head?_eq_getElem?]; exact List.getElem?_eq_getElem (by omega)⟩
  obtain ⟨last, hlast⟩ : ∃ last, l.keys.getLast? = some last :=
    ⟨l.keys[l.keys.length - 1], by
      rw [List.getLast?_eq_getElem?]; exact List.getElem?_eq_getElem (by omega)⟩
  have hfirst' : l.keys[0]? = some first := by rw [← head?_eq_getElem?]; exact hfirst
  have hlast' : l.keys[l.keys.length - 1]? = some last := by
    rw [List.getLast?_eq_getElem?] at hlast
    exact hlast
  -- The frame is neither before the first key nor at or after the last.
  have hnot1 : ¬ toFrame time < first.frame :=
    Int32.not_lt.mpr (Int32.le_trans (hl.frame_le hfirst' ha (Nat.zero_le _)) haf)
  have hnot2 : ¬ last.frame ≤ toFrame time :=
    Int32.not_le.mpr (Int32.lt_of_lt_of_le hfb (hl.frame_le hb hlast' (by omega)))
  have hlen := takeWhile_length_of_between hl ha hb haf hfb
  simp [eval, hfirst, hlast, hnot1, hnot2, hlen, ha, hb]

end KeyList

/-! ## The walk from the last position -/

section Walk

variable {l : KeyList α} {f : Frame}

/-- The walk forward from a position of the list stops at a position of the list after which
every key lies beyond `f`: it stops either on the last key or on a key at or after `f`. -/
theorem seekForward_spec (hl : l.Ordered) (f : Frame) {i : Nat} (hi : i < l.keys.length) :
    seekForward l.keys f i < l.keys.length ∧
      ∀ m (k : Key α), seekForward l.keys f i < m → l.keys[m]? = some k → f < k.frame := by
  fun_induction seekForward l.keys f i with
  | case1 i h hgt ih => exact ih (by omega)
  | case2 i h hgt =>
    refine ⟨hi, fun m k hm hk => ?_⟩
    have hle : f ≤ l.keys[i].frame := by
      simpa [List.get_eq_getElem] using Int32.not_lt.mp hgt
    exact Int32.lt_of_le_of_lt hle (hl.frame_lt (List.getElem?_eq_getElem hi) hk hm)
  | case3 i h =>
    refine ⟨hi, fun m k hm hk => ?_⟩
    have := (List.getElem?_eq_some_iff.mp hk).1
    omega

/-- The walk back from a position `j` of the list finds the last key at or before `f` among the
first `j + 1`, or finds that all of them lie beyond `f`. -/
theorem seekBack_spec (f : Frame) {j : Nat} (hj : j < l.keys.length) :
    (seekBack l.keys f j = none → ∀ m (k : Key α), m ≤ j → l.keys[m]? = some k → f < k.frame) ∧
      ∀ i, seekBack l.keys f j = some i → i ≤ j ∧ (∃ a, l.keys[i]? = some a ∧ a.frame ≤ f) ∧
        ∀ m (k : Key α), i < m → m ≤ j → l.keys[m]? = some k → f < k.frame := by
  induction j with
  | zero =>
    have hk0 : l.keys[0]? = some l.keys[0] := List.getElem?_eq_getElem hj
    by_cases h0 : l.keys[0].frame ≤ f
    · simp only [seekBack, hk0, h0, if_true]
      refine ⟨fun h => absurd h (by simp), fun i hi => ?_⟩
      cases hi
      exact ⟨Nat.le_refl 0, ⟨_, hk0, h0⟩, fun m k hm hm' _ => absurd hm' (by omega)⟩
    · simp only [seekBack, hk0, h0, if_false]
      refine ⟨fun _ m k hm hk => ?_, fun i hi => absurd hi (by simp)⟩
      have hm0 : m = 0 := by omega
      subst hm0
      rw [hk0] at hk
      cases hk
      exact Int32.not_le.mp h0
  | succ j ih =>
    obtain ⟨ihnone, ihsome⟩ := ih (by omega)
    have hkj : l.keys[j + 1]? = some l.keys[j + 1] := List.getElem?_eq_getElem hj
    by_cases hj' : l.keys[j + 1].frame ≤ f
    · simp only [seekBack, hkj, hj', if_true]
      refine ⟨fun h => absurd h (by simp), fun i hi => ?_⟩
      cases hi
      exact ⟨Nat.le_refl _, ⟨_, hkj, hj'⟩, fun m k hm hm' _ => absurd hm' (by omega)⟩
    · -- The key at `j + 1` lies beyond `f`; the walk goes on from `j`.
      have hbeyond : f < l.keys[j + 1].frame := Int32.not_le.mp hj'
      simp only [seekBack, hkj, hj', if_false]
      refine ⟨fun h m k hm hk => ?_, fun i hi => ?_⟩
      · rcases Nat.lt_or_eq_of_le hm with hm | rfl
        · exact ihnone h m k (by omega) hk
        · rw [hkj] at hk
          cases hk
          exact hbeyond
      · obtain ⟨hij, hfound, hafter⟩ := ihsome i hi
        refine ⟨by omega, hfound, fun m k hm hm' hk => ?_⟩
        rcases Nat.lt_or_eq_of_le hm' with hm' | rfl
        · exact hafter m k hm (by omega) hk
        · rw [hkj] at hk
          cases hk
          exact hbeyond

/-- When the walk finds nothing, every key lies beyond the frame. -/
theorem seekKey_eq_none (hl : l.Ordered) {s : Nat} (h : seekKey l.keys f s = none) :
    ∀ k ∈ l.keys, f < k.frame := by
  intro k hk
  obtain ⟨m, hm⟩ := List.mem_iff_getElem?.mp hk
  have hlen : l.keys.length - 1 < l.keys.length := by
    have := (List.getElem?_eq_some_iff.mp hm).1
    omega
  have hstart : min s (l.keys.length - 1) < l.keys.length := by omega
  obtain ⟨hj, hforward⟩ := seekForward_spec hl f hstart
  obtain ⟨hnone, -⟩ := seekBack_spec f hj
  by_cases hmj : m ≤ seekForward l.keys f (min s (l.keys.length - 1))
  · exact hnone h m k hmj hm
  · exact hforward m k (by omega) hm

/-- When the walk finds a position, its key is at or before the frame and the key after it lies
beyond the frame. -/
theorem seekKey_eq_some (hl : l.Ordered) {s i : Nat} (h : seekKey l.keys f s = some i) :
    ∃ a, l.keys[i]? = some a ∧ a.frame ≤ f ∧
      ∀ b, l.keys[i + 1]? = some b → f < b.frame := by
  have hne : 0 < l.keys.length := by
    cases hk : l.keys with
    | nil => simp [seekKey, hk, seekForward, seekBack] at h
    | cons _ _ => simp
  have hstart : min s (l.keys.length - 1) < l.keys.length := by omega
  obtain ⟨hj, hforward⟩ := seekForward_spec hl f hstart
  obtain ⟨-, hsome⟩ := seekBack_spec f hj
  obtain ⟨hij, ⟨a, ha, haf⟩, hafter⟩ := hsome i h
  refine ⟨a, ha, haf, fun b hb => ?_⟩
  by_cases hnext : i + 1 ≤ seekForward l.keys f (min s (l.keys.length - 1))
  · exact hafter (i + 1) b (by omega) hnext hb
  · exact hforward (i + 1) b (by omega) hb

end Walk

/-! ## Windows -/

/-- A position of the list holds a key, so `valueAt` reads its value whatever the default. -/
theorem valueAt_eq_getD {keys : List (Key Value)} {j : Nat} (hj : j < keys.length) (d d' : Value) :
    valueAt keys j d = (keys.map (·.value)).getD j d' := by
  simp [valueAt, List.getD_eq_getElem?_getD, hj]

/-- The window made for a frame between the keys at `i` and `i + 1` spans their frames and blends
their segment as the reference does. -/
theorem makeWindow_of_segment (kind : Kind) {l : KeyList Value} {f : Frame} {s : Nat} (r : Nat)
    {i : Nat} {a b : Key Value} (hseek : seekKey l.keys f s = some i) (ha : l.keys[i]? = some a)
    (hb : l.keys[i + 1]? = some b) :
    (makeWindow kind l f s r).lo = a.frame ∧ (makeWindow kind l f s r).hi = b.frame ∧
      ∀ time, (makeWindow kind l f s r).eval time = l.segmentValue i a b time := by
  have hn : i + 1 < l.keys.length := (List.getElem?_eq_some_iff.mp hb).1
  obtain ⟨k0, hhead⟩ : ∃ k0, l.keys.head? = some k0 :=
    ⟨l.keys[0], by rw [KeyList.head?_eq_getElem?]; exact List.getElem?_eq_getElem (by omega)⟩
  simp only [makeWindow, hhead, hseek, ha, hb]
  refine ⟨trivial, trivial, fun time => ?_⟩
  cases hea : a.ease with
  | steep => simp [Window.eval, KeyList.segmentValue, hea]
  | linear => simp [Window.eval, KeyList.segmentValue, hea]
  | spline =>
    -- The outer points are the neighbours, clamped to the ends of the list.
    have hnext : (if l.keys.length - 1 ≤ i + 1 then l.keys.length - 1 else i + 2) =
        min (i + 2) (l.keys.length - 1) := by
      split <;> omega
    simp only [Window.eval, KeyList.segmentValue, hea, hnext]
    rw [valueAt_eq_getD (by omega) _ a.value, valueAt_eq_getD (by omega) _ a.value]
  | closedSpline =>
    -- The outer points are taken around the list.
    have hprev : (if i < 1 then l.keys.length - 2 else i - 1) =
        if i = 0 then l.keys.length - 2 else i - 1 := by
      split <;> split <;> omega
    have hnext : (if l.keys.length - 1 ≤ i + 1 then 1 else i + 2) =
        if i + 2 > l.keys.length - 1 then 1 else i + 2 := by
      split <;> split <;> omega
    simp only [Window.eval, KeyList.segmentValue, hea, hprev, hnext]
    rw [valueAt_eq_getD (by split <;> omega) _ a.value,
      valueAt_eq_getD (by split <;> omega) _ a.value]

/-- A window made for frame `f` of ordered keys gives the reference value at every time on frame
`f` and at every time whose frame lies in the window. -/
theorem makeWindow_eval {kind : Kind} {l : KeyList Value} (hl : l.Ordered) (f : Frame)
    (s r : Nat) (time : Float)
    (h : toFrame time = f ∨ ((makeWindow kind l f s r).lo ≤ toFrame time ∧
      toFrame time < (makeWindow kind l f s r).hi)) :
    (makeWindow kind l f s r).eval time = l.eval kind time := by
  cases hhead : l.keys.head? with
  | none =>
    have hnil : l.keys = [] := List.head?_eq_none_iff.mp hhead
    simp [makeWindow, Window.eval, KeyList.eval, hnil]
  | some k0 =>
    cases hseek : seekKey l.keys f s with
    | none =>
      -- Every key lies beyond `f`: the window holds the first value before the first key.
      have hf : toFrame time < k0.frame := by
        simp only [makeWindow, hhead, hseek] at h
        rcases h with rfl | ⟨-, hhi⟩
        · exact seekKey_eq_none hl hseek k0 (List.mem_of_mem_head? hhead)
        · exact hhi
      simp only [makeWindow, hhead, hseek, Window.eval]
      exact (KeyList.eval_of_lt_first hhead hf).symm
    | some i =>
      obtain ⟨a, ha, haf, hnext⟩ := seekKey_eq_some hl hseek
      cases hb : l.keys[i + 1]? with
      | some b =>
        -- The window is the segment from `a` to `b`.
        obtain ⟨hlo, hhi, heval⟩ := makeWindow_of_segment kind r hseek ha hb
        have hbetween : a.frame ≤ toFrame time ∧ toFrame time < b.frame := by
          rw [hlo, hhi] at h
          rcases h with rfl | h
          · exact ⟨haf, hnext b hb⟩
          · exact h
        rw [heval, KeyList.eval_of_between hl ha hb hbetween.1 hbetween.2]
      | none =>
        -- `a` is the last key: the window holds its value from its frame on.
        have hlast : l.keys.getLast? = some a := by
          have hi : i + 1 = l.keys.length := by
            have h1 := (List.getElem?_eq_some_iff.mp ha).1
            have h2 := List.getElem?_eq_none_iff.mp hb
            omega
          rw [List.getLast?_eq_getElem?, ← hi, Nat.add_sub_cancel]
          exact ha
        have haf' : a.frame ≤ toFrame time := by
          simp only [makeWindow, hhead, hseek, ha, hb] at h
          rcases h with rfl | ⟨hlo, -⟩
          · exact haf
          · exact hlo
        simp only [makeWindow, hhead, hseek, ha, hb, Window.eval]
        exact (KeyList.eval_of_last_le hl hlast haf').symm

/-! ## Animators -/

namespace Animator

/-- The window of an animator serves the keys' value at every time whose frame lies in it. -/
def WindowSound (a : Animator) : Prop :=
  ∀ time, a.window.lo ≤ toFrame time → toFrame time < a.window.hi →
    a.window.eval time = a.keys.eval a.kind time

/-- What every reachable animator keeps: ordered keys, and a window that serves their values. -/
structure Coherent (a : Animator) : Prop where
  /-- The keys are ordered. -/
  ordered : a.keys.Ordered
  /-- The window serves the keys' values. -/
  window : a.WindowSound

/-- A window without frames serves nothing, so it is sound for any keys. -/
theorem windowSound_of_empty {a : Animator} (hlo : a.window.lo = 0) (hhi : a.window.hi = 0) :
    a.WindowSound := by
  intro time hl hh
  rw [hlo] at hl
  rw [hhi] at hh
  exact absurd (Int32.lt_of_le_of_lt hl hh) Int32.lt_irrefl

/-- Binding does not touch the keys or the window. -/
theorem Coherent.withBinding {a : Animator} (ha : a.Coherent) (b : BindingState) :
    ({ a with binding := b } : Animator).Coherent := ⟨ha.ordered, ha.window⟩

/-- Sampling keeps the keys and the kind. -/
theorem sample_keys (a : Animator) (time : Float) :
    (a.sample time).1.keys = a.keys ∧ (a.sample time).1.kind = a.kind := by
  dsimp only [sample]
  split <;> exact ⟨rfl, rfl⟩

/-- A coherent animator samples the value of its keys. -/
theorem sample_eval {a : Animator} (ha : a.Coherent) (time : Float) :
    (a.sample time).2 = a.keys.eval a.kind time := by
  dsimp only [sample]
  split
  · -- A new window, made for the frame of `time`.
    exact makeWindow_eval ha.ordered _ _ _ time (Or.inl rfl)
  · -- The frame lies in the kept window, made from the same version of the keys.
    rename_i hkeep
    simp only [Bool.or_eq_true, decide_eq_true_eq, not_or] at hkeep
    exact ha.window time (Int32.not_lt.mp hkeep.1.1) (Int32.not_le.mp hkeep.1.2)

/-- Sampling keeps an animator coherent. -/
theorem sample_coherent {a : Animator} (ha : a.Coherent) (time : Float) :
    (a.sample time).1.Coherent := by
  dsimp only [sample]
  split
  · exact ⟨ha.ordered, fun t hlo hhi => makeWindow_eval ha.ordered _ _ _ t (Or.inr ⟨hlo, hhi⟩)⟩
  · exact ha

/-- Writing keeps an animator coherent: it binds and samples, or does nothing. -/
theorem apply_coherent {τ : Type} [Target τ] {a : Animator} (ha : a.Coherent) (time : Float)
    (t : τ) : (a.apply time t).1.Coherent := by
  unfold apply
  split
  · exact ha
  · split
    · exact ha
    · exact sample_coherent ha time
    · split
      · exact ha.withBinding _
      · exact sample_coherent (ha.withBinding _) time

/-- Resetting the cache leaves a window without frames. -/
theorem resetCache_coherent {a : Animator} (ha : a.Coherent) : a.resetCache.Coherent :=
  ⟨ha.ordered, windowSound_of_empty rfl rfl⟩

/-- Editing the keys resets the cache, so the animator stays coherent while the keys stay
ordered. -/
theorem editKeys_coherent {β : Type} (a : Animator) (fresh : Nat)
    (f : KeyList Value → KeyList Value × β) (hf : (f a.keys).1.Ordered) :
    (a.editKeys fresh f).1.Coherent :=
  ⟨hf, windowSound_of_empty rfl rfl⟩

/-- Reading another list resets the cache. -/
theorem shareKeys_coherent (a : Animator) {keys : KeyList Value} (hk : keys.Ordered)
    (listId : Nat) : (a.shareKeys keys listId).Coherent :=
  ⟨hk, windowSound_of_empty rfl rfl⟩

/-- A clone starts with a window without frames. -/
theorem clone_coherent {a : Animator} (ha : a.Coherent) : a.clone.Coherent :=
  ⟨ha.ordered, windowSound_of_empty rfl rfl⟩

/-- A new animator over ordered keys is coherent. -/
theorem new_coherent (target : String) (kind : Kind) {keys : KeyList Value} (hk : keys.Ordered)
    (listId : Nat) : (Animator.new target kind keys listId).Coherent :=
  ⟨hk, windowSound_of_empty rfl rfl⟩

/-- The animators callers can make: a new animator over a reachable key list, then any sequence
of evaluations, writes, key edits, reading the keys of another list, cache resets, clones,
unbinding, and setting the enabled flag, the animation or the target property (which unbinds). -/
inductive Reachable : Animator → Prop
  | new (target : String) (kind : Kind) {keys : KeyList Value} (listId : Nat) :
      keys.Reachable → Reachable (Animator.new target kind keys listId)
  | sample {a : Animator} (time : Float) : Reachable a → Reachable (a.sample time).1
  | apply {τ : Type} [Target τ] {a : Animator} (time : Float) (t : τ) :
      Reachable a → Reachable (a.apply time t).1
  | edit {a : Animator} (fresh : Nat) (e : KeyEdit Value) :
      Reachable a → Reachable (a.editKeys fresh fun l => (e.run l, ())).1
  | share {a : Animator} {keys : KeyList Value} (listId : Nat) :
      Reachable a → keys.Reachable → Reachable (a.shareKeys keys listId)
  | resetCache {a : Animator} : Reachable a → Reachable a.resetCache
  | clone {a : Animator} : Reachable a → Reachable a.clone
  | unbind {a : Animator} : Reachable a → Reachable a.unbind
  | setEnabled {a : Animator} (enabled : Bool) :
      Reachable a → Reachable { a with enabled := enabled }
  | setAnimation {a : Animator} (animation : Option String) :
      Reachable a → Reachable { a with animation := animation }
  | retarget {a : Animator} (path : String) : Reachable a → Reachable (a.retarget path)

/-- The keys of a reachable animator form a reachable list, so another animator may read them. -/
theorem Reachable.keys_reachable {a : Animator} (ha : a.Reachable) : a.keys.Reachable := by
  induction ha with
  | new _ _ _ hk => exact hk
  | sample time _ ih => rw [(sample_keys _ time).1]; exact ih
  | apply time t _ ih =>
    rename_i a _
    -- Writing only binds and samples.
    have hkeys : (a.apply time t).1.keys = a.keys := by
      unfold Animator.apply
      split
      · rfl
      · split
        · rfl
        · exact (sample_keys _ time).1
        · split
          · rfl
          · exact (sample_keys _ time).1
    rw [hkeys]
    exact ih
  | edit fresh e _ ih => exact .edit e ih
  | share _ _ hk _ => exact hk
  | resetCache _ ih => exact ih
  | clone _ ih => exact ih
  -- The setters leave the keys alone.
  | unbind _ ih | setEnabled _ _ ih | setAnimation _ _ ih | retarget _ _ ih => exact ih

/-- Every reachable animator is coherent. -/
theorem Reachable.coherent {a : Animator} (ha : a.Reachable) : a.Coherent := by
  induction ha with
  | new target kind listId hk => exact new_coherent target kind hk.ordered listId
  | sample time _ ih => exact sample_coherent ih time
  | apply time t _ ih => exact apply_coherent ih time t
  | edit fresh e _ ih => exact editKeys_coherent _ fresh _ (e.run_ordered ih.ordered)
  | share listId _ hk _ => exact shareKeys_coherent _ hk.ordered listId
  | resetCache _ ih => exact resetCache_coherent ih
  | clone _ ih => exact clone_coherent ih
  -- The setters leave the kind, the keys and the window alone.
  | unbind _ ih | setEnabled _ _ ih | setAnimation _ _ ih | retarget _ _ ih =>
    exact ⟨ih.ordered, ih.window⟩

/-- The value of a reachable animator at any time is the value of its keys there, found
afresh: the window never serves a stale value. -/
theorem sample_eq_eval {a : Animator} (ha : a.Reachable) (time : Float) :
    (a.sample time).2 = a.keys.eval a.kind time :=
  sample_eval ha.coherent time

/-- A track edited after an evaluation, whose window then covers frames of the old keys, still
samples as its keys say. -/
theorem sample_eq_eval_after_edit :
    let a := (((Animator.new "X" .float ((KeyEdit.push ⟨0, .float 0, .linear⟩).run {}) 0).sample
      0.2).1.editKeys 1 fun l => ((KeyEdit.push ⟨10, .float 1, .linear⟩).run l, ())).1
    a.Reachable ∧ (a.sample 0.1).2 = a.keys.eval a.kind 0.1 := by
  intro a
  have h : a.Reachable :=
    Reachable.edit 1 (.push ⟨10, Value.float 1, .linear⟩)
      (Reachable.sample 0.2 (Reachable.new "X" .float 0
        (.edit (.push ⟨0, Value.float 0, .linear⟩) .empty)))
  exact ⟨h, sample_eq_eval h 0.1⟩

end Animator

end Timeline

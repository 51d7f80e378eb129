import Mathlib.Data.Finset.Card
import Timeline.Proofs.Lifecycle
import Timeline.Proofs.Window

/-!
# The window cache: which segment the walk finds, and how often a window is made

`makeWindow` looks for the segment of a frame by walking from the position it used last, which
may be stale or past the end of the list: forward while a next key exists and the key it stands
on is before the frame, then back with a checked decrement while its key is after the frame.
On keys whose frames increase, from any start, the forward walk stays among the positions of
the list, and the two walks find the last key at or before the frame, or nothing when the frame
is before the first key; the outer points of a spline segment are read at positions that hold
keys (`makeWindow_search`). Both walks are total functions, structural or with a decreasing
measure, so they end.

The window kept is then the window of the segment found (`makeWindow_bounds`). `segmentWindow`
states it from the keys alone: from the last key at or before the frame to the first key after
it, with the smallest frame before the first key and the largest after the last. So an animator
is a cache of segment windows (`cacheRun`): from a restart (construction, clone, edit, sharing
or a cache reset), each evaluation makes a window exactly when its frame lies outside the window
held, the window of the segment chosen when a window was last made; and for frames that never
decrease and stay below the largest frame, one window is made per segment visited
(`recomputes_spec`).
-/

namespace Timeline

variable {α : Type}

/-! ## The walk -/

section Walk

/-- The walk forward never moves back. -/
theorem le_seekForward (keys : List (Key α)) (f : Frame) (i : Nat) :
    i ≤ seekForward keys f i := by
  fun_induction seekForward keys f i with
  | case1 i h hgt ih => omega
  | case2 => exact Nat.le_refl _
  | case3 => exact Nat.le_refl _

variable {l : KeyList α} {f : Frame}

/-- In an ordered list, a key after one beyond the frame is beyond the frame too. -/
theorem beyond_of_after (hl : l.Ordered) {i m : Nat} {a b : Key α} (ha : l.keys[i]? = some a)
    (hb : l.keys[m]? = some b) (him : i ≤ m) (hf : f < a.frame) : f < b.frame :=
  Int32.lt_of_lt_of_le hf (hl.frame_le ha hb him)

/-- The walk finds position `j` exactly when its key is the last one at or before the frame. -/
theorem seekKey_eq_some_iff (hl : l.Ordered) (s j : Nat) :
    seekKey l.keys f s = some j ↔
      (∃ a, l.keys[j]? = some a ∧ a.frame ≤ f) ∧
        ∀ m (b : Key α), l.keys[m]? = some b → b.frame ≤ f → m ≤ j := by
  constructor
  · intro h
    obtain ⟨a, ha, haf, hnext⟩ := seekKey_eq_some hl h
    refine ⟨⟨a, ha, haf⟩, fun m b hb hbf => ?_⟩
    -- A later key lies beyond the key after `j`, which lies beyond the frame.
    by_contra hm
    obtain ⟨c, hc⟩ : ∃ c, l.keys[j + 1]? = some c := by
      have := (List.getElem?_eq_some_iff.mp hb).1
      exact ⟨l.keys[j + 1], List.getElem?_eq_getElem (by omega)⟩
    exact Int32.not_le.mpr (beyond_of_after hl hc hb (by omega) (hnext c hc)) hbf
  · rintro ⟨⟨a, ha, haf⟩, hgreatest⟩
    cases hseek : seekKey l.keys f s with
    | none =>
      exact absurd haf (Int32.not_le.mpr (seekKey_eq_none hl hseek a (List.mem_of_getElem? ha)))
    | some i =>
      -- Both positions are the last at or before the frame.
      obtain ⟨b, hb, hbf, hnext⟩ := seekKey_eq_some hl hseek
      have hji : j ≤ i := by
        by_contra hij
        obtain ⟨c, hc⟩ : ∃ c, l.keys[i + 1]? = some c := by
          have := (List.getElem?_eq_some_iff.mp ha).1
          exact ⟨l.keys[i + 1], List.getElem?_eq_getElem (by omega)⟩
        exact Int32.not_le.mpr (beyond_of_after hl hc ha (by omega) (hnext c hc)) haf
      have hij := hgreatest i b hb hbf
      rw [Nat.le_antisymm hij hji]

/-- The walk finds nothing exactly when the frame is before the first key. -/
theorem seekKey_eq_none_iff (hl : l.Ordered) (s : Nat) :
    seekKey l.keys f s = none ↔ ∀ k ∈ l.keys.head?, f < k.frame := by
  constructor
  · intro h k hk
    exact seekKey_eq_none hl h k (List.mem_of_mem_head? hk)
  · intro h
    cases hseek : seekKey l.keys f s with
    | none => rfl
    | some i =>
      -- The key found is at or before the frame, and not before the first key.
      obtain ⟨a, ha, haf, -⟩ := seekKey_eq_some hl hseek
      obtain ⟨k, hk⟩ : ∃ k, l.keys[0]? = some k := by
        have := (List.getElem?_eq_some_iff.mp ha).1
        exact ⟨l.keys[0], List.getElem?_eq_getElem (by omega)⟩
      have hkf := h k (by rw [KeyList.head?_eq_getElem?, hk]; rfl)
      exact absurd (Int32.lt_of_lt_of_le hkf (hl.frame_le hk ha (Nat.zero_le _)))
        (Int32.not_lt.mpr haf)

end Walk

/-- The outer points of a spline segment found by the walk are keys of the list: the clamped
neighbours for a spline, the neighbours around the list for a closed spline. -/
theorem makeWindow_outer (kind : Kind) {l : KeyList Value} {f : Frame} {s r j : Nat}
    {a b : Key Value} (hseek : seekKey l.keys f s = some j) (ha : l.keys[j]? = some a)
    (hb : l.keys[j + 1]? = some b) :
    (a.ease = .spline → ∃ k0 k3, l.keys[j - 1]? = some k0 ∧
      l.keys[if l.keys.length - 1 ≤ j + 1 then l.keys.length - 1 else j + 2]? = some k3 ∧
      (makeWindow kind l f s r).piece = .spline k0.value a.value b.value k3.value) ∧
    (a.ease = .closedSpline → ∃ k0 k3,
      l.keys[if j < 1 then l.keys.length - 2 else j - 1]? = some k0 ∧
      l.keys[if l.keys.length - 1 ≤ j + 1 then 1 else j + 2]? = some k3 ∧
      (makeWindow kind l f s r).piece = .spline k0.value a.value b.value k3.value) := by
  have hn : j + 1 < l.keys.length := (List.getElem?_eq_some_iff.mp hb).1
  obtain ⟨k0, hhead⟩ : ∃ k0, l.keys.head? = some k0 :=
    ⟨l.keys[0], by rw [KeyList.head?_eq_getElem?]; exact List.getElem?_eq_getElem (by omega)⟩
  -- A position below the length holds a key, whose value `valueAt` reads.
  have at_key : ∀ p, p < l.keys.length → ∃ k, l.keys[p]? = some k ∧
      valueAt l.keys p (Value.rest kind) = k.value := fun p hp =>
    ⟨l.keys[p], List.getElem?_eq_getElem hp, by simp [valueAt, hp]⟩
  refine ⟨fun hs => ?_, fun hs => ?_⟩
  · obtain ⟨p0, hp0, hv0⟩ := at_key (j - 1) (by omega)
    obtain ⟨p3, hp3, hv3⟩ :=
      at_key (if l.keys.length - 1 ≤ j + 1 then l.keys.length - 1 else j + 2) (by split <;> omega)
    refine ⟨p0, p3, hp0, hp3, ?_⟩
    simp only [makeWindow, hhead, hseek, ha, hb, hs]
    rw [hv0, hv3]
  · obtain ⟨p0, hp0, hv0⟩ := at_key (if j < 1 then l.keys.length - 2 else j - 1)
      (by split <;> omega)
    obtain ⟨p3, hp3, hv3⟩ := at_key (if l.keys.length - 1 ≤ j + 1 then 1 else j + 2)
      (by split <;> omega)
    refine ⟨p0, p3, hp0, hp3, ?_⟩
    simp only [makeWindow, hhead, hseek, ha, hb, hs]
    rw [hv0, hv3]

/-- The search for the segment of a frame, from any start on ordered keys: the forward walk
runs from its start, a position of the list, to a position of the list; the walks find the
last key at or before the frame, or nothing exactly when the frame is before the first key; and
the outer points of a spline segment that is not the last are read at positions of the list. -/
theorem makeWindow_search {l : KeyList Value} (hl : l.Ordered) (hn : 0 < l.keys.length)
    (s : Nat) (f : Frame) :
    (min s (l.keys.length - 1) ≤ seekForward l.keys f (min s (l.keys.length - 1)) ∧
      seekForward l.keys f (min s (l.keys.length - 1)) < l.keys.length ∧
      ∀ j, seekKey l.keys f s = some j → j ≤ seekForward l.keys f (min s (l.keys.length - 1))) ∧
    (∀ j, seekKey l.keys f s = some j ↔
      (∃ a, l.keys[j]? = some a ∧ a.frame ≤ f) ∧
        ∀ m (b : Key Value), l.keys[m]? = some b → b.frame ≤ f → m ≤ j) ∧
    (seekKey l.keys f s = none ↔ ∀ k ∈ l.keys.head?, f < k.frame) ∧
    (∀ kind r j (a b : Key Value), seekKey l.keys f s = some j → l.keys[j]? = some a →
      l.keys[j + 1]? = some b →
      (a.ease = .spline → ∃ k0 k3, l.keys[j - 1]? = some k0 ∧
        l.keys[if l.keys.length - 1 ≤ j + 1 then l.keys.length - 1 else j + 2]? = some k3 ∧
        (makeWindow kind l f s r).piece = .spline k0.value a.value b.value k3.value) ∧
      (a.ease = .closedSpline → ∃ k0 k3,
        l.keys[if j < 1 then l.keys.length - 2 else j - 1]? = some k0 ∧
        l.keys[if l.keys.length - 1 ≤ j + 1 then 1 else j + 2]? = some k3 ∧
        (makeWindow kind l f s r).piece = .spline k0.value a.value b.value k3.value)) := by
  have hstart : min s (l.keys.length - 1) < l.keys.length := by omega
  have hstop := (seekForward_spec hl f hstart).1
  refine ⟨⟨le_seekForward _ _ _, hstop, fun j hj => ((seekBack_spec f hstop).2 j hj).1⟩,
    seekKey_eq_some_iff hl s, seekKey_eq_none_iff hl s, ?_⟩
  intro kind r j a b hseek ha hb
  exact makeWindow_outer kind hseek ha hb

/-- Searching a two-key list from a start left over from a longer list stays inside it. -/
theorem makeWindow_search_stale :
    let l := (KeyEdit.push ⟨10, Value.float 1, .spline⟩).run
      ((KeyEdit.push ⟨0, Value.float 0, .spline⟩).run {})
    l.Ordered ∧ 0 < l.keys.length ∧ seekForward l.keys 3 (min 5 (l.keys.length - 1)) < l.keys.length := by
  intro l
  have hl : l.Ordered :=
    (KeyList.Reachable.edit _ (.edit (.push ⟨0, Value.float 0, .spline⟩) .empty)).ordered
  have hn : 0 < l.keys.length := by decide
  exact ⟨hl, hn, (makeWindow_search hl hn 5 3).1.2.1⟩

/-! ## Segment windows -/

/-- Frame `f` lies in window `w`: from `w.1` up to, and not including, `w.2`. -/
def inWindow (w : Frame × Frame) (f : Frame) : Prop := w.1 ≤ f ∧ f < w.2

instance (w : Frame × Frame) (f : Frame) : Decidable (inWindow w f) :=
  inferInstanceAs (Decidable (w.1 ≤ f ∧ f < w.2))

/-- The window of the segment that frame `f` falls in: from the last key at or before `f` to
the first key after it, from the smallest frame when no key is at or before `f`, and to the
largest frame when no key is after it. -/
def segmentWindow (keys : List (Key α)) (f : Frame) : Frame × Frame :=
  (((keys.filter fun k => k.frame ≤ f).getLast?.map (·.frame)).getD Frame.min,
    ((keys.find? fun k => f < k.frame).map (·.frame)).getD Frame.max)

section Windows

variable {keys : List (Key α)} {f g : Frame}

/-- A frame below the largest lies in the window of its segment. -/
theorem inWindow_segmentWindow (hf : f < Frame.max) : inWindow (segmentWindow keys f) f := by
  simp only [inWindow, segmentWindow]
  constructor
  · cases hlast : (keys.filter fun k => k.frame ≤ f).getLast? with
    | none => exact Int32.minValue_le f
    | some k => simpa using (List.mem_filter.mp (List.mem_of_getLast? hlast)).2
  · cases hfind : keys.find? fun k => f < k.frame with
    | none => exact hf
    | some k => simpa using List.find?_some hfind

/-- On ordered keys, every key at or before the frame is at or before the start of its
window. -/
theorem frame_le_segmentWindow (hl : keys.Pairwise (·.frame < ·.frame)) {k : Key α}
    (hk : k ∈ keys) (hkf : k.frame ≤ f) : k.frame ≤ (segmentWindow keys f).1 := by
  have hmem : k ∈ keys.filter fun k => k.frame ≤ f := List.mem_filter.mpr ⟨hk, by simpa using hkf⟩
  obtain ⟨last, hlast⟩ : ∃ last, (keys.filter fun k => k.frame ≤ f).getLast? = some last :=
    Option.ne_none_iff_exists'.mp (mt List.getLast?_eq_none_iff.mp (List.ne_nil_of_mem hmem))
  simp only [segmentWindow, hlast, Option.map_some, Option.getD_some]
  -- The filtered keys keep their order, so the last of them is the latest.
  obtain ⟨ys, hys⟩ := List.getLast?_eq_some_iff.mp hlast
  have hsorted := hl.filter (fun k => decide (k.frame ≤ f))
  rw [hys] at hmem hsorted
  rcases List.mem_append.mp hmem with hmem | hmem
  · exact Int32.le_of_lt ((List.pairwise_append.mp hsorted).2.2 k hmem last (List.mem_singleton_self _))
  · rw [List.mem_singleton.mp hmem]
    exact Int32.le_refl _


/-- On ordered keys, every key after the frame is at or after the end of its window. -/
theorem segmentWindow_le_frame (hl : keys.Pairwise (·.frame < ·.frame)) {k : Key α}
    (hk : k ∈ keys) (hfk : f < k.frame) : (segmentWindow keys f).2 ≤ k.frame := by
  obtain ⟨first, hfirst⟩ : ∃ first, (keys.find? fun k => f < k.frame) = some first := by
    cases h : keys.find? fun k => f < k.frame with
    | none => exact absurd (by simpa using hfk) (List.find?_eq_none.mp h k hk)
    | some first => exact ⟨first, rfl⟩
  simp only [segmentWindow, hfirst, Option.map_some, Option.getD_some]
  -- The first key after the frame comes before every other such key.
  obtain ⟨-, as, bs, rfl, has⟩ := List.find?_eq_some_iff_append.mp hfirst
  rcases List.mem_append.mp hk with hk | hk
  · exact absurd (by simpa using hfk) (by simpa using has k hk)
  · rcases List.mem_cons.mp hk with rfl | hk
    · exact Int32.le_refl _
    · have := List.pairwise_append.mp hl
      exact Int32.le_of_lt (List.rel_of_pairwise_cons this.2.1 hk)

/-- On ordered keys, every frame of a window has that window: the windows part the frames. -/
theorem segmentWindow_eq_of_inWindow (hl : keys.Pairwise (·.frame < ·.frame))
    (h : inWindow (segmentWindow keys f) g) : segmentWindow keys g = segmentWindow keys f := by
  -- The keys at or before `g` are those at or before `f`.
  have hsame : ∀ k ∈ keys, (k.frame ≤ g ↔ k.frame ≤ f) := by
    intro k hk
    constructor
    · intro hkg
      by_contra hkf
      exact Int32.not_lt.mpr hkg
        (Int32.lt_of_lt_of_le h.2 (segmentWindow_le_frame hl hk (Int32.not_le.mp hkf)))
    · intro hkf
      exact Int32.le_trans (frame_le_segmentWindow hl hk hkf) h.1
  have hfilter : (keys.filter fun k => k.frame ≤ g) = keys.filter fun k => k.frame ≤ f :=
    List.filter_congr fun k hk => by simp [hsame k hk]
  have hfind : (keys.find? fun k => g < k.frame) = keys.find? fun k => f < k.frame := by
    rw [← List.head?_filter, ← List.head?_filter]
    congr 1
    refine List.filter_congr fun k hk => ?_
    have := hsame k hk
    simp only [decide_eq_decide]
    rw [← Int32.not_le, ← Int32.not_le, this]
  simp only [segmentWindow, hfilter, hfind]

/-- Windows are convex: a frame between two frames of one window has that window. -/
theorem segmentWindow_eq_of_between (hl : keys.Pairwise (·.frame < ·.frame)) {h : Frame}
    (hhg : h ≤ g) (hgf : g ≤ f) (hh : h < Frame.max) (hf : f < Frame.max)
    (heq : segmentWindow keys h = segmentWindow keys f) :
    segmentWindow keys g = segmentWindow keys f := by
  have hh' : inWindow (segmentWindow keys f) h := heq ▸ inWindow_segmentWindow hh
  have hf' : inWindow (segmentWindow keys f) f := inWindow_segmentWindow hf
  exact segmentWindow_eq_of_inWindow hl ⟨Int32.le_trans hh'.1 hhg, Int32.lt_of_le_of_lt hgf hf'.2⟩

end Windows

/-- The window made for frame `f` of ordered keys is the window of the segment of `f`. -/
theorem makeWindow_bounds (kind : Kind) {l : KeyList Value} (hl : l.Ordered) (f : Frame)
    (s r : Nat) :
    ((makeWindow kind l f s r).lo, (makeWindow kind l f s r).hi) = segmentWindow l.keys f := by
  cases hhead : l.keys.head? with
  | none =>
    have hnil : l.keys = [] := List.head?_eq_none_iff.mp hhead
    simp [makeWindow, segmentWindow, hnil, Frame.min, Frame.max]
  | some k0 =>
    cases hseek : seekKey l.keys f s with
    | none =>
      -- Every key lies after the frame: the window runs up to the first key.
      have hall := seekKey_eq_none hl hseek
      have hfilter : (l.keys.filter fun k => k.frame ≤ f) = [] :=
        List.filter_eq_nil_iff.mpr fun k hk => by simpa using hall k hk
      obtain ⟨rest, hrest⟩ : ∃ rest, l.keys = k0 :: rest := by
        cases hk : l.keys with
        | nil => rw [hk] at hhead; cases hhead
        | cons x rest => rw [hk] at hhead; cases hhead; exact ⟨rest, rfl⟩
      have hfind : (l.keys.find? fun k => f < k.frame) = some k0 := by
        rw [hrest, List.find?_cons_of_pos]
        simpa using hall k0 (by simp [hrest])
      simp [makeWindow, hhead, hseek, segmentWindow, hfilter, hfind, Frame.min]
    | some i =>
      obtain ⟨a, ha, haf, hnext⟩ := seekKey_eq_some hl hseek
      -- The start is the key found: no later key is at or before the frame.
      have hlo : (segmentWindow l.keys f).1 = a.frame := by
        refine Int32.le_antisymm ?_ (frame_le_segmentWindow hl (List.mem_of_getElem? ha) haf)
        have hmem : a ∈ l.keys.filter fun k => k.frame ≤ f :=
          List.mem_filter.mpr ⟨List.mem_of_getElem? ha, by simpa using haf⟩
        obtain ⟨last, hlast⟩ : ∃ last, (l.keys.filter fun k => k.frame ≤ f).getLast? = some last :=
          Option.ne_none_iff_exists'.mp (mt List.getLast?_eq_none_iff.mp (List.ne_nil_of_mem hmem))
        simp only [segmentWindow, hlast, Option.map_some, Option.getD_some]
        obtain ⟨hlastmem, hlastf⟩ := List.mem_filter.mp (List.mem_of_getLast? hlast)
        obtain ⟨m, hm⟩ := List.mem_iff_getElem?.mp hlastmem
        by_cases hmi : m ≤ i
        · exact hl.frame_le hm ha hmi
        · obtain ⟨c, hc⟩ : ∃ c, l.keys[i + 1]? = some c := by
            have := (List.getElem?_eq_some_iff.mp hm).1
            exact ⟨l.keys[i + 1], List.getElem?_eq_getElem (by omega)⟩
          exact absurd (by simpa using hlastf)
            (Int32.not_le.mpr (beyond_of_after hl hc hm (by omega) (hnext c hc)))
      cases hb : l.keys[i + 1]? with
      | some b =>
        -- The end is the next key, the first one after the frame.
        have hfind : (l.keys.find? fun k => f < k.frame) = some b := by
          obtain ⟨hi1, hbi⟩ := List.getElem?_eq_some_iff.mp hb
          refine List.find?_eq_some_iff_getElem.mpr ⟨by simpa using hnext b hb, i + 1, hi1, hbi,
            fun j hj => ?_⟩
          have hle := hl.frame_le (List.getElem?_eq_getElem (Nat.lt_trans hj hi1)) ha (by omega)
          simpa using Int32.le_trans hle haf
        have hhi : (segmentWindow l.keys f).2 = b.frame := by
          simp [segmentWindow, hfind]
        simp only [makeWindow, hhead, hseek, ha, hb]
        rw [Prod.ext_iff, hlo, hhi]
        exact ⟨rfl, rfl⟩
      | none =>
        -- The key found is the last: no key is after the frame.
        have hfind : (l.keys.find? fun k => f < k.frame) = none := by
          refine List.find?_eq_none.mpr fun k hk => ?_
          obtain ⟨m, hm⟩ := List.mem_iff_getElem?.mp hk
          have hmi : m ≤ i := by
            have := (List.getElem?_eq_some_iff.mp hm).1
            have := List.getElem?_eq_none_iff.mp hb
            omega
          simpa using Int32.le_trans (hl.frame_le hm ha hmi) haf
        have hhi : (segmentWindow l.keys f).2 = Frame.max := by
          simp [segmentWindow, hfind]
        simp only [makeWindow, hhead, hseek, ha, hb]
        rw [Prod.ext_iff, hlo, hhi]
        exact ⟨rfl, rfl⟩

/-- A window is made from the keys as they are, and counts one more recomputation. -/
theorem makeWindow_version (kind : Kind) (l : KeyList Value) (f : Frame) (s r : Nat) :
    (makeWindow kind l f s r).version = l.version ∧ (makeWindow kind l f s r).recomputes = r + 1 := by
  unfold makeWindow
  dsimp only
  split
  · exact ⟨rfl, rfl⟩
  · split
    · exact ⟨rfl, rfl⟩
    · split <;> exact ⟨rfl, rfl⟩

/-! ## A cache of segment windows -/

/-- Whether a cache holding the window `held`, if any, serves frame `f` from it. -/
def serves (held : Option (Frame × Frame)) (f : Frame) : Bool :=
  held.any fun w => decide (inWindow w f)

/-- One request to a cache of segment windows that counts the windows it makes: a frame that
the window held serves leaves the cache as it is; any other frame makes the window of its
segment. -/
def cacheStep (keys : List (Key α)) (c : Option (Frame × Frame) × Nat) (f : Frame) :
    Option (Frame × Frame) × Nat :=
  if serves c.1 f then c else (some (segmentWindow keys f), c.2 + 1)

/-- The cache after the frames `fs` in turn, from one that holds nothing: the window held and
the number of windows made. -/
def cacheRun (keys : List (Key α)) (fs : List Frame) : Option (Frame × Frame) × Nat :=
  fs.foldl (cacheStep keys) (none, 0)

section Count

variable {keys : List (Key α)}

/-- The cache after one more frame. -/
theorem cacheRun_append (fs : List Frame) (f : Frame) :
    cacheRun keys (fs ++ [f]) = cacheStep keys (cacheRun keys fs) f := by
  rw [cacheRun, List.foldl_append, List.foldl_cons, List.foldl_nil, cacheRun]

/-- With frames below the largest, the cache holds the window of the last frame asked. -/
theorem cacheRun_held (hl : keys.Pairwise (·.frame < ·.frame)) (fs : List Frame) (f : Frame)
    (hmax : ∀ g ∈ fs ++ [f], g < Frame.max) :
    (cacheRun keys (fs ++ [f])).1 = some (segmentWindow keys f) := by
  induction fs using List.reverseRecOn generalizing f with
  | nil => simp [cacheRun, cacheStep, serves]
  | append_singleton fs g ih =>
    -- The window held is that of `g`; when it serves `f`, it is the window of `f` too.
    have hg := ih g fun x hx => hmax x (List.mem_append_left _ hx)
    rw [cacheRun_append, cacheStep, hg]
    by_cases hin : inWindow (segmentWindow keys g) f
    · simp [serves, hin, hg, segmentWindow_eq_of_inWindow hl hin]
    · simp [serves, hin]

/-- For frames that never decrease and stay below the largest, the cache makes one window per
segment window visited. -/
theorem cacheRun_count (hl : keys.Pairwise (·.frame < ·.frame)) (fs : List Frame)
    (hsorted : fs.Pairwise (· ≤ ·)) (hmax : ∀ f ∈ fs, f < Frame.max) :
    (cacheRun keys fs).2 = (fs.map (segmentWindow keys)).toFinset.card := by
  induction fs using List.reverseRecOn with
  | nil => rfl
  | append_singleton fs f ih =>
    have hsorted' := List.pairwise_append.mp hsorted
    have hcount := ih hsorted'.1 fun g hg => hmax g (List.mem_append_left _ hg)
    rw [cacheRun_append, List.map_append, List.map_singleton,
      show ∀ l : List (Frame × Frame), ∀ x, (l ++ [x]).toFinset = insert x l.toFinset by simp]
    cases fs using List.reverseRecOn with
    | nil => simp [cacheRun, cacheStep, serves]
    | append_singleton fs g =>
      rw [cacheStep, cacheRun_held hl fs g fun x hx => hmax x (List.mem_append_left _ hx)]
      have hgf : g ≤ f := hsorted'.2.2 g (by simp) f (by simp)
      by_cases hin : inWindow (segmentWindow keys g) f
      · -- Served: the window of `f` is that of `g`, already visited.
        have hmem : segmentWindow keys f ∈ ((fs ++ [g]).map (segmentWindow keys)).toFinset := by
          simp [segmentWindow_eq_of_inWindow hl hin]
        simp only [serves, Option.any_some, decide_eq_true_eq, hin, if_true]
        rw [Finset.insert_eq_of_mem hmem, hcount]
      · -- Not served: an earlier frame with the window of `f` would give `g`, between them, that
        -- window too, and `g`'s window would serve `f`.
        have hnot : segmentWindow keys f ∉ ((fs ++ [g]).map (segmentWindow keys)).toFinset := by
          intro hmem
          obtain ⟨h, hh, heq⟩ := List.mem_map.mp (List.mem_toFinset.mp hmem)
          have hhg : h ≤ g := by
            rcases List.mem_append.mp hh with hh | hh
            · exact (List.pairwise_append.mp hsorted'.1).2.2 h hh g (by simp)
            · rw [List.mem_singleton.mp hh]
              exact Int32.le_refl _
          have hfmax : f < Frame.max := hmax f (by simp)
          have hgw := segmentWindow_eq_of_between hl hhg hgf
            (hmax h (List.mem_append_left _ hh)) hfmax heq
          exact hin (hgw ▸ inWindow_segmentWindow hfmax)
        simp only [serves, Option.any_some, decide_eq_true_eq, hin, if_false]
        rw [Finset.card_insert_of_notMem hnot, hcount]

end Count

/-! ## Animators are caches of segment windows -/

namespace Animator

/-- The animators a run of evaluations starts from: a new animator over a reachable key list,
or a clone, a key edit, the keys of another list or a cache reset of an animator callers can
make. -/
inductive Restarted : Animator → Prop
  | new (target : String) (kind : Kind) {keys : KeyList Value} (listId : Nat) :
      keys.Reachable → Restarted (Animator.new target kind keys listId)
  | clone {a : Animator} : a.Reachable → Restarted a.clone
  | edit {a : Animator} (fresh : Nat) (e : KeyEdit Value) :
      a.Reachable → Restarted (a.editKeys fresh fun l => (e.run l, ())).1
  | share {a : Animator} {keys : KeyList Value} (listId : Nat) :
      a.Reachable → keys.Reachable → Restarted (a.shareKeys keys listId)
  | resetCache {a : Animator} : a.Reachable → Restarted a.resetCache

/-- A restarted animator can be made by callers and holds a window without frames. -/
theorem Restarted.reachable {a : Animator} (h : a.Restarted) :
    a.Reachable ∧ a.window.lo = 0 ∧ a.window.hi = 0 := by
  cases h with
  | new target kind listId hk => exact ⟨.new target kind listId hk, rfl, rfl⟩
  | clone ha => exact ⟨.clone ha, rfl, rfl⟩
  | edit fresh e ha => exact ⟨.edit fresh e ha, rfl, rfl⟩
  | share listId ha hk => exact ⟨.share listId ha hk, rfl, rfl⟩
  | resetCache ha => exact ⟨.resetCache ha, rfl, rfl⟩

/-- One evaluation at `time`: a call of `sample`, or an `apply` that wrote. -/
inductive Evaluation : Animator → Float → Animator → Prop
  | sample (a : Animator) (time : Float) : Evaluation a time (a.sample time).1
  | apply {τ : Type} [Target τ] (a : Animator) (time : Float) (t : τ) :
      (a.apply time t).2.2 = .written → Evaluation a time (a.apply time t).1

/-- Evaluations at the times `ts`, in turn, from `a₀`. -/
inductive Evaluations (a₀ : Animator) : List Float → Animator → Prop
  | nil : Evaluations a₀ [] a₀
  | snoc {a a' : Animator} {ts : List Float} {time : Float} :
      Evaluations a₀ ts a → Evaluation a time a' → Evaluations a₀ (ts ++ [time]) a'

/-- The binding plays no part in sampling. -/
theorem sample_window_withBinding (a : Animator) (b : BindingState) (time : Float) :
    ({ a with binding := b }.sample time).1.window = (a.sample time).1.window := by
  simp only [sample]
  split <;> rfl

/-- An evaluation changes the window as sampling does, and keeps the keys. -/
theorem Evaluation.eq_sample {a a' : Animator} {time : Float} (h : Evaluation a time a') :
    a'.keys = a.keys ∧ a'.window = (a.sample time).1.window := by
  cases h with
  | sample => exact ⟨(sample_keys a time).1, rfl⟩
  | @apply τ _ _ _ t hw =>
    -- Only the branches that sample write.
    rcases apply_cases time t a with ⟨-, he⟩ | ⟨f, -, -, he⟩ | ⟨b, -, -, he⟩ | ⟨f, -, -, -, he⟩
    · rw [he] at hw ⊢
      cases hw
    · rw [he] at hw ⊢
      cases hw
    · rw [he]
      exact ⟨(sample_keys _ time).1, sample_window_withBinding a (.bound b) time⟩
    · rw [he] at hw ⊢
      cases hw

/-- The animator's window is the window the cache holds: a window without frames when the
cache holds none, and otherwise the held window, made from the keys as they are. -/
def Holds (a : Animator) : Option (Frame × Frame) → Prop
  | none => a.window.lo = 0 ∧ a.window.hi = 0
  | some w => a.window.lo = w.1 ∧ a.window.hi = w.2 ∧ a.window.version = a.keys.version

/-- Whether the cache's window is the animator's depends only on the window and the keys. -/
theorem Holds.congr {a b : Animator} (hw : a.window = b.window) (hk : a.keys = b.keys)
    {held : Option (Frame × Frame)} : a.Holds held ↔ b.Holds held := by
  cases held <;> simp [Holds, hw, hk]

/-- An animator over ordered keys whose window the cache holds samples as the cache steps: it
makes a window exactly when the cache does, and then the window of the frame's segment. -/
theorem sample_cacheStep {a : Animator} (hl : a.keys.Ordered) {c : Option (Frame × Frame) × Nat}
    (h : a.Holds c.1) (time : Float) :
    (a.sample time).1.Holds (cacheStep a.keys.keys c (toFrame time)).1 ∧
      (a.sample time).1.window.recomputes =
        a.window.recomputes + if serves c.1 (toFrame time) then 0 else 1 := by
  -- The animator's test for a new window is the cache's.
  have htest : (toFrame time < a.window.lo || toFrame time ≥ a.window.hi ||
      a.window.version != a.keys.version) = !serves c.1 (toFrame time) := by
    cases hc : c.1 with
    | none =>
      rw [hc] at h
      obtain ⟨hlo, hhi⟩ := h
      rw [hlo, hhi]
      by_cases h0 : toFrame time < 0 <;> simp [serves, h0, Int32.not_lt.mp]
    | some w =>
      rw [hc] at h
      obtain ⟨hlo, hhi, hver⟩ := h
      simp only [serves, inWindow, hlo, hhi, hver, bne_self_eq_false, Bool.or_false,
        Option.any_some]
      by_cases h1 : w.1 ≤ toFrame time <;> by_cases h2 : toFrame time < w.2
      · simp [h1, h2, Int32.not_le.mpr, Int32.not_lt.mpr]
      · simp [h1, h2, Int32.not_lt.mp h2]
      · simp [h1, h2, Int32.not_le.mp h1]
      · simp [h1, h2, Int32.not_le.mp h1]
  unfold sample cacheStep
  dsimp only
  rw [htest]
  cases hs : serves c.1 (toFrame time)
  · -- A new window, the window of the frame's segment.
    obtain ⟨hver, hrec⟩ := makeWindow_version a.kind a.keys (toFrame time) a.window.keyIndex
      a.window.recomputes
    have hbounds := makeWindow_bounds a.kind hl (toFrame time) a.window.keyIndex a.window.recomputes
    rw [Prod.ext_iff] at hbounds
    exact ⟨⟨hbounds.1, hbounds.2, hver⟩, hrec⟩
  · exact ⟨h, rfl⟩

/-- Along evaluations from a restart the keys stay, the animator's window is the window the
cache holds, and the animator has made as many windows as the cache. -/
theorem Evaluations.cacheRun {a₀ a : Animator} {ts : List Float} (h₀ : a₀.Restarted)
    (h : Evaluations a₀ ts a) :
    a.keys = a₀.keys ∧ a.Holds (cacheRun a₀.keys.keys (ts.map toFrame)).1 ∧
      a.window.recomputes = a₀.window.recomputes + (cacheRun a₀.keys.keys (ts.map toFrame)).2 := by
  induction h with
  | nil => exact ⟨rfl, h₀.reachable.2, rfl⟩
  | @snoc a a' ts time _ hstep ih =>
    obtain ⟨hkeys, hholds, hrec⟩ := ih
    obtain ⟨hkeys', hwindow⟩ := hstep.eq_sample
    have hl : a.keys.Ordered := hkeys ▸ h₀.reachable.1.keys_reachable.ordered
    obtain ⟨hholds', hrec'⟩ := sample_cacheStep hl hholds time
    rw [hkeys] at hholds'
    rw [List.map_append, List.map_singleton, cacheRun_append]
    refine ⟨hkeys'.trans hkeys, ?_, ?_⟩
    · -- The evaluation left the window and keys that sampling leaves.
      exact (Holds.congr hwindow (hkeys'.trans (sample_keys a time).1.symm)).mpr hholds'
    · rw [hwindow, hrec', hrec, cacheStep]
      split <;> simp [Nat.add_assoc]

/-- How often an animator makes a window. From a restart (construction, a clone, a key edit, the
keys of another list or a cache reset) and along evaluations at the times `ts`: the next
evaluation makes a window exactly when it is the first or its frame lies outside the window held,
the window of the segment chosen when a window was last made, which is the animator's window;
and when the frames of `ts` never decrease and stay below the largest frame, the windows made
are as many as the segment windows visited. -/
theorem recomputes_spec {a₀ a : Animator} {ts : List Float} (h₀ : a₀.Restarted)
    (h : Evaluations a₀ ts a) :
    (∀ time a', Evaluation a time a' →
      a'.window.recomputes = a.window.recomputes +
        if serves (cacheRun a₀.keys.keys (ts.map toFrame)).1 (toFrame time) then 0 else 1) ∧
    (∀ w, (cacheRun a₀.keys.keys (ts.map toFrame)).1 = some w → (a.window.lo, a.window.hi) = w) ∧
    ((ts.map toFrame).Pairwise (· ≤ ·) → (∀ f ∈ ts.map toFrame, f < Frame.max) →
      a.window.recomputes =
        a₀.window.recomputes + ((ts.map toFrame).map (segmentWindow a₀.keys.keys)).toFinset.card) := by
  obtain ⟨hkeys, hholds, hrec⟩ := h.cacheRun h₀
  have hl : a.keys.Ordered := hkeys ▸ h₀.reachable.1.keys_reachable.ordered
  refine ⟨fun time a' hstep => ?_, fun w hw => ?_, fun hsorted hmax => ?_⟩
  · obtain ⟨-, hwindow⟩ := hstep.eq_sample
    rw [hwindow, (sample_cacheStep hl hholds time).2]
  · rw [hw] at hholds
    obtain ⟨hlo, hhi, -⟩ := hholds
    rw [hlo, hhi]
  · rw [hrec, cacheRun_count h₀.reachable.1.keys_reachable.ordered _ hsorted hmax]

/-- A new animator over two keys, evaluated once: the next evaluation is counted as the
window says. -/
theorem recomputes_spec_two_keys :
    let a₀ := Animator.new "X" .float
      ((KeyEdit.push ⟨10, .float 1, .linear⟩).run ((KeyEdit.push ⟨0, .float 0, .linear⟩).run {})) 0
    a₀.Restarted ∧ Evaluations a₀ [0.1] (a₀.sample 0.1).1 ∧
      (∀ time a', Evaluation (a₀.sample 0.1).1 time a' →
        a'.window.recomputes = (a₀.sample 0.1).1.window.recomputes +
          if serves (cacheRun a₀.keys.keys ([0.1].map toFrame)).1 (toFrame time) then 0 else 1) := by
  intro a₀
  have h₀ : a₀.Restarted :=
    .new "X" .float 0 (.edit (.push ⟨10, Value.float 1, .linear⟩)
      (.edit (.push ⟨0, Value.float 0, .linear⟩) .empty))
  have h : Evaluations a₀ [0.1] (a₀.sample 0.1).1 := .snoc .nil (.sample a₀ 0.1)
  exact ⟨h₀, h, (recomputes_spec h₀ h).1⟩

end Animator

end Timeline

import Mathlib
import Timeline.Marker.Codec

/-!
# Marker lists keep frame order and distinct ids

A marker list is meant to hold its markers in non-decreasing frame order with no id twice
(`MarkerList.Valid`). Adding a marker first drops the first marker with its id and then inserts
it after the longest prefix of markers on a frame at or before its own
(`MarkerList.add_markers`); on an ordered list the markers after that prefix all lie on later
frames, so the insertion keeps the order, and since on a list with distinct ids the marker
dropped was the only one with the id (`MarkerList.kept_eq_others`), the ids stay distinct
(`MarkerList.add_valid`).
Removing a marker keeps a sublist (`MarkerList.remove_valid`). So every list built from the
empty one by adding and removing markers, the markers of a document added one by one among
them, is valid (`MarkerList.Reachable.valid`).

On a valid list the lookups mean what they say: `find?` gives the one marker with an id
(`MarkerList.find?_eq_some_iff`), and `firstInRange?`, which only looks at the first marker past
the start frame, gives the first marker in list order inside the range
(`MarkerList.firstInRange?_eq_find?`). `MarkerList.reachable_lawful` gathers these facts.

Reading a list from its array form keeps the markers as written (`MarkerList.reader`), so a
document can give a list that is out of order and repeats an id
(`MarkerList.reader_unordered_repeated`).
-/

namespace Timeline

section Insert

variable {α : Type} (p : α → Bool)

/-- Inserting at the length of the longest prefix that passes a test puts the element between
that prefix and the rest. -/
theorem List.insertIdx_takeWhile_length (xs : List α) (x : α) :
    xs.insertIdx (xs.takeWhile p).length x = xs.takeWhile p ++ x :: xs.dropWhile p := by
  induction xs with
  | nil => rfl
  | cons y ys ih =>
    by_cases hy : p y
    · rw [List.takeWhile_cons_of_pos hy, List.dropWhile_cons_of_pos hy, List.length_cons,
        List.insertIdx_succ_cons, ih, List.cons_append]
    · rw [List.takeWhile_cons_of_neg hy, List.dropWhile_cons_of_neg hy]
      rfl

end Insert

/-- In a list ordered by frame, what follows the markers on a frame at or before `f` lies on
later frames. -/
theorem dropWhile_frame_le {ms : List Marker} (h : ms.Pairwise (·.frame ≤ ·.frame)) (f : Frame) :
    ∀ x ∈ ms.dropWhile (·.frame ≤ f), f < x.frame := by
  induction ms with
  | nil => intro x hx; cases hx
  | cons y ys ih =>
    rw [List.pairwise_cons] at h
    intro x hx
    by_cases hy : y.frame ≤ f
    · rw [List.dropWhile_cons_of_pos (by simpa using hy)] at hx
      exact ih h.2 x hx
    · -- the first marker past `f` bounds all that follow it
      have hfy : f < y.frame := Int32.not_le.mp hy
      rw [List.dropWhile_cons_of_neg (by simpa using hy)] at hx
      rcases List.mem_cons.mp hx with rfl | hx
      · exact hfy
      · exact Int32.lt_of_lt_of_le hfy (h.1 x hx)

namespace MarkerList

/-- Markers in non-decreasing frame order, with no id twice. -/
structure Valid (l : MarkerList) : Prop where
  /-- The frames never decrease. -/
  sorted : l.markers.Pairwise (·.frame ≤ ·.frame)
  /-- No id is held twice. -/
  ids : (l.markers.map (·.id)).Nodup

/-- The markers without the id `id`. -/
def others (l : MarkerList) (id : String) : List Marker := l.markers.filter (·.id != id)

/-- The markers that stay when a marker with id `id` is added: all but the first with the id. -/
def kept (l : MarkerList) (id : String) : List Marker := l.markers.eraseP (·.id == id)

/-- With distinct ids, the first marker with an id is the only one, so the markers that stay
are those without the id. -/
theorem kept_eq_others {l : MarkerList} (h : (l.markers.map (·.id)).Nodup) (id : String) :
    l.kept id = l.others id := by
  unfold kept others
  generalize l.markers = ms at h
  induction ms with
  | nil => rfl
  | cons x xs ih =>
    rw [List.map_cons, List.nodup_cons] at h
    by_cases hx : x.id = id
    · -- no later marker has the id
      have hrest : ∀ y ∈ xs, (y.id != id) = true := by
        intro y hy
        have hne : y.id ≠ id := fun hy' => h.1 (List.mem_map.mpr ⟨y, hy, hy'.trans hx.symm⟩)
        simpa using hne
      rw [List.eraseP_cons_of_pos (by simpa using hx), List.filter_cons_of_neg (by simpa using hx),
        List.filter_eq_self.mpr hrest]
    · rw [List.eraseP_cons_of_neg (by simpa using hx), List.filter_cons_of_pos (by simpa using hx),
        ih h.2]

/-! ## Adding a marker -/

/-- Adding a marker puts it after the markers that stay on frames at or before its own, and
before the rest of them. -/
theorem add_markers (l : MarkerList) (m : Marker) :
    (l.add m).markers =
      (l.kept m.id).takeWhile (·.frame ≤ m.frame) ++ m ::
        (l.kept m.id).dropWhile (·.frame ≤ m.frame) := by
  unfold add kept
  exact List.insertIdx_takeWhile_length _ _ _

/-- The markers that stay are in frame order when the list is. -/
theorem kept_sorted {l : MarkerList} (h : l.markers.Pairwise (·.frame ≤ ·.frame)) (id : String) :
    (l.kept id).Pairwise (·.frame ≤ ·.frame) :=
  h.sublist List.eraseP_sublist

/-- What adding does on an ordered list: the markers that stay, split into those on frames at or
before the new marker's and those after it, with the new marker between them. -/
theorem add_split {l : MarkerList} (h : l.markers.Pairwise (·.frame ≤ ·.frame)) (m : Marker) :
    ∃ pre post, l.kept m.id = pre ++ post ∧ (l.add m).markers = pre ++ m :: post ∧
      (∀ x ∈ pre, x.frame ≤ m.frame) ∧ ∀ x ∈ post, m.frame < x.frame := by
  refine ⟨(l.kept m.id).takeWhile (·.frame ≤ m.frame),
    (l.kept m.id).dropWhile (·.frame ≤ m.frame), List.takeWhile_append_dropWhile.symm,
    add_markers l m, ?_, dropWhile_frame_le (kept_sorted h m.id) m.frame⟩
  intro x hx
  simpa using List.mem_takeWhile_imp hx

/-- Adding keeps the frame order. -/
theorem add_sorted {l : MarkerList} (h : l.markers.Pairwise (·.frame ≤ ·.frame)) (m : Marker) :
    (l.add m).markers.Pairwise (·.frame ≤ ·.frame) := by
  obtain ⟨pre, post, hsplit, hadd, hpre, hpost⟩ := add_split h m
  have hrest := kept_sorted h m.id
  rw [hsplit, List.pairwise_append] at hrest
  obtain ⟨hpre_sorted, hpost_sorted, hcross⟩ := hrest
  rw [hadd, List.pairwise_append, List.pairwise_cons]
  refine ⟨hpre_sorted, ⟨fun x hx => Int32.le_of_lt (hpost x hx), hpost_sorted⟩, ?_⟩
  intro x hx y hy
  rcases List.mem_cons.mp hy with rfl | hy
  · exact hpre x hx
  · exact hcross x hx y hy

/-- Adding a marker puts it among the markers that stay, in some order. -/
theorem add_perm (l : MarkerList) (m : Marker) : (l.add m).markers.Perm (m :: l.kept m.id) := by
  rw [add_markers]
  conv_rhs => rw [← List.takeWhile_append_dropWhile (l := l.kept m.id) (p := (·.frame ≤ m.frame))]
  exact List.perm_middle

/-- Adding keeps the ids distinct: the one marker with the new id went first. -/
theorem add_ids {l : MarkerList} (h : (l.markers.map (·.id)).Nodup) (m : Marker) :
    ((l.add m).markers.map (·.id)).Nodup := by
  rw [((add_perm l m).map (·.id)).nodup_iff, List.map_cons, List.nodup_cons, kept_eq_others h]
  refine ⟨fun hm => ?_, h.sublist (List.filter_sublist.map _)⟩
  obtain ⟨x, hx, hid⟩ := List.mem_map.mp hm
  have hkept := (List.mem_filter.mp hx).2
  simp [hid] at hkept

/-- Adding keeps a list valid. -/
theorem add_valid {l : MarkerList} (h : l.Valid) (m : Marker) : (l.add m).Valid :=
  ⟨add_sorted h.sorted m, add_ids h.ids m⟩

/-! ## Removing a marker -/

/-- Removing leaves a sublist of the markers. -/
theorem remove_sublist (l : MarkerList) (id : String) : (l.remove id).1.markers.Sublist l.markers := by
  unfold remove
  split
  · exact List.eraseIdx_sublist _ _
  · exact List.Sublist.refl _

/-- Removing keeps a list valid. -/
theorem remove_valid {l : MarkerList} (h : l.Valid) (id : String) : (l.remove id).1.Valid :=
  ⟨h.sorted.sublist (remove_sublist l id), h.ids.sublist ((remove_sublist l id).map _)⟩

/-! ## Reachable lists -/

/-- The marker lists callers can build: the empty list, then markers added and removed in any
order. A copy of a list is the same list. -/
inductive Reachable : MarkerList → Prop
  | empty : Reachable {}
  | add {l : MarkerList} (m : Marker) : Reachable l → Reachable (l.add m)
  | remove {l : MarkerList} (id : String) : Reachable l → Reachable (l.remove id).1

/-- A list of markers added one by one is reachable. -/
theorem ofList_reachable (ms : List Marker) : (ofList ms).Reachable := by
  suffices h : ∀ l : MarkerList, l.Reachable → (ms.foldl add l).Reachable from h {} .empty
  induction ms with
  | nil => exact fun _ hl => hl
  | cons m ms ih => exact fun l hl => ih _ (.add m hl)

/-- Every reachable list is valid. -/
theorem Reachable.valid {l : MarkerList} (h : l.Reachable) : l.Valid := by
  induction h with
  | empty => exact ⟨List.Pairwise.nil, List.nodup_nil⟩
  | add m _ ih => exact add_valid ih m
  | remove id _ ih => exact remove_valid ih id

/-! ## Lookups on valid lists -/

/-- With distinct ids, `find?` gives exactly the marker with the id. -/
theorem find?_eq_some_iff {l : MarkerList} (h : (l.markers.map (·.id)).Nodup) (id : String)
    (m : Marker) : l.find? id = some m ↔ m ∈ l.markers ∧ m.id = id := by
  constructor
  · intro hf
    exact ⟨List.mem_of_find?_eq_some hf, by simpa using List.find?_some hf⟩
  · rintro ⟨hm, rfl⟩
    -- some marker with the id is found, and no other marker has it
    obtain ⟨m', hf⟩ := Option.isSome_iff_exists.mp
      (List.find?_isSome.mpr ⟨m, hm, by simp⟩ : (l.markers.find? (·.id == m.id)).isSome)
    have hm' := List.mem_of_find?_eq_some hf
    have hid : m'.id = m.id := by simpa using List.find?_some hf
    rw [find?, hf, List.inj_on_of_nodup_map h hm' hm hid]

/-- On an ordered list, the first marker past `after` is the first marker in list order with
`after < frame ≤ upTo`, when its own frame is at most `upTo`, and otherwise there is none. -/
theorem firstInRange?_eq_find? {l : MarkerList} (h : l.markers.Pairwise (·.frame ≤ ·.frame))
    (after upTo : Frame) :
    l.firstInRange? after upTo =
      l.markers.find? fun m => after < m.frame && m.frame ≤ upTo := by
  have hsplit := List.takeWhile_append_dropWhile (l := l.markers) (p := (·.frame ≤ after))
  -- no marker of the prefix lies past `after`
  have hpre : (l.markers.takeWhile (·.frame ≤ after)).find?
      (fun m => after < m.frame && m.frame ≤ upTo) = none := by
    rw [List.find?_eq_none]
    intro x hx
    have hle : x.frame ≤ after := by simpa using List.mem_takeWhile_imp hx
    simp [Int32.not_lt.mpr hle]
  have hpost := dropWhile_frame_le h after
  unfold firstInRange?
  conv => rhs; rw [← hsplit, List.find?_append, hpre, Option.none_or]
  split
  · rename_i m rest hd
    rw [hd] at hpost ⊢
    have hm : after < m.frame := hpost m List.mem_cons_self
    by_cases hu : m.frame ≤ upTo
    · rw [if_pos hu, List.find?_cons_of_pos (by simp [hm, hu])]
    · -- the markers after the first one lie later still, past `upTo` too
      rw [if_neg hu, List.find?_cons_of_neg (by simp [hu]), eq_comm, List.find?_eq_none]
      have hsorted : (m :: rest).Pairwise (·.frame ≤ ·.frame) := by
        rw [← hd]
        exact h.sublist (List.dropWhile_sublist _)
      intro x hx
      have hmx := (List.pairwise_cons.mp hsorted).1 x hx
      have hux : upTo < x.frame := Int32.lt_of_lt_of_le (Int32.not_le.mp hu) hmx
      simp [Int32.not_le.mpr hux]
  · rename_i hd
    rw [hd]
    rfl

/-! ## What a reachable list does -/

/-- What a marker list does, as its documentation says. -/
structure Lawful (l : MarkerList) : Prop where
  /-- Its markers are in frame order with distinct ids. -/
  valid : l.Valid
  /-- Adding a marker keeps the markers with other ids, in order, and puts it after those on
  frames at or before its own and before those on later frames. -/
  add : ∀ m, ∃ pre post, l.others m.id = pre ++ post ∧ (l.add m).markers = pre ++ m :: post ∧
    (∀ x ∈ pre, x.frame ≤ m.frame) ∧ ∀ x ∈ post, m.frame < x.frame
  /-- Lookup by id finds exactly the marker with that id. -/
  find : ∀ id m, l.find? id = some m ↔ m ∈ l.markers ∧ m.id = id
  /-- The marker crossed next is the first one in list order inside the range. -/
  firstInRange : ∀ after upTo,
    l.firstInRange? after upTo = l.markers.find? fun m => after < m.frame && m.frame ≤ upTo

/-- Every marker list built by adding and removing markers behaves as documented. -/
theorem reachable_lawful {l : MarkerList} (h : l.Reachable) : l.Lawful where
  valid := h.valid
  add m := by
    rw [← kept_eq_others h.valid.ids]
    exact add_split h.valid.sorted m
  find := find?_eq_some_iff h.valid.ids
  firstInRange := firstInRange?_eq_find? h.valid.sorted

/-- Markers added out of order, one of them twice, make a list that behaves as documented. -/
theorem reachable_lawful_out_of_order :
    (((ofList [.stop "end" 20, .play "start" 0]).add (.play "end" 10))).Reachable ∧
      (((ofList [.stop "end" 20, .play "start" 0]).add (.play "end" 10))).Lawful :=
  have h := Reachable.add (.play "end" 10) (ofList_reachable [.stop "end" 20, .play "start" 0])
  ⟨h, reachable_lawful h⟩

/-- A document can give a marker list out of frame order that holds an id twice. -/
theorem reader_unordered_repeated :
    Json.decodeText reader "[\x7b\"id\":\"a\",\"frame\":1\x7d,\x7b\"id\":\"a\",\"frame\":0\x7d]" =
        .ok ⟨[⟨"a", 1, .play, none⟩, ⟨"a", 0, .play, none⟩]⟩ ∧
      ¬ (⟨[⟨"a", 1, .play, none⟩, ⟨"a", 0, .play, none⟩]⟩ : MarkerList).Valid := by
  refine ⟨by cbv, fun h => ?_⟩
  have hids := h.ids
  simp at hids

end MarkerList

end Timeline

import Mathlib.Data.List.DropRight
import Timeline.Trigger

/-!
# Trigger texts: what becomes a token, and writing tokens back

`parseTrigger` cuts a trigger text at every comma, into one piece more than the text has commas
(`List.length_splitOn`), trims each piece of blanks and reads it with `parseToken`. A piece that
reads is a token, any other goes, trimmed, to the malformed list, both in the order of the text
(`parseTrigger_eq`). A trimmed piece reads exactly when it is not empty, has at most one `@`,
and its marker (what stands before the `@`) and its animation (what follows it, when there is
an `@`) are not empty once trimmed (`parseToken_eq_some_iff`).

The tokens that come out are trimmed and hold neither a comma nor an `@`
(`TriggerToken.Clean`). Written back as `marker` or `marker@animation` and joined by commas
(`triggerText`), they read as the same tokens with nothing malformed (`parseTrigger_spec`).
-/

/-! ## Cutting a list at a separator -/

namespace List

variable {α : Type} [BEq α] [LawfulBEq α]

/-- Cutting at a separator gives one piece more than there are separators. -/
theorem length_splitOn (a : α) (l : List α) : (l.splitOn a).length = l.count a + 1 := by
  induction l with
  | nil => simp
  | cons x xs ih =>
    rw [splitOn_cons_eq_if_modifyHead, count_cons]
    by_cases hx : x = a <;> simp [hx, ih]

/-- A list either holds no separator and is its only piece, or its first piece runs up to its
first separator and the other pieces are those of the rest. -/
theorem splitOn_cases (a : α) (l : List α) :
    (a ∉ l ∧ l.splitOn a = [l]) ∨
      ∃ m r, l = m ++ a :: r ∧ a ∉ m ∧ l.splitOn a = m :: r.splitOn a := by
  induction l with
  | nil => exact .inl ⟨not_mem_nil, rfl⟩
  | cons x xs ih =>
    by_cases hx : x = a
    · subst hx
      exact .inr ⟨[], xs, rfl, not_mem_nil, by simp [splitOn_cons_eq_if_modifyHead]⟩
    · rcases ih with ⟨hn, hs⟩ | ⟨m, r, rfl, hm, hs⟩
      · refine .inl ⟨?_, ?_⟩
        · simp [hn, Ne.symm hx]
        · simp [splitOn_cons_eq_if_modifyHead, hx, hs]
      · refine .inr ⟨x :: m, r, rfl, ?_, ?_⟩
        · simp [hm, Ne.symm hx]
        · simp [splitOn_cons_eq_if_modifyHead, hx, hs]

/-- A piece holds only characters of the list, and never the separator. -/
theorem mem_of_mem_splitOn {a x : α} {l p : List α} (hp : p ∈ l.splitOn a) (hx : x ∈ p) :
    x ∈ l ∧ x ≠ a := by
  induction l generalizing p with
  | nil => simp_all
  | cons y ys ih =>
    rw [splitOn_cons_eq_if_modifyHead] at hp
    by_cases hy : y = a
    · simp only [hy, beq_self_eq_true, if_true, mem_cons] at hp
      rcases hp with rfl | hp
      · exact absurd hx not_mem_nil
      · exact ⟨mem_cons_of_mem _ (ih hp hx).1, (ih hp hx).2⟩
    · simp only [beq_iff_eq, hy, if_false] at hp
      -- The first piece gains `y`, which is not the separator; the others are unchanged.
      obtain ⟨h, t, ht⟩ := exists_cons_of_ne_nil (splitOn_ne_nil a ys)
      rw [ht, modifyHead_cons, mem_cons] at hp
      rcases hp with rfl | hp
      · rcases mem_cons.mp hx with rfl | hx
        · exact ⟨mem_cons_self, hy⟩
        · have := ih (ht ▸ mem_cons_self) hx
          exact ⟨mem_cons_of_mem _ this.1, this.2⟩
      · have := ih (ht ▸ mem_cons_of_mem h hp) hx
        exact ⟨mem_cons_of_mem _ this.1, this.2⟩

end List

namespace Timeline

open Timeline.Text

/-! ## Blanks at the ends -/

section Trim

/-- Trimming drops the leading blanks, then the trailing ones. -/
theorem toList_trimBlanks (s : String) :
    (trimBlanks s).toList = (s.toList.dropWhile isBlank).rdropWhile isBlank := by
  simp [trimBlanks, List.rdropWhile]

/-- A trimmed text starts and ends with a character that is not blank. -/
theorem trimBlanks_ends (s : String) :
    (∀ c ∈ (trimBlanks s).toList.head?, isBlank c = false) ∧
      ∀ c ∈ (trimBlanks s).toList.getLast?, isBlank c = false := by
  rw [toList_trimBlanks]
  refine ⟨fun c hc => ?_, fun c hc => ?_⟩
  · -- The trimmed text starts where the leading blanks end.
    obtain ⟨t, ht⟩ := List.rdropWhile_prefix isBlank (s.toList.dropWhile isBlank)
    have hd : (s.toList.dropWhile isBlank).head? = some c := by
      rw [← ht, List.head?_append, Option.mem_def.mp hc]
      rfl
    simpa [hd] using List.head?_dropWhile_not isBlank s.toList
  · have hne : (s.toList.dropWhile isBlank).rdropWhile isBlank ≠ [] := by
      intro e
      rw [e] at hc
      simp at hc
    rw [List.getLast?_eq_some_getLast hne, Option.mem_def, Option.some_inj] at hc
    rw [← hc]
    simpa using List.rdropWhile_last_not isBlank _ hne

/-- A text is trimmed exactly when neither its first nor its last character is a blank. -/
theorem trimBlanks_eq_self_iff (s : String) :
    trimBlanks s = s ↔
      (∀ c ∈ s.toList.head?, isBlank c = false) ∧ ∀ c ∈ s.toList.getLast?, isBlank c = false := by
  constructor
  · intro h
    exact h ▸ trimBlanks_ends s
  · rintro ⟨hhead, hlast⟩
    rw [String.ext_iff, toList_trimBlanks]
    have hdrop : s.toList.dropWhile isBlank = s.toList := by
      cases hs : s.toList with
      | nil => rfl
      | cons c r =>
        have hc : isBlank c = false := hhead c (by simp [hs])
        simp [hc]
    rw [hdrop, List.rdropWhile_eq_self_iff]
    intro hne
    have := hlast _ (List.getLast?_eq_some_getLast hne)
    simp [this]

/-- Trimming twice trims once. -/
theorem trimBlanks_trimBlanks (s : String) : trimBlanks (trimBlanks s) = trimBlanks s :=
  (trimBlanks_eq_self_iff _).mpr (trimBlanks_ends s)

/-- Trimming keeps only characters of the text. -/
theorem mem_of_mem_trimBlanks {s : String} {c : Char} (h : c ∈ (trimBlanks s).toList) :
    c ∈ s.toList := by
  rw [toList_trimBlanks] at h
  exact List.dropWhile_suffix isBlank |>.subset ((List.rdropWhile_prefix isBlank _).subset h)

/-- Two trimmed, non-empty texts joined by one character form a trimmed text. -/
theorem trimBlanks_join {m a : String} (x : Char) (hm : trimBlanks m = m) (ha : trimBlanks a = a)
    (hm' : m ≠ "") (ha' : a ≠ "") :
    trimBlanks (m ++ String.singleton x ++ a) = m ++ String.singleton x ++ a := by
  rw [trimBlanks_eq_self_iff] at hm ha ⊢
  have hm0 : m.toList ≠ [] := by simpa [String.toList_eq_nil_iff] using hm'
  have ha0 : a.toList ≠ [] := by simpa [String.toList_eq_nil_iff] using ha'
  obtain ⟨c, r, hc⟩ := List.exists_cons_of_ne_nil hm0
  obtain ⟨last, hlast⟩ := Option.ne_none_iff_exists'.mp (mt List.getLast?_eq_none_iff.mp ha0)
  simp only [String.toList_append, String.toList_singleton]
  refine ⟨fun d hd => ?_, fun d hd => ?_⟩
  · rw [hc] at hd
    simp only [List.cons_append, List.head?_cons, Option.mem_def, Option.some_inj] at hd
    exact hd ▸ hm.1 c (by simp [hc])
  · rw [List.getLast?_append, hlast] at hd
    simp only [Option.some_or, Option.mem_def, Option.some_inj] at hd
    exact hd ▸ ha.2 last hlast

end Trim

/-! ## One token -/

/-- What stands before the first `@` of a piece. -/
def markerPart (p : String) : String := String.ofList (p.toList.takeWhile (· != '@'))

/-- What follows the first `@` of a piece, if it has one. -/
def animationPart (p : String) : Option String :=
  if '@' ∈ p.toList then some (String.ofList ((p.toList.dropWhile (· != '@')).drop 1)) else none

/-- A trimmed piece that reads as a token: not empty, with at most one `@`, a marker that is not
empty once trimmed and, after an `@`, an animation that is not empty once trimmed. -/
structure TokenForm (p : String) : Prop where
  /-- The piece is not empty. -/
  nonempty : p ≠ ""
  /-- At most one `@`. -/
  atMostOneAt : p.toList.count '@' ≤ 1
  /-- The marker is not empty once trimmed. -/
  marker : trimBlanks (markerPart p) ≠ ""
  /-- The animation, if named, is not empty once trimmed. -/
  animation : ∀ a ∈ animationPart p, trimBlanks a ≠ ""

/-- The token a piece stands for: its trimmed marker and trimmed animation. -/
def tokenOf (p : String) : TriggerToken :=
  ⟨trimBlanks (markerPart p), (animationPart p).map trimBlanks⟩

/-- A piece without `@` is all marker. -/
theorem parts_of_not_mem {p : String} (h : '@' ∉ p.toList) :
    splitAt p '@' = [p] ∧ markerPart p = p ∧ animationPart p = none ∧ p.toList.count '@' = 0 := by
  have hall : ∀ c ∈ p.toList, (c != '@') = true := by
    intro c hc
    simp only [bne_iff_ne, ne_eq]
    rintro rfl
    exact h hc
  refine ⟨?_, ?_, by simp [animationPart, h], List.count_eq_zero.mpr h⟩
  · simp [splitAt, List.splitOn_eq_singleton h]
  · simp [markerPart, List.takeWhile_eq_self_iff.mpr hall]

/-- A piece `m@r`, with no `@` in `m`, has marker `m` and animation `r`. -/
theorem parts_of_split {p : String} {m r : List Char} (hp : p.toList = m ++ '@' :: r)
    (hm : '@' ∉ m) :
    splitAt p '@' = String.ofList m :: (splitAt (String.ofList r) '@') ∧
      markerPart p = String.ofList m ∧ animationPart p = some (String.ofList r) ∧
      p.toList.count '@' = r.count '@' + 1 := by
  have hall : ∀ c ∈ m, (c != '@') = true := by
    intro c hc
    simp only [bne_iff_ne, ne_eq]
    rintro rfl
    exact hm hc
  refine ⟨?_, ?_, ?_, ?_⟩
  · simp [splitAt, hp, List.splitOn_append_cons_self_of_not_mem hm]
  · simp [markerPart, hp, List.takeWhile_append_of_pos hall]
  · simp [animationPart, hp, List.dropWhile_append_of_pos hall]
  · simp [hp, List.count_append, List.count_eq_zero.mpr hm]

/-- A piece without `@` reads as its trimmed self, unless that is empty. -/
theorem parseToken_of_not_mem {p : String} (hp : p ≠ "") (h : '@' ∉ p.toList) :
    parseToken p = if trimBlanks p = "" then none else some ⟨trimBlanks p, none⟩ := by
  have hp' : p.isEmpty = false := by simpa [String.isEmpty_iff] using hp
  simp only [parseToken, hp', (parts_of_not_mem h).1, Bool.false_eq_true, if_false,
    String.isEmpty_iff]

/-- A piece with exactly one `@` reads as its trimmed marker and animation, unless one of them is
empty. -/
theorem parseToken_of_split {p : String} {m r : List Char} (hp : p ≠ "")
    (hl : p.toList = m ++ '@' :: r) (hm : '@' ∉ m) (hr : '@' ∉ r) :
    parseToken p = if trimBlanks (String.ofList m) = "" ∨ trimBlanks (String.ofList r) = "" then none
      else some ⟨trimBlanks (String.ofList m), some (trimBlanks (String.ofList r))⟩ := by
  have hp' : p.isEmpty = false := by simpa [String.isEmpty_iff] using hp
  have hsplit : splitAt p '@' = [String.ofList m, String.ofList r] := by
    rw [(parts_of_split hl hm).1]
    simp [splitAt, List.splitOn_eq_singleton hr]
  simp only [parseToken, hp', hsplit, Bool.false_eq_true, if_false, String.isEmpty_iff,
    Bool.or_eq_true]

/-- A trimmed piece reads as a token exactly when it has the token form, and the token is the
one the piece stands for. -/
theorem parseToken_eq_some_iff (p : String) (t : TriggerToken) :
    parseToken p = some t ↔ TokenForm p ∧ t = tokenOf p := by
  by_cases hp : p = ""
  · subst hp
    have hnf : ¬ TokenForm "" := fun h => h.nonempty rfl
    simp [parseToken, hnf]
  rcases List.splitOn_cases '@' p.toList with ⟨hn, -⟩ | ⟨m, r, hl, hm, -⟩
  · -- No `@`: the whole piece is the marker.
    obtain ⟨-, hmark, hanim, hcount⟩ := parts_of_not_mem hn
    have hform : TokenForm p ↔ trimBlanks p ≠ "" := by
      refine ⟨fun h => hmark ▸ h.marker, fun h => ⟨hp, by omega, ?_, by simp [hanim]⟩⟩
      rw [hmark]
      exact h
    have htok : tokenOf p = ⟨trimBlanks p, none⟩ := by simp [tokenOf, hmark, hanim]
    rw [parseToken_of_not_mem hp hn, hform, htok, Option.ite_none_left_eq_some, Option.some_inj,
      eq_comm (a := t)]
  · obtain ⟨-, hmark, hanim, hcount⟩ := parts_of_split hl hm
    by_cases hr : '@' ∈ r
    · -- Two `@` or more: never a token.
      have hcount' : 2 ≤ p.toList.count '@' := by
        have := List.count_pos_iff.mpr hr
        omega
      have hnone : parseToken p = none := by
        have hlong : 3 ≤ (splitAt p '@').length := by
          simp only [splitAt, List.length_map, List.length_splitOn]
          omega
        have hp' : p.isEmpty = false := by simpa [String.isEmpty_iff] using hp
        simp only [parseToken, hp', Bool.false_eq_true, if_false]
        split <;> simp_all
      have hnf : ¬ TokenForm p := fun h => by have := h.atMostOneAt; omega
      simp [hnone, hnf]
    · -- One `@`: a marker and an animation.
      have hform : TokenForm p ↔
          ¬ (trimBlanks (String.ofList m) = "" ∨ trimBlanks (String.ofList r) = "") := by
        constructor
        · rintro h (e | e)
          · exact h.marker (hmark ▸ e)
          · exact h.animation _ (by simp [hanim]) e
        · intro h
          refine ⟨hp, by simp [hcount, List.count_eq_zero.mpr hr], ?_, ?_⟩
          · rw [hmark]
            exact fun e => h (.inl e)
          · simpa [hanim] using fun e => h (.inr e)
      have htok : tokenOf p =
          ⟨trimBlanks (String.ofList m), some (trimBlanks (String.ofList r))⟩ := by
        simp [tokenOf, hmark, hanim]
      rw [parseToken_of_split hp hl hm hr, hform, htok, Option.ite_none_left_eq_some,
        Option.some_inj, eq_comm (a := t)]

/-! ## A whole text -/

/-- Every comma-separated piece, trimmed, becomes a token when it reads as one and goes to the
malformed list otherwise, in the order of the text. -/
theorem parseTrigger_eq (s : String) :
    parseTrigger s =
      { tokens := (splitAt s ',').filterMap fun raw => parseToken (trimBlanks raw),
        malformed := ((splitAt s ',').map trimBlanks).filter fun p => (parseToken p).isNone } := by
  unfold parseTrigger
  generalize splitAt s ',' = pieces
  -- The fold appends each piece's outcome to what the pieces before it gave.
  induction pieces using List.reverseRecOn with
  | nil => rfl
  | append_singleton pieces raw ih =>
    rw [List.foldl_append, ih, List.foldl_cons, List.foldl_nil]
    cases ht : parseToken (trimBlanks raw) <;> simp [ht]

/-! ## Writing tokens back -/

/-- The text of a token: its marker, then `@` and its animation when it names one. -/
def TriggerToken.text (t : TriggerToken) : String :=
  match t.animation with
  | none => t.marker
  | some a => t.marker ++ "@" ++ a

/-- Tokens written back as a trigger text, separated by commas. -/
def triggerText (ts : List TriggerToken) : String := ",".intercalate (ts.map TriggerToken.text)

/-- A part of a token as reading leaves it: not empty, trimmed, without a comma or an `@`. -/
structure CleanPart (s : String) : Prop where
  /-- Not empty. -/
  nonempty : s ≠ ""
  /-- Trimmed. -/
  trimmed : trimBlanks s = s
  /-- No comma. -/
  noComma : ',' ∉ s.toList
  /-- No `@`. -/
  noAt : '@' ∉ s.toList

/-- Both parts of a token are clean. -/
structure TriggerToken.Clean (t : TriggerToken) : Prop where
  /-- The marker is clean. -/
  marker : CleanPart t.marker
  /-- The animation, if named, is clean. -/
  animation : ∀ a ∈ t.animation, CleanPart a

/-- A piece either has no `@` and is all marker, or is `m@r` with no `@` in `m`. -/
theorem parts_cases (p : String) :
    ('@' ∉ p.toList ∧ markerPart p = p ∧ animationPart p = none) ∨
      ∃ m r, p.toList = m ++ '@' :: r ∧ '@' ∉ m ∧ markerPart p = String.ofList m ∧
        animationPart p = some (String.ofList r) ∧ p.toList.count '@' = r.count '@' + 1 := by
  rcases List.splitOn_cases '@' p.toList with ⟨hn, -⟩ | ⟨m, r, hl, hm, -⟩
  · obtain ⟨-, hmark, hanim, -⟩ := parts_of_not_mem hn
    exact .inl ⟨hn, hmark, hanim⟩
  · obtain ⟨-, hmark, hanim, hcount⟩ := parts_of_split hl hm
    exact .inr ⟨m, r, hl, hm, hmark, hanim, hcount⟩

/-- A token read from a piece without commas is clean. -/
theorem parseToken_clean {p : String} (hp : ',' ∉ p.toList) {t : TriggerToken}
    (h : parseToken p = some t) : t.Clean := by
  obtain ⟨hf, rfl⟩ := (parseToken_eq_some_iff p t).mp h
  -- A trimmed part keeps only characters of the part.
  have clean : ∀ x : List Char, (∀ c ∈ x, c ∈ p.toList) → '@' ∉ x →
      trimBlanks (String.ofList x) ≠ "" → CleanPart (trimBlanks (String.ofList x)) := by
    intro x hx hat hne
    refine ⟨hne, trimBlanks_trimBlanks _, fun hc => ?_, fun hc => ?_⟩
    · exact hp (hx _ (by simpa using mem_of_mem_trimBlanks hc))
    · exact hat (by simpa using mem_of_mem_trimBlanks hc)
  rcases parts_cases p with ⟨hn, hmark, hanim⟩ | ⟨m, r, hl, hm, hmark, hanim, hcount⟩
  · refine ⟨?_, by simp [tokenOf, hanim]⟩
    have := clean p.toList (fun c hc => hc) hn (by simpa [hmark] using hf.marker)
    simpa [tokenOf, hmark] using this
  · -- At most one `@`, and it is the one after the marker.
    have hr : '@' ∉ r := fun hr => by
      have := List.count_pos_iff.mpr hr
      have := hf.atMostOneAt
      omega
    refine ⟨?_, ?_⟩
    · have := clean m (fun c hc => by simp [hl, hc]) hm (by simpa [hmark] using hf.marker)
      simpa [tokenOf, hmark] using this
    · have hne : trimBlanks (String.ofList r) ≠ "" := hf.animation _ (by simp [hanim])
      have := clean r (fun c hc => by simp [hl, hc]) hr hne
      simpa [tokenOf, hanim] using this

/-- The text of a clean token is trimmed, holds no comma, and reads back as the token. -/
theorem TriggerToken.Clean.text {t : TriggerToken} (ht : t.Clean) :
    ',' ∉ t.text.toList ∧ trimBlanks t.text = t.text ∧ parseToken t.text = some t := by
  obtain ⟨marker, animation⟩ := t
  obtain ⟨hm, ha⟩ := ht
  dsimp only at hm ha
  cases animation with
  | none =>
    refine ⟨hm.noComma, hm.trimmed, ?_⟩
    simp [TriggerToken.text, parseToken_of_not_mem hm.nonempty hm.noAt, hm.trimmed, hm.nonempty]
  | some a =>
    obtain ⟨hane, hatrim, hacomma, haat⟩ := ha a rfl
    have hl : (marker ++ "@" ++ a).toList = marker.toList ++ '@' :: a.toList := by simp
    have hne : marker ++ "@" ++ a ≠ "" := by
      intro e
      have := congrArg String.toList e
      rw [hl] at this
      simp at this
    refine ⟨by simp [TriggerToken.text, hm.noComma, hacomma], ?_, ?_⟩
    · exact trimBlanks_join '@' hm.trimmed hatrim hm.nonempty hane
    · simp [TriggerToken.text, parseToken_of_split hne hl hm.noAt haat, hm.trimmed, hatrim,
        hm.nonempty, hane]

/-- Cutting the written text at its commas gives back the texts of the tokens. -/
theorem splitAt_triggerText {ts : List TriggerToken} (hne : ts ≠ [])
    (h : ∀ t ∈ ts, ',' ∉ t.text.toList) : splitAt (triggerText ts) ',' = ts.map TriggerToken.text := by
  have hsep : ∀ l ∈ ts.map (fun t => t.text.toList), ',' ∉ l := by
    simpa using h
  simp only [splitAt, triggerText, String.toList_intercalate, List.map_map]
  rw [show (",".toList) = [','] from rfl, List.splitOn_intercalate ',' (by simpa using hsep)
    (by simpa using hne)]
  simp [Function.comp_def]

/-- Clean tokens, written back, read as themselves with nothing malformed. -/
theorem parseTrigger_triggerText {ts : List TriggerToken} (hne : ts ≠ [])
    (h : ∀ t ∈ ts, t.Clean) : parseTrigger (triggerText ts) = { tokens := ts, malformed := [] } := by
  rw [parseTrigger_eq, splitAt_triggerText hne fun t ht => (h t ht).text.1]
  have hread : ∀ t ∈ ts, ((fun raw => parseToken (trimBlanks raw)) ∘ TriggerToken.text) t =
      some t := fun t ht => by
    rw [Function.comp_apply, (h t ht).text.2.1, (h t ht).text.2.2]
  rw [List.filterMap_map, List.filterMap_congr hread, List.filterMap_some, List.map_map,
    List.filter_eq_nil_iff.mpr]
  intro p hp
  obtain ⟨t, ht, rfl⟩ := List.mem_map.mp hp
  simp [(h t ht).text.2.1, (h t ht).text.2.2]

/-- Every token read from a trigger text is clean. -/
theorem parseTrigger_clean (s : String) : ∀ t ∈ (parseTrigger s).tokens, t.Clean := by
  intro t ht
  rw [parseTrigger_eq, List.mem_filterMap] at ht
  obtain ⟨raw, hraw, hread⟩ := ht
  obtain ⟨l, hl, rfl⟩ := List.mem_map.mp hraw
  refine parseToken_clean (fun hc => ?_) hread
  have := mem_of_mem_trimBlanks hc
  rw [String.toList_ofList] at this
  exact (List.mem_of_mem_splitOn hl this).2 rfl

/-- The rules of a trigger text: it has one piece more than it has commas; each piece, trimmed,
becomes a token when it reads as one and is kept as malformed otherwise, in order; a trimmed
piece reads as a token exactly when it has the token form, as the token it stands for; and the
tokens read, written back, read as themselves with nothing malformed. -/
theorem parseTrigger_spec (s : String) :
    (splitAt s ',').length = s.toList.count ',' + 1 ∧
      parseTrigger s =
        { tokens := (splitAt s ',').filterMap fun raw => parseToken (trimBlanks raw),
          malformed := ((splitAt s ',').map trimBlanks).filter fun p => (parseToken p).isNone } ∧
      (∀ p t, parseToken p = some t ↔ TokenForm p ∧ t = tokenOf p) ∧
      ((parseTrigger s).tokens ≠ [] →
        parseTrigger (triggerText (parseTrigger s).tokens) =
          { tokens := (parseTrigger s).tokens, malformed := [] }) := by
  refine ⟨?_, parseTrigger_eq s, parseToken_eq_some_iff, fun hne => ?_⟩
  · simp [splitAt, List.length_splitOn]
  · exact parseTrigger_triggerText hne (parseTrigger_clean s)

/-- The tokens of `jump@Anim1, stop@Anim2,idle` are read back from their written form. -/
theorem parseTrigger_spec_qualified :
    (parseTrigger "jump@Anim1, stop@Anim2,idle").tokens ≠ [] ∧
      parseTrigger (triggerText (parseTrigger "jump@Anim1, stop@Anim2,idle").tokens) =
        { tokens := (parseTrigger "jump@Anim1, stop@Anim2,idle").tokens, malformed := [] } :=
  ⟨by decide, (parseTrigger_spec _).2.2.2 (by decide)⟩

end Timeline

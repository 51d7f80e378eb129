import Mathlib
import Timeline.Console.Queries
import Timeline.Proofs.TriggerText

/-!
# Property path texts: the grammar, its errors and writing paths back

A text is cut at its dots into pieces. `PieceReads raw seg` is the grammar of one piece: a name
alone, or a name, `[`, decimal digits and a final `]`, with the segment it stands for.
`PieceFault path raw e` is the error of a piece that does not read, by the order of the checks.
`Path.parse` reads a text exactly when it is not empty and every piece reads
(`parse_eq_ok_iff`), and otherwise fails with `.empty` or the fault of the leftmost piece that
does not read (`parse_eq_error_iff`).

Writing a parsed path back gives a text that reads as the same path (`parse_render_iff`), and that
text is the original one with the leading zeros of each index dropped (`render_of_parse`,
through `dropIndexZeros`). The lookup key of a path is the text of the path with the last index
left out, and a path read from JSON is the path its string spells.
-/

namespace List

variable {ε α β : Type} (f : α → Except ε β)

/-- A map in the error monad succeeds exactly when every element does. -/
theorem mapM_except_eq_ok_iff (xs : List α) (ys : List β) :
    xs.mapM f = .ok ys ↔ Forall₂ (fun x y => f x = .ok y) xs ys := by
  induction xs generalizing ys with
  | nil => cases ys <;> simp [pure, Except.pure]
  | cons x xs ih =>
    rw [mapM_cons]
    cases hx : f x with
    | error e => cases ys <;> simp [bind, Except.bind, hx]
    | ok y =>
      cases hxs : xs.mapM f with
      | error e => cases ys <;> simp [bind, Except.bind, ← ih, hx, hxs]
      | ok ys' => cases ys <;> simp [bind, Except.bind, pure, Except.pure, ← ih, hx, hxs]

/-- A map in the error monad fails with the error of the first element that fails. -/
theorem mapM_except_eq_error_iff (xs : List α) (e : ε) :
    xs.mapM f = .error e ↔
      ∃ pre x post, xs = pre ++ x :: post ∧ (∀ r ∈ pre, ∃ y, f r = .ok y) ∧
        f x = .error e := by
  induction xs with
  | nil => simp [pure, Except.pure]
  | cons x xs ih =>
    rw [mapM_cons]
    constructor
    · intro h
      cases hx : f x with
      | error e' =>
        simp only [bind, Except.bind, hx, Except.error.injEq] at h
        exact ⟨[], x, xs, rfl, by simp, h ▸ hx⟩
      | ok y =>
        -- The first element reads, so the error comes from the rest.
        have hxs : xs.mapM f = .error e := by
          cases hxs : xs.mapM f <;> simp_all [bind, Except.bind, pure, Except.pure]
        obtain ⟨pre, x', post, rfl, hpre, hx'⟩ := ih.mp hxs
        refine ⟨x :: pre, x', post, rfl, ?_, hx'⟩
        simpa [hx] using hpre
    · rintro ⟨pre, x', post, hsplit, hpre, hx'⟩
      cases pre with
      | nil =>
        obtain ⟨rfl, rfl⟩ := List.cons.inj hsplit
        simp [bind, Except.bind, hx']
      | cons r pre =>
        obtain ⟨rfl, rfl⟩ := List.cons.inj hsplit
        obtain ⟨y, hy⟩ := hpre x mem_cons_self
        have hrest := ih.mpr ⟨pre, x', post, rfl, fun r hr => hpre r (mem_cons_of_mem x hr), hx'⟩
        simp only [bind, Except.bind, hy, hrest]

/-- Every element on the right of a pairing has a partner on the left. -/
theorem Forall₂.exists_of_mem_right {R : α → β → Prop} {l₁ : List α} {l₂ : List β}
    (h : Forall₂ R l₁ l₂) {b : β} (hb : b ∈ l₂) : ∃ a ∈ l₁, R a b := by
  induction h with
  | nil => exact absurd hb not_mem_nil
  | @cons a b' l₁ l₂ hab _ ih =>
    rcases mem_cons.mp hb with rfl | hb
    · exact ⟨a, mem_cons_self, hab⟩
    · obtain ⟨a', ha', h'⟩ := ih hb
      exact ⟨a', mem_cons_of_mem a ha', h'⟩

end List

namespace Timeline

open Timeline.Text Timeline.Json Timeline.Console

/-! ## Decimal digits -/

theorem digitsValue_append_singleton (ds : List Char) (c : Char) :
    digitsValue (ds ++ [c]) = digitsValue ds * 10 + (c.toNat - '0'.toNat) := by
  simp [digitsValue, List.foldl_append]

/-- `digitsValue` reads digits as core's `Nat.ofDigitChars` does. -/
theorem digitsValue_eq_ofDigitChars (ds : List Char) :
    digitsValue ds = Nat.ofDigitChars 10 ds 0 := by
  simp only [digitsValue, Nat.ofDigitChars, Nat.mul_comm]

/-- The decimal text of a number reads as that number. -/
theorem digitsValue_toDigits (n : Nat) : digitsValue (Nat.toDigits 10 n) = n := by
  rw [digitsValue_eq_ofDigitChars, Nat.ofDigitChars_ten_toDigits]

theorem digitsValue_zero_cons (ds : List Char) : digitsValue ('0' :: ds) = digitsValue ds := by
  simp [digitsValue]

theorem digitChar_of_isDigit {c : Char} (h : c.isDigit) :
    Nat.digitChar (c.toNat - '0'.toNat) = c := by
  rw [Char.isDigit_iff_toNat] at h
  rw [← Char.toNat_inj, Nat.toNat_digitChar_of_lt_ten (by simp at h ⊢; omega)]
  simp at h ⊢
  omega

theorem isBlank_of_isDigit {c : Char} (h : c.isDigit) : isBlank c = false := by
  rw [Char.isDigit_iff_toNat] at h
  simp [isBlank] at h ⊢
  omega

/-- One digit is the decimal text of its value. -/
theorem toDigits_digitsValue_singleton {d : Char} (h : d.isDigit) :
    Nat.toDigits 10 (digitsValue [d]) = [d] := by
  have hd := Char.isDigit_iff_toNat.mp h
  have hlt : digitsValue [d] < 10 := by
    simp [digitsValue] at hd ⊢
    omega
  rw [Nat.toDigits_of_lt_base hlt]
  show [Nat.digitChar (0 * 10 + (d.toNat - '0'.toNat))] = [d]
  rw [Nat.zero_mul, Nat.zero_add, digitChar_of_isDigit h]

/-- Digits that do not start with a zero are the decimal text of their value. -/
theorem toDigits_digitsValue {d : Char} {ds : List Char} (hd : d ≠ '0')
    (h : ∀ c ∈ d :: ds, c.isDigit) : Nat.toDigits 10 (digitsValue (d :: ds)) = d :: ds := by
  -- Induction from the right: a digit appended multiplies the value by ten and adds its own.
  induction ds using List.reverseRecOn with
  | nil => exact toDigits_digitsValue_singleton (h d (by simp))
  | append_singleton ds c ih =>
    have hc := h c (by simp)
    have hprefix := ih (fun x hx => h x (by simp at hx ⊢; tauto))
    have hpos : 0 < digitsValue (d :: ds) := by
      refine Nat.pos_of_ne_zero fun h0 => hd ?_
      rw [h0, Nat.toDigits_zero] at hprefix
      exact (List.cons.inj hprefix).1.symm
    have hlt : c.toNat - '0'.toNat < 10 := by
      have := Char.isDigit_iff_toNat.mp hc
      simp at this ⊢
      omega
    rw [← List.cons_append, digitsValue_append_singleton, Nat.mul_comm,
      ← Nat.toDigits_append_toDigits (by decide) hpos hlt, hprefix, Nat.toDigits_of_lt_base hlt,
      digitChar_of_isDigit hc]

/-! ## Leading zeros of indices -/

/-- Drops the leading zeros of every bracketed index, keeping its last digit. `lead` says that
the characters since the last `[` are all dropped zeros: a `0` is dropped there when another digit
follows it. -/
def dropIndexZeros (lead : Bool) : List Char → List Char
  | [] => []
  | c :: rest =>
    if lead ∧ c = '0' ∧ rest.head?.any Char.isDigit then dropIndexZeros true rest
    else c :: dropIndexZeros (c = '[') rest

/-- Before the first `[` nothing is dropped. -/
theorem dropIndexZeros_of_not_mem {a : List Char} (h : '[' ∉ a) (b : List Char) :
    dropIndexZeros false (a ++ b) = a ++ dropIndexZeros false b := by
  induction a with
  | nil => rfl
  | cons x a ih =>
    simp only [List.mem_cons, not_or] at h
    simp [dropIndexZeros, Ne.symm h.1, ih h.2]

theorem dropIndexZeros_eq_self {a : List Char} (h : '[' ∉ a) : dropIndexZeros false a = a := by
  simpa [dropIndexZeros] using dropIndexZeros_of_not_mem h []

/-- A character that is neither a digit nor `[` ends every run of zeros, so the text splits there. -/
theorem dropIndexZeros_append_cons (lead : Bool) (a : List Char) (c : Char) (hc : c ≠ '[')
    (hd : c.isDigit = false) (b : List Char) :
    dropIndexZeros lead (a ++ c :: b) = dropIndexZeros lead a ++ c :: dropIndexZeros false b := by
  induction a generalizing lead with
  | nil =>
    have : c ≠ '0' := by
      rintro rfl
      simp at hd
    simp [dropIndexZeros, this, hc]
  | cons x a ih =>
    -- Whether `x` is dropped looks at the next character, which `c` only is when `a` is empty.
    have hhead : ((a ++ c :: b).head?.any Char.isDigit) = (a.head?.any Char.isDigit) := by
      cases a <;> simp [hd]
    simp only [List.cons_append, dropIndexZeros, hhead]
    split <;> simp [ih]

/-- Right after `[`, the zeros dropped from digits leave the decimal text of their value. -/
theorem dropIndexZeros_digits {d : Char} {ds : List Char} (h : ∀ c ∈ d :: ds, c.isDigit) :
    dropIndexZeros true (d :: ds) = Nat.toDigits 10 (digitsValue (d :: ds)) := by
  induction ds generalizing d with
  | nil =>
    rw [dropIndexZeros, if_neg (by simp), dropIndexZeros,
      toDigits_digitsValue_singleton (h d (by simp))]
  | cons d' ds ih =>
    have hd' : d'.isDigit := h d' (by simp)
    by_cases hd : d = '0'
    · subst hd
      rw [dropIndexZeros, if_pos (by simp [hd']), ih (fun c hc => h c (by simp_all)),
        digitsValue_zero_cons]
    · have hopen : '[' ∉ d' :: ds := fun hm => by simpa using h '[' (List.mem_cons_of_mem d hm)
      have hd0 : decide (d = '[') = false := by
        simpa using fun e : d = '[' => by simpa [e] using h d (by simp)
      rw [dropIndexZeros, if_neg (by simp [hd]), toDigits_digitsValue hd h, hd0,
        dropIndexZeros_eq_self hopen]

/-- Zeros are dropped piece by piece. -/
theorem dropIndexZeros_intercalate (ps : List (List Char)) :
    dropIndexZeros false (['.'].intercalate ps) =
      ['.'].intercalate (ps.map (dropIndexZeros false)) := by
  induction ps with
  | nil => rfl
  | cons p ps ih =>
    cases ps with
    | nil => simp
    | cons q qs =>
      rw [List.intercalate_cons_cons, List.append_assoc, List.singleton_append,
        dropIndexZeros_append_cons false p '.' (by decide) (by decide), ih]
      simp [List.intercalate_cons_cons]

/-! ## Pieces -/

/-- The pieces that read as segments, with the segment each one reads as. -/
inductive PieceReads : List Char → Segment → Prop
  /-- A name alone, with no bracket. -/
  | plain {name : List Char} (nonempty : name ≠ []) (noOpen : '[' ∉ name) (noClose : ']' ∉ name)
      (noBlank : ∀ c ∈ name, isBlank c = false) : PieceReads name ⟨String.ofList name, none⟩
  /-- A name, then decimal digits in brackets that close the piece; the name may hold `]`. -/
  | indexed {name digits : List Char} (nonempty : name ≠ []) (noOpen : '[' ∉ name)
      (noBlank : ∀ c ∈ name, isBlank c = false) (digitsNonempty : digits ≠ [])
      (allDigits : ∀ c ∈ digits, c.isDigit) (fits : digitsValue digits ≤ maxIndex) :
      PieceReads (name ++ '[' :: (digits ++ [']'])) ⟨String.ofList name, some (digitsValue digits)⟩

/-- The error of a piece that does not read, by the first check it fails: empty, then blank, then
its bracket, except that a bracket with no name before it makes the piece empty. -/
inductive PieceFault (path : String) : List Char → PathError → Prop
  | empty : PieceFault path [] (.emptySegment path)
  | blank {raw : List Char} (nonempty : raw ≠ []) (hasBlank : ∃ c ∈ raw, isBlank c) :
      PieceFault path raw (.blank path)
  | unnamed {rest : List Char} (noBlank : ∀ c ∈ '[' :: rest, isBlank c = false)
      (closed : rest.getLast? = some ']') : PieceFault path ('[' :: rest) (.emptySegment path)
  | badIndex {raw : List Char} (nonempty : raw ≠ []) (noBlank : ∀ c ∈ raw, isBlank c = false)
      (named : ¬(raw.head? = some '[' ∧ raw.getLast? = some ']'))
      (unread : ∀ seg, ¬PieceReads raw seg) :
      PieceFault path raw (.badIndex path (String.ofList raw))

theorem PieceReads.ne_nil {raw : List Char} {seg : Segment} (h : PieceReads raw seg) :
    raw ≠ [] := by
  cases h with
  | plain hne => exact hne
  | indexed => simp

theorem span_of_not_mem {raw : List Char} (h : '[' ∉ raw) :
    raw.span (· ≠ '[') = (raw, []) := by
  rw [List.span_eq_takeWhile_dropWhile, List.takeWhile_eq_self_iff.mpr,
    List.dropWhile_eq_nil_iff.mpr] <;>
  · intro c hc
    simpa using fun e : c = '[' => h (e ▸ hc)

theorem span_of_split {name : List Char} (h : '[' ∉ name) (rest : List Char) :
    (name ++ '[' :: rest).span (· ≠ '[') = (name, '[' :: rest) := by
  have hall : ∀ c ∈ name, decide (c ≠ '[') = true := by
    intro c hc
    simpa using fun e : c = '[' => h (e ▸ hc)
  rw [List.span_eq_takeWhile_dropWhile, List.takeWhile_append_of_pos hall,
    List.dropWhile_append_of_pos hall]
  simp

/-- A piece that is not empty and holds no blank is read by its brackets alone. -/
theorem parsePiece_of_clean {path : String} {raw : List Char} (hne : raw ≠ [])
    (hblank : ∀ c ∈ raw, isBlank c = false) : parsePiece path raw = parseSegment path raw := by
  rw [parsePiece, if_neg (by simpa using hne), if_neg (by simpa using hblank)]

/-- A segment form reads as its segment. -/
theorem parsePiece_of_pieceReads {path : String} {raw : List Char} {seg : Segment}
    (h : PieceReads raw seg) : parsePiece path raw = .ok seg := by
  cases h with
  | plain hne hopen hclose hblank =>
    rw [parsePiece_of_clean hne hblank, parseSegment]
    dsimp only
    rw [span_of_not_mem hopen]
    simp [hclose]
  | @indexed name digits hne hopen hblank hdne hdigits hfits =>
    have hblank' : ∀ c ∈ name ++ '[' :: (digits ++ [']']), isBlank c = false := by
      intro c hc
      simp only [List.mem_append, List.mem_cons, List.not_mem_nil, or_false] at hc
      rcases hc with hc | rfl | hc | rfl
      · exact hblank c hc
      · decide
      · exact isBlank_of_isDigit (hdigits c hc)
      · decide
    have hall : ¬∃ c, c ∈ digits ∧ c.isDigit = false := fun ⟨c, hc, hf⟩ => by
      simp [hdigits c hc] at hf
    rw [parsePiece_of_clean (by simp) hblank', parseSegment]
    dsimp only
    rw [span_of_split hopen]
    simp [hne, hdne, hall, Nat.not_lt.mpr hfits]

/-- A piece that reads has one of the segment forms. -/
theorem pieceReads_of_parsePiece {path : String} {raw : List Char} {seg : Segment}
    (h : parsePiece path raw = .ok seg) : PieceReads raw seg := by
  rw [parsePiece] at h
  split_ifs at h with hne hblank
  have hne : raw ≠ [] := by simpa using hne
  have hblank : ∀ c ∈ raw, isBlank c = false := by simpa using hblank
  rw [parseSegment] at h
  dsimp only at h
  rcases List.splitOn_cases '[' raw with ⟨hopen, -⟩ | ⟨name, rest, rfl, hopen, -⟩
  · rw [span_of_not_mem hopen] at h
    dsimp only at h
    split_ifs at h with hclose
    cases h
    exact .plain hne hopen (by simpa using hclose) hblank
  · rw [span_of_split hopen] at h
    dsimp only at h
    split_ifs at h with hlast hname hdigits hfits
    cases h
    obtain ⟨digits, rfl⟩ := List.getLast?_eq_some_iff.mp (not_not.mp hlast)
    simp only [List.dropLast_concat, List.isEmpty_iff, Bool.not_eq_true', not_or,
      Bool.not_eq_false, List.all_eq_true] at hname hdigits hfits ⊢
    exact .indexed hname hopen (fun c hc => hblank c (by simp [hc])) hdigits.1 hdigits.2
      (Nat.not_lt.mp hfits)

/-- A piece that does not read fails with the error of the first check it fails. -/
theorem pieceFault_of_parsePiece {path : String} {raw : List Char} {e : PathError}
    (h : parsePiece path raw = .error e) : PieceFault path raw e := by
  have unread : ∀ seg, ¬PieceReads raw seg := fun seg hr => by
    rw [parsePiece_of_pieceReads hr] at h
    cases h
  rw [parsePiece] at h
  split_ifs at h with hne hb
  · cases h
    obtain rfl := List.isEmpty_iff.mp hne
    exact .empty
  · cases h
    exact .blank (by simpa using hne) (List.any_eq_true.mp hb)
  have hne : raw ≠ [] := by simpa using hne
  have hblank : ∀ c ∈ raw, isBlank c = false := by simpa using hb
  rw [parseSegment] at h
  dsimp only at h
  rcases List.splitOn_cases '[' raw with ⟨hopen, -⟩ | ⟨name, rest, rfl, hopen, -⟩
  · -- Without a bracket, only a stray `]` fails.
    rw [span_of_not_mem hopen] at h
    dsimp only at h
    split_ifs at h
    cases h
    exact .badIndex hne hblank (fun hh => hopen (List.mem_of_mem_head? hh.1)) unread
  · rw [span_of_split hopen] at h
    dsimp only at h
    -- Which end of the piece the bracket check failed at decides between the two errors.
    have hlast_of : (name ++ '[' :: rest).getLast? = some ']' → rest.getLast? = some ']' := by
      cases hr : rest.getLast? <;> simp [List.getLast?_append, List.getLast?_cons, hr]
    have named_bad (hname : name ≠ []) :
        PieceFault path (name ++ '[' :: rest)
          (.badIndex path (String.ofList (name ++ '[' :: rest))) := by
      refine .badIndex hne hblank (fun hh => hopen (List.mem_of_mem_head? ?_)) unread
      rw [← List.head?_append_of_ne_nil _ hname]
      exact hh.1
    split_ifs at h with hlast hempty hdigits hfits
    · cases h
      exact .badIndex hne hblank (fun hh => hlast (hlast_of hh.2)) unread
    · cases h
      obtain rfl := List.isEmpty_iff.mp hempty
      exact .unnamed hblank (not_not.mp hlast)
    · cases h
      exact named_bad (by simpa using hempty)
    · cases h
      exact named_bad (by simpa using hempty)

/-- A piece fails with the error its fault names. -/
theorem parsePiece_of_pieceFault {path : String} {raw : List Char} {e : PathError}
    (h : PieceFault path raw e) : parsePiece path raw = .error e := by
  cases h with
  | empty => rfl
  | blank hne hb => simp [parsePiece, hne, List.any_eq_true.mpr hb]
  | @unnamed rest hblank hlast =>
    rw [parsePiece_of_clean (by simp) hblank, parseSegment]
    dsimp only
    rw [← List.nil_append ('[' :: rest), span_of_split List.not_mem_nil rest]
    simp [hlast]
  | badIndex hne hblank hnamed hunread =>
    -- The piece fails, and its fault can only be the bracket one.
    cases hp : parsePiece path raw with
    | ok seg => exact absurd (pieceReads_of_parsePiece hp) (hunread seg)
    | error e' =>
      cases pieceFault_of_parsePiece hp with
      | empty => exact absurd rfl hne
      | blank _ hb =>
        obtain ⟨c, hc, hc'⟩ := hb
        simp [hblank c hc] at hc'
      | unnamed _ hl => exact absurd ⟨rfl, by simp [List.getLast?_cons, hl]⟩ hnamed
      | badIndex => rfl

/-- A piece reads as a segment exactly when it has that segment's form. -/
theorem parsePiece_eq_ok_iff (path : String) (raw : List Char) (seg : Segment) :
    parsePiece path raw = .ok seg ↔ PieceReads raw seg :=
  ⟨pieceReads_of_parsePiece, parsePiece_of_pieceReads⟩

/-- A piece fails exactly with the error of its fault. -/
theorem parsePiece_eq_error_iff (path : String) (raw : List Char) (e : PathError) :
    parsePiece path raw = .error e ↔ PieceFault path raw e :=
  ⟨pieceFault_of_parsePiece, parsePiece_of_pieceFault⟩

/-! ## Whole texts -/

/-- A text reads as a path exactly when it is not empty and each of its pieces reads, as the
segment in the same place. -/
theorem parse_eq_ok_iff (s : String) (p : Path) :
    Path.parse s = .ok p ↔
      s ≠ "" ∧ List.Forall₂ PieceReads (s.toList.splitOn '.') p.segments := by
  have hpieces : (fun raw seg => parsePiece s raw = .ok seg) = PieceReads := by
    funext raw seg
    exact propext (parsePiece_eq_ok_iff s raw seg)
  by_cases hs : s = ""
  · simp [Path.parse, hs]
  · rw [Path.parse, if_neg (by simpa [String.isEmpty_iff] using hs), ← hpieces,
      ← List.mapM_except_eq_ok_iff]
    cases (s.toList.splitOn '.').mapM (parsePiece s) with
    | error e => simp [hs, Functor.map, Except.map]
    | ok segs =>
      cases p
      simp [hs, Functor.map, Except.map]

/-- A text fails to read with `.empty` when it is empty, and otherwise with the fault of its
leftmost piece that does not read. -/
theorem parse_eq_error_iff (s : String) (e : PathError) :
    Path.parse s = .error e ↔ (s = "" ∧ e = .empty) ∨
      (s ≠ "" ∧ ∃ pre raw post, s.toList.splitOn '.' = pre ++ raw :: post ∧
        (∀ r ∈ pre, ∃ seg, PieceReads r seg) ∧ PieceFault s raw e) := by
  by_cases hs : s = ""
  · subst hs
    simp only [Path.parse, String.isEmpty_iff, if_true, Except.error.injEq, true_and, ne_eq,
      not_true_eq_false, false_and, or_false]
    exact eq_comm
  · have hmap : ∀ x : Except PathError (List Segment),
        Path.mk <$> x = .error e ↔ x = .error e := by
      intro x
      cases x <;> simp [Functor.map, Except.map]
    rw [Path.parse, if_neg (by simpa [String.isEmpty_iff] using hs), hmap,
      List.mapM_except_eq_error_iff]
    simp only [parsePiece_eq_ok_iff, parsePiece_eq_error_iff]
    simp [hs]

/-! ## Writing paths -/

/-- A segment some piece reads as: its name is not empty and holds no dot, no `[` and no blank,
and no `]` either when there is no index; its index fits in 64 bits. -/
structure Segment.WellFormed (seg : Segment) : Prop where
  nonempty : seg.name ≠ ""
  noDot : '.' ∉ seg.name.toList
  noOpen : '[' ∉ seg.name.toList
  noBlank : ∀ c ∈ seg.name.toList, isBlank c = false
  noClose : seg.index = none → ']' ∉ seg.name.toList
  fits : ∀ i ∈ seg.index, i ≤ maxIndex

/-- A path some text reads as: at least one segment, and each well formed. -/
structure Path.WellFormed (p : Path) : Prop where
  nonempty : p.segments ≠ []
  segments : ∀ seg ∈ p.segments, seg.WellFormed

@[simp]
theorem Segment.toList_render_none (name : String) :
    (Segment.render ⟨name, none⟩).toList = name.toList := rfl

@[simp]
theorem Segment.toList_render_some (name : String) (i : Nat) :
    (Segment.render ⟨name, some i⟩).toList =
      name.toList ++ '[' :: (Nat.toDigits 10 i ++ [']']) := by
  simp [Segment.render, Nat.toList_repr]

theorem Path.toList_render (p : Path) :
    p.render.toList = ['.'].intercalate (p.segments.map fun seg => seg.render.toList) := by
  simp [Path.render, String.toList_intercalate, Function.comp_def]

/-- A piece without a dot reads as a well-formed segment. -/
theorem PieceReads.wellFormed {raw : List Char} {seg : Segment} (h : PieceReads raw seg)
    (hdot : '.' ∉ raw) : seg.WellFormed := by
  cases h with
  | plain hne hopen hclose hblank =>
    exact ⟨by simpa [← String.toList_inj] using hne, by simpa using hdot, by simpa using hopen,
      by simpa using hblank, fun _ => by simpa using hclose, by simp⟩
  | indexed hne hopen hblank _ _ hfits =>
    exact ⟨by simpa [← String.toList_inj] using hne, by simp_all, by simpa using hopen,
      by simpa using hblank, by simp, by simpa using hfits⟩

/-- The text of a well-formed segment reads as the segment, and holds no dot. -/
theorem Segment.WellFormed.pieceReads {seg : Segment} (h : seg.WellFormed) :
    PieceReads seg.render.toList seg ∧ '.' ∉ seg.render.toList := by
  obtain ⟨name, index⟩ := seg
  have hne : name.toList ≠ [] := fun he => h.nonempty (String.toList_eq_nil_iff.mp he)
  cases index with
  | none =>
    refine ⟨?_, by simpa using h.noDot⟩
    simpa using PieceReads.plain hne h.noOpen (h.noClose rfl) h.noBlank
  | some i =>
    -- The digits are those of the index, which they read back as.
    have hdigits : ∀ c ∈ Nat.toDigits 10 i, c.isDigit := fun c hc =>
      Nat.isDigit_of_mem_toDigits (by decide) (by decide) hc
    have hreads := PieceReads.indexed hne h.noOpen h.noBlank Nat.toDigits_ne_nil hdigits
      (by simpa [digitsValue_toDigits] using h.fits i rfl)
    refine ⟨by simpa [digitsValue_toDigits] using hreads, ?_⟩
    simp only [Segment.toList_render_some, List.mem_append, List.mem_cons, List.not_mem_nil,
      not_or]
    exact ⟨h.noDot, by decide, fun hc => by simpa using hdigits '.' hc, by decide, id⟩

/-- A path a text reads as is well formed. -/
theorem wellFormed_of_parse {s : String} {p : Path} (h : Path.parse s = .ok p) :
    p.WellFormed := by
  obtain ⟨-, hreads⟩ := (parse_eq_ok_iff s p).mp h
  refine ⟨fun hnil => List.splitOn_ne_nil '.' s.toList ?_, fun seg hs => ?_⟩
  · rw [hnil] at hreads
    exact List.forall₂_nil_right_iff.mp hreads
  · obtain ⟨raw, hraw, hr⟩ := hreads.exists_of_mem_right hs
    exact hr.wellFormed fun hdot => (List.mem_of_mem_splitOn hraw hdot).2 rfl

/-- The text of a well-formed path reads as the path. -/
theorem Path.WellFormed.parse_render {p : Path} (h : p.WellFormed) :
    Path.parse p.render = .ok p := by
  have hsplit : p.render.toList.splitOn '.' = p.segments.map fun seg => seg.render.toList := by
    rw [Path.toList_render]
    exact List.splitOn_intercalate '.'
      (by simpa using fun seg hs => ((h.segments seg hs).pieceReads).2) (by simpa using h.nonempty)
  have hreads : List.Forall₂ PieceReads (p.segments.map fun seg => seg.render.toList) p.segments := by
    rw [List.forall₂_map_left_iff, List.forall₂_same]
    exact fun seg hs => ((h.segments seg hs).pieceReads).1
  refine (parse_eq_ok_iff _ _).mpr ⟨fun he => ?_, hsplit ▸ hreads⟩
  -- An empty text is one empty piece, and no segment is written as nothing.
  rw [he] at hsplit
  have hmem : [] ∈ p.segments.map fun seg => seg.render.toList := hsplit ▸ List.mem_singleton_self _
  obtain ⟨seg, hs, hseg⟩ := List.mem_map.mp hmem
  exact ((h.segments seg hs).pieceReads).1.ne_nil hseg

/-- A path is the reading of its own text exactly when it is well formed. -/
theorem parse_render_iff (p : Path) : Path.parse p.render = .ok p ↔ p.WellFormed :=
  ⟨wellFormed_of_parse, Path.WellFormed.parse_render⟩

/-- Writing back what a piece reads as drops the leading zeros of its index. -/
theorem PieceReads.dropIndexZeros_eq {raw : List Char} {seg : Segment} (h : PieceReads raw seg) :
    dropIndexZeros false raw = seg.render.toList := by
  cases h with
  | plain _ hopen => simp [dropIndexZeros_eq_self hopen]
  | indexed _ hopen _ hdne hdigits =>
    obtain ⟨d, ds, rfl⟩ := List.exists_cons_of_ne_nil hdne
    rw [dropIndexZeros_of_not_mem hopen, dropIndexZeros, if_neg (by simp), decide_eq_true rfl,
      dropIndexZeros_append_cons true (d :: ds) ']' (by decide) (by decide),
      dropIndexZeros_digits hdigits]
    simp [dropIndexZeros]

/-- The text of a path read from `s` is `s` with the leading zeros of each index dropped. -/
theorem render_of_parse {s : String} {p : Path} (h : Path.parse s = .ok p) :
    p.render.toList = dropIndexZeros false s.toList := by
  obtain ⟨-, hreads⟩ := (parse_eq_ok_iff s p).mp h
  have hmap : (s.toList.splitOn '.').map (dropIndexZeros false) =
      p.segments.map fun seg => seg.render.toList := by
    have hpair : List.Forall₂ (· = ·) ((s.toList.splitOn '.').map (dropIndexZeros false))
        (p.segments.map fun seg => seg.render.toList) := by
      rw [List.forall₂_map_left_iff, List.forall₂_map_right_iff]
      exact hreads.imp fun _ _ hr => hr.dropIndexZeros_eq
    rwa [List.forall₂_eq_eq_eq] at hpair
  calc p.render.toList
      = ['.'].intercalate (p.segments.map fun seg => seg.render.toList) := Path.toList_render p
    _ = ['.'].intercalate ((s.toList.splitOn '.').map (dropIndexZeros false)) := by rw [hmap]
    _ = dropIndexZeros false (['.'].intercalate (s.toList.splitOn '.')) :=
        (dropIndexZeros_intercalate _).symm
    _ = dropIndexZeros false s.toList := by rw [List.intercalate_splitOn]

/-- The lookup key is the text of the path with the index of its last segment left out. -/
theorem lookupKey_eq_render (p : Path) (pre : List Segment) (last : Segment)
    (h : p.segments = pre ++ [last]) :
    p.lookupKey = Path.render ⟨pre ++ [{ last with index := none }]⟩ := by
  simp [Path.lookupKey, h, Path.render, Segment.render]

/-! ## Paths in JSON -/

/-- Decoding a text succeeds exactly when the reader succeeds from its start and only blanks
follow. -/
theorem decodeText_eq_ok_iff {α : Type} (r : Reader α) (text : String) (a : α) :
    decodeText r text = .ok a ↔
      ∃ c c', r (Cursor.start text) = .ok a c ∧ skipBlanks c = .ok none c' := by
  unfold decodeText
  simp only [Bind.bind, EStateM.bind]
  cases r (Cursor.start text) with
  | error e c => simp
  | ok a' c =>
    cases hb : skipBlanks c with
    | error e c' => simp [hb]
    | ok b c' =>
      cases b with
      | some ch => simp [hb, failAhead]
      | none => simp [hb, pure, EStateM.pure, eq_comm]

/-- A reader that fails with no position fails the decoding with the bare message. -/
theorem decodeText_of_error {α : Type} {r : Reader α} {text : String} {f : Fault} {c : Cursor}
    (h : r (Cursor.start text) = .error ⟨f, none⟩ c) : decodeText r text = .error f.message := by
  unfold decodeText
  simp only [Bind.bind, EStateM.bind, h]
  rfl

/-- The path reader reads a string, then the path it spells, failing with the path error's
message and no position. -/
theorem Path.reader_apply (c : Cursor) :
    Path.reader c = match readString c with
      | .ok s c' =>
        match Path.parse s with
        | .ok p => .ok p c'
        | .error e => .error ⟨.custom e.message, none⟩ c'
      | .error e c' => .error e c' := by
  simp only [Path.reader, Bind.bind, EStateM.bind]
  cases readString c with
  | ok s c' => cases hp : Path.parse s <;> simp [hp, pure, EStateM.pure, failBare]
  | error e c' => rfl

/-- A JSON string reads as the path its contents spell, or fails with the message of the path
error. -/
theorem decodeText_pathReader {text s : String} (h : decodeText readString text = .ok s) :
    decodeText Path.reader text = (Path.parse s).mapError PathError.message := by
  obtain ⟨c, c', hr, hb⟩ := (decodeText_eq_ok_iff _ _ _).mp h
  cases hp : Path.parse s with
  | ok p =>
    have hok : Path.reader (Cursor.start text) = .ok p c := by
      simp only [Path.reader_apply, hr, hp]
    exact (decodeText_eq_ok_iff _ _ _).mpr ⟨c, c', hok, hb⟩
  | error e =>
    have herr : Path.reader (Cursor.start text) = .error ⟨.custom e.message, none⟩ c := by
      simp only [Path.reader_apply, hr, hp]
    exact decodeText_of_error herr

/-- A path read from JSON text comes from a JSON string that spells it. -/
theorem string_of_decodeText_pathReader {text : String} {p : Path}
    (h : decodeText Path.reader text = .ok p) :
    ∃ s, decodeText readString text = .ok s ∧ Path.parse s = .ok p := by
  obtain ⟨c, c', hr, hb⟩ := (decodeText_eq_ok_iff _ _ _).mp h
  rw [Path.reader_apply] at hr
  -- The reader succeeded, so it read a string and the string spelled `p`.
  cases hs : readString (Cursor.start text) with
  | error e c₀ => simp [hs] at hr
  | ok s c₀ =>
    cases hp : Path.parse s with
    | error e => simp [hs, hp] at hr
    | ok p' =>
      simp only [hs, hp, EStateM.Result.ok.injEq] at hr
      obtain ⟨rfl, rfl⟩ := hr
      exact ⟨s, (decodeText_eq_ok_iff _ _ _).mpr ⟨c₀, c', hs, hb⟩, hp⟩

/-! ## The rules of path texts -/

/-- The rules of property path texts: a text reads exactly when it is not empty and every piece
between dots has a segment form, as those segments in order; otherwise it fails with `.empty`
or with the fault of its leftmost piece that does not read. A path read from a text is written
back as a text that reads as the same path, namely the text with leading zeros of its indices
dropped. The lookup key of a path is its text without the last index, and a JSON string reads
as the path its contents spell. -/
theorem Path.parse_spec (s : String) :
    (∀ p, Path.parse s = .ok p ↔
      s ≠ "" ∧ List.Forall₂ PieceReads (s.toList.splitOn '.') p.segments) ∧
    (∀ e, Path.parse s = .error e ↔ (s = "" ∧ e = .empty) ∨
      (s ≠ "" ∧ ∃ pre raw post, s.toList.splitOn '.' = pre ++ raw :: post ∧
        (∀ r ∈ pre, ∃ seg, PieceReads r seg) ∧ PieceFault s raw e)) ∧
    (∀ p, Path.parse s = .ok p →
      Path.parse p.render = .ok p ∧ p.render.toList = dropIndexZeros false s.toList) ∧
    (∀ (p : Path) pre last, p.segments = pre ++ [last] →
      p.lookupKey = Path.render ⟨pre ++ [{ last with index := none }]⟩) ∧
    (∀ text, decodeText readString text = .ok s →
      decodeText Path.reader text = (Path.parse s).mapError PathError.message) :=
  ⟨parse_eq_ok_iff s, parse_eq_error_iff s,
    fun _ h => ⟨(wellFormed_of_parse h).parse_render, render_of_parse h⟩,
    lookupKey_eq_render, fun _ h => decodeText_pathReader h⟩

/-- `Items[007].Points[3]` is written back as `Items[7].Points[3]`, which reads as the same path;
its lookup key is `Items[7].Points`, and as a JSON string it reads as that path. -/
theorem Path.parse_spec_padded_index :
    (Path.parse "Items[007].Points[3]" = .ok ⟨[⟨"Items", some 7⟩, ⟨"Points", some 3⟩]⟩ ∧
      Path.parse (Path.render ⟨[⟨"Items", some 7⟩, ⟨"Points", some 3⟩]⟩) =
          .ok ⟨[⟨"Items", some 7⟩, ⟨"Points", some 3⟩]⟩ ∧
        (Path.render ⟨[⟨"Items", some 7⟩, ⟨"Points", some 3⟩]⟩).toList =
          dropIndexZeros false "Items[007].Points[3]".toList) ∧
    ((⟨[⟨"Items", some 7⟩, ⟨"Points", some 3⟩]⟩ : Path).segments =
        [⟨"Items", some 7⟩] ++ [⟨"Points", some 3⟩] ∧
      (⟨[⟨"Items", some 7⟩, ⟨"Points", some 3⟩]⟩ : Path).lookupKey =
        Path.render
          ⟨[⟨"Items", some 7⟩] ++ [{ (⟨"Points", some 3⟩ : Segment) with index := none }]⟩) ∧
    (decodeText readString "\"Items[007].Points[3]\"" = .ok "Items[007].Points[3]" ∧
      decodeText Path.reader "\"Items[007].Points[3]\"" =
        (Path.parse "Items[007].Points[3]").mapError PathError.message) :=
  have hparse :
      Path.parse "Items[007].Points[3]" = .ok ⟨[⟨"Items", some 7⟩, ⟨"Points", some 3⟩]⟩ := by
    decide
  have hstring : decodeText readString "\"Items[007].Points[3]\"" = .ok "Items[007].Points[3]" := by
    cbv
  ⟨⟨hparse, (Path.parse_spec _).2.2.1 _ hparse⟩,
    ⟨rfl, (Path.parse_spec "").2.2.2.1 _ [⟨"Items", some 7⟩] ⟨"Points", some 3⟩ rfl⟩,
    ⟨hstring, (Path.parse_spec _).2.2.2.2 _ hstring⟩⟩

end Timeline

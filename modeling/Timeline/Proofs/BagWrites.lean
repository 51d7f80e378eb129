import Timeline.Proofs.BagSlots
import Timeline.Proofs.Lifecycle

/-!
# Animators writing into property bags

An animator binds to a bag once and then writes through its binding: the number of the slot its
path reaches and the path's last index. `bind` checks that the path's lookup key reaches a
writable slot of the animator's kind and, when the path ends in an index, that the slot is a
list long enough for it (`Bag.bind_eq_ok`). It does not check the other way round: a path
without an index binds to a list slot as well, and a write into a list slot without an index
writes nothing. So a write through a binding the bag gave stores its value, counts one write and
reads back through the path, except on a list slot reached without an index, where it changes
nothing (`Bag.writeSlot_of_bind`).

An apply that reports `written`, on a bag whose slots have not been redeclared or removed since
the animator bound, therefore stored the animator's value at that time, or met that one case
and reported a write that did not happen (`Bag.apply_written_reads_back`,
`Bag.apply_list_without_index`).
-/

namespace Timeline

/-- Sampling reads the keys and the window, not the binding. -/
theorem Animator.sample_binding (a : Animator) (x : BindingState) (time : Float) :
    ({ a with binding := x }.sample time).2 = (a.sample time).2 := by
  unfold Animator.sample
  dsimp only
  split <;> rfl

/-- A binding comes from a path that parses and resolves to a writable property of the kind; an
index the path ends in lies inside the property's list, and the binding keeps the handle, the
index and whether writes signal the owner. -/
theorem bind_eq_ok_inv {τ : Type} [Target τ] {t : τ} {path : String} {kind : Kind}
    {bd : Binding} (h : bind t path kind = .ok bd) :
    ∃ p info, Path.parse path = .ok p ∧ Target.resolve t p = some info ∧
      info.writable = true ∧ info.kind = kind ∧ bd = ⟨info.handle, p.lastIndex, info.triggerable⟩ ∧
      ∀ i, p.lastIndex = some i → ∃ n, info.len = some n ∧ i < n := by
  unfold bind at h
  cases hp : Path.parse path with
  | error e => rw [hp] at h; cases h
  | ok p =>
    rw [hp] at h
    dsimp only at h
    cases hr : Target.resolve t p with
    | none => rw [hr] at h; cases h
    | some info =>
      rw [hr] at h
      dsimp only at h
      -- the checks in order: writable, of the kind, and an index inside a list
      by_cases hw : info.writable = true
      · by_cases hk : info.kind = kind
        · simp only [hw, hk, Bool.not_true, Bool.false_eq_true, if_false, ne_eq,
            not_true_eq_false] at h
          cases hidx : p.lastIndex with
          | none =>
            rw [hidx] at h
            cases h
            exact ⟨p, info, rfl, hr, hw, hk, by rw [hidx], fun i hi => by rw [hidx] at hi; cases hi⟩
          | some i =>
            rw [hidx] at h
            cases hlen : info.len with
            | none => rw [hlen] at h; cases h
            | some n =>
              rw [hlen] at h
              dsimp only at h
              split_ifs at h with hn
              cases h
              refine ⟨p, info, rfl, hr, hw, hk, by rw [hidx], fun j hj => ⟨n, hlen, ?_⟩⟩
              rw [hidx] at hj
              cases hj
              omega
        · simp [hw, hk] at h
      · simp [hw] at h

namespace Bag

/-- A bag resolves a path to the slot its lookup key reaches; the handle is the slot number. -/
theorem resolve_eq (b : Bag) (p : Path) :
    Target.resolve b p = (b.slotFor? p).map fun (i, s) =>
      ⟨i, s.kind, s.flags.writable, s.flags.triggerable, s.len?⟩ := rfl

/-- A bag writes through a handle into the slot of that number. -/
theorem write_eq (b : Bag) (h : Nat) (i : Option Nat) (v : Value) :
    Target.write b h i v = (b.writeSlot h i v).1 := rfl

/-- Writing into a slot keeps what every path addresses. -/
theorem address?_writeSlot (b : Bag) (i : Nat) (index : Option Nat) (v : Value) (q : String) :
    (b.writeSlot i index v).1.address? q = b.address? q := by
  unfold address? slotOf?
  rw [writeSlot_names]

variable {b : Bag} {path : String} {kind : Kind} {bd : Binding}

/-- A binding a bag gives for a path names the slot and the element the path addresses, a
writable slot of the animator's kind; when the path ends in an index, the slot is a list with an
element there. -/
theorem bind_eq_ok (h : bind b path kind = .ok bd) :
    ∃ s, b.address? path = some (bd.handle, bd.index) ∧ b.slots[bd.handle]? = some s ∧
      s.kind = kind ∧ s.flags.writable = true ∧
      ∀ j, bd.index = some j → ∃ items, s.data = .list items ∧ j < items.length := by
  obtain ⟨p, info, hp, hr, hw, hk, rfl, hidx⟩ := bind_eq_ok_inv h
  rw [resolve_eq] at hr
  obtain ⟨⟨i, s⟩, hs, rfl⟩ := Option.map_eq_some_iff.mp hr
  obtain ⟨hi, hsi⟩ := slotFor?_eq_some.mp hs
  refine ⟨s, by simp [address?, hp, Except.toOption, hi], hsi, hk, hw, fun j hj => ?_⟩
  -- a slot that reports a length is a list of that many elements
  obtain ⟨n, hlen, hlt⟩ := hidx j hj
  cases hd : s.data with
  | list items =>
    simp only [Slot.len?, hd, Option.some.injEq] at hlen
    exact ⟨items, rfl, hlen ▸ hlt⟩
  | single v => simp [Slot.len?, hd] at hlen

/-- A write through a binding the bag gave stores the value where the path reads it and counts
one write; or the path reaches a list slot without an index, and the write changes nothing. -/
theorem writeSlot_of_bind (h : bind b path kind = .ok bd) (v : Value) :
    ((b.writeSlot bd.handle bd.index v).2 = true ∧
      (b.writeSlot bd.handle bd.index v).1.writes = b.writes + 1 ∧
      (b.writeSlot bd.handle bd.index v).1.get? path = some v) ∨
    (b.writeSlot bd.handle bd.index v = (b, false) ∧ b.address? path = some (bd.handle, none) ∧
      ∃ items, (b.slots[bd.handle]?).map (·.data) = some (.list items)) := by
  obtain ⟨s, haddr, hsi, -, -, hlist⟩ := bind_eq_ok h
  cases hel : s.element? bd.index with
  | some x =>
    -- the slot holds a value at the index, so the write succeeds
    obtain ⟨s', hs'⟩ : ∃ s', s.write? bd.index v = some s' :=
      Option.isSome_iff_exists.mp (by rw [Slot.write?_isSome, hel]; rfl)
    have hw : (b.writeSlot bd.handle bd.index v).2 = true := by
      rw [writeSlot_snd, hsi, Option.bind_some, hel]
      rfl
    refine .inl ⟨hw, ?_, ?_⟩
    · rw [writeSlot_eq, hsi, Option.bind_some, hs']
    · rw [get?_eq_address?, address?_writeSlot, haddr, Option.bind_some, element?_writeSlot hw,
        if_pos ⟨rfl, rfl⟩]
  | none =>
    -- nothing at the index: a bound index lies inside its list, so there is no index and the
    -- slot, which would hold a single value, is a list
    have hidx : bd.index = none := by
      cases hj : bd.index with
      | none => rfl
      | some j =>
        obtain ⟨items, hd, hlt⟩ := hlist j hj
        rw [hj] at hel
        simp [Slot.element?, hd, hlt] at hel
    rw [hidx] at hel haddr ⊢
    obtain ⟨items, hd⟩ : ∃ items, s.data = .list items := by
      cases hd : s.data with
      | single x => simp [Slot.element?, hd] at hel
      | list items => exact ⟨items, rfl⟩
    have hnone : s.write? none v = none := by
      rw [← Option.not_isSome_iff_eq_none, Slot.write?_isSome, hel]
      simp
    refine .inr ⟨?_, haddr, items, by rw [hsi, Option.map_some, hd]⟩
    rw [writeSlot_eq, hsi, Option.bind_some, hnone]

/-- An apply that reports `written`, on a bag that gives the animator its binding, stored the
animator's value at `time` where its path reads it and counted one write; or its path reaches a
list slot without an index, and the bag is unchanged. -/
theorem apply_written {a : Animator} {time : Float}
    (hbound : ∀ bd, a.binding = .bound bd → bind b a.target a.kind = .ok bd)
    (h : (a.apply time b).2.2 = .written) :
    ((a.apply time b).2.1.writes = b.writes + 1 ∧
      (a.apply time b).2.1.get? a.target = some (a.sample time).2) ∨
    ((a.apply time b).2.1 = b ∧ ∃ i items, b.address? a.target = some (i, none) ∧
      (b.slots[i]?).map (·.data) = some (.list items)) := by
  rcases Animator.apply_cases time b a with
    ⟨-, happ⟩ | ⟨f, -, -, happ⟩ | ⟨bd, -, hb, happ⟩ | ⟨f, -, -, -, happ⟩
  · rw [happ] at h
    cases h
  · rw [happ] at h
    cases h
  · -- the binding it writes through is the one the bag gives now
    have hbind : bind b a.target a.kind = .ok bd := by
      rcases hb with hb | ⟨-, hb⟩
      · exact hbound bd hb
      · exact hb
    rw [happ, write_eq, Animator.sample_binding]
    rcases writeSlot_of_bind hbind (a.sample time).2 with
      ⟨-, hw, hget⟩ | ⟨hw, haddr, items, hitems⟩
    · exact .inl ⟨hw, hget⟩
    · exact .inr ⟨by rw [hw], bd.handle, items, haddr, hitems⟩
  · rw [happ] at h
    cases h

/-- Writing through a binding a bag gave, and an apply that reports `written` on a bag that gives
the animator its binding, store the value where the path reads it and count one write, except
on a list slot reached by a path without an index, where nothing changes. -/
theorem apply_written_reads_back (b : Bag) :
    (∀ (path : String) (kind : Kind) (bd : Binding) (v : Value),
      bind b path kind = .ok bd →
      ((b.writeSlot bd.handle bd.index v).2 = true ∧
        (b.writeSlot bd.handle bd.index v).1.writes = b.writes + 1 ∧
        (b.writeSlot bd.handle bd.index v).1.get? path = some v) ∨
      (b.writeSlot bd.handle bd.index v = (b, false) ∧ b.address? path = some (bd.handle, none) ∧
        ∃ items, (b.slots[bd.handle]?).map (·.data) = some (.list items))) ∧
    (∀ (a : Animator) (time : Float),
      (∀ bd, a.binding = .bound bd → bind b a.target a.kind = .ok bd) →
      (a.apply time b).2.2 = .written →
      ((a.apply time b).2.1.writes = b.writes + 1 ∧
        (a.apply time b).2.1.get? a.target = some (a.sample time).2) ∨
      ((a.apply time b).2.1 = b ∧ ∃ i items, b.address? a.target = some (i, none) ∧
        (b.slots[i]?).map (·.data) = some (.list items))) :=
  ⟨fun _ _ _ v h => writeSlot_of_bind h v, fun _ _ hbound h => apply_written hbound h⟩

/-- A new animator of a single property binds on its first apply and writes its value there. -/
theorem apply_written_reads_back_single :
    let b := (({} : Bag).define "X" (.bool false)).1
    let a := Animator.new "X" .bool (({} : KeyList Value).push ⟨0, .bool true, .steep⟩) 0
    (∀ bd, a.binding = .bound bd → bind b a.target a.kind = .ok bd) ∧
    (a.apply 0 b).2.2 = .written ∧
    (((a.apply 0 b).2.1.writes = b.writes + 1 ∧
        (a.apply 0 b).2.1.get? a.target = some (a.sample 0).2) ∨
      ((a.apply 0 b).2.1 = b ∧ ∃ i items, b.address? a.target = some (i, none) ∧
        (b.slots[i]?).map (·.data) = some (.list items))) := by
  intro b a
  have hbound : ∀ bd, a.binding = .bound bd → bind b a.target a.kind = .ok bd :=
    fun _ h => by cases h
  have hb : bind b a.target a.kind = .ok ⟨0, none, false⟩ := by decide
  have hw : (a.apply 0 b).2.2 = .written := by
    rw [Animator.apply_unbound_ok 0 b rfl rfl hb]
  exact ⟨hbound, hw, (apply_written_reads_back b).2 a 0 hbound hw⟩

/-- An animator whose path names a list slot without an index binds, and its apply reports
`written`, but the bag is unchanged: it counts no write and the path reads nothing. -/
theorem apply_list_without_index :
    let b := (({} : Bag).defineList "Points" .vec2 [.vec2 #v[0, 0], .vec2 #v[0, 0]]).1
    let a := Animator.new "Points" .vec2 (({} : KeyList Value).push ⟨0, .vec2 #v[1, 2], .linear⟩) 0
    (a.apply 0 b).2.2 = .written ∧ (a.apply 0 b).2.1 = b ∧ b.get? "Points" = none := by
  intro b a
  have hb : bind b a.target a.kind = .ok ⟨0, none, false⟩ := by decide
  rw [Animator.apply_unbound_ok 0 b rfl rfl hb]
  exact ⟨rfl, rfl, by decide⟩

end Bag

end Timeline

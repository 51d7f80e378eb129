import Mathlib.Data.List.InsertIdx
import Mathlib.Data.List.Perm.Basic
import Mathlib.Logic.Function.Basic
import Timeline.Proofs.Tick

/-!
# Shared key lists behave as private copies

Animators hold their keys by value: a clone or a share copies the keys together with the name
of the list (`Animator.listId`), and an edit gives the editor a list of its own under a fresh
name (`Animator.editKeys`). Shared key lists are meant to be kept once per name behind
reference-counted handles instead, a list being copied on a write only while another handle
holds it; this module shows the two agree.

`KeyHeap` is that store: cells of keys and a count of live handles, by address, with the
operations of a reference-counted pointer. `alloc` makes a list with one handle, `share` and
`release` add and drop a handle, and `makeMut` gives write access, copying the list to a new
address exactly when its count exceeds one. `KeyHeap.Backs` relates a heap to the handles of a
set of animators, through the address `addr` of each list name: every handle finds its own keys
at its address, every cell counts the handles at it, and two handles share an address exactly
when they share a name.

`KeyCall` lists the calls that make animators over new lists, clone them (one at a time, or the
animators of a collection or a node at once), let one read the list of another, edit their keys
and drop them. `KeyCall.perform` does a call on the animators, `KeyCall.onHeap` on the heap. One
call keeps the relation (`KeyCall.backs_step`), so every run from nothing keeps it, and
`KeyCall.runAll_faithful` reads off what the animators see: each reads through its handle
exactly the keys of its own copy, a count is the number of animators holding the list, an edit
reaches no other animator's keys, and an edit of a list that no one else holds writes it where
it is.
-/

namespace Timeline

/-- A key list behind reference-counted handles. -/
@[ext]
structure KeyCell where
  /-- The keys. -/
  keys : KeyList Value
  /-- The number of live handles on the list. -/
  count : Nat

/-- Key lists behind reference-counted handles, by address. -/
structure KeyHeap where
  /-- The cell at each address. -/
  cells : Nat → KeyCell
  /-- The first address not yet given out. -/
  next : Nat

namespace KeyHeap

/-- The heap before any list is made. -/
def empty : KeyHeap := ⟨fun _ => ⟨{}, 0⟩, 0⟩

/-- Changes the cell at address `p`. -/
def modify (h : KeyHeap) (p : Nat) (f : KeyCell → KeyCell) : KeyHeap :=
  { h with cells := Function.update h.cells p (f (h.cells p)) }

/-- A new list with one handle, at the first address not given out; returns the address. -/
def alloc (h : KeyHeap) (keys : KeyList Value) : KeyHeap × Nat :=
  ({ cells := Function.update h.cells h.next ⟨keys, 1⟩, next := h.next + 1 }, h.next)

/-- One more handle on the list at `p`. -/
def share (h : KeyHeap) (p : Nat) : KeyHeap :=
  h.modify p fun c => { c with count := c.count + 1 }

/-- One handle fewer on the list at `p`. -/
def release (h : KeyHeap) (p : Nat) : KeyHeap :=
  h.modify p fun c => { c with count := c.count - 1 }

/-- Write access for a handle on the list at `p`, and the address the handle then holds: a list
that other handles hold too is copied to a new address that this handle holds alone; any other
list is written where it is. -/
def makeMut (h : KeyHeap) (p : Nat) : KeyHeap × Nat :=
  if 1 < (h.cells p).count then (h.release p).alloc (h.cells p).keys else (h, p)

/-- Writes the keys at `p`. -/
def write (h : KeyHeap) (p : Nat) (f : KeyList Value → KeyList Value) : KeyHeap :=
  h.modify p fun c => { c with keys := f c.keys }

section Cells

variable (h : KeyHeap) (p q : Nat)

theorem modify_cells (f : KeyCell → KeyCell) :
    (h.modify p f).cells q = if q = p then f (h.cells p) else h.cells q :=
  Function.update_apply _ _ _ _

@[simp] theorem share_keys : ((h.share p).cells q).keys = (h.cells q).keys := by
  rw [share, modify_cells]
  split <;> simp_all

@[simp] theorem share_count :
    ((h.share p).cells q).count = (h.cells q).count + if q = p then 1 else 0 := by
  rw [share, modify_cells]
  split <;> simp_all

@[simp] theorem release_keys : ((h.release p).cells q).keys = (h.cells q).keys := by
  rw [release, modify_cells]
  split <;> simp_all

@[simp] theorem release_count :
    ((h.release p).cells q).count = (h.cells q).count - if q = p then 1 else 0 := by
  rw [release, modify_cells]
  split <;> simp_all

@[simp] theorem write_keys (f : KeyList Value → KeyList Value) :
    ((h.write p f).cells q).keys = if q = p then f (h.cells p).keys else (h.cells q).keys := by
  rw [write, modify_cells]
  split <;> simp_all

@[simp] theorem write_count (f : KeyList Value → KeyList Value) :
    ((h.write p f).cells q).count = (h.cells q).count := by
  rw [write, modify_cells]
  split <;> simp_all

theorem alloc_cells (k : KeyList Value) :
    (h.alloc k).1.cells q = if q = h.next then ⟨k, 1⟩ else h.cells q :=
  Function.update_apply _ _ _ _

@[simp] theorem share_next : (h.share p).next = h.next := rfl

@[simp] theorem release_next : (h.release p).next = h.next := rfl

@[simp] theorem write_next (f : KeyList Value → KeyList Value) : (h.write p f).next = h.next :=
  rfl

@[simp] theorem alloc_next (k : KeyList Value) : (h.alloc k).1.next = h.next + 1 := rfl

@[simp] theorem alloc_snd (k : KeyList Value) : (h.alloc k).2 = h.next := rfl

theorem makeMut_of_shared (hp : 1 < (h.cells p).count) :
    h.makeMut p = (h.release p).alloc (h.cells p).keys :=
  if_pos hp

/-- A list that no other handle holds is written in place: nothing is copied. -/
theorem makeMut_of_alone (hp : (h.cells p).count ≤ 1) : h.makeMut p = (h, p) :=
  if_neg (Nat.not_lt.mpr hp)

end Cells

/-! ## Heaps that back handles

A handle is the name of the list an animator reads and the keys it reads under it. -/

/-- The heap holds the lists of the handles `hs` at the addresses that `addr` gives their names,
and no handle has a name from `names` on. -/
structure Backs (h : KeyHeap) (addr : Nat → Nat) (names : Nat)
    (hs : List (Nat × KeyList Value)) : Prop where
  /-- Every handle finds its own keys at its address. -/
  keys : ∀ x ∈ hs, (h.cells (addr x.1)).keys = x.2
  /-- Every cell counts the handles at its address. -/
  count : ∀ x ∈ hs, (h.cells (addr x.1)).count = hs.countP fun y => addr y.1 = addr x.1
  /-- Handles share an address only when they share a name. -/
  ptrEq : ∀ x ∈ hs, ∀ y ∈ hs, addr x.1 = addr y.1 → x.1 = y.1
  /-- Every name in use was given out. -/
  named : ∀ x ∈ hs, x.1 < names
  /-- Every address in use was given out. -/
  allocated : ∀ x ∈ hs, addr x.1 < h.next

section Backs

variable {h h' : KeyHeap} {addr addr' : Nat → Nat} {names names' : Nat}
  {hs hs' : List (Nat × KeyList Value)} {x y : Nat × KeyList Value}

theorem Backs.nil (h : KeyHeap) (addr : Nat → Nat) (names : Nat) : h.Backs addr names [] :=
  ⟨by simp, by simp, by simp, by simp, by simp⟩

/-- Only which handles there are matters, not their order. -/
theorem Backs.perm (hb : h.Backs addr names hs) (hp : hs.Perm hs') : h.Backs addr names hs' where
  keys x hx := hb.keys x (hp.mem_iff.mpr hx)
  count x hx := by rw [hb.count x (hp.mem_iff.mpr hx), hp.countP_eq]
  ptrEq x hx y hy := hb.ptrEq x (hp.mem_iff.mpr hx) y (hp.mem_iff.mpr hy)
  named x hx := hb.named x (hp.mem_iff.mpr hx)
  allocated x hx := hb.allocated x (hp.mem_iff.mpr hx)

/-- A heap that agrees on the cells of the handles, under addresses that agree on their names,
backs them too. -/
theorem Backs.mono (hb : h.Backs addr names hs)
    (haddr : ∀ x ∈ hs, addr' x.1 = addr x.1)
    (hcells : ∀ x ∈ hs, h'.cells (addr x.1) = h.cells (addr x.1))
    (hnames : names ≤ names') (hnext : h.next ≤ h'.next) : h'.Backs addr' names' hs := by
  have hcount : ∀ x ∈ hs, (hs.countP fun y => addr' y.1 = addr' x.1) =
      hs.countP fun y => addr y.1 = addr x.1 := fun x hx =>
    List.countP_congr fun y hy => by simp only [haddr x hx, haddr y hy]
  refine ⟨fun x hx => ?_, fun x hx => ?_, fun x hx y hy hxy => ?_, fun x hx => ?_,
    fun x hx => ?_⟩
  · rw [haddr x hx, hcells x hx]
    exact hb.keys x hx
  · rw [hcount x hx, haddr x hx, hcells x hx]
    exact hb.count x hx
  · rw [haddr x hx, haddr y hy] at hxy
    exact hb.ptrEq x hx y hy hxy
  · exact Nat.lt_of_lt_of_le (hb.named x hx) hnames
  · rw [haddr x hx]
    exact Nat.lt_of_lt_of_le (hb.allocated x hx) hnext

/-- The handles other than `x` are not at its address. -/
def Alone (addr : Nat → Nat) (x : Nat × KeyList Value) (hs : List (Nat × KeyList Value)) :
    Prop :=
  ∀ y ∈ hs, addr y.1 ≠ addr x.1

/-- One more handle in front counts at the address of `y` when it is at that address. -/
theorem countP_cons_addr (addr : Nat → Nat) (x y : Nat × KeyList Value)
    (hs : List (Nat × KeyList Value)) :
    ((x :: hs).countP fun z => addr z.1 = addr y.1) =
      (hs.countP fun z => addr z.1 = addr y.1) + if addr y.1 = addr x.1 then 1 else 0 := by
  rw [List.countP_cons]
  by_cases hxy : addr x.1 = addr y.1
  · simp [hxy]
  · simp [hxy, Ne.symm hxy]

theorem countP_eq_zero_of_alone (halone : Alone addr x hs) :
    (hs.countP fun y => addr y.1 = addr x.1) = 0 :=
  List.countP_eq_zero.mpr fun y hy => by simpa using halone y hy

/-- A handle alone at its address counts one. -/
theorem Backs.count_of_alone (hb : h.Backs addr names (x :: hs)) (halone : Alone addr x hs) :
    (h.cells (addr x.1)).count = 1 := by
  rw [hb.count x List.mem_cons_self, countP_cons_addr, countP_eq_zero_of_alone halone, if_pos rfl]

/-- A handle alone at its address can go, and nothing else changes. -/
theorem Backs.tail_of_alone (hb : h.Backs addr names (x :: hs)) (halone : Alone addr x hs) :
    h.Backs addr names hs := by
  refine ⟨fun y hy => hb.keys y (.tail _ hy), fun y hy => ?_,
    fun y hy z hz => hb.ptrEq y (.tail _ hy) z (.tail _ hz), fun y hy => hb.named y (.tail _ hy),
    fun y hy => hb.allocated y (.tail _ hy)⟩
  rw [hb.count y (.tail _ hy), countP_cons_addr, if_neg (halone y hy), Nat.add_zero]

/-- A handle can join at an address that no other handle holds, whose cell has its keys and
counts one. -/
theorem Backs.cons_of_alone (hb : h.Backs addr names hs) (halone : Alone addr x hs)
    (hcell : h.cells (addr x.1) = ⟨x.2, 1⟩) (hname : x.1 < names) (hnext : addr x.1 < h.next) :
    h.Backs addr names (x :: hs) := by
  refine ⟨fun y hy => ?_, fun y hy => ?_, fun y hy z hz hyz => ?_, fun y hy => ?_,
    fun y hy => ?_⟩
  · rcases List.mem_cons.mp hy with rfl | hy
    · rw [hcell]
    · exact hb.keys y hy
  · rcases List.mem_cons.mp hy with rfl | hy
    · rw [hcell, countP_cons_addr, countP_eq_zero_of_alone halone, if_pos rfl]
    · rw [hb.count y hy, countP_cons_addr, if_neg (halone y hy), Nat.add_zero]
  · -- `x` is at no other handle's address, so two handles at one address are both `x` or
    -- both among the others
    rcases List.mem_cons.mp hy with rfl | hy' <;> rcases List.mem_cons.mp hz with rfl | hz'
    · rfl
    · exact absurd hyz.symm (halone z hz')
    · exact absurd hyz (halone y hy')
    · exact hb.ptrEq y hy' z hz' hyz
  · rcases List.mem_cons.mp hy with rfl | hy
    · exact hname
    · exact hb.named y hy
  · rcases List.mem_cons.mp hy with rfl | hy
    · exact hnext
    · exact hb.allocated y hy

/-- A copy of a handle adds one to the count of its list. -/
theorem Backs.clone (hb : h.Backs addr names hs) (hx : x ∈ hs) :
    (h.share (addr x.1)).Backs addr names (x :: hs) := by
  -- as far as every field but the counts sees, the copy is a handle already there
  have hmem : ∀ y ∈ x :: hs, y ∈ hs := fun y hy => by
    rcases List.mem_cons.mp hy with rfl | hy
    · exact hx
    · exact hy
  refine ⟨fun y hy => ?_, fun y hy => ?_, fun y hy z hz => hb.ptrEq y (hmem y hy) z (hmem z hz),
    fun y hy => hb.named y (hmem y hy), fun y hy => hb.allocated y (hmem y hy)⟩
  · rw [share_keys]
    exact hb.keys y (hmem y hy)
  · rw [share_count, hb.count y (hmem y hy), countP_cons_addr]

/-- Dropping a handle takes one from the count of its list. -/
theorem Backs.drop (hb : h.Backs addr names (x :: hs)) :
    (h.release (addr x.1)).Backs addr names hs := by
  refine ⟨fun y hy => ?_, fun y hy => ?_,
    fun y hy z hz => hb.ptrEq y (.tail _ hy) z (.tail _ hz), fun y hy => hb.named y (.tail _ hy),
    fun y hy => hb.allocated y (.tail _ hy)⟩
  · rw [release_keys]
    exact hb.keys y (.tail _ hy)
  · rw [release_count, hb.count y (.tail _ hy), countP_cons_addr, Nat.add_sub_cancel]

/-- A handle that takes the list of another handle: a copy of that handle, then a drop. -/
theorem Backs.share (hb : h.Backs addr names (x :: hs)) (hy : y ∈ x :: hs) :
    ((h.share (addr y.1)).release (addr x.1)).Backs addr names (y :: hs) :=
  ((hb.clone hy).perm (List.Perm.swap x y hs)).drop

/-- Under a name not given out, at an address not given out, a new list joins. -/
theorem Backs.alloc (hb : h.Backs addr names hs) (k : KeyList Value) :
    (h.alloc k).1.Backs (Function.update addr names h.next) (names + 1) ((names, k) :: hs) := by
  have hfresh : ∀ y ∈ hs, addr y.1 ≠ h.next := fun y hy => Nat.ne_of_lt (hb.allocated y hy)
  have hb' : (h.alloc k).1.Backs (Function.update addr names h.next) (names + 1) hs :=
    hb.mono (fun y hy => Function.update_of_ne (Nat.ne_of_lt (hb.named y hy)) _ _)
      (fun y hy => by rw [alloc_cells, if_neg (hfresh y hy)]) (Nat.le_succ names)
      (Nat.le_succ h.next)
  refine hb'.cons_of_alone (fun y hy => ?_) ?_ (Nat.lt_succ_self names) ?_
  · rw [Function.update_of_ne (Nat.ne_of_lt (hb.named y hy)), Function.update_self]
    exact hfresh y hy
  · simp [alloc_cells]
  · simp

/-- A handle whose name no other handle has is alone at its address. -/
theorem Backs.alone_of_fresh {n : Nat} {k : KeyList Value} (hb : h.Backs addr names ((n, k) :: hs))
    (hfresh : ∀ y ∈ hs, y.1 < n) : Alone addr (n, k) hs := fun y hy hyx =>
  Nat.ne_of_lt (hfresh y hy) (hb.ptrEq y (.tail _ hy) _ List.mem_cons_self hyx)

/-- Writing a list that one handle holds alone changes what no other handle reads. -/
theorem Backs.write_of_alone (hb : h.Backs addr names (x :: hs)) (halone : Alone addr x hs)
    (f : KeyList Value → KeyList Value) :
    (h.write (addr x.1) f).Backs addr names ((x.1, f x.2) :: hs) := by
  have hb' : (h.write (addr x.1) f).Backs addr names hs :=
    (hb.tail_of_alone halone).mono (fun _ _ => rfl) (fun y hy => by ext <;> simp [halone y hy])
      (Nat.le_refl _) (Nat.le_refl _)
  refine hb'.cons_of_alone halone ?_ (hb.named x List.mem_cons_self) ?_
  · ext <;> simp [hb.keys x List.mem_cons_self, hb.count_of_alone halone]
  · simpa using hb.allocated x List.mem_cons_self

/-- A handle alone at its address can take a name not given out, keeping the address. -/
theorem Backs.rename_of_alone (hb : h.Backs addr names (x :: hs)) (halone : Alone addr x hs) :
    h.Backs (Function.update addr names (addr x.1)) (names + 1) ((names, x.2) :: hs) := by
  have hnames : ∀ y ∈ hs, Function.update addr names (addr x.1) y.1 = addr y.1 := fun y hy =>
    Function.update_of_ne (Nat.ne_of_lt (hb.named y (.tail _ hy))) _ _
  have hb' :=
    (hb.tail_of_alone halone).mono hnames (fun _ _ => rfl) (Nat.le_succ names) (Nat.le_refl _)
  refine hb'.cons_of_alone (fun y hy => ?_) ?_ (Nat.lt_succ_self names) ?_ <;>
    rw [Function.update_self]
  · rw [hnames y hy]
    exact halone y hy
  · ext <;> simp [hb.keys x List.mem_cons_self, hb.count_of_alone halone]
  · exact hb.allocated x List.mem_cons_self

/-- An edit through a handle: the list is made writable and written, and the handle reads what
it wrote under a name not given out. -/
theorem Backs.edit (hb : h.Backs addr names (x :: hs)) (f : KeyList Value → KeyList Value) :
    let r := h.makeMut (addr x.1)
    (r.1.write r.2 f).Backs (Function.update addr names r.2) (names + 1)
      ((names, f x.2) :: hs) := by
  intro r
  have hold : ∀ y ∈ hs, y.1 < names := fun y hy => hb.named y (.tail _ hy)
  by_cases hshared : 1 < (h.cells (addr x.1)).count
  · -- a shared list is copied to the first address not given out: the handle is dropped from
    -- the list and takes the copy under its new name, alone
    have hr : r = (h.release (addr x.1)).alloc x.2 := by
      rw [← hb.keys x List.mem_cons_self]
      exact makeMut_of_shared h _ hshared
    have hcopy := hb.drop.alloc x.2
    have hw := hcopy.write_of_alone (hcopy.alone_of_fresh hold) f
    rw [Function.update_self] at hw
    rw [hr]
    exact hw
  · -- no other handle holds the list: it is written where it is, under the new name
    have hx := hb.count x List.mem_cons_self
    rw [countP_cons_addr, if_pos rfl] at hx
    have halone : Alone addr x hs := fun y hy hyx => by
      have : 0 < hs.countP fun z => addr z.1 = addr x.1 :=
        List.countP_pos_iff.mpr ⟨y, hy, by simpa using hyx⟩
      omega
    have hr : r = (h, addr x.1) := makeMut_of_alone h _ (by omega)
    have hrenamed := hb.rename_of_alone halone
    have hw := hrenamed.write_of_alone (hrenamed.alone_of_fresh hold) f
    rw [Function.update_self] at hw
    rw [hr]
    exact hw

/-- Copies of handles already there add one to the count of each list per copy. -/
theorem Backs.cloneAll (hb : h.Backs addr names hs) {ms : List (Nat × KeyList Value)}
    (hms : ∀ x ∈ ms, x ∈ hs) :
    (ms.foldl (fun h x => h.share (addr x.1)) h).Backs addr names (hs ++ ms) := by
  induction ms generalizing h hs with
  | nil => simpa using hb
  | cons m ms ih =>
    -- the first copy joins at the back, where the others find it among the handles
    have hm : (h.share (addr m.1)).Backs addr names (hs ++ [m]) :=
      (hb.clone (hms m List.mem_cons_self)).perm (List.perm_append_singleton m hs).symm
    have := ih hm fun x hx => List.mem_append_left _ (hms x (.tail _ hx))
    simpa using this

end Backs

end KeyHeap

/-! ## Animators over shared lists -/

/-- The name of the list an animator reads, and the keys it reads under it. -/
def Animator.handle (a : Animator) : Nat × KeyList Value := (a.listId, a.keys)

section Positions

variable {α β : Type}

/-- Setting a position of a list moves the new element to the front, up to order. -/
theorem List.map_set_perm {l : List α} {i : Nat} {a : α} (hi : l[i]? = some a) (f : α → β)
    (b : α) : ((l.set i b).map f).Perm (f b :: (l.map f).eraseIdx i) := by
  have hlt : i < (l.map f).length := by simpa using (List.getElem?_eq_some_iff.mp hi).1
  rw [List.map_set]
  exact List.set_perm_cons_eraseIdx hlt (f b)

/-- The element at a position moves to the front, up to order. -/
theorem List.map_perm_cons_eraseIdx {l : List α} {i : Nat} {a : α} (hi : l[i]? = some a)
    (f : α → β) : (l.map f).Perm (f a :: (l.map f).eraseIdx i) := by
  have h := List.map_set_perm hi f a
  rwa [List.set_of_getElem? hi] at h

end Positions

/-- Animators that may read shared lists, and the first list name not yet given out. -/
structure KeyPool where
  /-- The live animators. -/
  animators : List Animator := []
  /-- The first list name not yet given out. -/
  next : Nat := 0

/-- The handles of the live animators. -/
def KeyPool.handles (p : KeyPool) : List (Nat × KeyList Value) := p.animators.map Animator.handle

/-- The calls that make, copy, share, edit and drop the key lists of animators. Positions are
into the live animators; a call at a position where there is none does nothing. -/
inductive KeyCall where
  /-- A new animator over a list of its own. -/
  | new (target : String) (kind : Kind) (keys : KeyList Value)
  /-- A clone of an animator, reading its list. -/
  | clone (i : Nat)
  /-- The animators at the positions, cloned together: the shared clone of the collection, or
  of the node, that holds them. -/
  | cloneAll (is : List Nat)
  /-- The animator at `i` reads the list of the animator at `j`. -/
  | share (i j : Nat)
  /-- An edit of the keys of an animator. -/
  | edit (i : Nat) (f : KeyList Value → KeyList Value)
  /-- An animator is dropped. -/
  | drop (i : Nat)

namespace KeyCall

/-- The call on the animators, each holding its own keys. -/
def perform : KeyCall → KeyPool → KeyPool
  | new target kind keys, p =>
    ⟨p.animators ++ [Animator.new target kind keys p.next], p.next + 1⟩
  | clone i, p =>
    match p.animators[i]? with
    | some a => { p with animators := p.animators ++ [a.clone] }
    | none => p
  | cloneAll is, p =>
    { p with animators := p.animators ++
        (Collection.sharedClone ⟨is.filterMap (p.animators[·]?)⟩).animators }
  | share i j, p =>
    match p.animators[i]?, p.animators[j]? with
    | some a, some b => { p with animators := p.animators.set i (a.shareKeys b.keys b.listId) }
    | _, _ => p
  | edit i f, p =>
    match p.animators[i]? with
    | some a => ⟨p.animators.set i (a.editKeys p.next fun l => (f l, ())).1, p.next + 1⟩
    | none => p
  | drop i, p => { p with animators := p.animators.eraseIdx i }

/-- The call on the heap that backs the animators, with the address of each list name. -/
def onHeap : KeyCall → KeyPool → KeyHeap × (Nat → Nat) → KeyHeap × (Nat → Nat)
  | new _ _ keys, p, (h, addr) =>
    ((h.alloc keys).1, Function.update addr p.next (h.alloc keys).2)
  | clone i, p, (h, addr) =>
    match p.animators[i]? with
    | some a => (h.share (addr a.listId), addr)
    | none => (h, addr)
  | cloneAll is, p, (h, addr) =>
    ((is.filterMap (p.animators[·]?)).foldl (fun h a => h.share (addr a.listId)) h, addr)
  | share i j, p, (h, addr) =>
    match p.animators[i]?, p.animators[j]? with
    | some a, some b => ((h.share (addr b.listId)).release (addr a.listId), addr)
    | _, _ => (h, addr)
  | edit i f, p, (h, addr) =>
    match p.animators[i]? with
    | some a =>
      let r := h.makeMut (addr a.listId)
      (r.1.write r.2 f, Function.update addr p.next r.2)
    | none => (h, addr)
  | drop i, p, (h, addr) =>
    match p.animators[i]? with
    | some a => (h.release (addr a.listId), addr)
    | none => (h, addr)

/-- Runs calls on the animators and on the heap side by side. -/
def runAll :
    List KeyCall → KeyPool → KeyHeap × (Nat → Nat) → KeyPool × KeyHeap × (Nat → Nat)
  | [], p, s => (p, s)
  | c :: cs, p, s => runAll cs (c.perform p) (c.onHeap p s)

/-- One call keeps the heap backing the animators. -/
theorem backs_step (c : KeyCall) {p : KeyPool} {s : KeyHeap × (Nat → Nat)}
    (hb : s.1.Backs s.2 p.next p.handles) :
    (c.onHeap p s).1.Backs (c.onHeap p s).2 (c.perform p).next (c.perform p).handles := by
  obtain ⟨h, addr⟩ := s
  cases c with
  | new target kind keys =>
    simp only [perform, onHeap, KeyPool.handles, List.map_append, List.map_cons, List.map_nil]
    exact (hb.alloc keys).perm (List.perm_append_singleton _ _).symm
  | clone i =>
    cases hi : p.animators[i]? with
    | none => simpa [perform, onHeap, hi] using hb
    | some a =>
      simp only [perform, onHeap, hi, KeyPool.handles, List.map_append, List.map_cons,
        List.map_nil]
      exact (hb.clone (List.mem_map_of_mem (List.mem_of_getElem? hi))).perm
        (List.perm_append_singleton _ _).symm
  | cloneAll is =>
    -- a clone reads what the animator it copies reads
    have hclone : (Collection.sharedClone ⟨is.filterMap (p.animators[·]?)⟩).animators.map
        Animator.handle = (is.filterMap (p.animators[·]?)).map Animator.handle := by
      simp [Collection.sharedClone, Function.comp_def, Animator.handle, Animator.clone]
    have hmem :
        ∀ x ∈ (is.filterMap (p.animators[·]?)).map Animator.handle, x ∈ p.handles := by
      intro x hx
      obtain ⟨a, ha, rfl⟩ := List.mem_map.mp hx
      obtain ⟨i, -, hi⟩ := List.mem_filterMap.mp ha
      exact List.mem_map_of_mem (List.mem_of_getElem? hi)
    have h' := hb.cloneAll hmem
    rw [List.foldl_map] at h'
    simp only [perform, onHeap, KeyPool.handles, List.map_append, hclone]
    exact h'
  | share i j =>
    cases hi : p.animators[i]? with
    | none => simpa [perform, onHeap, hi] using hb
    | some a =>
      cases hj : p.animators[j]? with
      | none => simpa [perform, onHeap, hi, hj] using hb
      | some b =>
        have hperm := List.map_perm_cons_eraseIdx hi Animator.handle
        have hmem : b.handle ∈ a.handle :: p.handles.eraseIdx i :=
          hperm.mem_iff.mp (List.mem_map_of_mem (List.mem_of_getElem? hj))
        simp only [perform, onHeap, hi, hj, KeyPool.handles]
        exact ((hb.perm hperm).share hmem).perm
          (List.map_set_perm hi Animator.handle (a.shareKeys b.keys b.listId)).symm
  | edit i f =>
    cases hi : p.animators[i]? with
    | none => simpa [perform, onHeap, hi] using hb
    | some a =>
      simp only [perform, onHeap, hi, KeyPool.handles]
      exact ((hb.perm (List.map_perm_cons_eraseIdx hi Animator.handle)).edit f).perm
        (List.map_set_perm hi Animator.handle (a.editKeys p.next fun l => (f l, ())).1).symm
  | drop i =>
    cases hi : p.animators[i]? with
    | none =>
      have hlen : p.animators.length ≤ i := List.getElem?_eq_none_iff.mp hi
      simpa [perform, onHeap, hi, List.eraseIdx_of_length_le hlen] using hb
    | some a =>
      simp only [perform, onHeap, hi, KeyPool.handles, ← List.eraseIdx_map]
      exact (hb.perm (List.map_perm_cons_eraseIdx hi Animator.handle)).drop

/-- Every run keeps the heap backing the animators. -/
theorem runAll_backs (cs : List KeyCall) {p : KeyPool} {s : KeyHeap × (Nat → Nat)}
    (hb : s.1.Backs s.2 p.next p.handles) :
    (runAll cs p s).2.1.Backs (runAll cs p s).2.2 (runAll cs p s).1.next
      (runAll cs p s).1.handles := by
  induction cs generalizing p s with
  | nil => exact hb
  | cons c cs ih => exact ih (backs_step c hb)

end KeyCall

/-! ## What the animators see -/

/-- What a heap owes the animators over it. -/
structure KeyPool.Faithful (p : KeyPool) (h : KeyHeap) (addr : Nat → Nat) : Prop where
  /-- Each animator reads through its handle exactly the keys of its own copy. -/
  keys : ∀ a ∈ p.animators, (h.cells (addr a.listId)).keys = a.keys
  /-- The count of a list is the number of animators holding it. -/
  count : ∀ a ∈ p.animators,
    (h.cells (addr a.listId)).count = p.animators.countP fun b => addr b.listId = addr a.listId
  /-- Two animators hold one list exactly when they read under one name. -/
  ptrEq : ∀ a ∈ p.animators, ∀ b ∈ p.animators,
    addr a.listId = addr b.listId ↔ a.listId = b.listId
  /-- An edit leaves every other animator as it was, reading the keys it read. -/
  isolated : ∀ i f j b, j ≠ i → p.animators[j]? = some b →
    let r := (KeyCall.edit i f).onHeap p (h, addr)
    ((KeyCall.edit i f).perform p).animators[j]? = some b ∧
      (r.1.cells (r.2 b.listId)).keys = (h.cells (addr b.listId)).keys
  /-- An edit of a list that no other animator reads takes no new address: the list is written
  where it is. -/
  inPlace : ∀ i f a, p.animators[i]? = some a →
    (p.animators.countP fun b => b.listId = a.listId) = 1 →
    let r := (KeyCall.edit i f).onHeap p (h, addr)
    r.1.next = h.next ∧ r.2 p.next = addr a.listId

section Pool

variable {p : KeyPool} {h : KeyHeap} {addr : Nat → Nat}

/-- Two animators hold one list exactly when they read under one name. -/
theorem KeyHeap.Backs.addr_eq_iff (hb : h.Backs addr p.next p.handles) {a b : Animator}
    (ha : a ∈ p.animators) (hb' : b ∈ p.animators) :
    addr a.listId = addr b.listId ↔ a.listId = b.listId :=
  ⟨hb.ptrEq _ (List.mem_map_of_mem ha) _ (List.mem_map_of_mem hb'), fun hab => by rw [hab]⟩

/-- The count of a list is the number of animators reading under its name. -/
theorem KeyHeap.Backs.count_eq_names (hb : h.Backs addr p.next p.handles) {a : Animator}
    (ha : a ∈ p.animators) :
    (h.cells (addr a.listId)).count = p.animators.countP fun b => b.listId = a.listId := by
  refine (hb.count _ (List.mem_map_of_mem ha)).trans ?_
  rw [KeyPool.handles, List.countP_map]
  refine List.countP_congr fun b hmem => ?_
  simp only [Function.comp_apply, decide_eq_true_eq]
  exact hb.addr_eq_iff hmem ha

/-- A heap that backs the handles of the animators is faithful to them. -/
theorem KeyHeap.Backs.faithful (hb : h.Backs addr p.next p.handles) : p.Faithful h addr := by
  have hmem : ∀ a ∈ p.animators, a.handle ∈ p.handles := fun a ha => List.mem_map_of_mem ha
  refine ⟨fun a ha => hb.keys _ (hmem a ha), fun a ha => ?_,
    fun a ha b hb' => hb.addr_eq_iff ha hb', ?_, ?_⟩
  · refine (hb.count _ (hmem a ha)).trans ?_
    rw [KeyPool.handles, List.countP_map]
    rfl
  · intro i f j b hji hj r
    have hj' : ((KeyCall.edit i f).perform p).animators[j]? = some b := by
      cases hi : p.animators[i]? with
      | none => simp [KeyCall.perform, hi, hj]
      | some a => simp [KeyCall.perform, hi, List.getElem?_set_ne (Ne.symm hji), hj]
    -- the heap after the edit backs the animators after it, among them `b` unchanged
    have hafter := KeyCall.backs_step (KeyCall.edit i f) (s := (h, addr)) hb
    exact ⟨hj', (hafter.keys _ (List.mem_map_of_mem (List.mem_of_getElem? hj'))).trans
      (hb.keys _ (hmem b (List.mem_of_getElem? hj))).symm⟩
  · intro i f a hi hone r
    have hcount : (h.cells (addr a.listId)).count = 1 :=
      (hb.count_eq_names (List.mem_of_getElem? hi)).trans hone
    simp [r, KeyCall.onHeap, hi, KeyHeap.makeMut_of_alone h _ (Nat.le_of_eq hcount)]

end Pool

/-- Over every run of the calls from no animators and an empty heap, reference-counted lists
read as private copies: the heap is faithful to the animators. -/
theorem KeyCall.runAll_faithful (cs : List KeyCall) :
    let r := KeyCall.runAll cs {} (KeyHeap.empty, id)
    r.1.Faithful r.2.1 r.2.2 :=
  (KeyCall.runAll_backs cs (KeyHeap.Backs.nil _ _ _)).faithful

/- A clone shares the list, and an edit of the clone copies it: each list then has one handle,
at two addresses. -/
example :
    let r := KeyCall.runAll [.new "x" .float {}, .clone 0, .edit 1 id] {} (KeyHeap.empty, id)
    (r.2.1.cells (r.2.2 0)).count = 1 ∧ (r.2.1.cells (r.2.2 1)).count = 1 ∧ r.2.1.next = 2 := by
  decide

end Timeline

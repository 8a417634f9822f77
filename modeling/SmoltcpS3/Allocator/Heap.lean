import SmoltcpS3.Foundations.ByteMemory
import SmoltcpS3.Foundations.Lifetimes

/-! The C heap behind the shim: `shim_malloc`, `shim_free` and `shim_realloc`. -/

namespace SmoltcpS3.Allocator

open ByteMemory Lifetimes

structure Block where
  id : ℕ
  base : UInt64
  size : UInt64
  deriving DecidableEq, Repr

def Block.stop (b : Block) : ℕ := b.base.toNat + max b.size.toNat 1

def Block.Apart (b b' : Block) : Prop := b.stop ≤ b'.base.toNat ∨ b'.stop ≤ b.base.toNat

def Block.Placed (b : Block) : Prop := b.base ≠ 0 ∧ 16 ∣ b.base.toNat ∧ b.stop < 2 ^ 64

def Fresh (b : Block) (blocks : List Block) : Prop := b.Placed ∧ ∀ b' ∈ blocks, b'.Apart b

instance (b b' : Block) : Decidable (b.Apart b') := inferInstanceAs (Decidable (_ ∨ _))

instance (b : Block) : Decidable b.Placed := inferInstanceAs (Decidable (_ ∧ _))

instance (b : Block) (blocks : List Block) : Decidable (Fresh b blocks) :=
  inferInstanceAs (Decidable (_ ∧ _))

/-- One call into libc: the address it picks and the bytes that it leaves outside the live blocks. -/
structure Choice where
  addr : UInt64
  noise : Memory

/-- The live blocks, and the log of the blocks' lifetimes. `badFree` is a call to `free` or
`realloc` with a pointer to no live block. -/
structure Heap where
  mem : Memory
  blocks : List Block
  nextId : ℕ
  log : List (Action ℕ)
  badFree : Bool

def scribble (noise : Memory) (blocks : List Block) (m : Memory) : Memory :=
  fun x => if ∃ b ∈ blocks, b.base.toNat ≤ x ∧ x < b.base.toNat + b.size.toNat then m x else noise x

def shimMalloc (c : Choice) (size : UInt64) (h : Heap) : Heap × UInt64 :=
  let mem := scribble c.noise h.blocks h.mem
  let b : Block := ⟨h.nextId, c.addr, size⟩
  if Fresh b h.blocks then
    ({ h with
        mem := mem
        blocks := h.blocks ++ [b]
        nextId := h.nextId + 1
        log := h.log ++ [.taken b.id] }, b.base)
  else ({ h with mem := mem }, 0)

def takeOut (ptr : UInt64) : List Block → Option (Block × List Block)
  | [] => none
  | b :: blocks =>
    if b.base = ptr then some (b, blocks)
    else (takeOut ptr blocks).map fun r => (r.1, b :: r.2)

def shimFree (c : Choice) (ptr : UInt64) (h : Heap) : Heap :=
  match takeOut ptr h.blocks with
  | none => { h with badFree := true }
  | some (old, others) =>
    { h with
      mem := scribble c.noise others h.mem
      blocks := others
      log := h.log ++ [.freed old.id] }

/-- `realloc` returns null and leaves the block, or ends it and returns a new one, in place or not,
that starts with the same bytes. -/
def shimRealloc (c : Choice) (ptr newSize : UInt64) (h : Heap) : Heap × UInt64 :=
  match takeOut ptr h.blocks with
  | none => ({ h with badFree := true }, 0)
  | some (old, others) =>
    let b : Block := ⟨h.nextId, c.addr, newSize⟩
    if Fresh b others then
      let mem : Memory := fun x =>
        if b.base.toNat ≤ x ∧ x < b.base.toNat + min old.size.toNat newSize.toNat then
          h.mem (old.base.toNat + (x - b.base.toNat))
        else scribble c.noise others h.mem x
      ({ h with
          mem := mem
          blocks := others ++ [b]
          nextId := h.nextId + 1
          log := h.log ++ [.freed old.id] ++ [.taken b.id] }, b.base)
    else ({ h with mem := scribble c.noise h.blocks h.mem }, 0)

structure Heap.Inv (h : Heap) : Prop where
  placed : ∀ b ∈ h.blocks, b.Placed
  apart : h.blocks.Pairwise Block.Apart
  ledger : Ledger h.log (h.blocks.map Block.id)
  ids : ∀ id ∈ takenIn h.log, id < h.nextId
  noBadFree : h.badFree = false

def Kept (blocks : List Block) (m m' : Memory) : Prop :=
  ∀ b ∈ blocks, AgreeOn b.base.toNat b.size.toNat m m'

lemma kept_scribble (noise : Memory) (blocks : List Block) (m : Memory) :
    Kept blocks m (scribble noise blocks m) := by
  intro b hb x hlo hhi
  rw [scribble, if_pos ⟨b, hb, hlo, hhi⟩]

lemma Block.base_lt_stop (b : Block) : b.base.toNat < b.stop := by
  rw [Block.stop]
  omega

lemma Block.Apart.ranges {b b' : Block} (h : b.Apart b') :
    b.base.toNat + b.size.toNat ≤ b'.base.toNat ∨ b'.base.toNat + b'.size.toNat ≤ b.base.toNat := by
  rw [Block.Apart, Block.stop, Block.stop] at h
  omega

lemma takeOut_eq {blocks : List Block} (hp : blocks.Pairwise Block.Apart) {i : ℕ} {b : Block}
    (hi : blocks[i]? = some b) : takeOut b.base blocks = some (b, blocks.eraseIdx i) := by
  induction blocks generalizing i with
  | nil => simp at hi
  | cons b' blocks ih =>
    cases i with
    | zero =>
      obtain rfl : b' = b := by simpa using hi
      simp [takeOut]
    | succ i =>
      rw [List.getElem?_cons_succ] at hi
      have hb := hp.of_cons
      have hapart : b'.Apart b := (List.pairwise_cons.mp hp).1 b (List.mem_of_getElem? hi)
      have hne : b'.base ≠ b.base := by
        intro he
        have h1 := b'.base_lt_stop
        have h2 := b.base_lt_stop
        rw [Block.Apart, he] at hapart
        rw [he] at h1
        omega
      rw [takeOut, if_neg hne, ih hb hi]
      rfl

section Specs

variable {h : Heap} (hi : h.Inv)
include hi

lemma Heap.Inv.setMem (m : Memory) : ({ h with mem := m } : Heap).Inv :=
  ⟨hi.placed, hi.apart, hi.ledger, hi.ids, hi.noBadFree⟩

lemma Heap.Inv.push {b : Block} (hb : Fresh b h.blocks) (hid : b.id = h.nextId) (m : Memory) :
    ({ h with
        mem := m
        blocks := h.blocks ++ [b]
        nextId := h.nextId + 1
        log := h.log ++ [.taken b.id] } : Heap).Inv where
  placed b' hb' := by
    rcases List.mem_append.mp hb' with hb' | hb'
    · exact hi.placed b' hb'
    · rw [List.mem_singleton.mp hb']
      exact hb.1
  apart := by
    rw [List.pairwise_append]
    refine ⟨hi.apart, List.pairwise_singleton _ _, fun b' hb' b'' hb'' => ?_⟩
    rw [List.mem_singleton.mp hb'']
    exact hb.2 b' hb'
  ledger := by
    rw [List.map_append, List.map_singleton]
    apply hi.ledger.take
    intro hm
    have := hi.ids b.id hm
    omega
  ids id hm := by
    rw [takenIn_append, List.mem_append, takenIn_cons_taken, takenIn_nil, List.mem_singleton] at hm
    rcases hm with hm | rfl
    · exact (hi.ids id hm).trans (Nat.lt_succ_self _)
    · exact hid ▸ Nat.lt_succ_self _
  noBadFree := hi.noBadFree

lemma Heap.Inv.pull {i : ℕ} {b : Block} (hb : h.blocks[i]? = some b) (m : Memory) :
    ({ h with
        mem := m
        blocks := h.blocks.eraseIdx i
        log := h.log ++ [.freed b.id] } : Heap).Inv where
  placed b' hb' := hi.placed b' (List.mem_of_mem_eraseIdx hb')
  apart := hi.apart.sublist (List.eraseIdx_sublist _ _)
  ledger := by
    obtain ⟨hlt, hget⟩ := List.getElem?_eq_some_iff.mp hb
    have hsplit : h.blocks = h.blocks.take i ++ b :: h.blocks.drop (i + 1) := by
      rw [← hget, List.getElem_cons_drop, List.take_append_drop]
    have hl := hi.ledger
    rw [hsplit, List.map_append, List.map_cons] at hl
    rw [List.eraseIdx_eq_take_drop_succ, List.map_append]
    exact hl.free
  ids id hm := hi.ids id (by simpa using hm)
  noBadFree := hi.noBadFree

lemma shimMalloc_spec (c : Choice) (size : UInt64) :
    (shimMalloc c size h).1.Inv ∧ Kept h.blocks h.mem (shimMalloc c size h).1.mem ∧
      ((shimMalloc c size h).2 = 0 ∧ (shimMalloc c size h).1.blocks = h.blocks ∧
          (shimMalloc c size h).1.log = h.log ∨
        ∃ b, Fresh b h.blocks ∧ b.size = size ∧ (shimMalloc c size h).2 = b.base ∧
          (shimMalloc c size h).1.blocks = h.blocks ++ [b]) := by
  rw [shimMalloc]
  dsimp only
  split_ifs with hf
  · exact ⟨hi.push hf rfl _, kept_scribble _ _ _, Or.inr ⟨_, hf, rfl, rfl, rfl⟩⟩
  · exact ⟨hi.setMem _, kept_scribble _ _ _, Or.inl ⟨rfl, rfl, rfl⟩⟩

lemma shimFree_spec {i : ℕ} {b : Block} (hb : h.blocks[i]? = some b) (c : Choice) :
    (shimFree c b.base h).Inv ∧ Kept (h.blocks.eraseIdx i) h.mem (shimFree c b.base h).mem ∧
      (shimFree c b.base h).blocks = h.blocks.eraseIdx i := by
  rw [shimFree, takeOut_eq hi.apart hb]
  exact ⟨hi.pull hb _, kept_scribble _ _ _, rfl⟩

lemma shimRealloc_spec {i : ℕ} {b : Block} (hb : h.blocks[i]? = some b) (c : Choice) (newSize : UInt64) :
    (shimRealloc c b.base newSize h).1.Inv ∧
      ((shimRealloc c b.base newSize h).2 = 0 ∧
          (shimRealloc c b.base newSize h).1.blocks = h.blocks ∧
          (shimRealloc c b.base newSize h).1.log = h.log ∧
          Kept h.blocks h.mem (shimRealloc c b.base newSize h).1.mem ∨
        ∃ b', Fresh b' (h.blocks.eraseIdx i) ∧ b'.size = newSize ∧
          (shimRealloc c b.base newSize h).2 = b'.base ∧
          (shimRealloc c b.base newSize h).1.blocks = h.blocks.eraseIdx i ++ [b'] ∧
          Kept (h.blocks.eraseIdx i) h.mem (shimRealloc c b.base newSize h).1.mem ∧
          ∀ k < min b.size.toNat newSize.toNat,
            (shimRealloc c b.base newSize h).1.mem (b'.base.toNat + k) = h.mem (b.base.toNat + k)) := by
  rw [shimRealloc, takeOut_eq hi.apart hb]
  dsimp only
  split_ifs with hf
  · have hpull := hi.pull hb h.mem
    refine ⟨hpull.push hf rfl _, Or.inr ⟨_, hf, rfl, rfl, rfl, ?_, ?_⟩⟩
    · intro b' hb' x hlo hhi
      have hapart := (hf.2 b' hb').ranges
      dsimp only at hapart ⊢
      rw [if_neg (by omega)]
      exact kept_scribble _ _ _ b' hb' x hlo hhi
    · intro k hk
      dsimp only
      rw [if_pos ⟨by omega, by omega⟩, Nat.add_sub_cancel_left]
  · exact ⟨hi.setMem _, Or.inl ⟨rfl, rfl, rfl, kept_scribble _ _ _⟩⟩

end Specs

end SmoltcpS3.Allocator

import Mathlib.Data.List.Forall2
import SmoltcpS3.Allocator.Shim
import SmoltcpS3.Foundations.EventRuns

namespace SmoltcpS3.Allocator

open ByteMemory Lifetimes EventRuns

structure System where
  heap : Heap
  allocs : List Allocation

/-- What a caller does. It names one of its live allocations by position; a new size is one that
`realloc` may be asked for. -/
inductive Call
  | alloc (l : Layout) (c : Choice)
  | dealloc (i : ℕ) (c : Choice)
  | realloc (i : ℕ) (newSize : UInt64) (c c' : Choice)
  | write (i offset : ℕ) (byte : UInt8)

namespace System

def initial (m : Memory) : System := ⟨⟨m, [], 0, [], false⟩, []⟩

def onRealloc (s : System) (i : ℕ) (a : Allocation) (l' : Layout) (c c' : Choice) : System :=
  let r := realloc a.ptr a.layout l' c c' s.heap
  if r.2 = 0 then { s with heap := r.1 } else ⟨r.1, s.allocs.eraseIdx i ++ [⟨r.2, l'⟩]⟩

def next (s : System) : Call → System
  | .alloc l c =>
    let r := Allocator.alloc l c s.heap
    if r.2 = 0 then { s with heap := r.1 } else ⟨r.1, s.allocs ++ [⟨r.2, l⟩]⟩
  | .dealloc i c =>
    match s.allocs[i]? with
    | none => s
    | some a => ⟨Allocator.dealloc a.ptr a.layout c s.heap, s.allocs.eraseIdx i⟩
  | .realloc i newSize c c' =>
    match s.allocs[i]? with
    | none => s
    | some a =>
      if h : 0 < newSize.toNat ∧ newSize.toNat + a.layout.align.toNat ≤ 2 ^ 63 then
        s.onRealloc i a (a.layout.resize newSize h.2) c c'
      else s
  | .write i offset byte =>
    match s.allocs[i]? with
    | none => s
    | some a =>
      if offset < a.layout.size.toNat then
        { s with heap := { s.heap with mem := Function.update s.heap.mem (a.ptr.toNat + offset) byte } }
      else s

end System

def systemAfter (m : Memory) (calls : List Call) : System := run System.next (.initial m) calls

structure System.Inv (s : System) : Prop where
  heap : s.heap.Inv
  backed : List.Forall₂ (Backs s.heap.mem) s.allocs s.heap.blocks

section Lists

variable {α β : Type*} {R : α → β → Prop} {l : List α} {l' : List β}

lemma forall₂_eraseIdx (h : List.Forall₂ R l l') (i : ℕ) :
    List.Forall₂ R (l.eraseIdx i) (l'.eraseIdx i) := by
  induction h generalizing i with
  | nil => exact List.Forall₂.nil
  | cons hab h ih =>
    cases i with
    | zero => exact h
    | succ i => exact List.Forall₂.cons hab (ih i)

lemma exists_getElem?_of_forall₂ (h : List.Forall₂ R l l') {i : ℕ} {a : α} (ha : l[i]? = some a) :
    ∃ b, l'[i]? = some b ∧ R a b := by
  induction h generalizing i with
  | nil => simp at ha
  | cons hab _ ih =>
    cases i with
    | zero =>
      obtain rfl := Option.some.inj ha
      exact ⟨_, rfl, hab⟩
    | succ i => exact ih ha

lemma forall₂_mono_getElem? {S : α → β → Prop} (h : List.Forall₂ R l l')
    (hs : ∀ (i : ℕ) a b, l[i]? = some a → l'[i]? = some b → R a b → S a b) : List.Forall₂ S l l' := by
  induction h with
  | nil => exact List.Forall₂.nil
  | cons hab _ ih =>
    refine List.Forall₂.cons (hs 0 _ _ rfl rfl hab) (ih fun i a b ha hb => ?_)
    exact hs (i + 1) a b ha hb

end Lists

lemma backed_congr {m m' : Memory} {allocs : List Allocation} {blocks : List Block}
    (h : List.Forall₂ (Backs m) allocs blocks) (hk : Kept blocks m m') :
    List.Forall₂ (Backs m') allocs blocks := by
  apply forall₂_mono_getElem? h
  intro i a b _ hb hab
  exact hab.congr (hk b (List.mem_of_getElem? hb))

lemma apart_of_ne {blocks : List Block} (hp : blocks.Pairwise Block.Apart) {i j : ℕ} {b b' : Block}
    (hij : i ≠ j) (hb : blocks[i]? = some b) (hb' : blocks[j]? = some b') : b.Apart b' := by
  obtain ⟨hi, rfl⟩ := List.getElem?_eq_some_iff.mp hb
  obtain ⟨hj, rfl⟩ := List.getElem?_eq_some_iff.mp hb'
  rcases Nat.lt_or_gt_of_ne hij with hlt | hgt
  · exact List.pairwise_iff_getElem.mp hp i j hi hj hlt
  · exact (List.pairwise_iff_getElem.mp hp j i hj hi hgt).symm

namespace System

section Steps

variable {s : System} (hi : s.Inv)
include hi

lemma Inv.alloc (l : Layout) (c : Choice) : (s.next (.alloc l c)).Inv := by
  obtain ⟨hinv, hkept, ⟨hz, hblocks, _⟩ | ⟨b, hf, hblocks, hback⟩⟩ := alloc_spec hi.heap l c
  · rw [next, if_pos hz]
    exact ⟨hinv, hblocks ▸ backed_congr hi.backed hkept⟩
  · have hne : (Allocator.alloc l c s.heap).2 ≠ 0 := hback.ptr_ne
    rw [next, if_neg hne]
    refine ⟨hinv, ?_⟩
    rw [hblocks]
    exact List.rel_append (backed_congr hi.backed hkept) (List.Forall₂.cons hback List.Forall₂.nil)

lemma Inv.dealloc (i : ℕ) (c : Choice) : (s.next (.dealloc i c)).Inv := by
  rw [next]
  cases ha : s.allocs[i]? with
  | none => exact hi
  | some a =>
    obtain ⟨b, hb, hback⟩ := exists_getElem?_of_forall₂ hi.backed ha
    obtain ⟨hinv, hkept, hblocks⟩ := dealloc_spec hi.heap hb hback c
    refine ⟨hinv, ?_⟩
    rw [hblocks]
    exact backed_congr (forall₂_eraseIdx hi.backed i) hkept

lemma Inv.onRealloc {i : ℕ} {a : Allocation} (ha : s.allocs[i]? = some a) (l' : Layout)
    (hl : l'.align = a.layout.align) (c c' : Choice) : (s.onRealloc i a l' c c').Inv := by
  obtain ⟨b, hb, hback⟩ := exists_getElem?_of_forall₂ hi.backed ha
  obtain ⟨hinv, ⟨hz, hblocks, _, hkept⟩ | ⟨b', hblocks, hback', hkept, _⟩⟩ :=
    realloc_spec hi.heap hb hback hl c c'
  · rw [System.onRealloc, if_pos hz]
    exact ⟨hinv, hblocks ▸ backed_congr hi.backed hkept⟩
  · have hne : (Allocator.realloc a.ptr a.layout l' c c' s.heap).2 ≠ 0 := hback'.ptr_ne
    rw [System.onRealloc, if_neg hne]
    refine ⟨hinv, ?_⟩
    rw [hblocks]
    exact List.rel_append (backed_congr (forall₂_eraseIdx hi.backed i) hkept)
      (List.Forall₂.cons hback' List.Forall₂.nil)

lemma Inv.write (i offset : ℕ) (byte : UInt8) : (s.next (.write i offset byte)).Inv := by
  rw [next]
  cases ha : s.allocs[i]? with
  | none => exact hi
  | some a =>
    dsimp only
    split_ifs with hlt
    · obtain ⟨b, hb, hback⟩ := exists_getElem?_of_forall₂ hi.backed ha
      refine ⟨hi.heap.setMem _, ?_⟩
      -- The byte lies behind the word that leads to its own block, and outside all other blocks.
      apply forall₂_mono_getElem? hi.backed
      intro j a' b' ha' hb' hback'
      apply hback'.congr_slot
      intro hle x hx hx'
      apply Function.update_of_ne
      have hlo := hback.lo
      have hhi := hback.hi
      have hhi' := hback'.hi
      by_cases hij : i = j
      · subst hij
        obtain rfl : a = a' := Option.some.inj (ha.symm.trans ha')
        omega
      · have hapart := (apart_of_ne hi.heap.apart hij hb hb').ranges
        omega
    · exact hi

theorem Inv.next (call : Call) : (s.next call).Inv := by
  cases call with
  | alloc l c => exact hi.alloc l c
  | dealloc i c => exact hi.dealloc i c
  | realloc i newSize c c' =>
    rw [System.next]
    cases ha : s.allocs[i]? with
    | none => exact hi
    | some a =>
      dsimp only
      split_ifs with hsize
      · exact hi.onRealloc ha (a.layout.resize newSize hsize.2) rfl c c'
      · exact hi
  | write i offset byte => exact hi.write i offset byte

end Steps

lemma inv_initial (m : Memory) : (initial m).Inv :=
  ⟨⟨nofun, List.Pairwise.nil, Ledger.nil, nofun, rfl⟩, List.Forall₂.nil⟩

end System

theorem inv_systemAfter (m : Memory) (calls : List Call) : (systemAfter m calls).Inv :=
  run_preserves (I := System.Inv) (fun _ call h => System.Inv.next h call) calls (System.inv_initial m)

end SmoltcpS3.Allocator

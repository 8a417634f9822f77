import SmoltcpS3.Allocator.Runs

namespace SmoltcpS3.Allocator

open ByteMemory Lifetimes

def Allocation.Clear (a : Allocation) (lo len : ℕ) : Prop :=
  lo + len ≤ a.ptr.toNat ∨ a.ptr.toNat + a.layout.size.toNat ≤ lo

lemma Backs.clear {m : Memory} {a : Allocation} {b : Block} (h : Backs m a b) {lo len : ℕ}
    (hb : lo + len ≤ b.base.toNat ∨ b.base.toNat + b.size.toNat ≤ lo) : a.Clear lo len := by
  have hlo := h.lo
  have hhi := h.hi
  rw [Allocation.Clear]
  omega

def Unchanged (allocs : List Allocation) (m m' : Memory) : Prop :=
  ∀ a ∈ allocs, AgreeOn a.ptr.toNat a.layout.size.toNat m m'

namespace System

structure Placement (s : System) : Prop where
  backed : ∀ (i : ℕ) a, s.allocs[i]? = some a → ∃ b, s.heap.blocks[i]? = some b ∧ Backs s.heap.mem a b
  disjoint : ∀ (i j : ℕ) a a', i ≠ j → s.allocs[i]? = some a → s.allocs[j]? = some a' →
    a'.Clear a.ptr.toNat a.layout.size.toNat
  slots : ∀ a ∈ s.allocs, ¬ a.layout.align ≤ 16 →
    (a.ptr - 8).toNat + 8 = a.ptr.toNat ∧ ∀ a' ∈ s.allocs, a'.Clear (a.ptr - 8).toNat 8

structure Frees (s : System) : Prop where
  owned : s.allocs.length = s.heap.blocks.length
  valid : s.heap.badFree = false
  live : ∀ b ∈ s.heap.blocks, (freedIn s.heap.log).count b.id = 0
  once : ∀ id ∈ takenIn s.heap.log, id ∉ s.heap.blocks.map Block.id →
    (freedIn s.heap.log).count id = 1
  safe : Safe s.heap.log

structure Exact (s : System) : Prop where
  request : ∀ l : Layout, (l.align + 8).toNat = l.align.toNat + 8 ∧
    (l.size + (l.align + 8)).toNat = l.size.toNat + (l.align.toNat + 8)
  addresses : ∀ (l : Layout) (c : Choice), (shimMalloc c (l.size + (l.align + 8)) s.heap).2 ≠ 0 →
    NoWrap l (shimMalloc c (l.size + (l.align + 8)) s.heap).2

structure AllocEffect (s : System) (l : Layout) (s' : System) (p : UInt64) : Prop where
  others : Unchanged s.allocs s.heap.mem s'.heap.mem
  null : p = 0 → s'.allocs = s.allocs ∧ s'.heap.blocks = s.heap.blocks ∧ s'.heap.log = s.heap.log
  given : p ≠ 0 → s'.allocs = s.allocs ++ [⟨p, l⟩]

structure DeallocEffect (s : System) (i : ℕ) (s' : System) : Prop where
  others : Unchanged (s.allocs.eraseIdx i) s.heap.mem s'.heap.mem
  allocs : s'.allocs = s.allocs.eraseIdx i
  blocks : s'.heap.blocks = s.heap.blocks.eraseIdx i

structure ReallocEffect (s : System) (i : ℕ) (a : Allocation) (l' : Layout) (s' : System)
    (p : UInt64) : Prop where
  null : p = 0 → s'.allocs = s.allocs ∧ s'.heap.blocks = s.heap.blocks ∧
    s'.heap.log = s.heap.log ∧ Unchanged s.allocs s.heap.mem s'.heap.mem
  moved : p ≠ 0 → s'.allocs = s.allocs.eraseIdx i ++ [⟨p, l'⟩] ∧
    Unchanged (s.allocs.eraseIdx i) s.heap.mem s'.heap.mem ∧
    ∀ k < min a.layout.size.toNat l'.size.toNat,
      s'.heap.mem (p.toNat + k) = s.heap.mem (a.ptr.toNat + k)

structure Effects (s : System) : Prop where
  alloc : ∀ l c, s.AllocEffect l (s.next (.alloc l c)) (Allocator.alloc l c s.heap).2
  dealloc : ∀ (i : ℕ) a c, s.allocs[i]? = some a → s.DeallocEffect i (s.next (.dealloc i c))
  realloc : ∀ (i : ℕ) a newSize c c', s.allocs[i]? = some a → 0 < newSize.toNat →
    ∀ hsize : newSize.toNat + a.layout.align.toNat ≤ 2 ^ 63,
      s.ReallocEffect i a (a.layout.resize newSize hsize) (s.next (.realloc i newSize c c'))
        (Allocator.realloc a.ptr a.layout (a.layout.resize newSize hsize) c c' s.heap).2

variable {s : System} (hi : s.Inv)
include hi

lemma Inv.placement : s.Placement where
  backed i a ha := exists_getElem?_of_forall₂ hi.backed ha
  disjoint i j a a' hij ha ha' := by
    obtain ⟨b, hb, hback⟩ := exists_getElem?_of_forall₂ hi.backed ha
    obtain ⟨b', hb', hback'⟩ := exists_getElem?_of_forall₂ hi.backed ha'
    have hapart := (apart_of_ne hi.heap.apart hij hb hb').ranges
    have hlo := hback.lo
    have hhi := hback.hi
    apply hback'.clear
    omega
  slots a ha hover := by
    obtain ⟨i, ha⟩ := List.mem_iff_getElem?.mp ha
    obtain ⟨b, hb, hback⟩ := exists_getElem?_of_forall₂ hi.backed ha
    obtain ⟨hslot, _⟩ := hback.slot hover
    rw [slot_toNat (by omega)]
    refine ⟨by omega, fun a' ha' => ?_⟩
    obtain ⟨j, ha'⟩ := List.mem_iff_getElem?.mp ha'
    obtain ⟨b', hb', hback'⟩ := exists_getElem?_of_forall₂ hi.backed ha'
    by_cases hij : i = j
    · subst hij
      obtain rfl : a = a' := Option.some.inj (ha.symm.trans ha')
      rw [Allocation.Clear]
      omega
    · have hapart := (apart_of_ne hi.heap.apart hij hb hb').ranges
      have hhi := hback.hi
      apply hback'.clear
      omega

lemma Inv.frees : s.Frees where
  owned := hi.backed.length_eq
  valid := hi.heap.noBadFree
  live b hb := by
    apply List.count_eq_zero_of_not_mem
    exact hi.heap.ledger.not_freed (List.mem_map_of_mem hb)
  once _ hid hfree := hi.heap.ledger.freed_once hid hfree
  safe := hi.heap.ledger.safe

lemma Inv.exact : s.Exact where
  request l := by
    have hl := l.limit
    have hextra : (l.align + 8).toNat = l.align.toNat + 8 := by
      rw [UInt64.toNat_add, eight_toNat]
      omega
    refine ⟨hextra, ?_⟩
    rw [UInt64.toNat_add, hextra]
    omega
  addresses l c hne := by
    obtain ⟨_, _, ⟨hz, _⟩ | ⟨b, hf, hsize, hraw, _⟩⟩ :=
      shimMalloc_spec hi.heap c (l.size + (l.align + 8))
    · exact absurd hz hne
    · rw [hraw]
      exact noWrap hf.1 hsize

omit hi in
lemma unchanged_of_kept {m m' m₀ : Memory} {allocs : List Allocation} {blocks : List Block}
    (h : List.Forall₂ (Backs m₀) allocs blocks) (hk : Kept blocks m m') : Unchanged allocs m m' := by
  intro a ha
  obtain ⟨i, ha⟩ := List.mem_iff_getElem?.mp ha
  obtain ⟨b, hb, hback⟩ := exists_getElem?_of_forall₂ h ha
  exact hback.agreeOn (hk b (List.mem_of_getElem? hb))

lemma Inv.allocEffect (l : Layout) (c : Choice) :
    s.AllocEffect l (s.next (.alloc l c)) (Allocator.alloc l c s.heap).2 := by
  obtain ⟨_, hkept, hres⟩ := alloc_spec hi.heap l c
  have hothers := unchanged_of_kept hi.backed hkept
  rw [System.next]
  rcases hres with ⟨hz, hblocks, hlog⟩ | ⟨b, _, _, hback⟩
  · rw [if_pos hz]
    exact ⟨hothers, fun _ => ⟨rfl, hblocks, hlog⟩, fun hne => absurd hz hne⟩
  · have hne : (Allocator.alloc l c s.heap).2 ≠ 0 := hback.ptr_ne
    rw [if_neg hne]
    exact ⟨hothers, fun hz => absurd hz hne, fun _ => rfl⟩

lemma Inv.deallocEffect {i : ℕ} {a : Allocation} (ha : s.allocs[i]? = some a) (c : Choice) :
    s.DeallocEffect i (s.next (.dealloc i c)) := by
  obtain ⟨b, hb, hback⟩ := exists_getElem?_of_forall₂ hi.backed ha
  obtain ⟨_, hkept, hblocks⟩ := dealloc_spec hi.heap hb hback c
  rw [System.next, ha]
  exact ⟨unchanged_of_kept (forall₂_eraseIdx hi.backed i) hkept, rfl, hblocks⟩

lemma Inv.reallocEffect {i : ℕ} {a : Allocation} (ha : s.allocs[i]? = some a) (l' : Layout)
    (hl : l'.align = a.layout.align) (c c' : Choice) :
    s.ReallocEffect i a l' (s.onRealloc i a l' c c') (Allocator.realloc a.ptr a.layout l' c c' s.heap).2 := by
  obtain ⟨b, hb, hback⟩ := exists_getElem?_of_forall₂ hi.backed ha
  obtain ⟨_, ⟨hz, hblocks, hlog, hkept⟩ | ⟨b', _, hback', hkept, hbytes⟩⟩ :=
    realloc_spec hi.heap hb hback hl c c'
  · rw [System.onRealloc, if_pos hz]
    refine ⟨fun _ => ⟨rfl, hblocks, hlog, ?_⟩, fun hne => absurd hz hne⟩
    exact unchanged_of_kept hi.backed hkept
  · have hne : (Allocator.realloc a.ptr a.layout l' c c' s.heap).2 ≠ 0 := hback'.ptr_ne
    rw [System.onRealloc, if_neg hne]
    refine ⟨fun hz => absurd hz hne, fun _ => ⟨rfl, ?_, hbytes⟩⟩
    exact unchanged_of_kept (forall₂_eraseIdx hi.backed i) hkept

lemma Inv.effects : s.Effects where
  alloc l c := hi.allocEffect l c
  dealloc _ _ c ha := hi.deallocEffect ha c
  realloc i a newSize c c' ha hpos hsize := by
    rw [System.next, ha]
    dsimp only
    rw [dif_pos ⟨hpos, hsize⟩]
    exact hi.reallocEffect ha (a.layout.resize newSize hsize) rfl c c'

end System

theorem allocator_correct (m : Memory) (calls : List Call) :
    (systemAfter m calls).Placement ∧ (systemAfter m calls).Frees ∧ (systemAfter m calls).Exact ∧
      (systemAfter m calls).Effects := by
  have hi := inv_systemAfter m calls
  exact ⟨hi.placement, hi.frees, hi.exact, hi.effects⟩

example : ((systemAfter (fun _ => 0) [.alloc ⟨100, 64, ⟨6, rfl⟩, by decide⟩ ⟨4096, fun _ => 7⟩,
    .write 0 99 1, .realloc 0 200 ⟨8192, fun _ => 9⟩ ⟨0, fun _ => 9⟩]).allocs.map Allocation.ptr) = [8256] := by
  decide +kernel

end SmoltcpS3.Allocator

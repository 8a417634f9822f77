import Mathlib.Data.UInt
import SmoltcpS3.Foundations.LinearProbing

/-! The hash table of `common/hashtable.hh`, which the PerfEvent comparison builds and probes. -/

namespace SmoltcpS3.HashTable

open LinearProbing

def bits : ℕ := 21

def size : ℕ := 1 <<< bits

def mask : ℕ := size - 1

abbrev Slots := Fin size → UInt64

def clear : Slots := fun _ => 0

def lcg (x : UInt64) : UInt64 := x * 6364136223846793005 + 1442695040888963407

lemma and_mask_lt (n : ℕ) : n &&& mask < size := Nat.and_le_right.trans_lt (by decide)

def home (x : UInt64) : Fin size := ⟨(x >>> 17).toNat &&& mask, and_mask_lt _⟩

def advance (h : Fin size) : Fin size := ⟨(h.val + 1) &&& mask, and_mask_lt _⟩

def probeLoop (slots : Slots) (x : UInt64) : ℕ → Fin size → Option (Fin size)
  | 0, _ => none
  | fuel + 1, h => if slots h ≠ 0 ∧ slots h ≠ x then probeLoop slots x fuel (advance h) else some h

def insertLoop (fuel : ℕ) : ℕ → UInt64 → Slots → Option Slots
  | 0, _, slots => some slots
  | n + 1, x, slots => do
    let x := lcg x
    let h ← probeLoop slots x fuel (home x)
    insertLoop fuel n x (Function.update slots h x)

def lookupLoop (fuel : ℕ) (slots : Slots) : ℕ → UInt64 → UInt64 → Option UInt64
  | 0, _, found => some found
  | n + 1, x, found => do
    let x := lcg x
    let h ← probeLoop slots x fuel (home x)
    lookupLoop fuel slots n x (found + if slots h = x then 1 else 0)

def work (fuel n : ℕ) (seed : UInt64) (slots : Slots) : Option (UInt64 × Slots) := do
  let slots ← insertLoop fuel n seed slots
  let found ← lookupLoop fuel slots n seed 0
  return (found, slots)

lemma advance_eq (h : Fin size) : advance h = ahead h 1 :=
  Fin.ext (Nat.and_two_pow_sub_one_eq_mod _ bits)

lemma probeLoop_eq (slots : Slots) (x : UInt64) (fuel : ℕ) (h : Fin size) :
    probeLoop slots x fuel h = probe 0 slots x fuel h := by
  induction fuel generalizing h with
  | zero => rfl
  | succ fuel ih => rw [probeLoop, probe, ih, advance_eq]

def keys : ℕ → UInt64 → List UInt64
  | 0, _ => []
  | n + 1, x => lcg x :: keys n (lcg x)

structure Filled (n : ℕ) (x : UInt64) (slots slots' : Slots) : Prop where
  valid : Valid 0 home slots'
  kept : ∀ y, y ≠ 0 → (∃ i, slots i = y) → ∃ i, slots' i = y
  holds : ∀ y ∈ keys n x, y ≠ 0 → ∃ i, slots' i = y
  occupied_le : occupied 0 slots' ≤ occupied 0 slots + (keys n x).countP (· ≠ 0)

lemma insertLoop_filled {n : ℕ} {x : UInt64} {slots : Slots} (hv : Valid 0 home slots)
    (hroom : occupied 0 slots + n ≤ size) :
    ∃ slots', (∀ fuel, size ≤ fuel → insertLoop fuel n x slots = some slots') ∧
      Filled n x slots slots' := by
  induction n generalizing x slots with
  | zero =>
    exact ⟨slots, fun _ _ => rfl, hv, fun y _ hy => hy, nofun, Nat.le_add_right _ _⟩
  | succ n ih =>
    obtain ⟨j, hj⟩ := hv.exists_stored (exists_free_of_occupied_lt (by omega)) (lcg x)
    have hone : occupied 0 (Function.update slots j (lcg x)) ≤ occupied 0 slots + 1 :=
      occupied_update_le j
    obtain ⟨slots', heq, hf⟩ := ih (x := lcg x) hj.valid (by omega)
    refine ⟨slots', ?_, hf.valid, ?_, ?_, ?_⟩
    · intro fuel hfuel
      simp only [insertLoop, probeLoop_eq, hj.probe_eq fuel hfuel, Option.bind_eq_bind,
        Option.bind_some, heq fuel hfuel]
    · intro y hy hin
      exact hf.kept y hy (hj.kept y hy hin)
    · intro y hy hy0
      rw [keys, List.mem_cons] at hy
      rcases hy with rfl | hy
      · exact hf.kept _ hy0 hj.holds
      · exact hf.holds y hy hy0
    · have hle := hf.occupied_le
      have hj' := hj.occupied_le
      rw [keys]
      by_cases hx : lcg x = 0
      · rw [if_pos hx] at hj'
        rw [List.countP_cons_of_neg (by simp [hx])]
        omega
      · rw [if_neg hx] at hj'
        rw [List.countP_cons_of_pos (by simp [hx])]
        omega

lemma length_keys (n : ℕ) (x : UInt64) : (keys n x).length = n := by
  induction n generalizing x with
  | zero => rfl
  | succ n ih => rw [keys, List.length_cons, ih]

lemma Filled.stored {n : ℕ} {x : UInt64} {slots slots' : Slots} (h : Filled n x slots slots')
    (hroom : occupied 0 slots + n ≤ size) {y : UInt64} (hy : y ∈ keys n x) : ∃ i, slots' i = y := by
  by_cases hy0 : y = 0
  · subst hy0
    apply exists_free_of_occupied_lt
    have hlt : (keys n x).countP (· ≠ 0) < (keys n x).length := by
      rw [List.countP_lt_length_iff]
      exact ⟨0, hy, by simp⟩
    have hle := h.occupied_le
    rw [length_keys] at hlt
    omega
  · exact h.holds y hy hy0

lemma lookupLoop_eq {slots : Slots} (hv : Valid 0 home slots) {n : ℕ} {x : UInt64}
    (hstored : ∀ y ∈ keys n x, ∃ i, slots i = y) (found : UInt64) {fuel : ℕ} (hfuel : size ≤ fuel) :
    lookupLoop fuel slots n x found = some (found + UInt64.ofNat n) := by
  induction n generalizing x found with
  | zero =>
    have hzero : found + UInt64.ofNat 0 = found := UInt64.add_zero found
    rw [lookupLoop, hzero]
  | succ n ih =>
    have hmem : ∀ y ∈ keys n (lcg x), ∃ i, slots i = y := by
      intro y hy
      exact hstored y (List.mem_cons_of_mem _ hy)
    obtain ⟨j, hj, hprobe⟩ := hv.probe_stored (hstored (lcg x) List.mem_cons_self)
    have hadd : found + 1 + UInt64.ofNat n = found + UInt64.ofNat (n + 1) := by
      rw [UInt64.ofNat_add, UInt64.add_assoc, UInt64.add_comm 1]
      rfl
    simp only [lookupLoop, probeLoop_eq, hprobe fuel hfuel, Option.bind_eq_bind, Option.bind_some, hj,
      if_true, ih hmem, hadd]

lemma valid_clear : Valid 0 home clear where
  once _ _ h := absurd rfl h
  reachable _ h := absurd rfl h

theorem work_finds_all {n : ℕ} {slots : Slots} (hv : Valid 0 home slots)
    (hroom : occupied 0 slots + n ≤ size) (seed : UInt64) :
    ∃ found slots', (∀ fuel, size ≤ fuel → work fuel n seed slots = some (found, slots')) ∧
      found.toNat = n ∧ Valid 0 home slots' ∧
      (∀ y, y ≠ 0 → (∃ i, slots i = y) → ∃ i, slots' i = y) ∧
      ∀ y ∈ keys n seed, ∃ i, slots' i = y ∧
        ∀ fuel, size ≤ fuel → probeLoop slots' y fuel (home y) = some i := by
  obtain ⟨slots', hinsert, hf⟩ := insertLoop_filled hv hroom (x := seed)
  have hstored : ∀ y ∈ keys n seed, ∃ i, slots' i = y := fun y hy => hf.stored hroom hy
  refine ⟨UInt64.ofNat n, slots', ?_, ?_, hf.valid, hf.kept, ?_⟩
  · intro fuel hfuel
    simp only [work, hinsert fuel hfuel, lookupLoop_eq hf.valid hstored 0 hfuel, Option.bind_eq_bind,
      Option.bind_some, UInt64.zero_add]
    rfl
  · have hsize : size < 2 ^ 64 := by decide
    have hn : n ≤ size := (Nat.le_add_left n _).trans hroom
    exact UInt64.toNat_ofNat_of_lt' (hn.trans_lt hsize)
  · intro y hy
    obtain ⟨i, hi, hprobe⟩ := hf.valid.probe_stored (hstored y hy)
    refine ⟨i, hi, fun fuel hfuel => ?_⟩
    rw [probeLoop_eq]
    exact hprobe fuel hfuel

theorem work_finds_all_after_clear :
    occupied 0 clear + size ≤ size ∧
      ∃ found slots', (∀ fuel, size ≤ fuel → work fuel size 1 clear = some (found, slots')) ∧
        found.toNat = size ∧ ∀ y ∈ keys size 1, ∃ i, slots' i = y := by
  have hroom : occupied 0 clear + size ≤ size := by
    rw [occupied, Finset.filter_false_of_mem (by simp [clear])]
    simp
  obtain ⟨found, slots', hwork, hfound, _, _, hkeys⟩ := work_finds_all valid_clear hroom 1
  refine ⟨hroom, found, slots', hwork, hfound, fun y hy => ?_⟩
  obtain ⟨i, hi, _⟩ := hkeys y hy
  exact ⟨i, hi⟩

end SmoltcpS3.HashTable

import Mathlib.Data.List.GetD
import Mathlib.Tactic

/-! smoltcp's `storage::RingBuffer`, and that it is a bounded queue whose reads may stop at the
end of the storage. -/

namespace SmoltcpS3.Smoltcp

variable {α : Type*}

structure RingBuffer (α : Type*) where
  capacity : ℕ
  storage : ℕ → α
  readAt : ℕ
  length : ℕ
  length_le : length ≤ capacity
  readAt_le : readAt ≤ capacity - 1

namespace RingBuffer

def new (capacity : ℕ) (storage : ℕ → α) : RingBuffer α where
  capacity := capacity
  storage := storage
  readAt := 0
  length := 0
  length_le := Nat.zero_le _
  readAt_le := Nat.zero_le _

def window (r : RingBuffer α) : ℕ := r.capacity - r.length

def isEmpty (r : RingBuffer α) : Bool := r.length == 0

def getIdx (r : RingBuffer α) (idx : ℕ) : ℕ :=
  if 0 < r.capacity then (r.readAt + idx) % r.capacity else 0

def toList (r : RingBuffer α) : List α := (List.range r.length).map fun i => r.storage (r.getIdx i)

/-- `write_unallocated` at offset 0 followed by `enqueue_unallocated` of what was written. -/
def enqueueUnallocated (r : RingBuffer α) (data : List α) : RingBuffer α where
  capacity := r.capacity
  storage j := (data.take r.window).getD
    ((j + r.capacity - r.getIdx r.length) % r.capacity) (r.storage j)
  readAt := r.readAt
  length := r.length + min r.window data.length
  length_le := by
    have h := r.length_le
    simp only [window]
    omega
  readAt_le := r.readAt_le

def contiguous (r : RingBuffer α) : List α :=
  (List.range (min r.length (r.capacity - r.readAt))).map fun i => r.storage (r.readAt + i)

def dequeueMany (r : RingBuffer α) : List α × RingBuffer α :=
  (r.contiguous,
    { r with
      readAt := if 0 < r.capacity then (r.readAt + r.contiguous.length) % r.capacity else 0
      length := r.length - r.contiguous.length
      length_le := (Nat.sub_le _ _).trans r.length_le
      readAt_le := by
        split
        · have := Nat.mod_lt (r.readAt + r.contiguous.length) ‹0 < r.capacity›
          omega
        · exact Nat.zero_le _ })

@[simp] lemma toList_length (r : RingBuffer α) : r.toList.length = r.length := by simp [toList]

@[simp] lemma toList_new (capacity : ℕ) (storage : ℕ → α) : (new capacity storage).toList = [] := rfl

@[simp] lemma contiguous_length (r : RingBuffer α) :
    r.contiguous.length = min r.length (r.capacity - r.readAt) := by simp [contiguous]

lemma isEmpty_iff (r : RingBuffer α) : r.isEmpty = true ↔ r.toList = [] := by
  rw [← List.length_eq_zero_iff, toList_length]
  simp [isEmpty]

lemma getIdx_of_lt (r : RingBuffer α) {i : ℕ} (h : r.readAt + i < r.capacity) :
    r.getIdx i = r.readAt + i := by
  rw [getIdx, if_pos (by omega), Nat.mod_eq_of_lt h]

lemma getIdx_of_ge (r : RingBuffer α) {i : ℕ} (hi : i ≤ r.capacity) (h : r.capacity ≤ r.readAt + i)
    (hc : 0 < r.capacity) : r.getIdx i = r.readAt + i - r.capacity := by
  have hr := r.readAt_le
  rw [getIdx, if_pos hc, Nat.mod_eq_sub_mod h, Nat.mod_eq_of_lt (by omega)]

lemma offset_getIdx (r : RingBuffer α) {i : ℕ} (hi : i < r.capacity) (hl : r.length < r.capacity) :
    (r.getIdx i + r.capacity - r.getIdx r.length) % r.capacity =
      if i < r.length then r.capacity + i - r.length else i - r.length := by
  have hr := r.readAt_le
  have hidx : ∀ k < r.capacity, r.getIdx k =
      if r.readAt + k < r.capacity then r.readAt + k else r.readAt + k - r.capacity := by
    intro k hk
    split_ifs with h
    · exact r.getIdx_of_lt h
    · exact r.getIdx_of_ge hk.le (by omega) (by omega)
  rw [hidx i hi, hidx r.length hl]
  have hmod : ∀ n, r.capacity ≤ n → n < 2 * r.capacity → n % r.capacity = n - r.capacity := by
    intro n h₁ h₂
    rw [Nat.mod_eq_sub_mod h₁, Nat.mod_eq_of_lt (by omega)]
  split_ifs
  all_goals first
    | (rw [Nat.mod_eq_of_lt (by omega)]; omega)
    | (rw [hmod _ (by omega) (by omega)]; omega)

theorem toList_enqueueUnallocated (r : RingBuffer α) (data : List α) :
    (r.enqueueUnallocated data).toList = r.toList ++ data.take r.window := by
  have hle := r.length_le
  have hidx : ∀ i, (r.enqueueUnallocated data).getIdx i = r.getIdx i := fun _ => rfl
  apply List.ext_getElem
  · simp [enqueueUnallocated]
  · intro i h₁ h₂
    have hi : i < r.length + min r.window data.length := by
      simpa [enqueueUnallocated] using h₁
    have hl : r.length < r.capacity ∨ i < r.length := by simp only [window] at hi; omega
    simp only [toList, List.getElem_map, List.getElem_range, hidx, List.getElem_append,
      List.length_map, List.length_range]
    rcases hl with hl | hl
    · simp only [enqueueUnallocated, r.offset_getIdx (show i < r.capacity by
        simp only [window] at hi; omega) hl]
      split_ifs with hn
      · rw [List.getD_eq_default]
        simp only [List.length_take, window]
        omega
      · rw [List.getD_eq_getElem]
    · simp only [hl, dif_pos]
      by_cases hw : r.window = 0
      · simp [enqueueUnallocated, hw]
      · simp only [window] at hw
        simp only [enqueueUnallocated, r.offset_getIdx (show i < r.capacity by omega) (by omega), hl,
          if_true]
        rw [List.getD_eq_default]
        simp only [List.length_take, window]
        omega

theorem toList_dequeueMany (r : RingBuffer α) :
    r.dequeueMany.1 ++ r.dequeueMany.2.toList = r.toList := by
  have hle := r.length_le
  have hr := r.readAt_le
  apply List.ext_getElem
  · simp [dequeueMany]
  · intro i h₁ h₂
    have hi : i < r.length := by simpa using h₂
    simp only [dequeueMany, toList, List.getElem_map, List.getElem_range, List.getElem_append,
      contiguous_length]
    by_cases hm : i < min r.length (r.capacity - r.readAt)
    · simp only [hm, dif_pos, contiguous, List.getElem_map, List.getElem_range]
      rw [r.getIdx_of_lt (by omega)]
    · simp only [hm, dif_neg, not_false_eq_true, getIdx, if_pos (show 0 < r.capacity by omega),
        Nat.mod_add_mod]
      congr 2
      omega

lemma dequeueMany_ne_nil (r : RingBuffer α) (h : r.toList ≠ []) : r.dequeueMany.1 ≠ [] := by
  have hl : 0 < r.length := by
    rw [← r.toList_length]
    exact List.length_pos_of_ne_nil h
  have hle := r.length_le
  have hr := r.readAt_le
  apply List.ne_nil_of_length_pos
  simp only [dequeueMany, contiguous_length]
  omega

end RingBuffer

end SmoltcpS3.Smoltcp

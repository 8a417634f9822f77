import SmoltcpS3.Smoltcp.RingBuffer
import Mathlib.Data.Nat.ModEq

/-! The random access interface of smoltcp's ring buffer, and the slices that `send_slice` and
`dispatch` take from it. A cell is named by its distance from `read_at`. -/

namespace SmoltcpS3.Smoltcp.RandomAccess

variable {α : Type*}

def cell (r : RingBuffer α) (k : ℕ) : α := r.storage (r.getIdx k)

def copyAt (start : ℕ) (data : List α) (r : RingBuffer α) : RingBuffer α :=
  { r with storage := fun j => if start ≤ j then data.getD (j - start) (r.storage j) else r.storage j }

def getUnallocated (offset size : ℕ) (r : RingBuffer α) : ℕ × ℕ :=
  let startAt := r.getIdx (r.length + offset)
  if r.window < offset then (startAt, 0)
  else (startAt, min (min size (r.window - offset)) (r.capacity - startAt))

def writeUnallocated (offset : ℕ) (data : List α) (r : RingBuffer α) : ℕ × RingBuffer α :=
  let s₁ := getUnallocated offset data.length r
  let r₁ := copyAt s₁.1 (data.take s₁.2) r
  let s₂ := getUnallocated (offset + s₁.2) (data.drop s₁.2).length r₁
  (s₁.2 + s₂.2, copyAt s₂.1 ((data.drop s₁.2).take s₂.2) r₁)

def enqueueUnallocated (count : ℕ) (r : RingBuffer α) : Option (RingBuffer α) :=
  if h : count ≤ r.window then
    some { r with
      length := r.length + count
      length_le := by
        have := r.length_le
        simp only [RingBuffer.window] at h
        omega }
  else none

def getAllocated (offset size : ℕ) (r : RingBuffer α) : List α :=
  let startAt := r.getIdx offset
  if r.length < offset then []
  else (List.range (min (min size (r.length - offset)) (r.capacity - startAt))).map fun i => r.storage (startAt + i)

lemma getIdx_le (r : RingBuffer α) (k : ℕ) : r.getIdx k ≤ r.capacity - 1 := by
  rw [RingBuffer.getIdx]
  by_cases h : 0 < r.capacity
  · rw [if_pos h]
    exact Nat.le_sub_one_of_lt (Nat.mod_lt (r.readAt + k) h)
  · rw [if_neg h]
    exact Nat.zero_le _

def dequeueAllocated (count : ℕ) (r : RingBuffer α) : Option (RingBuffer α) :=
  if count ≤ r.length then
    some { r with
      readAt := r.getIdx count
      length := r.length - count
      length_le := (Nat.sub_le _ _).trans r.length_le
      readAt_le := getIdx_le r count }
  else none

def contiguousWindow (r : RingBuffer α) : ℕ := min r.window (r.capacity - r.getIdx r.length)

def rewind (r : RingBuffer α) : RingBuffer α :=
  if r.length = 0 then { r with readAt := 0, readAt_le := Nat.zero_le _ } else r

def enqueueManyWith (data : List α) (r : RingBuffer α) : ℕ × RingBuffer α :=
  let r := rewind r
  let size := min (contiguousWindow r) data.length
  (size, { copyAt (r.getIdx r.length) (data.take size) r with
    length := r.length + size
    length_le := by
      have hle := r.length_le
      have hsize : size ≤ r.window := (min_le_left _ _).trans (min_le_left _ _)
      simp only [RingBuffer.window] at hsize
      simp only [copyAt]
      omega })

def enqueueSlice (data : List α) (r : RingBuffer α) : ℕ × RingBuffer α :=
  let (size₁, r₁) := enqueueManyWith data r
  let (size₂, r₂) := enqueueManyWith (data.drop size₁) r₁
  (size₁ + size₂, r₂)

variable {r : RingBuffer α}

lemma toList_eq (r : RingBuffer α) : r.toList = (List.range r.length).map (cell r) := rfl

lemma getIdx_lt (r : RingBuffer α) (hc : 0 < r.capacity) (k : ℕ) : r.getIdx k < r.capacity := by
  rw [RingBuffer.getIdx, if_pos hc]
  exact Nat.mod_lt _ hc

lemma getIdx_inj {k l : ℕ} (hk : k < r.capacity) (hl : l < r.capacity) (h : r.getIdx k = r.getIdx l) : k = l := by
  have hc : 0 < r.capacity := by omega
  rw [RingBuffer.getIdx, RingBuffer.getIdx, if_pos hc, if_pos hc] at h
  exact (Nat.ModEq.add_left_cancel' r.readAt h).eq_of_lt_of_lt hk hl

lemma getIdx_add {k i : ℕ} (h : r.getIdx k + i < r.capacity) : r.getIdx (k + i) = r.getIdx k + i := by
  have hc : 0 < r.capacity := by omega
  rw [RingBuffer.getIdx, if_pos hc] at h ⊢
  rw [RingBuffer.getIdx, if_pos hc, ← Nat.add_assoc, ← Nat.mod_add_mod, Nat.mod_eq_of_lt h]

lemma getIdx_wrap {k i : ℕ} (hc : 0 < r.capacity) (h : r.getIdx k + i = r.capacity) : r.getIdx (k + i) = 0 := by
  rw [RingBuffer.getIdx, if_pos hc] at h ⊢
  rw [← Nat.add_assoc, ← Nat.mod_add_mod, h, Nat.mod_self]

lemma copyAt_nil (start : ℕ) (r : RingBuffer α) : copyAt start [] r = r := by
  simp [copyAt]

lemma cell_copyAt {data : List α} {b : ℕ} (hb : b + data.length ≤ r.capacity)
    (hw : r.getIdx b + data.length ≤ r.capacity) {k : ℕ} (hk : k < r.capacity) :
    cell (copyAt (r.getIdx b) data r) k = if b ≤ k then data.getD (k - b) (cell r k) else cell r k := by
  have hidx : (copyAt (r.getIdx b) data r).getIdx k = r.getIdx k := rfl
  rw [cell, hidx, copyAt]
  dsimp only
  by_cases hin : b ≤ k ∧ k - b < data.length
  · have hkb : r.getIdx k = r.getIdx b + (k - b) := by
      rw [← getIdx_add (by omega), Nat.add_sub_cancel' hin.1]
    rw [if_pos hin.1, hkb, if_pos (Nat.le_add_right _ _), Nat.add_sub_cancel_left, ← hkb]
    rfl
  · have hout : r.getIdx b ≤ r.getIdx k → data.length ≤ r.getIdx k - r.getIdx b := by
      intro hle
      by_contra hlt
      have heq : r.getIdx k = r.getIdx (b + (r.getIdx k - r.getIdx b)) := by
        rw [getIdx_add (by omega)]
        omega
      have := getIdx_inj hk (by omega) heq
      omega
    have hold : ∀ d : α, (if b ≤ k then data.getD (k - b) d else d) = d := by
      intro d
      split_ifs with hbk
      · exact List.getD_eq_default _ _ (by omega)
      · rfl
    rw [hold]
    split_ifs with hle
    · exact List.getD_eq_default _ _ (hout hle)
    · rfl

lemma getUnallocated_snd_le (offset size : ℕ) (r : RingBuffer α) :
    (getUnallocated offset size r).2 ≤ min size (r.window - offset) ∧
      (getUnallocated offset size r).2 ≤ r.capacity - r.getIdx (r.length + offset) := by
  rw [getUnallocated]
  split_ifs
  · exact ⟨Nat.zero_le _, Nat.zero_le _⟩
  · exact ⟨min_le_left _ _, min_le_right _ _⟩

@[simp] lemma getUnallocated_fst (offset size : ℕ) (r : RingBuffer α) :
    (getUnallocated offset size r).1 = r.getIdx (r.length + offset) := by
  rw [getUnallocated]
  split_ifs <;> rfl

lemma getUnallocated_twice (offset size : ℕ) (r : RingBuffer α) :
    (getUnallocated offset size r).2 +
        (getUnallocated (offset + (getUnallocated offset size r).2) (size - (getUnallocated offset size r).2) r).2 =
      min size (r.window - offset) := by
  have hle : r.window ≤ r.capacity := Nat.sub_le _ _
  by_cases hw : r.window < offset
  · have hzero : (getUnallocated offset size r).2 = 0 := by rw [getUnallocated, if_pos hw]
    rw [hzero, Nat.add_zero, Nat.sub_zero, hzero]
    omega
  · obtain ⟨h₁, h₂⟩ := getUnallocated_snd_le offset size r
    have hs : (getUnallocated offset size r).2 =
        min (min size (r.window - offset)) (r.capacity - r.getIdx (r.length + offset)) := by
      rw [getUnallocated, if_neg hw]
    generalize (getUnallocated offset size r).2 = s at h₁ h₂ hs ⊢
    rw [getUnallocated, if_neg (by omega)]
    dsimp only
    rcases Nat.lt_or_ge s (min size (r.window - offset)) with hlt | hge
    · -- The first slice ended at the end of the storage.
      have hc : 0 < r.capacity := by omega
      have hlt' := getIdx_lt r hc (r.length + offset)
      rw [← Nat.add_assoc, getIdx_wrap hc (show r.getIdx (r.length + offset) + s = r.capacity by omega)]
      omega
    · omega

lemma getD_take_drop (data : List α) {b s₁ s₂ k : ℕ} (d : α) :
    (if b + s₁ ≤ k then ((data.drop s₁).take s₂).getD (k - (b + s₁))
        (if b ≤ k then (data.take s₁).getD (k - b) d else d)
      else if b ≤ k then (data.take s₁).getD (k - b) d else d) =
      if b ≤ k then (data.take (s₁ + s₂)).getD (k - b) d else d := by
  simp only [List.getD_eq_getElem?_getD, List.getElem?_take, List.getElem?_drop]
  by_cases h₁ : b + s₁ ≤ k
  · rw [if_pos h₁, if_pos (show b ≤ k by omega), if_neg (show ¬ k - b < s₁ by omega), if_pos (show b ≤ k by omega),
      show s₁ + (k - (b + s₁)) = k - b by omega]
    by_cases h₂ : k - (b + s₁) < s₂
    · rw [if_pos h₂, if_pos (by omega), Option.getD_none]
    · rw [if_neg h₂, if_neg (by omega), Option.getD_none]
  · rw [if_neg h₁]
    split_ifs with hb h₃ h₄ h₄
    · rfl
    · omega
    · omega
    · rfl
    · rfl

theorem cell_writeUnallocated (offset : ℕ) (data : List α) (r : RingBuffer α) {k : ℕ} (hk : k < r.capacity) :
    cell (writeUnallocated offset data r).2 k =
      if r.length + offset ≤ k then (data.take (r.window - offset)).getD (k - (r.length + offset)) (cell r k)
      else cell r k := by
  have hlen := r.length_le
  have hwin : r.window = r.capacity - r.length := rfl
  have htwice := getUnallocated_twice offset data.length r
  obtain ⟨h₁, h₂⟩ := getUnallocated_snd_le offset data.length r
  rw [writeUnallocated]
  dsimp only
  rcases Nat.lt_or_ge r.window offset with hw | hw
  · have hnone : ∀ o ≥ offset, ∀ size, (getUnallocated o size r).2 = 0 := by
      intro o ho size
      rw [getUnallocated, if_pos (by omega)]
    rw [hnone offset le_rfl, List.take_zero, copyAt_nil, hnone _ (Nat.le_add_right _ _), List.take_zero, copyAt_nil,
      show r.window - offset = 0 by omega, List.take_zero]
    split_ifs <;> rfl
  rw [getUnallocated_fst, getUnallocated_fst]
  generalize (getUnallocated offset data.length r).2 = s₁ at htwice h₁ h₂ ⊢
  obtain ⟨h₃, h₄⟩ := getUnallocated_snd_le (offset + s₁) (data.length - s₁) r
  have htake₁ : (data.take s₁).length = s₁ := by rw [List.length_take]; omega
  have hsame : getUnallocated (offset + s₁) (data.drop s₁).length
      (copyAt (r.getIdx (r.length + offset)) (data.take s₁) r) = getUnallocated (offset + s₁) (data.length - s₁) r := by
    rw [List.length_drop]
    rfl
  rw [hsame]
  generalize (getUnallocated (offset + s₁) (data.length - s₁) r).2 = s₂ at htwice h₃ h₄ ⊢
  have htake₂ : ((data.drop s₁).take s₂).length = s₂ := by rw [List.length_take, List.length_drop]; omega
  set r₁ := copyAt (r.getIdx (r.length + offset)) (data.take s₁) r with hr₁
  have hfirst : ∀ k < r.capacity, cell r₁ k =
      if r.length + offset ≤ k then (data.take s₁).getD (k - (r.length + offset)) (cell r k) else cell r k := by
    intro k hk
    apply cell_copyAt _ _ hk
    · rw [htake₁]
      omega
    · rw [htake₁]
      have := getIdx_lt r (by omega) (r.length + offset)
      omega
  change cell (copyAt (r₁.getIdx (r.length + (offset + s₁))) ((data.drop s₁).take s₂) r₁) k = _
  have hcap : r₁.capacity = r.capacity := rfl
  have hidx : r₁.getIdx (r.length + (offset + s₁)) = r.getIdx (r.length + (offset + s₁)) := rfl
  rw [cell_copyAt _ _ (hcap ▸ hk), hfirst k hk, ← Nat.add_assoc, getD_take_drop, htwice, min_comm,
    ← List.take_eq_take_min]
  · rw [htake₂, hcap]
    omega
  · rw [htake₂, hcap, hidx]
    have := getIdx_lt r (by omega) (r.length + (offset + s₁))
    omega

@[simp] lemma capacity_writeUnallocated (offset : ℕ) (data : List α) (r : RingBuffer α) :
    (writeUnallocated offset data r).2.capacity = r.capacity := rfl

@[simp] lemma length_writeUnallocated (offset : ℕ) (data : List α) (r : RingBuffer α) :
    (writeUnallocated offset data r).2.length = r.length := rfl

lemma enqueueUnallocated_eq_some {count : ℕ} {r r' : RingBuffer α} (h : enqueueUnallocated count r = some r') :
    count ≤ r.window ∧ r'.capacity = r.capacity ∧ r'.length = r.length + count ∧ ∀ k, cell r' k = cell r k := by
  rw [enqueueUnallocated] at h
  split_ifs at h with hle
  cases h
  exact ⟨hle, rfl, rfl, fun _ => rfl⟩

lemma dequeueAllocated_eq_some {count : ℕ} {r r' : RingBuffer α} (h : dequeueAllocated count r = some r') :
    count ≤ r.length ∧ r'.capacity = r.capacity ∧ r'.length = r.length - count ∧
      ∀ k, cell r' k = cell r (count + k) := by
  rw [dequeueAllocated] at h
  split_ifs at h with hle
  cases h
  refine ⟨hle, rfl, rfl, ?_⟩
  intro k
  change r.storage (if 0 < r.capacity then (r.getIdx count + k) % r.capacity else 0) = r.storage (r.getIdx (count + k))
  congr 1
  rw [RingBuffer.getIdx, RingBuffer.getIdx]
  split_ifs with hc
  · rw [Nat.mod_add_mod, Nat.add_assoc]
  · rfl

theorem toList_dequeueAllocated {count : ℕ} {r r' : RingBuffer α} (h : dequeueAllocated count r = some r') :
    r'.toList = r.toList.drop count := by
  obtain ⟨hle, _, hlen, hcell⟩ := dequeueAllocated_eq_some h
  apply List.ext_getElem
  · simp [hlen]
  · intro i h₁ h₂
    simp [toList_eq, hcell]

theorem getAllocated_eq (offset size : ℕ) (r : RingBuffer α) :
    getAllocated offset size r =
      (r.toList.drop offset).take (min size (r.capacity - r.getIdx offset)) := by
  have hlen := r.length_le
  rw [getAllocated]
  split_ifs with hlt
  · rw [List.drop_eq_nil_of_le (by rw [RingBuffer.toList_length]; omega), List.take_nil]
  · apply List.ext_getElem
    · simp
      omega
    · intro i h₁ h₂
      have hi : i < min (min size (r.length - offset)) (r.capacity - r.getIdx offset) := by simpa using h₁
      simp only [List.getElem_map, List.getElem_range, List.getElem_take, List.getElem_drop, toList_eq, cell]
      rw [getIdx_add (by omega)]

lemma rewind_spec (r : RingBuffer α) :
    (rewind r).length = r.length ∧ (rewind r).capacity = r.capacity ∧ (rewind r).toList = r.toList ∧
      (r.length = 0 → (rewind r).getIdx 0 = 0) := by
  rw [rewind]
  split_ifs with h
  · refine ⟨rfl, rfl, ?_, fun _ => ?_⟩
    · simp [toList_eq, h]
    · simp [RingBuffer.getIdx]
  · exact ⟨rfl, rfl, rfl, fun h' => absurd h' h⟩

lemma enqueueManyWith_spec (data : List α) (r : RingBuffer α) :
    let p := enqueueManyWith data r
    p.2.toList = r.toList ++ data.take p.1 ∧ p.2.capacity = r.capacity ∧ p.2.length = r.length + p.1 ∧
      p.1 ≤ min r.window data.length ∧
      (p.1 = min r.window data.length ∨ (p.2.length ≠ 0 ∧ p.2.getIdx p.2.length = 0)) := by
  obtain ⟨hlen, hcap, hlist, hzero⟩ := rewind_spec r
  have hle := r.length_le
  have hdef : r.window = r.capacity - r.length := rfl
  have hsize : (enqueueManyWith data r).1 = min (contiguousWindow (rewind r)) data.length := rfl
  have hcw : contiguousWindow (rewind r) = min r.window (r.capacity - (rewind r).getIdx r.length) := by
    rw [contiguousWindow, RingBuffer.window, hlen, hcap, hdef]
  have hlen' : (enqueueManyWith data r).2.length = (rewind r).length + (enqueueManyWith data r).1 := rfl
  have hcap' : (enqueueManyWith data r).2.capacity = (rewind r).capacity := rfl
  have hidx' : ∀ k, (enqueueManyWith data r).2.getIdx k = (rewind r).getIdx k := fun _ => rfl
  have hcell' : ∀ k, cell (enqueueManyWith data r).2 k =
      cell (copyAt ((rewind r).getIdx (rewind r).length) (data.take (enqueueManyWith data r).1) (rewind r)) k :=
    fun _ => rfl
  dsimp only
  generalize enqueueManyWith data r = p at hsize hlen' hcap' hidx' hcell' ⊢
  rw [hlen] at hlen' hcell'
  rw [hcw] at hsize
  have htake : (data.take p.1).length = p.1 := by rw [List.length_take]; omega
  refine ⟨?_, hcap'.trans hcap, hlen', by omega, ?_⟩
  · rw [← hlist]
    apply List.ext_getElem
    · simp [htake, hlen, hlen']
    · intro i h₁ h₂
      have hi : i < r.length + p.1 := by simpa [hlen'] using h₁
      have hbound : r.length + (data.take p.1).length ≤ (rewind r).capacity := by
        rw [htake, hcap]
        omega
      have hslice : (rewind r).getIdx r.length + (data.take p.1).length ≤ (rewind r).capacity := by
        have hlt := getIdx_lt (rewind r) (by omega) r.length
        rw [htake, hcap] at *
        omega
      have hcopy := cell_copyAt hbound hslice (show i < (rewind r).capacity by rw [hcap]; omega)
      simp only [toList_eq, List.getElem_map, List.getElem_range, hcell', hcopy, List.getElem_append,
        List.length_map, List.length_range, hlen]
      split_ifs with h₃ h₄ h₄
      · omega
      · rw [List.getD_eq_getElem]
      · rfl
      · omega
  · by_cases hfull : p.1 = min r.window data.length
    · exact Or.inl hfull
    · right
      have hne : r.length ≠ 0 := by
        intro h0
        rw [h0, hzero h0] at hsize
        omega
      have hlt := getIdx_lt (rewind r) (by omega) r.length
      have hwrap : (rewind r).getIdx r.length + p.1 = (rewind r).capacity := by omega
      rw [hidx', hlen', getIdx_wrap (by omega) hwrap]
      exact ⟨by omega, rfl⟩

theorem enqueueSlice_spec (data : List α) (r : RingBuffer α) :
    (enqueueSlice data r).1 = min r.window data.length ∧
      (enqueueSlice data r).2.toList = r.toList ++ data.take (min r.window data.length) ∧
      (enqueueSlice data r).2.capacity = r.capacity := by
  obtain ⟨hl₁, hc₁, hn₁, hs₁, hor⟩ := enqueueManyWith_spec data r
  obtain ⟨hl₂, hc₂, hn₂, hs₂, _⟩ := enqueueManyWith_spec (data.drop (enqueueManyWith data r).1) (enqueueManyWith data r).2
  have hdef : r.window = r.capacity - r.length := rfl
  have hle := r.length_le
  have hwin : (enqueueManyWith data r).2.window = r.window - (enqueueManyWith data r).1 := by
    rw [RingBuffer.window, hn₁, hc₁, hdef, Nat.sub_sub]
  have hsum : (enqueueManyWith data r).1 +
      (enqueueManyWith (data.drop (enqueueManyWith data r).1) (enqueueManyWith data r).2).1 =
        min r.window data.length := by
    rw [hwin, List.length_drop] at hs₂
    rcases hor with hfull | ⟨hne, hidx⟩
    · omega
    · have hrew : rewind (enqueueManyWith data r).2 = (enqueueManyWith data r).2 := by rw [rewind, if_neg hne]
      have hcw : contiguousWindow (enqueueManyWith data r).2 = (enqueueManyWith data r).2.window := by
        rw [contiguousWindow, hidx]
        exact min_eq_left (Nat.sub_le _ _)
      have hsize : (enqueueManyWith (data.drop (enqueueManyWith data r).1) (enqueueManyWith data r).2).1 =
          min (contiguousWindow (rewind (enqueueManyWith data r).2)) (data.drop (enqueueManyWith data r).1).length := rfl
      rw [hrew, hcw, hwin, List.length_drop] at hsize
      omega
  rw [enqueueSlice]
  dsimp only
  refine ⟨hsum, ?_, hc₂.trans hc₁⟩
  rw [hl₂, hl₁, List.append_assoc, ← List.take_add, hsum]

end SmoltcpS3.Smoltcp.RandomAccess

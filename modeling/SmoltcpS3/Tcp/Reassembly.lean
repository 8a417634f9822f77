import SmoltcpS3.Tcp.Process

/-! The receive buffer and the assembler together: octets may come in any order, and what lies in the
buffer is always the stream of the remote end. -/

namespace SmoltcpS3.Tcp

open Smoltcp RandomAccess

variable {n : ℕ}

def Filled (assembler : Assembler n) (rx : RingBuffer UInt8) (k : ℕ) : Prop :=
  k < rx.length ∨ (rx.length ≤ k ∧ assembler.Present (k - rx.length))

def Holds (stream : List UInt8) (start : ℕ) (assembler : Assembler n) (rx : RingBuffer UInt8) : Prop :=
  ∀ k, Filled assembler rx k → k < rx.capacity ∧ stream[start + k]? = some (cell rx k)

section Buffer

variable {stream : List UInt8} {start : ℕ} {assembler assembler' : Assembler n} {rx rx' : RingBuffer UInt8}

lemma Holds.toList_prefix (h : Holds stream start assembler rx) : rx.toList <+: stream.drop start := by
  rw [List.prefix_iff_getElem?]
  intro k hk
  have hlen : k < rx.length := by simpa using hk
  rw [List.getElem?_drop, (h k (Or.inl hlen)).2]
  simp [toList_eq]

lemma dequeueAllocated_contiguous (rx : RingBuffer UInt8) :
    dequeueAllocated rx.contiguous.length rx = some rx.dequeueMany.2 := by
  rw [dequeueAllocated, if_pos (by rw [RingBuffer.contiguous_length]; omega)]
  rfl

lemma Holds.dequeueMany (h : Holds stream start assembler rx) :
    Holds stream (start + rx.dequeueMany.1.length) assembler rx.dequeueMany.2 := by
  obtain ⟨hle, hcap, hlen, hcell⟩ := dequeueAllocated_eq_some (dequeueAllocated_contiguous rx)
  intro k hk
  have hfilled : Filled assembler rx (rx.contiguous.length + k) := by
    rcases hk with hk | ⟨hk, hpresent⟩
    · exact Or.inl (by omega)
    · refine Or.inr ⟨by omega, ?_⟩
      rwa [show rx.contiguous.length + k - rx.length = k - rx.dequeueMany.2.length by omega]
  obtain ⟨hlt, hget⟩ := h _ hfilled
  refine ⟨by omega, ?_⟩
  rw [hcell, ← hget]
  congr 1
  exact Nat.add_assoc _ _ _

theorem Holds.placePayload (h : Holds stream start assembler rx) {payload : List UInt8} {offset contigLen : ℕ}
    (hfit : offset + payload.length ≤ rx.window) (hpayload : payload <+: stream.drop (start + (rx.length + offset)))
    (hadd : assembler.addThenRemoveFront offset payload.length = some (contigLen, assembler')) :
    ∃ rx', Socket.placePayload payload offset contigLen rx = some rx' ∧ Holds stream start assembler' rx' ∧
      rx'.capacity = rx.capacity ∧ rx'.length = rx.length + contigLen := by
  have hfront := Assembler.front_addThenRemoveFront hadd
  have hwindow : rx.window = rx.capacity - rx.length := rfl
  set rx₁ := (writeUnallocated offset payload rx).2 with hrx₁
  have hcap₁ : rx₁.capacity = rx.capacity := rfl
  have hlen₁ : rx₁.length = rx.length := rfl
  -- What the cells of the old and of the new octets hold.
  have hcells : ∀ k, (Filled assembler rx k ∨ (rx.length + offset ≤ k ∧ k < rx.length + offset + payload.length)) →
      k < rx.capacity ∧ stream[start + k]? = some (cell rx₁ k) := by
    intro k hk
    have hlt : k < rx.capacity := by
      rcases hk with hk | hk
      · exact (h k hk).1
      · omega
    refine ⟨hlt, ?_⟩
    rw [hrx₁, cell_writeUnallocated offset payload rx hlt, List.take_of_length_le (by omega)]
    by_cases hin : rx.length + offset ≤ k ∧ k < rx.length + offset + payload.length
    · rw [if_pos hin.1, List.getD_eq_getElem _ _ (by omega)]
      have hget := List.prefix_iff_getElem?.mp hpayload (k - (rx.length + offset)) (by omega)
      rw [List.getElem?_drop] at hget
      rw [← hget]
      congr 1
      omega
    · have hold : stream[start + k]? = some (cell rx k) := (h k (hk.resolve_right hin)).2
      rw [hold]
      split_ifs with hge
      · rw [List.getD_eq_default _ _ (by omega)]
      · rfl
  -- The last octet that becomes readable is one of those, so that the assertion of the buffer holds.
  have hcount : contigLen ≤ rx₁.window := by
    by_cases hzero : contigLen = 0
    · omega
    · have hlast := hfront.before (contigLen - 1) (by dsimp only; omega)
      have hfill : rx.length + (contigLen - 1) < rx.capacity := by
        apply (hcells _ _).1
        rcases hlast with hlast | hlast
        · exact Or.inl (Or.inr ⟨by omega, by simpa using hlast⟩)
        · exact Or.inr (by omega)
      have : rx₁.window = rx.capacity - rx.length := rfl
      omega
  have hplace : ∃ rx', Socket.placePayload payload offset contigLen rx = some rx' ∧ rx'.capacity = rx.capacity ∧
      rx'.length = rx.length + contigLen ∧ ∀ k, cell rx' k = cell rx₁ k := by
    by_cases hzero : contigLen = 0
    · exact ⟨rx₁, by rw [Socket.placePayload]; simp [hzero, ← hrx₁], rfl, by omega, fun _ => rfl⟩
    · obtain ⟨rx', hrx'⟩ : ∃ rx', RandomAccess.enqueueUnallocated contigLen rx₁ = some rx' := by
        rw [RandomAccess.enqueueUnallocated, dif_pos hcount]
        exact ⟨_, rfl⟩
      obtain ⟨_, hcap, hlen, hcell⟩ := enqueueUnallocated_eq_some hrx'
      exact ⟨rx', by rw [Socket.placePayload, if_pos hzero, ← hrx₁, hrx'], hcap, by omega, hcell⟩
  obtain ⟨rx', hrx', hcap', hlen', hcell'⟩ := hplace
  refine ⟨rx', hrx', ?_, hcap', hlen'⟩
  intro k hk
  rw [hcell', hcap']
  apply hcells k
  by_cases hlt : k < rx.length
  · exact Or.inl (Or.inl hlt)
  · have hP : assembler.Present (k - rx.length) ∨
        (offset ≤ k - rx.length ∧ k - rx.length < offset + payload.length) := by
      rcases hk with hk | ⟨hk, hpresent⟩
      · exact hfront.before _ (by dsimp only; omega)
      · have hafter := (hfront.after (k - rx'.length)).mp hpresent
        dsimp only at hafter
        rwa [show contigLen + (k - rx'.length) = k - rx.length by omega] at hafter
    rcases hP with hP | hP
    · exact Or.inl (Or.inr ⟨by omega, hP⟩)
    · exact Or.inr (by omega)

end Buffer

end SmoltcpS3.Tcp

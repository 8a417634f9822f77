import SmoltcpS3.Wire.TcpPacket

namespace SmoltcpS3.Wire

open BigEndian Checksum

def pseudoSum (src dst : Ipv4Address) (length : ℕ) : ℕ :=
  [wordSum src.octets, wordSum dst.octets, wordSum ([0, 6] ++ encode 2 length)].sum

lemma pseudoSum_pos (src dst : Ipv4Address) (length : ℕ) : 0 < pseudoSum src dst length := by
  have hproto : wordSum ([0, 6] ++ encode 2 length) = 6 + wordSum (encode 2 length) := wordSum_append (by rfl) _
  simp only [pseudoSum, List.sum_cons, List.sum_nil, hproto]
  omega

lemma pseudoHeaderV4_folds (src dst : Ipv4Address) (length : ℕ) :
    Folds (pseudoSum src dst length) (pseudoHeaderV4 src dst 6 length) := by
  apply combine_folds
  · have hoctets : ∀ x : Ipv4Address, x.octets.length < 2 ^ 17 := by
      intro x
      rw [Ipv4Address.octets]
      simp
    refine .cons (data_folds (hoctets src)) (.cons (data_folds (hoctets dst)) (.cons (data_folds ?_) .nil))
    rw [List.length_append, length_encode]
    decide
  · simp

namespace Packet

variable {p : Packet} (src dst : Ipv4Address)

lemma sum_folds (h : p.buffer.length < 2 ^ 17) :
    Folds (pseudoSum src dst p.buffer.length + wordSum p.buffer) (p.sum src dst) := by
  have hsum := combine_folds (.cons (pseudoHeaderV4_folds src dst p.buffer.length) (.cons (data_folds h) .nil))
    (by simp)
  rwa [List.sum_cons, List.sum_cons, List.sum_nil, Nat.add_zero] at hsum

lemma verifyChecksum_iff (h : p.buffer.length < 2 ^ 17) :
    p.verifyChecksum src dst = true ↔ (pseudoSum src dst p.buffer.length + wordSum p.buffer) % 65535 = 0 := by
  have hpos := pseudoSum_pos src dst p.buffer.length
  rw [verifyChecksum, beq_iff_eq, (sum_folds src dst h).eq_max_iff (by omega)]

def setWord (p : Packet) (i : ℕ) (v : UInt16) (h : 2 * i + 2 ≤ p.buffer.length) : Packet :=
  ⟨put (2 * i) (encode 2 v.toNat) p.buffer, header_le_put p.header_le (.inr (by rwa [length_encode]))⟩

def word (p : Packet) (i : ℕ) : ℕ := decode (extract (2 * i) 2 p.buffer)

lemma wordSum_setWord {i : ℕ} (v : UInt16) (h : 2 * i + 2 ≤ p.buffer.length) :
    wordSum (p.setWord i v h).buffer + p.word i = wordSum p.buffer + v.toNat := wordSum_put h v.toNat_lt

lemma length_setWord {i : ℕ} (v : UInt16) (h : 2 * i + 2 ≤ p.buffer.length) :
    (p.setWord i v h).buffer.length = p.buffer.length := length_put (by rwa [length_encode])

lemma verifyChecksum_fillChecksum (h : p.buffer.length < 2 ^ 17) :
    (p.fillChecksum src dst).verifyChecksum src dst = true := by
  set cleared := p.set .checksum 0 with hcleared
  have hlen : cleared.buffer.length = p.buffer.length := p.length_set _ _
  have hfits : 2 * 8 + 2 ≤ cleared.buffer.length := by
    have := p.header_le
    rw [fixedLen] at this
    omega
  have hfill : p.fillChecksum src dst = cleared.setWord 8 (~~~ cleared.sum src dst) hfits := rfl
  have hword : cleared.word 8 = 0 := p.get_set_self .checksum (by decide)
  have hsum := wordSum_setWord (~~~ cleared.sum src dst) hfits
  have hmod := (sum_folds src dst (p := cleared) (by omega)).modEq
  have hlt := (cleared.sum src dst).toNat_lt
  have hnot : (~~~ cleared.sum src dst).toNat = 65535 - (cleared.sum src dst).toNat := by
    rw [UInt16.toNat_not]
    rfl
  rw [hfill, verifyChecksum_iff src dst (by rw [length_setWord]; omega), length_setWord]
  rw [Nat.ModEq] at hmod
  omega

lemma verifyChecksum_setWord (hlen : p.buffer.length < 2 ^ 17) (hvalid : p.verifyChecksum src dst = true) {i : ℕ}
    (v : UInt16) (h : 2 * i + 2 ≤ p.buffer.length) :
    (p.setWord i v h).verifyChecksum src dst = true ↔ v.toNat % 65535 = p.word i % 65535 := by
  rw [verifyChecksum_iff src dst hlen] at hvalid
  have hsum := wordSum_setWord v h
  rw [verifyChecksum_iff src dst (by rwa [length_setWord]), length_setWord]
  omega

/-- A packet that is filled in is accepted. One that differs from it in one 16-bit word is not, except that 0 and
`0xffff` are the same to the sum. -/
theorem fillChecksum_detects (p : Packet) (src dst : Ipv4Address) (hlen : p.buffer.length ≤ 65535) :
    (p.fillChecksum src dst).verifyChecksum src dst = true ∧
      ∀ i v, ∀ h : 2 * i + 2 ≤ (p.fillChecksum src dst).buffer.length,
        ((p.fillChecksum src dst).setWord i v h).verifyChecksum src dst = true ↔
          v.toNat % 65535 = (p.fillChecksum src dst).word i % 65535 := by
  have hvalid := verifyChecksum_fillChecksum src dst (p := p) (by omega)
  have hlength : (p.fillChecksum src dst).buffer.length = p.buffer.length := by
    rw [fillChecksum, length_set, length_set]
  exact ⟨hvalid, fun i v h => verifyChecksum_setWord src dst (by omega) hvalid v h⟩

theorem fillChecksum_detects_blank :
    let p : Packet := ⟨List.replicate 20 0, by decide⟩
    (p.fillChecksum ⟨10, 0, 0, 2⟩ ⟨10, 0, 0, 1⟩).verifyChecksum ⟨10, 0, 0, 2⟩ ⟨10, 0, 0, 1⟩ = true ∧
      ((p.fillChecksum ⟨10, 0, 0, 2⟩ ⟨10, 0, 0, 1⟩).setWord 3 1 (by decide)).verifyChecksum ⟨10, 0, 0, 2⟩ ⟨10, 0, 0, 1⟩ =
        false := by
  intro p
  have h := fillChecksum_detects p ⟨10, 0, 0, 2⟩ ⟨10, 0, 0, 1⟩ (by decide)
  refine ⟨h.1, ?_⟩
  rw [← Bool.not_eq_true, h.2 3 1 (by decide)]
  decide

end Packet

end SmoltcpS3.Wire

import Mathlib.Data.Nat.Bitwise
import Mathlib.Data.Nat.Digits.Defs
import Mathlib.Data.UInt

namespace SmoltcpS3.ByteMemory

abbrev Memory := ℕ → UInt8

def AgreeOn (lo len : ℕ) (m m' : Memory) : Prop := ∀ x, lo ≤ x → x < lo + len → m' x = m x

lemma AgreeOn.trans {lo len : ℕ} {m m' m'' : Memory} (h : AgreeOn lo len m m')
    (h' : AgreeOn lo len m' m'') : AgreeOn lo len m m'' := by
  intro x hlo hhi
  rw [h' x hlo hhi, h x hlo hhi]

lemma AgreeOn.mono {lo len lo' len' : ℕ} {m m' : Memory} (h : AgreeOn lo len m m') (hlo : lo ≤ lo')
    (hhi : lo' + len' ≤ lo + len) : AgreeOn lo' len' m m' := by
  intro x hx hx'
  exact h x (hlo.trans hx) (hx'.trans_le hhi)

section Words

def wordByte (v : UInt64) (i : ℕ) : UInt8 := UInt8.ofNat (v.toNat / 256 ^ i)

def writeWord (m : Memory) (a : ℕ) (v : UInt64) : Memory :=
  fun x => if a ≤ x ∧ x < a + 8 then wordByte v (x - a) else m x

def readWord (m : Memory) (a : ℕ) : UInt64 :=
  UInt64.ofNat (Nat.ofDigits 256 ((List.range 8).map fun i => (m (a + i)).toNat))

lemma readWord_congr {m m' : Memory} {a : ℕ} (h : AgreeOn a 8 m m') : readWord m' a = readWord m a := by
  have hbytes : (List.range 8).map (fun i => (m' (a + i)).toNat) =
      (List.range 8).map fun i => (m (a + i)).toNat := by
    apply List.map_congr_left
    intro i hi
    rw [List.mem_range] at hi
    rw [h (a + i) (by omega) (by omega)]
  rw [readWord, readWord, hbytes]

lemma ofDigits_bytes (n k : ℕ) (h : n < 256 ^ k) :
    Nat.ofDigits 256 ((List.range k).map fun i => n / 256 ^ i % 256) = n := by
  induction k generalizing n with
  | zero =>
    simp at h
    simp [h]
  | succ k ih =>
    have hlt : n / 256 < 256 ^ k := by
      rw [Nat.div_lt_iff_lt_mul (by decide)]
      rwa [Nat.pow_succ] at h
    have hshift : (List.range k).map (fun i => n / 256 ^ (i + 1) % 256) =
        (List.range k).map fun i => n / 256 / 256 ^ i % 256 := by
      apply List.map_congr_left
      intro i _
      rw [Nat.div_div_eq_div_mul, Nat.pow_succ']
    rw [List.range_succ_eq_map, List.map_cons, List.map_map, Nat.ofDigits_cons]
    have hih := ih (n / 256) hlt
    rw [← hshift] at hih
    change _ + 256 * Nat.ofDigits 256 ((List.range k).map fun i => n / 256 ^ (i + 1) % 256) = n
    rw [hih, Nat.pow_zero, Nat.div_one]
    exact Nat.mod_add_div n 256

theorem readWord_writeWord (m : Memory) (a : ℕ) (v : UInt64) : readWord (writeWord m a v) a = v := by
  have hbytes : (List.range 8).map (fun i => (writeWord m a v (a + i)).toNat) =
      (List.range 8).map fun i => v.toNat / 256 ^ i % 256 := by
    apply List.map_congr_left
    intro i hi
    rw [List.mem_range] at hi
    rw [writeWord, if_pos ⟨by omega, by omega⟩, Nat.add_sub_cancel_left, wordByte, UInt8.toNat_ofNat']
  rw [readWord, hbytes, ofDigits_bytes v.toNat 8 v.toNat_lt, UInt64.ofNat_toNat]

lemma agreeOn_writeWord {m : Memory} {a lo len : ℕ} (v : UInt64) (h : lo + len ≤ a ∨ a + 8 ≤ lo) :
    AgreeOn lo len m (writeWord m a v) := by
  intro x hlo hhi
  rw [writeWord, if_neg (by omega)]

end Words

section Copies

def copy (m : Memory) (src dst len : ℕ) : Memory :=
  fun x => if dst ≤ x ∧ x < dst + len then m (src + (x - dst)) else m x

lemma copy_apply (m : Memory) (src dst : ℕ) {len k : ℕ} (h : k < len) :
    copy m src dst len (dst + k) = m (src + k) := by
  rw [copy, if_pos ⟨by omega, by omega⟩, Nat.add_sub_cancel_left]

lemma agreeOn_copy {m : Memory} {src dst len lo len' : ℕ} (h : lo + len' ≤ dst ∨ dst + len ≤ lo) :
    AgreeOn lo len' m (copy m src dst len) := by
  intro x hlo hhi
  rw [copy, if_neg (by omega)]

end Copies

section Rounding

lemma toNat_and_not_mask (x mask : UInt64) {e : ℕ} (h : mask.toNat = 2 ^ e - 1) :
    (x &&& ~~~mask).toNat = x.toNat / 2 ^ e * 2 ^ e := by
  have hmask : ∀ j, mask.toBitVec.getLsbD j = decide (j < e) := by
    intro j
    rw [BitVec.getLsbD, ← Nat.testBit_two_pow_sub_one, ← h]
    rfl
  have hx : ∀ j, x.toBitVec.getLsbD j = x.toNat.testBit j := fun j => rfl
  apply Nat.eq_of_testBit_eq
  intro j
  have hleft : (x &&& ~~~mask).toNat.testBit j = (x.toBitVec &&& ~~~mask.toBitVec).getLsbD j := rfl
  rw [hleft, BitVec.getLsbD_and, BitVec.getLsbD_not, hmask, hx, Nat.mul_comm, Nat.testBit_two_pow_mul,
    Nat.testBit_div_two_pow]
  by_cases hj : j < e
  · simp [hj]
  · have he : j - e + e = j := by omega
    by_cases h64 : j < 64
    · simp [hj, h64, Nat.le_of_not_lt hj]
    · have hlt : x.toNat < 2 ^ j := x.toNat_lt.trans_le (Nat.pow_le_pow_right (by decide) (by omega))
      simp [Nat.testBit_lt_two_pow hlt, he]

theorem roundUp_spec {x a : UInt64} {e : ℕ} (ha : a.toNat = 2 ^ e)
    (hfit : x.toNat + a.toNat ≤ 2 ^ 64) :
    (x + a - 1).toNat = x.toNat + a.toNat - 1 ∧ x.toNat ≤ ((x + a - 1) &&& ~~~(a - 1)).toNat ∧
      ((x + a - 1) &&& ~~~(a - 1)).toNat < x.toNat + a.toNat ∧
      a.toNat ∣ ((x + a - 1) &&& ~~~(a - 1)).toNat := by
  have hpos : 0 < a.toNat := ha ▸ Nat.two_pow_pos e
  have hone : (1 : UInt64) ≤ a := UInt64.le_iff_toNat_le.mpr hpos
  have hmask : (a - 1).toNat = 2 ^ e - 1 := by
    rw [UInt64.toNat_sub_of_le _ _ hone, ha]
    rfl
  have hsum : (x + a - 1).toNat = x.toNat + a.toNat - 1 := by
    rw [UInt64.toNat_sub, UInt64.toNat_add, UInt64.toNat_one]
    omega
  rw [toNat_and_not_mask _ _ hmask, hsum, ← ha]
  have hdiv := Nat.div_add_mod (x.toNat + a.toNat - 1) a.toNat
  have hmod := Nat.mod_lt (x.toNat + a.toNat - 1) hpos
  rw [Nat.mul_comm] at hdiv
  exact ⟨rfl, by omega, by omega, Nat.dvd_mul_left _ _⟩

end Rounding

end SmoltcpS3.ByteMemory

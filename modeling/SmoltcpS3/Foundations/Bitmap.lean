import Mathlib.Data.Nat.Notation
import Mathlib.Tactic.IntervalCases

namespace SmoltcpS3.Bitmaps

abbrev Bitmap (n : ℕ) := Vector UInt8 n

def mask (i : ℕ) : UInt8 := 1 <<< UInt8.ofNat (i % 8)

variable {n : ℕ}

def setBit (v : Bitmap n) (i : ℕ) (h : i / 8 < n) : Bitmap n := Vector.set v (i / 8) (v[i / 8] ||| mask i)

def testBit (v : Bitmap n) (i : ℕ) (h : i / 8 < n) : Bool := v[i / 8] &&& mask i != 0

lemma mask_toBitVec (i : ℕ) : (mask i).toBitVec = BitVec.twoPow 8 (i % 8) := by
  have hi : i % 8 < 8 := Nat.mod_lt _ (by decide)
  rw [mask]
  generalize i % 8 = k at *
  interval_cases k <;> rfl

lemma and_mask_ne_zero (b : UInt8) (i : ℕ) :
    (b &&& mask i != 0) = b.toBitVec.getLsbD (i % 8) := by
  have hi : i % 8 < 8 := Nat.mod_lt _ (by decide)
  rw [Bool.eq_iff_iff, bne_iff_ne, ne_eq, UInt8.eq_iff_toBitVec_eq, UInt8.toBitVec_and,
    mask_toBitVec, BitVec.and_twoPow]
  cases b.toBitVec.getLsbD (i % 8) with
  | false => simp
  | true =>
    simp only [if_true, iff_true]
    generalize i % 8 = k at *
    interval_cases k <;> decide

lemma testBit_setBit (v : Bitmap n) {i j : ℕ} (hi : i / 8 < n) (hj : j / 8 < n) :
    testBit (setBit v i hi) j hj = (decide (i = j) || testBit v j hj) := by
  simp only [testBit, and_mask_ne_zero, setBit]
  by_cases hb : i / 8 = j / 8
  · have hg : (Vector.set v (i / 8) (v[i / 8] ||| mask i))[j / 8] = v[j / 8] ||| mask i := by
      simp [hb]
    rw [hg, UInt8.toBitVec_or, mask_toBitVec, BitVec.getLsbD_or, BitVec.getLsbD_twoPow, Bool.or_comm]
    congr 1
    have hj8 : j % 8 < 8 := Nat.mod_lt _ (by decide)
    have hi8 : i % 8 < 8 := Nat.mod_lt _ (by decide)
    simp only [hi8, decide_true, Bool.true_and, decide_eq_decide]
    omega
  · rw [Vector.getElem_set_ne _ _ hb]
    have : i ≠ j := by rintro rfl; exact hb rfl
    simp [this]

lemma testBit_replicate {i : ℕ} (hi : i / 8 < n) : testBit (Vector.replicate n 0) i hi = false := by
  simp [testBit]

end SmoltcpS3.Bitmaps

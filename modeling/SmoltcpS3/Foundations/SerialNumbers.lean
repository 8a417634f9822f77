import Mathlib.Data.BitVec
import Mathlib.Tactic.Abel

/-! Numbers modulo `2 ^ w` that stand for integers, and the signed distance that compares them. -/

namespace SmoltcpS3.SerialNumbers

variable {w : ℕ}

def diff (a b : BitVec w) : ℤ := (a - b).toInt

/-- The number that stands for `x` when `base` stands for 0. -/
def place (base : BitVec w) (x : ℤ) : BitVec w := base + BitVec.ofInt w x

@[simp] lemma place_zero (base : BitVec w) : place base 0 = base := by
  simp [place]

@[simp] lemma place_place (base : BitVec w) (x y : ℤ) : place (place base x) y = place base (x + y) := by
  rw [place, place, place, BitVec.ofInt_add, BitVec.add_assoc]

lemma place_add (base : BitVec w) (x : ℤ) (n : ℕ) : place base x + BitVec.ofNat w n = place base (x + n) := by
  rw [place, place, BitVec.ofInt_add, BitVec.ofInt_natCast, BitVec.add_assoc]

lemma place_sub_place (base : BitVec w) (x y : ℤ) : place base x - place base y = BitVec.ofInt w (x - y) := by
  have hofInt : BitVec.ofInt w x = BitVec.ofInt w (x - y) + BitVec.ofInt w y := by
    rw [← BitVec.ofInt_add, Int.sub_add_cancel]
  rw [place, place, hofInt]
  abel

theorem diff_place (hw : 0 < w) (base : BitVec w) {x y : ℤ} (hl : -2 ^ (w - 1) ≤ x - y)
    (hu : x - y < 2 ^ (w - 1)) : diff (place base x) (place base y) = x - y := by
  rw [diff, place_sub_place]
  exact BitVec.toInt_ofInt_eq_self hw hl hu

lemma exists_place (base a : BitVec w) (y : ℤ) :
    ∃ x, a = place base x ∧ -2 ^ (w - 1) ≤ x - y ∧ x - y < 2 ^ (w - 1) := by
  refine ⟨y + diff a (place base y), ?_, ?_, ?_⟩
  · have hself : BitVec.ofInt w (diff a (place base y)) = a - place base y := BitVec.ofInt_toInt
    rw [place, BitVec.ofInt_add, ← BitVec.add_assoc, hself]
    change a = place base y + (a - place base y)
    abel
  · have := BitVec.le_toInt (a - place base y)
    simp only [diff]
    omega
  · have := BitVec.toInt_lt (x := a - place base y)
    simp only [diff]
    omega

end SmoltcpS3.SerialNumbers

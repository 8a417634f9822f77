import Mathlib.Data.Nat.Bitwise

/-! The Toeplitz hash over a key of bits: the windows of the key at the set input bits, added
up without carry. -/

namespace SmoltcpS3.Toeplitz

variable {w : ℕ} {key : ℕ → Bool}

def window : (w : ℕ) → (ℕ → Bool) → ℕ → BitVec w
  | 0, _, _ => 0#0
  | w + 1, key, i => BitVec.cons (key i) (window w key (i + 1))

def hash (w : ℕ) (key : ℕ → Bool) : ℕ → List Bool → BitVec w
  | _, [] => 0
  | i, b :: bs => (if b then window w key i else 0) ^^^ hash w key (i + 1) bs

lemma getLsbD_window (i : ℕ) {j : ℕ} (h : j < w) :
    (window w key i).getLsbD j = key (i + (w - 1 - j)) := by
  induction w generalizing i with
  | zero => omega
  | succ w ih =>
    rw [window, BitVec.getLsbD_cons]
    split_ifs with hj
    · congr 1
      omega
    · rw [ih (i + 1) (by omega)]
      congr 1
      omega

lemma window_succ (h : 0 < w) (i : ℕ) :
    window w key (i + 1) = (window w key i <<< 1) ||| (BitVec.ofBool (key (i + w))).setWidth w := by
  apply BitVec.eq_of_getLsbD_eq
  intro j hj
  rw [getLsbD_window _ hj, BitVec.getLsbD_or, BitVec.getLsbD_shiftLeft, BitVec.getLsbD_setWidth,
    BitVec.getLsbD_ofBool]
  by_cases h0 : j = 0
  · subst h0
    simp [h]
    congr 1
    omega
  · have hlt : ¬ j < 1 := by omega
    simp only [hj, h0, hlt, decide_true, decide_false, Bool.not_false, Bool.true_and,
      Bool.and_false, Bool.false_and, Bool.or_false]
    rw [getLsbD_window _ (by omega)]
    congr 1
    omega

lemma hash_append (i : ℕ) (a b : List Bool) :
    hash w key i (a ++ b) = hash w key i a ^^^ hash w key (i + a.length) b := by
  induction a generalizing i with
  | nil => simp [hash]
  | cons x a ih =>
    rw [List.cons_append, hash, hash, ih, BitVec.xor_assoc, List.length_cons, Nat.add_right_comm,
      Nat.add_assoc]

lemma getLsbD_hash_of_short {n : ℕ} (hkey : ∀ p, n ≤ p → key p = false) {i j : ℕ} (hj : j < w)
    (hlt : j + n < w + i) (bits : List Bool) : (hash w key i bits).getLsbD j = false := by
  induction bits generalizing i with
  | nil => simp [hash]
  | cons b bs ih =>
    have hwin : (window w key i).getLsbD j = false := by
      rw [getLsbD_window i hj]
      exact hkey _ (by omega)
    have hrest := ih (i := i + 1) (by omega)
    cases b with
    | false => simp [hash, hrest]
    | true => simp [hash, hrest, hwin]

lemma hash_mod_of_short {n e : ℕ} (hkey : ∀ p, n ≤ p → key p = false) (he : e + n ≤ w)
    (bits : List Bool) : (hash w key 0 bits).toNat % 2 ^ e = 0 := by
  apply Nat.eq_of_testBit_eq
  intro j
  rw [Nat.testBit_mod_two_pow, Nat.zero_testBit]
  by_cases hj : j < e
  · have h := getLsbD_hash_of_short hkey (show j < w by omega) (show j + n < w + 0 by omega) bits
    simpa [BitVec.getLsbD, hj] using h
  · simp [hj]

-- Of a key that ends at bit `n`, only the first input bit brings that bit to place `e`.
lemma hash_mod_of_last {n e : ℕ} (hkey : ∀ p, n < p → key p = false) (he : e + n + 1 = w) (b : Bool)
    (bits : List Bool) :
    (hash w key 0 (b :: bits)).toNat % 2 ^ (e + 1) = if b && key n then 2 ^ e else 0 := by
  apply Nat.eq_of_testBit_eq
  intro j
  have hright : (if b && key n then 2 ^ e else 0).testBit j = (b && key n && decide (e = j)) := by
    cases b && key n <;> simp [Nat.testBit_two_pow]
  rw [Nat.testBit_mod_two_pow, hright]
  by_cases hj : j < e + 1
  · have hrest : (hash w key 1 bits).getLsbD j = false :=
      getLsbD_hash_of_short (n := n + 1) hkey (by omega) (by omega) bits
    have hwin : (window w key 0).getLsbD j = key (w - 1 - j) := by
      rw [getLsbD_window 0 (by omega), Nat.zero_add]
    have hbit : (hash w key 0 (b :: bits)).getLsbD j = (b && key (w - 1 - j)) := by
      cases b <;> simp [hash, hrest, hwin]
    rw [show (hash w key 0 (b :: bits)).toNat.testBit j = _ from hbit]
    by_cases hje : e = j
    · simp [hje, show w - 1 - j = n by omega]
    · simp [hje, hkey (w - 1 - j) (by omega)]
  · have hje : e ≠ j := by omega
    simp [hj, hje]

/-- The windows of the key at the positions below `n` that `bits` sets, added up without carry. -/
def xorWindows (w : ℕ) (key bits : ℕ → Bool) (n : ℕ) : BitVec w :=
  ((List.range n).filter bits).foldl (fun acc i => acc ^^^ window w key i) 0

lemma xorWindows_succ (bits : ℕ → Bool) (n : ℕ) :
    xorWindows w key bits (n + 1) =
      xorWindows w key bits n ^^^ (if bits n then window w key n else 0) := by
  rw [xorWindows, xorWindows, List.range_succ, List.filter_append, List.foldl_append]
  cases hb : bits n with
  | true => simp [hb]
  | false => simp [hb]

theorem hash_map_range (bits : ℕ → Bool) (n : ℕ) :
    hash w key 0 ((List.range n).map bits) = xorWindows w key bits n := by
  induction n with
  | zero => rfl
  | succ n ih =>
    rw [List.range_succ, List.map_append, hash_append, ih, xorWindows_succ, List.length_map,
      List.length_range]
    simp [hash]

theorem hash_zipWith_xor (i : ℕ) {a b : List Bool} (h : a.length = b.length) :
    hash w key i (List.zipWith xor a b) = hash w key i a ^^^ hash w key i b := by
  induction a generalizing i b with
  | nil =>
    cases b with
    | nil => simp [hash]
    | cons y b => simp at h
  | cons x a ih =>
    cases b with
    | nil => simp at h
    | cons y b =>
      have hbit : (if xor x y then window w key i else 0) =
          (if x then window w key i else 0) ^^^ (if y then window w key i else 0) := by
        cases x <;> cases y <;> simp
      rw [List.zipWith_cons_cons, hash, hash, hash, ih (i + 1) (by simpa using h), hbit]
      ac_rfl

end SmoltcpS3.Toeplitz

import Mathlib.Data.UInt
import Mathlib.Algebra.Order.Ring.Nat

namespace SmoltcpS3.BigEndian

section Numbers

def decode (bytes : List UInt8) : ℕ := bytes.foldl (fun n b => 256 * n + b.toNat) 0

def encode : ℕ → ℕ → List UInt8
  | 0, _ => []
  | k + 1, n => encode k (n / 256) ++ [UInt8.ofNat n]

@[simp] lemma length_encode (k n : ℕ) : (encode k n).length = k := by
  induction k generalizing n with
  | zero => rfl
  | succ k ih => rw [encode, List.length_append, ih, List.length_singleton]

lemma decode_concat (bytes : List UInt8) (b : UInt8) : decode (bytes ++ [b]) = 256 * decode bytes + b.toNat := by
  rw [decode, List.foldl_append]
  rfl

lemma decode_lt (bytes : List UInt8) : decode bytes < 256 ^ bytes.length := by
  induction bytes using List.reverseRecOn with
  | nil => exact Nat.one_pos
  | append_singleton bytes b ih =>
    have hb := b.toNat_lt
    rw [decode_concat, List.length_append, List.length_singleton, pow_succ]
    omega

theorem decode_encode (k n : ℕ) : decode (encode k n) = n % 256 ^ k := by
  induction k generalizing n with
  | zero => rw [pow_zero, Nat.mod_one, encode, decode, List.foldl_nil]
  | succ k ih =>
    rw [encode, decode_concat, ih, UInt8.toNat_ofNat', pow_succ' 256, Nat.mod_mul, Nat.add_comm]

lemma decode_encode_of_lt {k n : ℕ} (h : n < 256 ^ k) : decode (encode k n) = n := by
  rw [decode_encode, Nat.mod_eq_of_lt h]

end Numbers

section Fields

variable {α : Type*}

def extract (pos len : ℕ) (buffer : List α) : List α := (buffer.drop pos).take len

def put (pos : ℕ) (new buffer : List α) : List α := buffer.take pos ++ new ++ buffer.drop (pos + new.length)

variable {pos : ℕ} {new buffer : List α}

lemma length_put (h : pos + new.length ≤ buffer.length) : (put pos new buffer).length = buffer.length := by
  simp only [put, List.length_append, List.length_take, List.length_drop]
  omega

lemma extract_put_self (h : pos ≤ buffer.length) : extract pos new.length (put pos new buffer) = new := by
  have hlen : (buffer.take pos).length = pos := List.length_take_of_le h
  rw [extract, put, List.append_assoc, List.drop_left' hlen, List.take_left]

lemma getElem?_put (h : pos + new.length ≤ buffer.length) (i : ℕ) :
    (put pos new buffer)[i]? = if pos ≤ i ∧ i < pos + new.length then new[i - pos]? else buffer[i]? := by
  have hlen : (buffer.take pos).length = pos := List.length_take_of_le (by omega)
  rw [put, List.append_assoc]
  by_cases hlt : i < pos
  · rw [if_neg (by omega), List.getElem?_append_left (by omega), List.getElem?_take_of_lt hlt]
  · rw [List.getElem?_append_right (by omega), hlen]
    by_cases hin : i < pos + new.length
    · rw [if_pos (by omega), List.getElem?_append_left (by omega)]
    · rw [if_neg (by omega), List.getElem?_append_right (by omega), List.getElem?_drop]
      congr 1
      omega

lemma extract_put_of_disjoint {i len : ℕ} (h : pos + new.length ≤ buffer.length)
    (hdis : i + len ≤ pos ∨ pos + new.length ≤ i) : extract i len (put pos new buffer) = extract i len buffer := by
  apply List.ext_getElem?
  intro j
  rw [extract, extract]
  by_cases hj : j < len
  · rw [List.getElem?_take_of_lt hj, List.getElem?_take_of_lt hj, List.getElem?_drop, List.getElem?_drop,
      getElem?_put h, if_neg (by omega)]
  · rw [List.getElem?_take_eq_none (by omega), List.getElem?_take_eq_none (by omega)]

lemma drop_put_of_le {i : ℕ} (h : pos + new.length ≤ buffer.length) (hi : pos + new.length ≤ i) :
    (put pos new buffer).drop i = buffer.drop i := by
  apply List.ext_getElem?
  intro j
  rw [List.getElem?_drop, List.getElem?_drop, getElem?_put h, if_neg (by omega)]

end Fields

end SmoltcpS3.BigEndian

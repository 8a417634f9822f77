import SmoltcpS3.Config
import SmoltcpS3.Foundations.BigEndian
import Mathlib.Data.Nat.ModEq
import Mathlib.Algebra.BigOperators.Group.List.Basic

namespace SmoltcpS3.Wire

open BigEndian

namespace Checksum

def propagateCarries (word : UInt32) : UInt16 :=
  let sum := (word >>> 16) + (word &&& 0xffff)
  (sum >>> 16).toUInt16 + sum.toUInt16

def sumPairs (accum : UInt32) : List UInt8 → UInt32 × List UInt8
  | a :: b :: rest => sumPairs (accum + UInt32.ofNat (decode [a, b])) rest
  | rest => (accum, rest)

def chunkSize : ℕ := 32

def sumChunks (accum : UInt32) (bytes : List UInt8) : UInt32 × List UInt8 :=
  if chunkSize ≤ bytes.length then sumChunks (sumPairs accum (bytes.take chunkSize)).1 (bytes.drop chunkSize)
  else (accum, bytes)
termination_by bytes.length
decreasing_by
  rw [List.length_drop]
  simp only [chunkSize] at *
  omega

def data (bytes : List UInt8) : UInt16 :=
  let chunks := sumChunks 0 bytes
  let pairs := sumPairs chunks.1 chunks.2
  propagateCarries (match pairs.2 with
    | value :: _ => pairs.1 + (value.toUInt32 <<< 8)
    | [] => pairs.1)

def combine (checksums : List UInt16) : UInt16 :=
  propagateCarries (checksums.foldl (fun accum word => accum + word.toUInt32) 0)

def pseudoHeaderV4 (src dst : Ipv4Address) (nextHeader : UInt8) (length : ℕ) : UInt16 :=
  combine [data src.octets, data dst.octets, data ([0, nextHeader] ++ encode 2 length)]

section Sums

def wordSum : List UInt8 → ℕ
  | a :: b :: rest => decode [a, b] + wordSum rest
  | [a] => decode [a, 0]
  | [] => 0

lemma wordSum_append {l : List UInt8} (h : l.length % 2 = 0) (l' : List UInt8) :
    wordSum (l ++ l') = wordSum l + wordSum l' := by
  induction l using wordSum.induct with
  | case1 a b rest ih =>
    rw [List.cons_append, List.cons_append, wordSum, wordSum, ih ?_, Nat.add_assoc]
    simp only [List.length_cons] at h
    omega
  | case2 a => simp at h
  | case3 => rw [List.nil_append, wordSum, Nat.zero_add]

lemma wordSum_pair (n : ℕ) (h : n < 65536) : wordSum (encode 2 n) = n := by
  rw [show wordSum (encode 2 n) = decode (encode 2 n) from rfl, decode_encode_of_lt h]

lemma wordSum_put {buffer : List UInt8} {i v : ℕ} (h : 2 * i + 2 ≤ buffer.length) (hv : v < 65536) :
    wordSum (put (2 * i) (encode 2 v) buffer) + decode (extract (2 * i) 2 buffer) = wordSum buffer + v := by
  have htake : (buffer.take (2 * i)).length % 2 = 0 := by
    rw [List.length_take_of_le (by omega)]
    omega
  have hword : extract (2 * i) 2 buffer ++ buffer.drop (2 * i + 2) = buffer.drop (2 * i) := by
    rw [extract, ← List.drop_drop, List.take_append_drop]
  have hlen : (extract (2 * i) 2 buffer).length = 2 := by
    rw [extract, List.length_take, List.length_drop]
    omega
  have hsum : wordSum (extract (2 * i) 2 buffer) = decode (extract (2 * i) 2 buffer) := by
    obtain ⟨a, b, hab⟩ := List.length_eq_two.mp hlen
    rw [hab]
    rfl
  have hput : wordSum (put (2 * i) (encode 2 v) buffer) =
      wordSum (buffer.take (2 * i)) + (v + wordSum (buffer.drop (2 * i + 2))) := by
    rw [put, List.append_assoc, wordSum_append htake, wordSum_append (by rw [length_encode]), wordSum_pair v hv,
      length_encode]
  have hbuffer : wordSum buffer = wordSum (buffer.take (2 * i)) +
      (decode (extract (2 * i) 2 buffer) + wordSum (buffer.drop (2 * i + 2))) := by
    rw [← hsum, ← wordSum_append (by rw [hlen]), hword, ← wordSum_append htake, List.take_append_drop]
  omega

lemma wordSum_le (l : List UInt8) : wordSum l ≤ 65535 * ((l.length + 1) / 2) := by
  have hpair : ∀ a b : UInt8, decode [a, b] ≤ 65535 := by
    intro a b
    have ha := a.toNat_lt
    have hb := b.toNat_lt
    simp only [decode, List.foldl_cons, List.foldl_nil]
    omega
  induction l using wordSum.induct with
  | case1 a b rest ih =>
    have := hpair a b
    simp only [wordSum, List.length_cons]
    omega
  | case2 a =>
    have := hpair a 0
    simpa [wordSum] using this
  | case3 => exact Nat.zero_le _

lemma sumPairs_eq (n : ℕ) (l : List UInt8) :
    ∃ m rest, sumPairs (UInt32.ofNat n) l = (UInt32.ofNat m, rest) ∧ m + wordSum rest = n + wordSum l ∧
      rest.length = l.length % 2 := by
  induction l using wordSum.induct generalizing n with
  | case1 a b rest ih =>
    obtain ⟨m, left, heq, hsum, hlen⟩ := ih (n + decode [a, b])
    refine ⟨m, left, ?_, ?_, ?_⟩
    · rw [sumPairs, ← UInt32.ofNat_add, heq]
    · rw [hsum, wordSum, Nat.add_assoc]
    · rw [hlen, List.length_cons, List.length_cons, Nat.add_assoc, Nat.add_mod_right]
  | case2 a => exact ⟨n, [a], rfl, rfl, rfl⟩
  | case3 => exact ⟨n, [], rfl, rfl, rfl⟩

lemma sumPairs_even (n : ℕ) {l : List UInt8} (h : l.length % 2 = 0) :
    (sumPairs (UInt32.ofNat n) l).1 = UInt32.ofNat (n + wordSum l) := by
  obtain ⟨m, rest, heq, hsum, hlen⟩ := sumPairs_eq n l
  rw [h, List.length_eq_zero_iff] at hlen
  subst hlen
  rw [heq, ← hsum, wordSum, Nat.add_zero]

lemma sumChunks_eq (n : ℕ) (l : List UInt8) :
    ∃ m, (sumChunks (UInt32.ofNat n) l).1 = UInt32.ofNat m ∧ m + wordSum (sumChunks (UInt32.ofNat n) l).2 = n + wordSum l := by
  induction hk : l.length using Nat.strong_induction_on generalizing n l with
  | _ k ih =>
    subst hk
    rw [sumChunks]
    by_cases h : chunkSize ≤ l.length
    · have htake : (l.take chunkSize).length = 32 := List.length_take_of_le h
      obtain ⟨m, hm, hsum⟩ := ih (l.drop chunkSize).length
        (by rw [List.length_drop, chunkSize] at *; omega) (n + wordSum (l.take chunkSize)) (l.drop chunkSize) rfl
      rw [if_pos h, sumPairs_even n (by rw [htake])]
      refine ⟨m, hm, ?_⟩
      rw [hsum, Nat.add_assoc, ← wordSum_append (by rw [htake]), List.take_append_drop]
    · rw [if_neg h]
      exact ⟨n, rfl, rfl⟩

lemma data_eq (l : List UInt8) : data l = propagateCarries (UInt32.ofNat (wordSum l)) := by
  obtain ⟨m, hm, hsum⟩ := sumChunks_eq 0 l
  rw [show UInt32.ofNat 0 = (0 : UInt32) from rfl] at hm hsum
  rw [Nat.zero_add] at hsum
  obtain ⟨k, rest, heq, hsum', hlen⟩ := sumPairs_eq m (sumChunks 0 l).2
  rw [data, hm, heq]
  dsimp only
  congr 1
  cases rest with
  | nil => rw [← hsum, ← hsum', wordSum, Nat.add_zero]
  | cons a rest =>
    have hnil : rest = [] := by
      rw [List.length_cons] at hlen
      exact List.length_eq_zero_iff.mp (by omega)
    have hshift : a.toUInt32 <<< 8 = UInt32.ofNat (wordSum [a]) := by
      have ha := a.toNat_lt
      apply UInt32.toNat_inj.mp
      rw [UInt32.toNat_shiftLeft, UInt8.toNat_toUInt32, UInt32.toNat_ofNat',
        show (8 : UInt32).toNat % 32 = 8 from rfl, Nat.shiftLeft_eq]
      simp only [wordSum, decode, List.foldl_cons, List.foldl_nil, UInt8.toNat_zero]
      omega
    subst hnil
    rw [← hsum, ← hsum', UInt32.ofNat_add, ← hshift]

end Sums

section Modulo

lemma toNat_propagateCarries (word : UInt32) :
    (propagateCarries word).toNat =
      (word.toNat / 65536 + word.toNat % 65536) / 65536 + (word.toNat / 65536 + word.toNat % 65536) % 65536 := by
  have hword := word.toNat_lt
  have hmask : word.toNat &&& 65535 = word.toNat % 65536 := Nat.and_two_pow_sub_one_eq_mod word.toNat 16
  simp only [propagateCarries, UInt16.toNat_add, UInt32.toNat_toUInt16, UInt32.toNat_shiftRight, UInt32.toNat_add,
    UInt32.toNat_and, Nat.shiftRight_eq_div_pow, show (16 : UInt32).toNat % 32 = 16 from rfl,
    show (0xffff : UInt32).toNat = 65535 from rfl, hmask]
  omega

structure Folds (n : ℕ) (r : UInt16) : Prop where
  modEq : r.toNat ≡ n [MOD 65535]
  zero : r = 0 ↔ n = 0

lemma propagateCarries_folds {n : ℕ} (h : n < 2 ^ 32) : Folds n (propagateCarries (UInt32.ofNat n)) := by
  have hnat := toNat_propagateCarries (UInt32.ofNat n)
  rw [UInt32.toNat_ofNat_of_lt' h] at hnat
  constructor
  · rw [hnat, Nat.ModEq]
    omega
  · rw [← UInt16.toNat_inj, hnat, UInt16.toNat_zero]
    omega

lemma data_folds {l : List UInt8} (h : l.length < 2 ^ 17) : Folds (wordSum l) (data l) := by
  rw [data_eq]
  apply propagateCarries_folds
  have := wordSum_le l
  omega

lemma combine_eq (l : List UInt16) : combine l = propagateCarries (UInt32.ofNat (l.map UInt16.toNat).sum) := by
  have hfold : ∀ (l : List UInt16) (n : ℕ), l.foldl (fun accum word => accum + word.toUInt32) (UInt32.ofNat n) =
      UInt32.ofNat (n + (l.map UInt16.toNat).sum) := by
    intro l
    induction l with
    | nil => intro n; rfl
    | cons a l ih =>
      intro n
      have ha : a.toUInt32 = UInt32.ofNat a.toNat := by simp
      rw [List.foldl_cons, ha, ← UInt32.ofNat_add, ih, List.map_cons, List.sum_cons, Nat.add_assoc]
  have hl := hfold l 0
  rw [Nat.zero_add] at hl
  rw [← hl]
  rfl

lemma combine_folds {ns : List ℕ} {rs : List UInt16} (h : List.Forall₂ Folds ns rs) (hlen : rs.length < 2 ^ 16) :
    Folds ns.sum (combine rs) := by
  have hsum : (rs.map UInt16.toNat).sum ≤ 65535 * rs.length ∧ (rs.map UInt16.toNat).sum ≡ ns.sum [MOD 65535] ∧
      ((rs.map UInt16.toNat).sum = 0 ↔ ns.sum = 0) := by
    clear hlen
    induction h with
    | nil => exact ⟨le_rfl, rfl, Iff.rfl⟩
    | @cons n r ns rs hr _ ih =>
      have hlt := r.toNat_lt
      have hzero := hr.zero
      rw [← UInt16.toNat_inj, UInt16.toNat_zero] at hzero
      simp only [List.map_cons, List.sum_cons, List.length_cons]
      exact ⟨by omega, hr.modEq.add ih.2.1, by omega⟩
  have hfold := propagateCarries_folds (n := (rs.map UInt16.toNat).sum) (by omega)
  rw [← combine_eq] at hfold
  exact ⟨hfold.modEq.trans hsum.2.1, hfold.zero.trans hsum.2.2⟩

variable {a : ℕ} {r : UInt16}

lemma Folds.eq_max_iff (h : Folds a r) (hpos : 0 < a) : r = 0xffff ↔ a % 65535 = 0 := by
  have hr := r.toNat_lt
  have hmod := h.modEq
  have hzero := h.zero
  rw [Nat.ModEq] at hmod
  rw [← UInt16.toNat_inj, UInt16.toNat_zero] at hzero
  rw [← UInt16.toNat_inj, show (0xffff : UInt16).toNat = 65535 from rfl]
  omega

end Modulo

end Checksum

end SmoltcpS3.Wire

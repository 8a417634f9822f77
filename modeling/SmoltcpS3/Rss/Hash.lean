import SmoltcpS3.Rss.Steering
import Mathlib.Tactic.IntervalCases

namespace SmoltcpS3.Rss

open Toeplitz

def bitOf (byte : UInt8) (b : ℕ) : Bool := (byte >>> UInt8.ofNat b) &&& 1 == 1

def wireBits (data : List UInt8) : List Bool :=
  data.flatMap fun byte => (List.range 8).reverse.map (bitOf byte)

def keyBits (key : List UInt8) (i : ℕ) : Bool := bitOf (key.getD (i / 8) 0) (7 - i % 8)

lemma bitOf_eq_getLsbD (byte : UInt8) {b : ℕ} (h : b < 8) : bitOf byte b = byte.toBitVec.getLsbD b := by
  have hs : (byte >>> UInt8.ofNat b).toNat = byte.toNat >>> b := by
    rw [UInt8.toNat_shiftRight, UInt8.toNat_ofNat', Nat.mod_eq_of_lt (show b < 2 ^ 8 by omega),
      Nat.mod_eq_of_lt h]
  rw [bitOf, Bool.eq_iff_iff, beq_iff_eq, ← UInt8.toNat_inj, UInt8.toNat_and, hs]
  simp [BitVec.getLsbD, Nat.testBit]

lemma bitOf_toUInt32 (byte : UInt8) (b : ℕ) :
    (((byte >>> UInt8.ofNat b) &&& 1).toUInt32).toBitVec = (BitVec.ofBool (bitOf byte b)).setWidth 32 := by
  rw [bitOf]
  generalize byte >>> UInt8.ofNat b = x
  have h : x &&& 1 = 0 ∨ x &&& 1 = 1 := by
    rw [← UInt8.toNat_inj, ← UInt8.toNat_inj, UInt8.toNat_and]
    simp
    omega
  rcases h with h | h <;> rw [h] <;> rfl

lemma keyBits_of_le {key : List UInt8} {i : ℕ} (h : key.length * 8 ≤ i) : keyBits key i = false := by
  have hd : key.getD (i / 8) 0 = 0 := List.getD_eq_default _ _ (by omega)
  rw [keyBits, hd, bitOf_eq_getLsbD 0 (by omega)]
  simp

lemma shiftedBit (key : List UInt8) (i : ℕ) :
    (if i < key.length * 8 then bitAt key i else 0).toUInt32.toBitVec =
      (BitVec.ofBool (keyBits key i)).setWidth 32 := by
  split_ifs with h
  · exact bitOf_toUInt32 _ _
  · rw [keyBits_of_le (not_lt.mp h)]
    rfl

structure Sliding.At (key : List UInt8) (i : ℕ) (st : Sliding) : Prop where
  w : st.w.toBitVec = window 32 (keyBits key) i
  nextBit : st.nextBit = i + 32

lemma Sliding.At.toeplitzBit {key : List UInt8} {i : ℕ} {st : Sliding} (h : st.At key i)
    (byte : UInt8) (b : ℕ) :
    (toeplitzBit key byte st b).At key (i + 1) ∧
      (toeplitzBit key byte st b).result.toBitVec =
        st.result.toBitVec ^^^ (if bitOf byte b then window 32 (keyBits key) i else 0) := by
  refine ⟨⟨?_, ?_⟩, ?_⟩
  · rw [window_succ (by decide), ← h.w, ← h.nextBit, ← shiftedBit]
    rfl
  · change st.nextBit + 1 = _
    rw [h.nextBit]
  · change (if bitOf byte b = true then st.result ^^^ st.w else st.result).toBitVec = _
    split_ifs
    · rw [UInt32.toBitVec_xor, h.w]
    · simp

lemma Sliding.At.foldl_toeplitzBit {key : List UInt8} {i : ℕ} {st : Sliding} (h : st.At key i)
    (byte : UInt8) (bs : List ℕ) :
    (bs.foldl (Rss.toeplitzBit key byte) st).At key (i + bs.length) ∧
      (bs.foldl (Rss.toeplitzBit key byte) st).result.toBitVec =
        st.result.toBitVec ^^^ hash 32 (keyBits key) i (bs.map (bitOf byte)) := by
  induction bs generalizing i st with
  | nil => exact ⟨h, by simp [Toeplitz.hash]⟩
  | cons b bs ih =>
    obtain ⟨hat, hres⟩ := h.toeplitzBit byte b
    obtain ⟨hat', hres'⟩ := ih hat
    rw [Nat.add_assoc, Nat.add_comm 1] at hat'
    refine ⟨hat', ?_⟩
    rw [List.foldl_cons, hres', hres, BitVec.xor_assoc]
    rfl

lemma Sliding.At.foldl_toeplitzByte {key : List UInt8} {i : ℕ} {st : Sliding} (h : st.At key i)
    (data : List UInt8) :
    (data.foldl (toeplitzByte key) st).result.toBitVec =
      st.result.toBitVec ^^^ hash 32 (keyBits key) i (wireBits data) := by
  induction data generalizing i st with
  | nil => simp [wireBits, Toeplitz.hash]
  | cons byte data ih =>
    obtain ⟨hat, hres⟩ := h.foldl_toeplitzBit byte (List.range 8).reverse
    have hbits : wireBits (byte :: data) =
        (List.range 8).reverse.map (bitOf byte) ++ wireBits data := List.flatMap_cons ..
    rw [List.foldl_cons, toeplitzByte, ih hat, hres, BitVec.xor_assoc, hbits, hash_append,
      List.length_map]

lemma window_fromBeBytes (k₀ k₁ k₂ k₃ : UInt8) (rest : List UInt8) :
    (fromBeBytes k₀ k₁ k₂ k₃).toBitVec = window 32 (keyBits (k₀ :: k₁ :: k₂ :: k₃ :: rest)) 0 := by
  apply BitVec.eq_of_getLsbD_eq
  intro j hj
  rw [getLsbD_window 0 hj, keyBits, bitOf_eq_getLsbD _ (by omega)]
  interval_cases j <;> simp [fromBeBytes]

theorem toeplitz_eq_hash {key : List UInt8} (h : 4 ≤ key.length) (data : List UInt8) :
    (toeplitz key data).toBitVec = hash 32 (keyBits key) 0 (wireBits data) := by
  match key, h with
  | k₀ :: k₁ :: k₂ :: k₃ :: rest, _ =>
    have hat : Sliding.At (k₀ :: k₁ :: k₂ :: k₃ :: rest) 0 ⟨0, fromBeBytes k₀ k₁ k₂ k₃, 32⟩ :=
      ⟨window_fromBeBytes k₀ k₁ k₂ k₃ rest, rfl⟩
    rw [toeplitz, hat.foldl_toeplitzByte]
    exact BitVec.zero_xor

lemma toeplitz_of_short {key : List UInt8} (h : key.length < 4) (data : List UInt8) :
    toeplitz key data = 0 := by
  match key, h with
  | [], _ | [_], _ | [_, _], _ | [_, _, _], _ => rfl

lemma keyBits_cons (byte : UInt8) (data : List UInt8) (i : ℕ) :
    keyBits (byte :: data) (8 + i) = keyBits data i := by
  have hdiv : (8 + i) / 8 = i / 8 + 1 := by omega
  have hmod : (8 + i) % 8 = i % 8 := by omega
  rw [keyBits, hdiv, hmod, List.getD_cons_succ, keyBits]

lemma wireBits_eq (data : List UInt8) :
    wireBits data = (List.range (8 * data.length)).map (keyBits data) := by
  induction data with
  | nil => rfl
  | cons byte data ih =>
    have hbits : wireBits (byte :: data) =
        (List.range 8).reverse.map (bitOf byte) ++ wireBits data := List.flatMap_cons ..
    have hfirst : (List.range 8).map (keyBits (byte :: data)) =
        (List.range 8).reverse.map (bitOf byte) := rfl
    rw [hbits, ih, List.length_cons, Nat.mul_succ, Nat.add_comm, List.range_add, List.map_append, hfirst,
      List.map_map]
    congr 1
    apply List.map_congr_left
    intro i _
    exact (keyBits_cons byte data i).symm

section Checked

-- `none` is an index past the end of the key.
def keyBit? (key : List UInt8) (nextBit : ℕ) : Option UInt8 :=
  if nextBit < key.length * 8 then
    (key[nextBit / 8]?).map fun k => (k >>> UInt8.ofNat (7 - nextBit % 8)) &&& 1
  else some 0

def toeplitzBit? (key : List UInt8) (byte : UInt8) (st : Sliding) (b : ℕ) : Option Sliding := do
  let result := if (byte >>> UInt8.ofNat b) &&& 1 == 1 then st.result ^^^ st.w else st.result
  let kb ← keyBit? key st.nextBit
  return ⟨result, st.w <<< 1 ||| kb.toUInt32, st.nextBit + 1⟩

def toeplitz? (key data : List UInt8) : Option UInt32 :=
  if key.length < 4 then some 0
  else do
    let k₀ ← key[0]?
    let k₁ ← key[1]?
    let k₂ ← key[2]?
    let k₃ ← key[3]?
    let st ← data.foldlM (fun st byte => (List.range 8).reverse.foldlM (toeplitzBit? key byte) st)
      ⟨0, fromBeBytes k₀ k₁ k₂ k₃, 32⟩
    return st.result

lemma keyBit?_eq (key : List UInt8) (nextBit : ℕ) :
    keyBit? key nextBit = some (if nextBit < key.length * 8 then bitAt key nextBit else 0) := by
  rw [keyBit?]
  split_ifs with h
  · have hlt : nextBit / 8 < key.length := by omega
    rw [List.getElem?_eq_getElem hlt, bitAt, List.getD_eq_getElem key 0 hlt]
    rfl
  · rfl

lemma toeplitzBit?_eq (key : List UInt8) (byte : UInt8) :
    toeplitzBit? key byte = fun st b => pure (toeplitzBit key byte st b) := by
  funext st b
  rw [toeplitzBit?, keyBit?_eq]
  rfl

lemma toeplitz?_eq (key data : List UInt8) : toeplitz? key data = some (toeplitz key data) := by
  have hbyte : (fun st byte => (List.range 8).reverse.foldlM (toeplitzBit? key byte) st) =
      fun st byte => (pure (toeplitzByte key st byte) : Option Sliding) := by
    funext st byte
    rw [toeplitzBit?_eq, List.foldlM_pure]
    rfl
  rw [toeplitz?, hbyte]
  match key with
  | [] | [_] | [_, _] | [_, _, _] => rfl
  | k₀ :: k₁ :: k₂ :: k₃ :: rest =>
    rw [if_neg (by simp), toeplitz]
    simp only [List.foldlM_pure]
    rfl

end Checked

theorem toeplitz_correct {key : List UInt8} (h : 4 ≤ key.length) (data : List UInt8) :
    toeplitz? key data = some (toeplitz key data) ∧
      (toeplitz key data).toBitVec =
        xorWindows 32 (keyBits key) (keyBits data) (8 * data.length) := by
  refine ⟨toeplitz?_eq key data, ?_⟩
  rw [toeplitz_eq_hash h, wireBits_eq, hash_map_range]

theorem toeplitz_correct_four_bytes :
    4 ≤ [(0x6d : UInt8), 0x5a, 0x56, 0xda].length ∧
      (toeplitz [0x6d, 0x5a, 0x56, 0xda] [0x41, 0, 0, 0, 0x80]).toBitVec =
        xorWindows 32 (keyBits [0x6d, 0x5a, 0x56, 0xda]) (keyBits [0x41, 0, 0, 0, 0x80]) (8 * 5) :=
  ⟨by decide, (toeplitz_correct (by decide) _).2⟩

end SmoltcpS3.Rss

import SmoltcpS3.Foundations.Fibers
import SmoltcpS3.Rss.Hash
import SmoltcpS3.Rss.Ports

namespace SmoltcpS3.Rss

open Toeplitz Fibers

section Linear

lemma bitOf_xor (x y : UInt8) {b : ℕ} (h : b < 8) : bitOf (x ^^^ y) b = xor (bitOf x b) (bitOf y b) := by
  rw [bitOf_eq_getLsbD _ h, bitOf_eq_getLsbD _ h, bitOf_eq_getLsbD _ h, UInt8.toBitVec_xor,
    BitVec.getLsbD_xor]

def portBytes (port : UInt16) : List UInt8 := [(port >>> 8).toUInt8, port.toUInt8]

lemma length_wireBits (data : List UInt8) : (wireBits data).length = 8 * data.length := by
  rw [wireBits_eq, List.length_map, List.length_range]

lemma wireBits_portBytes_xor (p t : UInt16) :
    wireBits (portBytes (p ^^^ t)) = List.zipWith xor (wireBits (portBytes p)) (wireBits (portBytes t)) := by
  have hhigh : ((p ^^^ t) >>> 8).toUInt8 = (p >>> 8).toUInt8 ^^^ (t >>> 8).toUInt8 := by
    rw [UInt16.shiftRight_xor, UInt16.toUInt8_xor]
  have hlow : (p ^^^ t).toUInt8 = p.toUInt8 ^^^ t.toUInt8 := UInt16.toUInt8_xor _ _
  rw [portBytes, hhigh, hlow]
  simp [wireBits, portBytes, bitOf_xor, List.range_succ]

variable (key front : List UInt8)

lemma toeplitz_xor (t : UInt16) : ∃ d : BitVec 32, ∀ p : UInt16,
    (toeplitz key (front ++ portBytes (p ^^^ t))).toBitVec =
      (toeplitz key (front ++ portBytes p)).toBitVec ^^^ d := by
  rcases Nat.lt_or_ge key.length 4 with h | h
  · refine ⟨0, fun p => ?_⟩
    rw [toeplitz_of_short h, toeplitz_of_short h]
    rfl
  · refine ⟨hash 32 (keyBits key) (8 * front.length) (wireBits (portBytes t)), fun p => ?_⟩
    have hbits : ∀ q, wireBits (front ++ portBytes q) = wireBits front ++ wireBits (portBytes q) :=
      fun q => List.flatMap_append
    have hlen : (wireBits (portBytes p)).length = (wireBits (portBytes t)).length := by
      rw [length_wireBits, length_wireBits]
      rfl
    rw [toeplitz_eq_hash h, toeplitz_eq_hash h, hbits, hbits, hash_append, hash_append,
      wireBits_portBytes_xor, hash_zipWith_xor _ hlen, length_wireBits, Nat.zero_add]
    ac_rfl

end Linear

section Translation

lemma xor_lt_ephLen (i t : Fin ephLen) : i.val ^^^ t.val < ephLen :=
  Nat.xor_lt_two_pow (n := 14) i.isLt t.isLt

lemma xor_involutive (t : Fin ephLen) :
    Function.Involutive fun i : Fin ephLen => (⟨i.val ^^^ t.val, xor_lt_ephLen i t⟩ : Fin ephLen) := by
  intro i
  exact Fin.ext (Nat.xor_xor_cancel_right _ _)

def shiftBy (t : Fin ephLen) : Equiv.Perm (Fin ephLen) := (xor_involutive t).toPerm

lemma ephPort_shiftBy (t i : Fin ephLen) : ephPort (shiftBy t i) = ephPort i ^^^ UInt16.ofNat t := by
  have hi : i.val < 2 ^ 14 := i.isLt
  have ht : t.val < 2 ^ 14 := t.isLt
  have hx : i.val ^^^ t.val < 2 ^ 14 := xor_lt_ephLen i t
  have hval : (shiftBy t i).val = i.val ^^^ t.val := rfl
  apply UInt16.toNat_inj.mp
  rw [UInt16.toNat_xor, ephPort_toNat, ephPort_toNat, UInt16.toNat_ofNat', Nat.mod_eq_of_lt (by omega),
    hval, ← Nat.div_add_mod ((49152 + i.val) ^^^ t.val) (2 ^ 14), Nat.xor_div_two_pow,
    Nat.xor_mod_two_pow, Nat.div_eq_of_lt ht, Nat.mod_eq_of_lt ht]
  have hdiv : (49152 + i.val) / 2 ^ 14 = 3 := by omega
  have hmod : (49152 + i.val) % 2 ^ 14 = i.val := by omega
  rw [hdiv, hmod]
  rfl

lemma shiftBy_apply (a b : Fin ephLen) : shiftBy ⟨a.val ^^^ b.val, xor_lt_ephLen a b⟩ a = b :=
  Fin.ext (Nat.xor_xor_cancel_left _ _)

end Translation

variable (cfg : Config) (rss : RssConfig) (ourIp : Ipv4Address)

def tableIndex (port : UInt16) : ℕ :=
  (toeplitz rss.key (inboundTuple cfg ourIp port).toList).toNat &&& (rss.reta.length - 1)

lemma queueForLocalPort_eq (hs : rss.singleQueue = false) (hk : rss.key ≠ []) (hr : rss.reta ≠ [])
    (port : UInt16) :
    queueForLocalPort cfg rss ourIp port = rss.reta.getD (tableIndex cfg rss ourIp port) 0 := by
  have hlen : ¬ (rss.key.length = 0 ∨ rss.reta.length = 0) := by simp [hk, hr]
  rw [queueForLocalPort, predictQueue, if_neg (by simp [hs]), if_neg hlen, tableIndex]

variable {rss} {e : ℕ}

lemma tableIndex_xor (he : rss.reta.length = 2 ^ e) (t : UInt16) : ∃ d, ∀ port,
    tableIndex cfg rss ourIp (port ^^^ t) = tableIndex cfg rss ourIp port ^^^ d := by
  have hsplit : ∀ port, (inboundTuple cfg ourIp port).toList =
      (inboundTuple cfg ourIp port).toList.take 10 ++ portBytes port := fun port => rfl
  obtain ⟨d, hd⟩ := toeplitz_xor rss.key ((inboundTuple cfg ourIp 0).toList.take 10) t
  refine ⟨d.toNat % 2 ^ e, fun port => ?_⟩
  have hnat := congrArg BitVec.toNat (hd port)
  rw [BitVec.toNat_xor] at hnat
  rw [tableIndex, tableIndex, he, Nat.and_two_pow_sub_one_eq_mod, Nat.and_two_pow_sub_one_eq_mod,
    ← Nat.xor_mod_two_pow]
  exact congrArg (· % 2 ^ e) hnat

lemma uniform_tableIndex (he : rss.reta.length = 2 ^ e) :
    Uniform fun i => tableIndex cfg rss ourIp (ephPort i) := by
  apply Uniform.of_perm
  intro a b
  obtain ⟨d, hd⟩ := tableIndex_xor cfg ourIp he (UInt16.ofNat (a.val ^^^ b.val))
  refine ⟨shiftBy ⟨a.val ^^^ b.val, xor_lt_ephLen a b⟩, fun x => ?_⟩
  have hb : tableIndex cfg rss ourIp (ephPort b) = tableIndex cfg rss ourIp (ephPort a) ^^^ d := by
    rw [← hd, ← ephPort_shiftBy ⟨a.val ^^^ b.val, xor_lt_ephLen a b⟩ a, shiftBy_apply]
  simp only [ephPort_shiftBy, hd, hb]
  exact Nat.xor_left_inj

lemma card_image_tableIndex (he : rss.reta.length = 2 ^ e) :
    (Finset.univ.image fun i => tableIndex cfg rss ourIp (ephPort i)).card ≤ 2 ^ e := by
  have hsub : (Finset.univ.image fun i => tableIndex cfg rss ourIp (ephPort i)) ⊆ Finset.range (2 ^ e) := by
    intro j hj
    obtain ⟨i, _, rfl⟩ := Finset.mem_image.mp hj
    rw [Finset.mem_range, tableIndex, he, Nat.and_two_pow_sub_one_eq_mod]
    exact Nat.mod_lt _ (Nat.two_pow_pos e)
  simpa using Finset.card_le_card hsub

lemma ownedCount_of_const {q' : UInt16} (h : ∀ port, queueForLocalPort cfg rss ourIp port = q')
    (q : UInt16) : ownedCount cfg rss ourIp q = if q' = q then ephLen else 0 := by
  rw [ownedCount_eq]
  simp only [h]
  split_ifs with hq
  · simp [hq]
  · simp [hq]

lemma exists_fiberCard_tableIndex (he : rss.reta.length = 2 ^ e) : ∃ m, 14 ≤ m + e ∧
    ∀ i, fiberCard (fun i => tableIndex cfg rss ourIp (ephPort i)) i = 2 ^ m := by
  have : Nonempty (Fin ephLen) := ⟨⟨0, by decide⟩⟩
  exact (uniform_tableIndex cfg ourIp he).exists_fiberCard_eq_two_pow (n := 14)
    (Fintype.card_fin ephLen) (card_image_tableIndex cfg ourIp he)

lemma reta_ne_nil (he : rss.reta.length = 2 ^ e) : rss.reta ≠ [] := by
  intro h
  rw [h] at he
  exact (Nat.two_pow_pos e).ne he

lemma dvd_ownedCount (he : rss.reta.length = 2 ^ e) (q : UInt16) :
    2 ^ (14 - e) ∣ ownedCount cfg rss ourIp q := by
  have hconst : ∀ q', (∀ port, queueForLocalPort cfg rss ourIp port = q') →
      2 ^ (14 - e) ∣ ownedCount cfg rss ourIp q := by
    intro q' h
    rw [ownedCount_of_const cfg ourIp h]
    split_ifs
    · exact Nat.pow_dvd_pow 2 (by omega : 14 - e ≤ 14)
    · exact Nat.dvd_zero _
  cases hs : rss.singleQueue with
  | true => exact hconst 0 fun port => predictQueue_of_single hs _
  | false =>
    by_cases hk : rss.key = []
    · exact hconst 0xffff fun port => by simp [queueForLocalPort, predictQueue, hs, hk]
    · obtain ⟨m, hm, hcard⟩ := exists_fiberCard_tableIndex cfg ourIp he
      have hdvd : 2 ^ (14 - e) ∣ 2 ^ m := Nat.pow_dvd_pow 2 (by omega)
      apply hdvd.trans
      rw [ownedCount_eq, countP_finRange, ← hcard ⟨0, by decide⟩]
      simp only [queueForLocalPort_eq cfg rss ourIp hs hk (reta_ne_nil he)]
      rw [(uniform_tableIndex cfg ourIp he).card_filter ⟨0, by decide⟩ fun j => rss.reta.getD j 0 = q]
      exact Nat.dvd_mul_right _ _

theorem ownedCount_spread (he : rss.reta.length = 2 ^ e) (hle : rss.reta.length ≤ 512) :
    (rss.singleQueue = false → rss.key ≠ [] → ∀ port,
      queueForLocalPort cfg rss ourIp port = rss.reta.getD (tableIndex cfg rss ourIp port) 0) ∧
    (∃ m, 16384 / rss.reta.length ∣ 2 ^ m ∧
      ∀ j, (∃ i, tableIndex cfg rss ourIp (ephPort i) = j) →
        (Finset.univ.filter fun i => tableIndex cfg rss ourIp (ephPort i) = j).card = 2 ^ m) ∧
    ∀ q, ownedCount cfg rss ourIp q = ((Finset.Ico 49152 65536).filter fun p =>
        queueForLocalPort cfg rss ourIp (UInt16.ofNat p) = q).card ∧
      16384 / rss.reta.length ∣ ownedCount cfg rss ourIp q ∧
      32 ≤ 16384 / rss.reta.length ∧
      (0 < ownedCount cfg rss ourIp q → 16384 / rss.reta.length ≤ ownedCount cfg rss ourIp q) := by
  have he9 : e ≤ 9 := by
    rw [he] at hle
    exact (Nat.pow_le_pow_iff_right (by decide)).mp (hle.trans_eq (by decide : 512 = 2 ^ 9))
  have hdiv : 16384 / rss.reta.length = 2 ^ (14 - e) := by
    rw [he]
    exact Nat.pow_div (x := 2) (m := 14) (by omega) (by decide)
  obtain ⟨m, hm, hcard⟩ := exists_fiberCard_tableIndex cfg ourIp he
  have hcount : ∀ q, 16384 / rss.reta.length ∣ ownedCount cfg rss ourIp q := by
    intro q
    rw [hdiv]
    exact dvd_ownedCount cfg ourIp he q
  refine ⟨fun hs hk => queueForLocalPort_eq cfg rss ourIp hs hk (reta_ne_nil he), ⟨m, ?_, ?_⟩,
    fun q => ⟨ownedCount_eq_card q, hcount q, ?_, fun hpos => Nat.le_of_dvd hpos (hcount q)⟩⟩
  · rw [hdiv]
    exact Nat.pow_dvd_pow 2 (by omega)
  · rintro _ ⟨i, rfl⟩
    exact hcard i
  · rw [hdiv]
    exact Nat.pow_le_pow_right (by decide : 2 > 0) (by omega : 5 ≤ 14 - e)

def twoQueues : RssConfig := ⟨false, [0x6d, 0x5a, 0x56, 0xda, 0x25], [0, 1]⟩

theorem ownedCount_spread_twoQueues :
    twoQueues.reta.length = 2 ^ 1 ∧ twoQueues.reta.length ≤ 512 ∧
      16384 / twoQueues.reta.length ∣ ownedCount (.small false) twoQueues ⟨10, 0, 0, 7⟩ 0 := by
  have he : twoQueues.reta.length = 2 ^ 1 := rfl
  have hle : twoQueues.reta.length ≤ 512 := by decide
  exact ⟨he, hle, ((ownedCount_spread (.small false) ⟨10, 0, 0, 7⟩ he hle).2.2 0).2.1⟩

end SmoltcpS3.Rss

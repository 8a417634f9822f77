import SmoltcpS3.Rss.Hash

/-! Reading the RSS key and the indirection table from the device: `load_rss_config` and the shim
calls under it. -/

namespace SmoltcpS3.Rss

/-- The device behind the shim. It hashes with `key` and steers by `reta`, and answers the two
queries with a return code that is zero or negative. -/
structure Device where
  hashKeySize : ℕ
  retaSize : ℕ
  key : List UInt8
  reta : ℕ → UInt16
  keyRc : ℤ
  retaRc : ℤ
  key_length : key.length = hashKeySize
  keyRc_nonpos : keyRc ≤ 0
  retaRc_nonpos : retaRc ≤ 0

def Device.rssHash (dev : Device) (tuple : Vector UInt8 12) : ℕ :=
  (Toeplitz.hash 32 (keyBits dev.key) 0 (wireBits tuple.toList)).toNat

def Device.steer (dev : Device) (tuple : Vector UInt8 12) : UInt16 :=
  dev.reta (dev.rssHash tuple &&& (dev.retaSize - 1))

def shimRssHashKey (dev : Device) (outLen : ℕ) : ℤ × List UInt8 :=
  if dev.hashKeySize = 0 ∨ outLen < dev.hashKeySize then (-1, List.replicate outLen 0)
  else if dev.keyRc ≠ 0 then (dev.keyRc, List.replicate outLen 0)
  else (dev.hashKeySize, dev.key ++ List.replicate (outLen - dev.hashKeySize) 0)

def shimRssRetaSize (dev : Device) : ℤ := Int.bmod dev.retaSize (2 ^ 32)

structure RetaGroup where
  mask : BitVec 64
  reta : List UInt16

def retaGroupSize : ℕ := 64

def Device.rssRetaQuery (dev : Device) (conf : List RetaGroup) (n : ℕ) : List RetaGroup :=
  conf.mapIdx fun g group =>
    { group with
      reta := group.reta.mapIdx fun j old =>
        if g * retaGroupSize + j < n ∧ group.mask.getLsbD j then dev.reta (g * retaGroupSize + j)
        else old }

def retaConf (groups : ℕ) : List RetaGroup :=
  (List.range 8).map fun g => ⟨if g < groups then BitVec.allOnes 64 else 0, List.replicate retaGroupSize 0⟩

def retaEntries (dev : Device) (outEntries : ℕ) : ℕ :=
  min ((shimRssRetaSize dev).toNat % 2 ^ 16) outEntries

def shimRssReta (dev : Device) (outEntries : ℕ) : ℤ × List UInt16 :=
  if shimRssRetaSize dev ≤ 0 then (-1, [])
  else
    let n := retaEntries dev outEntries
    let groups := (n + retaGroupSize - 1) / retaGroupSize
    if groups > 8 then (-1, [])
    else if dev.retaRc ≠ 0 then (dev.retaRc, [])
    else
      let conf := dev.rssRetaQuery (retaConf groups) n
      (n, (List.range n).map fun i =>
        (conf.getD (i / retaGroupSize) ⟨0, []⟩).reta.getD (i % retaGroupSize) 0)

def RssConfig.initial : RssConfig := ⟨false, [], []⟩

def loadRssConfig (nQueues : UInt16) (dev : Device) (rss : RssConfig) : Bool × RssConfig :=
  if nQueues = 1 then (true, { rss with singleQueue := true })
  else
    let (klen, key) := shimRssHashKey dev 64
    if klen ≤ 0 then (false, rss)
    else
      let rss := { rss with key := key.take klen.toNat }
      let (n, reta) := shimRssReta dev 512
      if n ≤ 0 then (false, rss)
      else if n.toNat &&& (n.toNat - 1) ≠ 0 then (false, rss)
      else (true, { rss with reta := reta.take n.toNat })

lemma loadRssConfig_single {nQueues : UInt16} (h : nQueues = 1) (dev : Device) (rss : RssConfig) :
    loadRssConfig nQueues dev rss = (true, { rss with singleQueue := true }) := by
  simp [loadRssConfig, h]

lemma retaConf_getElem? {groups g : ℕ} (hg : g < 8) (h : g < groups) :
    (retaConf groups)[g]? = some ⟨BitVec.allOnes 64, List.replicate retaGroupSize 0⟩ := by
  rw [retaConf, List.getElem?_map, List.getElem?_range hg]
  simp only [Option.map_some, h, if_true]

lemma rssRetaQuery_entry (dev : Device) {n i : ℕ} (hn : n ≤ 512) (hi : i < n) :
    ((dev.rssRetaQuery (retaConf ((n + retaGroupSize - 1) / retaGroupSize)) n).getD
      (i / retaGroupSize) ⟨0, []⟩).reta.getD (i % retaGroupSize) 0 = dev.reta i := by
  have hg : i / retaGroupSize < 8 := by
    simp only [retaGroupSize]
    omega
  have hlt : i / retaGroupSize < (n + retaGroupSize - 1) / retaGroupSize := by
    simp only [retaGroupSize]
    omega
  have hj : i % retaGroupSize < retaGroupSize := Nat.mod_lt _ (by decide)
  have hidx : i / retaGroupSize * retaGroupSize + i % retaGroupSize = i := Nat.div_add_mod' i _
  simp only [List.getD_eq_getElem?_getD, Device.rssRetaQuery, List.getElem?_mapIdx,
    retaConf_getElem? hg hlt, Option.map_some, Option.getD_some, List.getElem?_replicate, hj, if_true,
    hidx, hi, BitVec.getLsbD_allOnes, true_and]
  exact if_pos (decide_eq_true hj)

lemma shimRssReta_eq {dev : Device} (hs : 0 < shimRssRetaSize dev) {n : ℕ}
    (hn : retaEntries dev 512 = n) :
    shimRssReta dev 512 =
      if dev.retaRc ≠ 0 then (dev.retaRc, []) else ((n : ℤ), (List.range n).map dev.reta) := by
  have hle : n ≤ 512 := hn ▸ min_le_right _ _
  have hgroups : ¬ (n + retaGroupSize - 1) / retaGroupSize > 8 := by
    simp only [retaGroupSize]
    omega
  rw [shimRssReta, if_neg (not_le.mpr hs)]
  simp only [hn]
  rw [if_neg hgroups]
  split_ifs
  · rfl
  · rw [List.map_congr_left fun i hi => rssRetaQuery_entry dev hle (List.mem_range.mp hi)]

lemma bmod_natCast {x m : ℕ} (h : 2 * x < m) : Int.bmod (x : ℤ) m = x :=
  Int.bmod_eq_of_le_mul_two (by omega) (by omega)

lemma dvd_bmod {m n : ℕ} (h : m ∣ n) {x : ℤ} (hx : (m : ℤ) ∣ x) : (m : ℤ) ∣ Int.bmod x n := by
  have hn : (m : ℤ) ∣ (n : ℤ) := Int.natCast_dvd_natCast.mpr h
  rewrite [Int.bmod_eq_self_sub_mul_bdiv]
  exact Int.dvd_sub hx (Int.dvd_mul_of_dvd_left hn)

lemma retaEntries_of_large {dev : Device} {e : ℕ} (hs : dev.retaSize = 2 ^ e) (he : 16 ≤ e) :
    retaEntries dev 512 = 0 := by
  have hdvd : ((2 ^ 16 : ℕ) : ℤ) ∣ shimRssRetaSize dev :=
    dvd_bmod (pow_dvd_pow 2 (by decide)) (hs ▸ Int.natCast_dvd_natCast.mpr (pow_dvd_pow 2 he))
  have hmod : (shimRssRetaSize dev).toNat % 2 ^ 16 = 0 := by
    generalize shimRssRetaSize dev = z at hdvd
    omega
  rw [retaEntries, hmod, Nat.zero_min]

lemma retaEntries_of_small {dev : Device} {e : ℕ} (hs : dev.retaSize = 2 ^ e) (he : e < 16) :
    0 < shimRssRetaSize dev ∧ retaEntries dev 512 = 2 ^ min e 9 := by
  have hlt : 2 ^ e < 2 ^ 16 := Nat.pow_lt_pow_right (by decide) he
  have hpos : 0 < 2 ^ e := Nat.two_pow_pos e
  have hsize : shimRssRetaSize dev = dev.retaSize := bmod_natCast (by omega)
  rw [retaEntries, hsize, Int.toNat_natCast, hs, Nat.mod_eq_of_lt hlt]
  refine ⟨by omega, ?_⟩
  rcases le_total e 9 with h | h
  · rw [min_eq_left h, min_eq_left (Nat.pow_le_pow_right (i := e) (j := 9) (by decide) h)]
  · rw [min_eq_right h, min_eq_right (Nat.pow_le_pow_right (i := 9) (j := e) (by decide) h)]

lemma shimRssHashKey_cases (dev : Device) :
    ((shimRssHashKey dev 64).1 ≤ 0 ∧
      ¬ (0 < dev.hashKeySize ∧ dev.hashKeySize ≤ 64 ∧ dev.keyRc = 0)) ∨
    ((0 < dev.hashKeySize ∧ dev.hashKeySize ≤ 64 ∧ dev.keyRc = 0) ∧
      (shimRssHashKey dev 64).1 = dev.hashKeySize ∧
      (shimRssHashKey dev 64).2.take dev.hashKeySize = dev.key) := by
  have hrc := dev.keyRc_nonpos
  by_cases hk : dev.hashKeySize = 0 ∨ 64 < dev.hashKeySize
  · rw [shimRssHashKey, if_pos hk]
    exact Or.inl ⟨by omega, by omega⟩
  · by_cases hz : dev.keyRc = 0
    · rw [shimRssHashKey, if_neg hk, if_neg (not_not.mpr hz)]
      refine Or.inr ⟨⟨by omega, by omega, hz⟩, rfl, ?_⟩
      rw [List.take_append_of_le_length dev.key_length.ge, List.take_of_length_le dev.key_length.le]
    · rw [shimRssHashKey, if_neg hk, if_pos hz]
      exact Or.inl ⟨hrc, fun h => hz h.2.2⟩

lemma shimRssReta_cases {dev : Device} {e : ℕ} (hs : dev.retaSize = 2 ^ e) :
    ((shimRssReta dev 512).1 ≤ 0 ∧ ¬ (e < 16 ∧ dev.retaRc = 0)) ∨
    ((e < 16 ∧ dev.retaRc = 0) ∧ (shimRssReta dev 512).1 = (2 ^ min e 9 : ℕ) ∧
      (shimRssReta dev 512).2 = (List.range (2 ^ min e 9)).map dev.reta) := by
  have hrc := dev.retaRc_nonpos
  by_cases he : e < 16
  · obtain ⟨hpos, hn⟩ := retaEntries_of_small hs he
    rw [shimRssReta_eq hpos hn]
    by_cases hz : dev.retaRc = 0
    · rw [if_neg (not_not.mpr hz)]
      exact Or.inr ⟨⟨he, hz⟩, rfl, rfl⟩
    · rw [if_pos hz]
      exact Or.inl ⟨hrc, fun h => hz h.2⟩
  · refine Or.inl ⟨?_, fun h => he h.1⟩
    by_cases hsize : shimRssRetaSize dev ≤ 0
    · rw [shimRssReta, if_pos hsize]
      decide
    · rw [shimRssReta_eq (not_le.mp hsize) (retaEntries_of_large hs (not_lt.mp he))]
      split_ifs
      · exact hrc
      · exact le_refl _

structure Device.Answers (dev : Device) (e : ℕ) : Prop where
  key : 0 < dev.hashKeySize ∧ dev.hashKeySize ≤ 64 ∧ dev.keyRc = 0
  table : e < 16 ∧ dev.retaRc = 0

def Device.loaded (dev : Device) (e : ℕ) : RssConfig :=
  ⟨false, dev.key, (List.range (2 ^ min e 9)).map dev.reta⟩

theorem loadRssConfig_eq_true_iff {nQueues : UInt16} (hq : nQueues ≠ 1) {dev : Device} {e : ℕ}
    (hs : dev.retaSize = 2 ^ e) (rss : RssConfig) :
    loadRssConfig nQueues dev .initial = (true, rss) ↔ dev.Answers e ∧ rss = dev.loaded e := by
  have hpos : 0 < 2 ^ min e 9 := Nat.two_pow_pos _
  have hpow : 2 ^ min e 9 &&& (2 ^ min e 9 - 1) = 0 := by
    rw [Nat.and_two_pow_sub_one_eq_mod, Nat.mod_self]
  have hkeys := shimRssHashKey_cases dev
  have htable := shimRssReta_cases hs
  rw [loadRssConfig, if_neg hq]
  generalize shimRssHashKey dev 64 = k at hkeys ⊢
  generalize shimRssReta dev 512 = r at htable ⊢
  obtain ⟨klen, key⟩ := k
  obtain ⟨n, reta⟩ := r
  dsimp only at hkeys htable ⊢
  rcases hkeys with ⟨hk, hno⟩ | ⟨hyes, rfl, hkey⟩
  · rw [if_pos hk]
    exact ⟨fun h => absurd (congrArg Prod.fst h) Bool.false_ne_true, fun h => absurd h.1.key hno⟩
  · rw [if_neg (by omega), Int.toNat_natCast, hkey]
    rcases htable with ⟨hn, hno⟩ | ⟨hyes', rfl, rfl⟩
    · rw [if_pos hn]
      exact ⟨fun h => absurd (congrArg Prod.fst h) Bool.false_ne_true, fun h => absurd h.1.table hno⟩
    · rw [if_neg (by omega), Int.toNat_natCast, if_neg (not_not.mpr hpow),
        List.take_of_length_le (by simp), Prod.mk.injEq]
      exact ⟨fun h => ⟨⟨hyes, hyes'⟩, h.2.symm⟩, fun h => ⟨rfl, h.2.symm⟩⟩

theorem loaded_of_loadRssConfig {nQueues : UInt16} {dev : Device} {e : ℕ}
    (hs : dev.retaSize = 2 ^ e) {rss : RssConfig}
    (h : loadRssConfig nQueues dev .initial = (true, rss)) : rss.Loaded := by
  by_cases hq : nQueues = 1
  · rw [loadRssConfig_single hq] at h
    cases h
    exact Or.inl rfl
  · obtain ⟨hanswers, rfl⟩ := (loadRssConfig_eq_true_iff hq hs rss).mp h
    exact Or.inr ⟨List.ne_nil_of_length_pos (dev.key_length ▸ hanswers.key.1), min e 9, by simp [Device.loaded]⟩

end SmoltcpS3.Rss

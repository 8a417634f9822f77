import SmoltcpS3.Rss.Load

namespace SmoltcpS3.Rss

open Toeplitz

def Device.Predicted (dev : Device) : Prop :=
  ∀ (nQueues : UInt16) (rss : RssConfig), 1 < nQueues →
    loadRssConfig nQueues dev .initial = (true, rss) →
    ∀ tuple : Vector UInt8 12, predictQueue rss tuple = dev.steer tuple

def Device.ReportsWhole (dev : Device) : Prop :=
  ∀ (nQueues : UInt16) (rss : RssConfig), 1 < nQueues →
    loadRssConfig nQueues dev .initial = (true, rss) →
    shimRssReta dev 512 = ((dev.retaSize : ℤ), (List.range dev.retaSize).map dev.reta)

-- Of 3 bytes, `toeplitz` makes nothing, while the device brings their last bit to place 8 of the hash.
def Device.Reached (dev : Device) (e : ℕ) : Prop :=
  e ≤ 9 ∧ ¬ (dev.hashKeySize = 3 ∧ e = 9 ∧ keyBits dev.key 23 = true ∧ dev.reta 256 ≠ dev.reta 0)

section Loaded

variable {dev : Device} {e : ℕ}

lemma ne_one_of_one_lt {nQueues : UInt16} (h : 1 < nQueues) : nQueues ≠ 1 := by
  rintro rfl
  exact absurd h (by decide)

lemma steer_eq (hs : dev.retaSize = 2 ^ e) (tuple : Vector UInt8 12) :
    dev.steer tuple = dev.reta (dev.rssHash tuple % 2 ^ e) := by
  rw [Device.steer, hs, Nat.and_two_pow_sub_one_eq_mod]

lemma toNat_toeplitz (dev : Device) (tuple : Vector UInt8 12) :
    (toeplitz dev.key tuple.toList).toNat = if dev.hashKeySize < 4 then 0 else dev.rssHash tuple := by
  have hl := dev.key_length
  split_ifs with h
  · rw [toeplitz_of_short (by omega)]
    rfl
  · exact congrArg BitVec.toNat (toeplitz_eq_hash (by omega) tuple.toList)

lemma predictQueue_loaded (ha : dev.Answers e) (tuple : Vector UInt8 12) :
    predictQueue (dev.loaded e) tuple =
      dev.reta ((if dev.hashKeySize < 4 then 0 else dev.rssHash tuple) % 2 ^ min e 9) := by
  have hpos : 2 ^ min e 9 ≠ 0 := (Nat.two_pow_pos _).ne'
  have hlt : (toeplitz dev.key tuple.toList).toNat % 2 ^ min e 9 < 2 ^ min e 9 :=
    Nat.mod_lt _ (Nat.two_pow_pos _)
  have hk : dev.key.length ≠ 0 := by
    rw [dev.key_length]
    exact ha.key.1.ne'
  rw [← toNat_toeplitz]
  simp only [predictQueue, Device.loaded, Bool.false_eq_true, if_false, hk, List.length_map,
    List.length_range, hpos, or_self, Nat.and_two_pow_sub_one_eq_mod]
  rw [List.getD_eq_getElem?_getD, List.getElem?_map, List.getElem?_range hlt]
  rfl

/-- Where the configuration loads, the table must have the same queue at the index that the device
takes and at the index that is left of it after the clip, or at 0 where the key is too short. -/
theorem predicted_iff (hs : dev.retaSize = 2 ^ e) :
    dev.Predicted ↔ (dev.Answers e → ∀ tuple, dev.reta (dev.rssHash tuple % 2 ^ e) =
      dev.reta ((if dev.hashKeySize < 4 then 0 else dev.rssHash tuple) % 2 ^ min e 9)) := by
  constructor
  · intro h ha tuple
    have hload := (loadRssConfig_eq_true_iff (by decide : (2 : UInt16) ≠ 1) hs _).mpr ⟨ha, rfl⟩
    rw [← predictQueue_loaded ha, ← steer_eq hs]
    exact (h 2 _ (by decide) hload tuple).symm
  · intro h nQueues rss hq hload tuple
    obtain ⟨ha, rfl⟩ := (loadRssConfig_eq_true_iff (ne_one_of_one_lt hq) hs rss).mp hload
    rw [predictQueue_loaded ha, steer_eq hs]
    exact (h ha tuple).symm

lemma reportsWhole_iff (hs : dev.retaSize = 2 ^ e) : dev.ReportsWhole ↔ (dev.Answers e → e ≤ 9) := by
  have htable := shimRssReta_cases hs
  constructor
  · intro h ha
    have hload := (loadRssConfig_eq_true_iff (by decide : (2 : UInt16) ≠ 1) hs _).mpr ⟨ha, rfl⟩
    have hwhole : (shimRssReta dev 512).1 = (dev.retaSize : ℤ) := congrArg Prod.fst (h 2 _ (by decide) hload)
    rcases htable with ⟨-, hno⟩ | ⟨-, hn, -⟩
    · exact absurd ha.table hno
    · rw [hn, hs] at hwhole
      have hpow : 2 ^ min e 9 = 2 ^ e := by exact_mod_cast hwhole
      exact min_eq_left_iff.mp (Nat.pow_right_injective (le_refl 2) hpow)
  · intro h nQueues rss hq hload
    obtain ⟨ha, rfl⟩ := (loadRssConfig_eq_true_iff (ne_one_of_one_lt hq) hs rss).mp hload
    rcases htable with ⟨-, hno⟩ | ⟨-, hn, hreta⟩
    · exact absurd ha.table hno
    · rw [min_eq_left (h ha)] at hn hreta
      rw [hs]
      exact Prod.ext hn hreta

end Loaded

section ShortKeys

variable {dev : Device} {e : ℕ}

lemma rssHash_mod_of_short (h : e + dev.hashKeySize * 8 ≤ 32) (tuple : Vector UInt8 12) :
    dev.rssHash tuple % 2 ^ e = 0 := by
  apply hash_mod_of_short (n := dev.hashKeySize * 8)
  · intro p hp
    exact keyBits_of_le (dev.key_length ▸ hp)
  · exact h

lemma wireBits_tuple (tuple : Vector UInt8 12) :
    ∃ bits, wireBits tuple.toList = bitOf (tuple.get 0) 7 :: bits := by
  obtain ⟨⟨l⟩, hl⟩ := tuple
  match l, hl with
  | c :: l, _ => exact ⟨_, rfl⟩

lemma rssHash_mod_of_three (h : dev.hashKeySize = 3) (tuple : Vector UInt8 12) :
    dev.rssHash tuple % 2 ^ 9 = if bitOf (tuple.get 0) 7 && keyBits dev.key 23 then 256 else 0 := by
  obtain ⟨bits, hbits⟩ := wireBits_tuple tuple
  rw [Device.rssHash, hbits]
  apply hash_mod_of_last (e := 8) (n := 23)
  · intro p hp
    have hl := dev.key_length
    exact keyBits_of_le (by omega)
  · rfl

def probeTuple : Vector UInt8 12 := #v[128, 0, 0, 0, 0, 0, 0, 0, 0, 0, 0, 0]

end ShortKeys

theorem prediction_exact {dev : Device} {e : ℕ} (hs : dev.retaSize = 2 ^ e) :
    (dev.Predicted ∧ dev.ReportsWhole ↔ (dev.Answers e → dev.Reached e)) ∧
      (dev.Predicted ↔ (dev.Answers e → ∀ tuple, dev.reta (dev.rssHash tuple % 2 ^ e) =
        dev.reta ((if dev.hashKeySize < 4 then 0 else dev.rssHash tuple) % 2 ^ min e 9))) := by
  refine ⟨?_, predicted_iff hs⟩
  rw [predicted_iff hs, reportsWhole_iff hs]
  constructor
  · rintro ⟨hpred, hwhole⟩ ha
    refine ⟨hwhole ha, ?_⟩
    rintro ⟨hk, rfl, hbit, hne⟩
    have heq := hpred ha probeTuple
    have hshort : dev.hashKeySize < 4 := by omega
    rw [rssHash_mod_of_three hk, hbit, if_pos hshort] at heq
    exact hne heq
  · intro h
    refine ⟨fun ha tuple => ?_, fun ha => (h ha).1⟩
    obtain ⟨he, hreached⟩ := h ha
    rw [min_eq_left he]
    split_ifs with hk
    · rw [Nat.zero_mod]
      by_cases hsmall : e + dev.hashKeySize * 8 ≤ 32
      · rw [rssHash_mod_of_short hsmall]
      · obtain ⟨hk3, rfl⟩ : dev.hashKeySize = 3 ∧ e = 9 := by omega
        rw [rssHash_mod_of_three hk3]
        by_cases hbit : keyBits dev.key 23 = true
        · have heq : dev.reta 256 = dev.reta 0 := by
            by_contra hne
            exact hreached ⟨hk3, rfl, hbit, hne⟩
          split_ifs
          · exact heq
          · rfl
        · rw [Bool.not_eq_true] at hbit
          rw [hbit, Bool.and_false, if_neg Bool.false_ne_true]
    · rfl

def enaDevice (e : ℕ) : Device where
  hashKeySize := 40
  retaSize := 2 ^ e
  key := [0, 0, 2] ++ List.replicate 37 0
  reta i := if i = 0 then 0 else 1
  keyRc := 0
  retaRc := 0
  key_length := rfl
  keyRc_nonpos := le_refl _
  retaRc_nonpos := le_refl _

theorem prediction_exact_enaDevice : (enaDevice 7).Predicted ∧ (enaDevice 7).ReportsWhole :=
  (prediction_exact (e := 7) rfl).1.mpr fun _ => ⟨by decide, fun h => absurd h.1 (by decide)⟩

theorem wide_table_mispredicted : ¬ (enaDevice 10).Predicted ∧ ¬ (enaDevice 10).ReportsWhole := by
  have hanswers : (enaDevice 10).Answers 10 := ⟨by decide, by decide⟩
  have hhash : (enaDevice 10).rssHash probeTuple = 512 := by decide +kernel
  constructor
  · rw [predicted_iff (e := 10) rfl]
    intro h
    have heq := h hanswers probeTuple
    rw [hhash] at heq
    exact absurd heq (by decide)
  · rw [reportsWhole_iff (e := 10) rfl]
    intro h
    exact absurd (h hanswers) (by decide)

end SmoltcpS3.Rss

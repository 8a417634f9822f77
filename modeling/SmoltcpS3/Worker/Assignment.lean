import Mathlib.Data.Nat.ModEq
import SmoltcpS3.Rss.Selection
import SmoltcpS3.Worker.Accounting
import Mathlib.Order.CompletePartialOrder

namespace SmoltcpS3.Worker

section Blocks

variable (cfg : Config)

lemma blockSize_pos : 0 < cfg.blockSize.toNat :=
  Nat.pos_of_ne_zero fun h => cfg.block_ne (UInt64.toNat_inj.mp h)

lemma stride_toNat : (stride cfg).toNat = cfg.objectSize.toNat - cfg.blockSize.toNat + 1 := by
  have hb := blockSize_pos cfg
  have ho := cfg.objectSize.toNat_lt
  rw [stride, saturatingSub]
  split_ifs with h
  · rw [UInt64.lt_iff_toNat_lt] at h
    rw [Nat.sub_eq_zero_of_le h.le]
    rfl
  · rw [UInt64.lt_iff_toNat_lt, not_lt] at h
    rw [UInt64.toNat_add, UInt64.toNat_sub_of_le _ _ (UInt64.le_iff_toNat_le.mpr h), UInt64.toNat_one]
    exact Nat.mod_eq_of_lt (by omega)

lemma blockStart_toNat (block : UInt64) :
    (blockStart cfg block).toNat = (block * cfg.blockSize).toNat % (stride cfg).toNat := by
  have hs : stride cfg ≠ 0 := by
    intro h
    have := stride_toNat cfg
    rw [h, UInt64.toNat_zero] at this
    omega
  rw [blockStart, if_neg hs, UInt64.toNat_mod]

lemma blockStart_add_lt (block : UInt64) :
    (blockStart cfg block).toNat + cfg.blockSize.toNat < 2 ^ 64 := by
  have hlt : (blockStart cfg block).toNat < (stride cfg).toNat := by
    rw [blockStart_toNat]
    exact Nat.mod_lt _ (by rw [stride_toNat]; omega)
  have hb := cfg.blockSize.toNat_lt
  have ho := cfg.objectSize.toNat_lt
  rw [stride_toNat] at hlt
  omega

lemma blockEnd_toNat (block : UInt64) :
    (blockEnd cfg block).toNat = (blockStart cfg block).toNat + cfg.blockSize.toNat - 1 := by
  have hb := blockSize_pos cfg
  have hlt := blockStart_add_lt cfg block
  have hadd : (blockStart cfg block + cfg.blockSize).toNat =
      (blockStart cfg block).toNat + cfg.blockSize.toNat := by
    rw [UInt64.toNat_add, Nat.mod_eq_of_lt hlt]
  have hone : (1 : UInt64) ≤ blockStart cfg block + cfg.blockSize := by
    rw [UInt64.le_iff_toNat_le, hadd, UInt64.toNat_one]
    omega
  rw [blockEnd, UInt64.toNat_sub_of_le _ _ hone, hadd, UInt64.toNat_one]

variable (block : UInt64)

structure RangeInside : Prop where
  stride_exact : (stride cfg).toNat = cfg.objectSize.toNat - cfg.blockSize.toNat + 1
  start_exact : (blockStart cfg block).toNat = (block * cfg.blockSize).toNat % (stride cfg).toNat
  end_exact : (blockEnd cfg block).toNat = (blockStart cfg block).toNat + cfg.blockSize.toNat - 1
  start_le : blockStart cfg block ≤ blockEnd cfg block
  length_eq : (blockEnd cfg block).toNat - (blockStart cfg block).toNat + 1 = cfg.blockSize.toNat
  expected_eq : expectedOf cfg block = cfg.blockSize
  end_lt : blockEnd cfg block < cfg.objectSize

variable {cfg block} in
lemma blockEnd_lt (h : cfg.blockSize ≤ cfg.objectSize) : blockEnd cfg block < cfg.objectSize := by
  have hlt : (blockStart cfg block).toNat < (stride cfg).toNat := by
    rw [blockStart_toNat]
    exact Nat.mod_lt _ (by rw [stride_toNat]; omega)
  have hb := blockSize_pos cfg
  rw [stride_toNat] at hlt
  rw [UInt64.le_iff_toNat_le] at h
  rw [UInt64.lt_iff_toNat_lt, blockEnd_toNat]
  omega

lemma rangeInside_iff : RangeInside cfg block ↔ cfg.blockSize ≤ cfg.objectSize := by
  have hb := blockSize_pos cfg
  have hend := blockEnd_toNat cfg block
  constructor
  · intro h
    have hlt := UInt64.lt_iff_toNat_lt.mp h.end_lt
    rw [UInt64.le_iff_toNat_le]
    omega
  · intro h
    refine ⟨stride_toNat cfg, blockStart_toNat cfg block, hend, ?_, ?_, expectedOf_eq cfg block,
      blockEnd_lt h⟩
    · rw [UInt64.le_iff_toNat_le]
      omega
    · omega

/-- The guard lets a block be larger than the object, and then every range reaches past it. The
product is a `wrapping_mul`; the second part asks it to be exact as well. -/
theorem range_inside_object_iff :
    (RangeInside cfg block ↔ cfg.blockSize ≤ cfg.objectSize) ∧
      (RangeInside cfg block ∧
          (block * cfg.blockSize).toNat = block.toNat * cfg.blockSize.toNat ↔
        cfg.blockSize ≤ cfg.objectSize ∧ block.toNat * cfg.blockSize.toNat < 2 ^ 64) := by
  have hexact : (block * cfg.blockSize).toNat = block.toNat * cfg.blockSize.toNat ↔
      block.toNat * cfg.blockSize.toNat < 2 ^ 64 := by
    rw [UInt64.toNat_mul]
    constructor
    · intro h
      rw [← h]
      exact Nat.mod_lt _ (by decide)
    · exact Nat.mod_eq_of_lt
  exact ⟨rangeInside_iff cfg block, and_congr (rangeInside_iff cfg block) hexact⟩

def blockPastObject : Config := { Config.small false with blockSize := 2, block_ne := by decide }

theorem blockPastObject_not_inside :
    blockPastObject.objectSize = 1 ∧ blockStart blockPastObject 0 = 0 ∧ blockEnd blockPastObject 0 = 1 ∧
      ¬ RangeInside blockPastObject 0 := by
  refine ⟨rfl, by decide, by decide, ?_⟩
  intro h
  have hlt := h.end_lt
  revert hlt
  decide

end Blocks

def blockIndex (conns k i : ℕ) : UInt64 := UInt64.ofNat k * UInt64.ofNat conns + UInt64.ofNat i

section Layout

lemma planned_request (cfg : Config) (up : Startup) (k i : ℕ) :
    (planned cfg up k i).request =
      Http.buildRangeRequest cfg (blockStart cfg (blockIndex cfg.connsPerWorker k i))
        (blockEnd cfg (blockIndex cfg.connsPerWorker k i)) := rfl

lemma pair_lt {n conns k i : ℕ} (hk : k < n) (hi : i < conns) : k * conns + i < n * conns :=
  calc k * conns + i < k * conns + conns := Nat.add_lt_add_left hi _
    _ = (k + 1) * conns := (Nat.succ_mul k conns).symm
    _ ≤ n * conns := Nat.mul_le_mul_right conns hk

lemma blockIndex_toNat {conns k i : ℕ} (h : k * conns + i < 2 ^ 64) :
    (blockIndex conns k i).toNat = k * conns + i := by
  rw [blockIndex, ← UInt64.ofNat_mul, ← UInt64.ofNat_add]
  exact UInt64.toNat_ofNat_of_lt' h

lemma bijOn_blockIndex {n conns : ℕ} (h : n * conns < 2 ^ 64) :
    Set.BijOn (fun p : ℕ × ℕ => (blockIndex conns p.1 p.2).toNat) (Set.Iio n ×ˢ Set.Iio conns)
      (Set.Iio (n * conns)) := by
  have hindex : ∀ p ∈ Set.Iio n ×ˢ Set.Iio conns,
      (blockIndex conns p.1 p.2).toNat = p.1 * conns + p.2 := by
    intro p hp
    exact blockIndex_toNat ((pair_lt hp.1 hp.2).trans h)
  refine ⟨?_, ?_, ?_⟩
  · intro p hp
    exact (hindex p hp).trans_lt (pair_lt hp.1 hp.2)
  · intro p hp q hq he
    simp only [hindex p hp, hindex q hq] at he
    have hp2 : p.2 < conns := hp.2
    have hq2 : q.2 < conns := hq.2
    have hpos : 0 < conns := (Nat.zero_le _).trans_lt hp2
    have hdiv := congrArg (· / conns) he
    have hmod := congrArg (· % conns) he
    simp only [Nat.mul_add_mod', Nat.mod_eq_of_lt hp2, Nat.mod_eq_of_lt hq2] at hmod
    simp only [Nat.mul_comm _ conns, Nat.mul_add_div hpos, Nat.div_eq_of_lt hp2,
      Nat.div_eq_of_lt hq2, Nat.add_zero] at hdiv
    exact Prod.ext hdiv hmod
  · intro b hb
    have hpos : 0 < conns := Nat.pos_of_mul_pos_left ((Nat.zero_le b).trans_lt hb)
    have hpair : (b / conns, b % conns) ∈ Set.Iio n ×ˢ Set.Iio conns :=
      ⟨Nat.div_lt_of_lt_mul (by rwa [Nat.mul_comm conns n]), Nat.mod_lt b hpos⟩
    refine ⟨(b / conns, b % conns), hpair, ?_⟩
    simp only [hindex _ hpair]
    exact Nat.div_add_mod' b conns

lemma mul_mod_eq_iff {m c b b' : ℕ} (hm : 0 < m) (hle : b ≤ b') :
    b * c % m = b' * c % m ↔ m / m.gcd c ∣ b' - b := by
  rw [← Nat.modEq_iff_dvd' hle]
  constructor
  · exact Nat.ModEq.cancel_right_div_gcd hm
  · intro h
    have hdvd : m ∣ m / m.gcd c * c := by
      obtain ⟨d, hd⟩ := Nat.gcd_dvd_right m c
      refine ⟨d, ?_⟩
      calc m / m.gcd c * c = m / m.gcd c * (m.gcd c * d) := by rw [← hd]
        _ = m / m.gcd c * m.gcd c * d := (mul_assoc _ _ _).symm
        _ = m * d := by rw [Nat.div_mul_cancel (Nat.gcd_dvd_left m c)]
    exact (h.mul_right' c).of_dvd hdvd

variable {cfg : Config} {n : ℕ}

lemma blockStart_ofNat {b : ℕ} (hn : n * cfg.blockSize.toNat < 2 ^ 64) (hb : b < n) :
    (blockStart cfg (UInt64.ofNat b)).toNat = b * cfg.blockSize.toNat % (stride cfg).toNat := by
  have hpos := blockSize_pos cfg
  have hle : b * cfg.blockSize.toNat ≤ n * cfg.blockSize.toNat := Nat.mul_le_mul_right _ hb.le
  have hb' : b < 2 ^ 64 := (Nat.le_mul_of_pos_right b hpos).trans_lt (hle.trans_lt hn)
  rw [blockStart_toNat, UInt64.toNat_mul, UInt64.toNat_ofNat_of_lt' hb',
    Nat.mod_eq_of_lt (hle.trans_lt hn)]

lemma blockStart_consecutive {b : ℕ} (hn : n * cfg.blockSize.toNat ≤ cfg.objectSize.toNat) (hb : b < n) :
    (blockStart cfg (UInt64.ofNat b)).toNat = b * cfg.blockSize.toNat := by
  have hlt : n * cfg.blockSize.toNat < 2 ^ 64 := hn.trans_lt cfg.objectSize.toNat_lt
  have hsucc : b * cfg.blockSize.toNat + cfg.blockSize.toNat ≤ n * cfg.blockSize.toNat := by
    rw [← Nat.succ_mul]
    exact Nat.mul_le_mul_right _ hb
  rw [blockStart_ofNat hlt hb, stride_toNat, Nat.mod_eq_of_lt (by omega)]

lemma blockEnd_consecutive {b : ℕ} (hn : n * cfg.blockSize.toNat ≤ cfg.objectSize.toNat) (hb : b < n) :
    (blockEnd cfg (UInt64.ofNat b)).toNat + 1 = (b + 1) * cfg.blockSize.toNat := by
  have hpos := blockSize_pos cfg
  rw [blockEnd_toNat, blockStart_consecutive hn hb, Nat.succ_mul]
  omega

theorem blocks_of_connections (cfg : Config) (n conns : ℕ)
    (hfit : n * conns * cfg.blockSize.toNat < 2 ^ 64) :
    (∀ up k i, (planned cfg up k i).request =
      Http.buildRangeRequest cfg (blockStart cfg (blockIndex cfg.connsPerWorker k i))
        (blockEnd cfg (blockIndex cfg.connsPerWorker k i))) ∧
    Set.BijOn (fun p : ℕ × ℕ => (blockIndex conns p.1 p.2).toNat) (Set.Iio n ×ˢ Set.Iio conns)
      (Set.Iio (n * conns)) ∧
    (stride cfg).toNat = cfg.objectSize.toNat - cfg.blockSize.toNat + 1 ∧
    (∀ b b', b < b' → b' < n * conns →
      (blockStart cfg (UInt64.ofNat b) = blockStart cfg (UInt64.ofNat b') ↔
        (stride cfg).toNat / (stride cfg).toNat.gcd cfg.blockSize.toNat ∣ b' - b)) ∧
    (n * conns * cfg.blockSize.toNat ≤ cfg.objectSize.toNat →
      (∀ b, b + 1 < n * conns → (blockStart cfg (UInt64.ofNat (b + 1))).toNat =
        (blockEnd cfg (UInt64.ofNat b)).toNat + 1) ∧
      ∀ b b', b < b' → b' < n * conns →
        Disjoint
          (Set.Icc (blockStart cfg (UInt64.ofNat b)).toNat (blockEnd cfg (UInt64.ofNat b)).toNat)
          (Set.Icc (blockStart cfg (UInt64.ofNat b')).toNat (blockEnd cfg (UInt64.ofNat b')).toNat)) := by
  have hpos := blockSize_pos cfg
  refine ⟨planned_request cfg, bijOn_blockIndex ?_, stride_toNat cfg, ?_, ?_⟩
  · exact (Nat.le_mul_of_pos_right _ hpos).trans_lt hfit
  · intro b b' hlt hb'
    rw [← UInt64.toNat_inj, blockStart_ofNat hfit (hlt.trans hb'), blockStart_ofNat hfit hb']
    apply mul_mod_eq_iff _ hlt.le
    rw [stride_toNat]
    omega
  · intro hn
    constructor
    · intro b hb
      rw [blockStart_consecutive hn hb, blockEnd_consecutive hn (Nat.lt_of_succ_lt hb)]
    · intro b b' hlt hb'
      rw [Set.disjoint_left]
      intro x hx hx'
      have hend := hx.2
      have hstart := hx'.1
      have hsucc := blockEnd_consecutive hn (hlt.trans hb')
      have hmul : (b + 1) * cfg.blockSize.toNat ≤ b' * cfg.blockSize.toNat :=
        Nat.mul_le_mul_right _ hlt
      rw [blockStart_consecutive hn hb'] at hstart
      omega

def tenByteObject : Config :=
  { Config.small false with
    objectSize := 10
    blockSize := 3
    object_ne := by decide
    block_ne := by decide }

theorem blocks_of_three_workers :
    3 * 1 * tenByteObject.blockSize.toNat < 2 ^ 64 ∧
      (blockStart tenByteObject (UInt64.ofNat (1 + 1))).toNat =
        (blockEnd tenByteObject (UInt64.ofNat 1)).toNat + 1 := by
  have h := blocks_of_connections tenByteObject 3 1 (by decide)
  exact ⟨by decide, (h.2.2.2.2 (by decide)).1 1 (by decide)⟩

end Layout

def handles (cfg : Config) : List ℕ := List.range cfg.connsPerWorker

lemma ports_new (cfg : Config) (up : Startup) (k : ℕ) :
    (Thread.new cfg up k).ports = Rss.selectPorts cfg.connsPerWorker
      (Rss.ownedCount cfg up.rss up.ourIp (Thread.new cfg up k).queueId)
      (Rss.ownedBitmap cfg up.rss up.ourIp (Thread.new cfg up k).queueId) := by
  simp only [Thread.new, Rss.myPorts]

theorem ports_of_connections :
    (∀ (conns : ℕ) (bitmap : Rss.OwnedBitmap), 1 ≤ conns →
      let ports := Rss.selectPorts conns (Rss.ownedIn bitmap) bitmap
      ports.Pairwise (· < ·) ∧
        (∀ port ∈ ports, Rss.ephBase ≤ port ∧ Rss.ownsPort bitmap port = true) ∧
        ports.length = min conns (Rss.ownedIn bitmap) ∧ min conns ports.length = ports.length) ∧
    ∀ (cfg : Config) (up : Startup) (k : ℕ),
      let t := Thread.new cfg up k
      let bitmap := Rss.ownedBitmap cfg up.rss up.ourIp t.queueId
      Rss.ownedCount cfg up.rss up.ourIp t.queueId = Rss.ownedIn bitmap ∧
        t.ports = Rss.selectPorts cfg.connsPerWorker (Rss.ownedIn bitmap) bitmap ∧
        t.nConns cfg = t.ports.length ∧
        ∀ i < t.nConns cfg, i < t.ports.length ∧ i < (handles cfg).length := by
  constructor
  · intro conns bitmap hc
    have hlen := Rss.length_selectPorts_eq conns bitmap hc
    refine ⟨Rss.pairwise_selectPorts conns bitmap _, ?_, hlen, ?_⟩
    · intro port hport
      exact Rss.mem_selectPorts conns bitmap hport
    · rw [hlen]
      omega
  · intro cfg up k
    have howned := @Rss.ownedIn_ownedBitmap cfg up.rss up.ourIp (Thread.new cfg up k).queueId
    refine ⟨howned.symm, ?_, ?_, ?_⟩
    · rw [howned, ports_new]
    · rw [Thread.nConns, ports_new, min_eq_right]
      exact (Rss.length_selectPorts _ _ _).1
    · intro i hi
      rw [handles, List.length_range]
      exact lt_min_iff.mp (by rwa [Thread.nConns, min_comm] at hi)

end SmoltcpS3.Worker

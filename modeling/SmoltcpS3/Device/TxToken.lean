import SmoltcpS3.Device.Checksums

/-! The buffer of a transmit token: a slice of an mbuf, or a scratch array when the pool is empty. -/

namespace SmoltcpS3.Device

section Consume

structure TxMbuf where
  bufAddr : ℕ
  bufLen : ℕ
  dataOff : ℕ
  dataLen : ℕ
  pktLen : ℕ
  deriving DecidableEq, Repr

def TxMbuf.mtod (m : TxMbuf) : ℕ := m.bufAddr + m.dataOff

structure MbufPool where
  dataRoomSize : ℕ
  headroom : ℕ

def MbufPool.probed (headroom : ℕ) : MbufPool := ⟨1536, headroom⟩

def MbufPool.alloc (pool : MbufPool) (bufAddr : ℕ) : TxMbuf :=
  ⟨bufAddr, pool.dataRoomSize, pool.headroom, 0, 0⟩

structure AllocTx where
  data : Option ℕ
  handle : Option TxMbuf
  cap : ℕ

def shimMbufAllocTx (m : Option TxMbuf) : AllocTx :=
  match m with
  | none => ⟨none, none, 0⟩
  | some m => ⟨some m.mtod, some m, m.bufLen⟩

inductive Slice
  | scratch (len : ℕ)
  | memory (start len : ℕ)
  deriving DecidableEq, Repr

def Slice.len : Slice → ℕ
  | .scratch len => len
  | .memory _ len => len

structure TxFailures where
  alloc : ℕ
  burst : ℕ
  deriving DecidableEq, Repr

structure Consumed where
  slice : Slice
  sent : Option TxMbuf
  failures : TxFailures
  deriving DecidableEq, Repr

/-- `DpdkTxToken::consume` with what `rte_pktmbuf_alloc` returns and whether `rte_eth_tx_burst`
takes the frame; `slice` is what the closure gets to write. -/
def consume (m : Option TxMbuf) (burst : Bool) (k : TxFailures) (len : ℕ) : Consumed :=
  let a := shimMbufAllocTx m
  match a.data, a.handle with
  | some data, some m =>
    let n := min len a.cap
    let m := { m with dataLen := n % 2 ^ 16, pktLen := n % 2 ^ 16 }
    if burst then ⟨.memory data n, some m, k⟩
    else ⟨.memory data n, none, { k with burst := k.burst + 1 }⟩
  | _, _ => ⟨.scratch (min len mtu), none, { k with alloc := k.alloc + 1 }⟩

end Consume

section Bounds

def Slice.Inside (m : TxMbuf) : Slice → Prop
  | .scratch _ => False
  | .memory start len => m.bufAddr ≤ start ∧ start + len ≤ m.bufAddr + m.bufLen

def AllocTx.Honest (m : TxMbuf) (a : AllocTx) : Prop :=
  ∃ data, a.data = some data ∧ data + a.cap ≤ m.bufAddr + m.bufLen

lemma consume_alloc (m : TxMbuf) (burst : Bool) (k : TxFailures) (len : ℕ) :
    (consume (some m) burst k len).slice = .memory m.mtod (min len m.bufLen) := by
  cases burst <;> rfl

variable (bufAddr h : ℕ) (burst : Bool) (k : TxFailures) (len : ℕ)

lemma consume_probed (hlen : len ≤ mtu) :
    (consume (some ((MbufPool.probed h).alloc bufAddr)) burst k len).slice =
      .memory (bufAddr + h) len := by
  have hle : len ≤ 1536 := hlen.trans (by decide)
  rw [consume_alloc]
  exact congrArg _ (min_eq_left hle)

lemma inside_probed_iff (hlen : len ≤ mtu) :
    (consume (some ((MbufPool.probed h).alloc bufAddr)) burst k len).slice.Inside
      ((MbufPool.probed h).alloc bufAddr) ↔ h + len ≤ 1536 := by
  rw [consume_probed bufAddr h burst k len hlen]
  simp only [Slice.Inside, MbufPool.alloc, MbufPool.probed]
  omega

lemma honest_probed_iff :
    (shimMbufAllocTx (some ((MbufPool.probed h).alloc bufAddr))).Honest
      ((MbufPool.probed h).alloc bufAddr) ↔ h = 0 := by
  simp only [AllocTx.Honest, shimMbufAllocTx, Option.some.injEq, exists_eq_left', TxMbuf.mtod,
    MbufPool.alloc, MbufPool.probed]
  omega

structure TransmitsInside (m : TxMbuf) (burst : Bool) (k : TxFailures) (len : ℕ) : Prop where
  exact_length : (consume (some m) burst k len).slice.len = len
  inside : (consume (some m) burst k len).slice.Inside m
  honest : (shimMbufAllocTx (some m)).Honest m
  room : mtu ≤ (shimMbufAllocTx (some m)).cap

lemma transmitsInside_probed_iff (hlen : len ≤ mtu) :
    TransmitsInside ((MbufPool.probed h).alloc bufAddr) burst k len ↔ h = 0 := by
  constructor
  · intro hsafe
    exact (honest_probed_iff bufAddr h).mp hsafe.honest
  · rintro rfl
    refine ⟨?_, ?_, (honest_probed_iff bufAddr 0).mpr rfl, ?_⟩
    · rw [consume_probed bufAddr 0 burst k len hlen]
      rfl
    · rw [inside_probed_iff bufAddr 0 burst k len hlen, Nat.zero_add]
      exact hlen.trans (by decide)
    · simp [shimMbufAllocTx, MbufPool.alloc, MbufPool.probed, mtu]

theorem transmitsInside_iff :
    (∀ len ≤ mtu,
      (TransmitsInside ((MbufPool.probed h).alloc bufAddr) burst k len ↔ h = 0) ∧
      ((consume (some ((MbufPool.probed h).alloc bufAddr)) burst k len).slice.Inside
        ((MbufPool.probed h).alloc bufAddr) ↔ h + len ≤ 1536) ∧
      (consume (some ((MbufPool.probed h).alloc bufAddr)) burst k len).slice.len = len ∧
      (consume none burst k len).slice = .scratch len) ∧
    ((∀ len ≤ mtu,
      (consume (some ((MbufPool.probed h).alloc bufAddr)) burst k len).slice.Inside
        ((MbufPool.probed h).alloc bufAddr)) ↔ h ≤ 22) := by
  constructor
  · intro len hlen
    refine ⟨transmitsInside_probed_iff bufAddr h burst k len hlen,
      inside_probed_iff bufAddr h burst k len hlen, ?_, ?_⟩
    · rw [consume_probed bufAddr h burst k len hlen]
      rfl
    · exact congrArg Slice.scratch (min_eq_left hlen)
  · constructor
    · intro hall
      have hfull := (inside_probed_iff bufAddr h burst k mtu le_rfl).mp (hall mtu le_rfl)
      rw [mtu] at hfull
      omega
    · intro h22 len hlen
      rw [inside_probed_iff bufAddr h burst k len hlen]
      rw [mtu] at hlen
      omega

theorem transmitsInside_without_headroom :
    TransmitsInside ((MbufPool.probed 0).alloc 4096) true ⟨0, 0⟩ 1514 :=
  (((transmitsInside_iff 4096 0 true ⟨0, 0⟩).1 1514 (by decide)).1).mpr rfl

-- The last 106 bytes of a full frame lie behind the buffer.
theorem not_inside_with_default_headroom :
    ¬ TransmitsInside ((MbufPool.probed 128).alloc 4096) true ⟨0, 0⟩ 1514 ∧
      (consume (some ((MbufPool.probed 128).alloc 4096)) true ⟨0, 0⟩ 1514).slice =
        .memory (4096 + 128) 1514 ∧
      4096 + 1536 < 4096 + 128 + 1514 := by
  refine ⟨?_, by decide, by decide⟩
  intro h
  have hle : 128 + 1514 ≤ 1536 := (inside_probed_iff 4096 128 true ⟨0, 0⟩ 1514 (by decide)).mp h.inside
  omega

end Bounds

end SmoltcpS3.Device

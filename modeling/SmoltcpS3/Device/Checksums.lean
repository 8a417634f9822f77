import SmoltcpS3.Device.TxFrame

namespace SmoltcpS3.Device

inductive Checksum
  | both
  | rx
  | tx
  | none
  deriving DecidableEq, Repr

def Checksum.checksRx : Checksum → Bool
  | .both | .rx => true
  | _ => false

def Checksum.fillsTx : Checksum → Bool
  | .both | .tx => true
  | _ => false

structure ChecksumCapabilities where
  ipv4 : Checksum
  udp : Checksum
  tcp : Checksum
  icmpv4 : Checksum
  deriving DecidableEq, Repr

def ChecksumCapabilities.ignored : ChecksumCapabilities := ⟨.none, .none, .none, .none⟩

def mtu : ℕ := 1514

structure DeviceCapabilities where
  maxTransmissionUnit : ℕ
  checksum : ChecksumCapabilities
  deriving DecidableEq, Repr

def capabilities : DeviceCapabilities where
  maxTransmissionUnit := mtu
  checksum := .ignored

namespace Transport

def checksum (c : ChecksumCapabilities) : Transport → Checksum
  | .tcp => c.tcp
  | .udp => c.udp

def rxOffload (fl : OffloadFlags) : Transport → UInt64
  | .tcp => fl.rxTcpCksum
  | .udp => fl.rxUdpCksum

end Transport

structure WellFormed (t : Transport) (frame : List UInt8) : Prop where
  ethertype : ethertype frame = 0x0800
  version : frame.getD 14 0 >>> 4 = 4
  ihl : 20 ≤ ipHdrLen frame
  proto : frame.getD 23 0 = t.proto
  fits : l4Off frame + t.hdrLen ≤ frame.length

variable (fl : OffloadFlags)

structure Handled (caps : ChecksumCapabilities) (info : DevInfo) (t : Transport) (frame : List UInt8) :
    Prop where
  txIp : caps.ipv4.fillsTx = true ∨
    (enaTxOffloadPrepare fl (shimEthDevConfigure fl info).tx frame).1.olFlags &&& fl.mbufIpCksum =
      fl.mbufIpCksum
  txL4 : (t.checksum caps).fillsTx = true ∨
    (enaTxOffloadPrepare fl (shimEthDevConfigure fl info).tx frame).1.olFlags &&& fl.l4Mask = t.request fl
  rxIp : (shimEthDevConfigure fl info).rx &&& fl.rxIpv4Cksum ≠ 0 ∨ caps.ipv4.checksRx = true
  rxL4 : (shimEthDevConfigure fl info).rx &&& t.rxOffload fl ≠ 0 ∨ (t.checksum caps).checksRx = true

section Bits

lemma or_and_absorb (y z : UInt64) : z ||| y &&& z = z := by
  apply UInt64.toBitVec_inj.mp
  apply BitVec.eq_of_getLsbD_eq
  intro i _
  simp only [UInt64.toBitVec_and, UInt64.toBitVec_or, BitVec.getLsbD_and, BitVec.getLsbD_or]
  cases z.toBitVec.getLsbD i <;> simp

lemma or_and_of_left {x z : UInt64} (h : x &&& z = z) (y : UInt64) : (x ||| y) &&& z = z := by
  rw [or_and_distrib, h, or_and_absorb]

lemma or_and_of_right (x : UInt64) {y z : UInt64} (h : y &&& z = z) : (x ||| y) &&& z = z := by
  rw [UInt64.or_comm]
  exact or_and_of_left h x

end Bits

variable {fl}

lemma wantedTx_ipv4 : fl.wantedTxOffloads &&& fl.txIpv4Cksum = fl.txIpv4Cksum :=
  or_and_of_left (or_and_of_left UInt64.and_self _) _

lemma wantedTx_offload (t : Transport) :
    fl.wantedTxOffloads &&& t.txOffload fl = t.txOffload fl := by
  cases t with
  | tcp => exact or_and_of_left (or_and_of_right _ UInt64.and_self) _
  | udp => exact or_and_of_right _ UInt64.and_self

lemma wantedRx_ipv4 : fl.wantedRxOffloads &&& fl.rxIpv4Cksum = fl.rxIpv4Cksum :=
  or_and_of_left (or_and_of_left (or_and_of_left UInt64.and_self _) _) _

lemma wantedRx_offload (t : Transport) :
    fl.wantedRxOffloads &&& t.rxOffload fl = t.rxOffload fl := by
  cases t with
  | tcp => exact or_and_of_left (or_and_of_left (or_and_of_right _ UInt64.and_self) _) _
  | udp => exact or_and_of_left (or_and_of_right _ UInt64.and_self) _

lemma negotiated {wanted bit : UInt64} (h : wanted &&& bit = bit) (capa : UInt64) :
    wanted &&& capa &&& bit = capa &&& bit := by
  rw [UInt64.and_assoc, UInt64.and_comm capa, ← UInt64.and_assoc, h, UInt64.and_comm]

lemma WellFormed.accepted {t : Transport} {frame : List UInt8} (h : WellFormed t frame) {g : UInt64}
    (hg : g ≠ 0) : Accepted g frame := by
  have hfits := h.fits
  have hihl := h.ihl
  rw [l4Off] at hfits
  exact ⟨hg, by omega, h.ethertype, hihl, by omega⟩

lemma WellFormed.requestedL4 {t : Transport} {frame : List UInt8} (h : WellFormed t frame) (g : UInt64) :
    requestedL4 fl g frame = if g &&& t.txOffload fl ≠ 0 then some t else none := by
  have hfits := h.fits
  rw [Device.requestedL4, h.proto]
  cases t with
  | tcp =>
    simp only [Transport.proto, Transport.hdrLen, Transport.txOffload] at hfits ⊢
    split_ifs <;> simp_all
  | udp =>
    simp only [Transport.proto, Transport.hdrLen, Transport.txOffload] at hfits ⊢
    split_ifs <;> simp_all

lemma ipRequested_iff {t : Transport} {frame : List UInt8} (h : WellFormed t frame) (g : UInt64) :
    (enaTxOffloadPrepare fl g frame).1.olFlags &&& fl.mbufIpCksum = fl.mbufIpCksum ↔
      g &&& fl.txIpv4Cksum ≠ 0 := by
  by_cases hg : g = 0
  · have hprep : enaTxOffloadPrepare fl g frame = (.zero, frame) := if_pos (Or.inl hg)
    rw [hprep, hg]
    simpa [TxMeta.zero] using fl.ipCksum_ne.symm
  · exact (h.accepted hg).ipFlag

lemma l4Requested_iff {t : Transport} {frame : List UInt8} (h : WellFormed t frame) (g : UInt64) :
    (enaTxOffloadPrepare fl g frame).1.olFlags &&& fl.l4Mask = t.request fl ↔
      g &&& t.txOffload fl ≠ 0 := by
  by_cases hg : g = 0
  · have hprep : enaTxOffloadPrepare fl g frame = (.zero, frame) := if_pos (Or.inl hg)
    rw [hprep, hg]
    simpa [TxMeta.zero] using (request_ne t).symm
  · rw [(h.accepted hg).l4Flag, h.requestedL4]
    split_ifs with hl4
    · simp [hl4, requestBits]
    · simpa [hl4, requestBits] using (request_ne t).symm

theorem checksums_handled_iff (fl : OffloadFlags) (info : DevInfo) {t : Transport} {frame : List UInt8}
    (h : WellFormed t frame) :
    Handled fl capabilities.checksum info t frame ↔
      info.txOffloadCapa &&& fl.txIpv4Cksum ≠ 0 ∧ info.txOffloadCapa &&& t.txOffload fl ≠ 0 ∧
        info.rxOffloadCapa &&& fl.rxIpv4Cksum ≠ 0 ∧ info.rxOffloadCapa &&& t.rxOffload fl ≠ 0 := by
  have hl4 : t.checksum capabilities.checksum = .none := by cases t <;> rfl
  have htxIp := @ipRequested_iff fl t frame h (shimEthDevConfigure fl info).tx
  have htxL4 := @l4Requested_iff fl t frame h (shimEthDevConfigure fl info).tx
  have hrxIp : (shimEthDevConfigure fl info).rx &&& fl.rxIpv4Cksum = info.rxOffloadCapa &&& fl.rxIpv4Cksum :=
    negotiated wantedRx_ipv4 _
  have hrxL4 : (shimEthDevConfigure fl info).rx &&& t.rxOffload fl = info.rxOffloadCapa &&& t.rxOffload fl :=
    negotiated (wantedRx_offload t) _
  have htx : (shimEthDevConfigure fl info).tx = fl.wantedTxOffloads &&& info.txOffloadCapa := rfl
  constructor
  · rintro ⟨hti, htl, hri, hrl⟩
    rw [hl4] at htl hrl
    rw [htx, negotiated wantedTx_ipv4] at htxIp
    rw [htx, negotiated (wantedTx_offload t)] at htxL4
    refine ⟨htxIp.mp (hti.resolve_left (by decide)), htxL4.mp (htl.resolve_left (by decide)), ?_, ?_⟩
    · exact hrxIp ▸ hri.resolve_right (by decide)
    · exact hrxL4 ▸ hrl.resolve_right (by decide)
  · rintro ⟨hti, htl, hri, hrl⟩
    refine ⟨Or.inr (htxIp.mpr ?_), Or.inr (htxL4.mpr ?_), Or.inl (hrxIp ▸ hri), Or.inl (hrxL4 ▸ hrl)⟩
    · rw [htx, negotiated wantedTx_ipv4]
      exact hti
    · rw [htx, negotiated (wantedTx_offload t)]
      exact htl

lemma wellFormed_tcpFrame : WellFormed .tcp tcpFrame :=
  ⟨by decide, by decide, by decide, by decide, by decide⟩

theorem checksums_handled_tcpFrame :
    WellFormed .tcp tcpFrame ∧ Handled .dpdk capabilities.checksum ⟨0xe, 0xe⟩ .tcp tcpFrame :=
  ⟨wellFormed_tcpFrame, (checksums_handled_iff .dpdk ⟨0xe, 0xe⟩ wellFormed_tcpFrame).mpr (by decide)⟩

theorem not_handled_without_offloads :
    WellFormed .tcp tcpFrame ∧ (enaTxOffloadPrepare .dpdk (shimEthDevConfigure .dpdk ⟨0, 0⟩).tx tcpFrame) =
        (.zero, tcpFrame) ∧
      ¬ Handled .dpdk capabilities.checksum ⟨0, 0⟩ .tcp tcpFrame := by
  refine ⟨wellFormed_tcpFrame, by decide, ?_⟩
  intro h
  have hip := h.txIp
  revert hip
  decide

end SmoltcpS3.Device

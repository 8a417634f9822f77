import Mathlib.Data.UInt

namespace SmoltcpS3.Device

/-- The DPDK flag bits that the shim uses: the offloads of a device and the requests of an mbuf,
where `l4Mask` covers the request for either transport protocol. -/
structure OffloadFlags where
  txIpv4Cksum : UInt64
  txTcpCksum : UInt64
  txUdpCksum : UInt64
  rxIpv4Cksum : UInt64
  rxTcpCksum : UInt64
  rxUdpCksum : UInt64
  rxRssHash : UInt64
  mbufIpv4 : UInt64
  mbufIpCksum : UInt64
  mbufTcpCksum : UInt64
  mbufUdpCksum : UInt64
  l4Mask : UInt64
  ipCksum_ne : mbufIpCksum ≠ 0
  tcpCksum_ne : mbufTcpCksum ≠ 0
  udpCksum_ne : mbufUdpCksum ≠ 0
  tcpCksum_mask : mbufTcpCksum &&& l4Mask = mbufTcpCksum
  udpCksum_mask : mbufUdpCksum &&& l4Mask = mbufUdpCksum
  ipv4_ipCksum : mbufIpv4 &&& mbufIpCksum = 0
  ipv4_mask : mbufIpv4 &&& l4Mask = 0
  ipCksum_mask : mbufIpCksum &&& l4Mask = 0

def OffloadFlags.dpdk : OffloadFlags where
  txIpv4Cksum := 0x2
  txTcpCksum := 0x8
  txUdpCksum := 0x4
  rxIpv4Cksum := 0x2
  rxTcpCksum := 0x8
  rxUdpCksum := 0x4
  rxRssHash := 0x80000
  mbufIpv4 := 0x0080000000000000
  mbufIpCksum := 0x0040000000000000
  mbufTcpCksum := 0x0010000000000000
  mbufUdpCksum := 0x0030000000000000
  l4Mask := 0x0030000000000000
  ipCksum_ne := by decide
  tcpCksum_ne := by decide
  udpCksum_ne := by decide
  tcpCksum_mask := by decide
  udpCksum_mask := by decide
  ipv4_ipCksum := by decide
  ipv4_mask := by decide
  ipCksum_mask := by decide

variable (fl : OffloadFlags)

def OffloadFlags.wantedTxOffloads : UInt64 := fl.txIpv4Cksum ||| fl.txTcpCksum ||| fl.txUdpCksum

def OffloadFlags.wantedRxOffloads : UInt64 :=
  fl.rxIpv4Cksum ||| fl.rxTcpCksum ||| fl.rxUdpCksum ||| fl.rxRssHash

structure DevInfo where
  txOffloadCapa : UInt64
  rxOffloadCapa : UInt64

structure Offloads where
  tx : UInt64
  rx : UInt64
  deriving DecidableEq, Repr

def shimEthDevConfigure (info : DevInfo) : Offloads where
  tx := fl.wantedTxOffloads &&& info.txOffloadCapa
  rx := fl.wantedRxOffloads &&& info.rxOffloadCapa

structure TxMeta where
  olFlags : UInt64
  l2Len : ℕ
  l3Len : ℕ
  l4Len : ℕ
  deriving DecidableEq, Repr

def TxMeta.zero : TxMeta := ⟨0, 0, 0, 0⟩

def ethertype (buf : List UInt8) : UInt16 :=
  (buf.getD 12 0).toUInt16 <<< 8 ||| (buf.getD 13 0).toUInt16

def ipHdrLen (buf : List UInt8) : ℕ := (buf.getD 14 0 &&& 0x0f).toNat * 4

def l4Off (buf : List UInt8) : ℕ := 14 + ipHdrLen buf

def zeroAt (i : ℕ) (buf : List UInt8) : List UInt8 := (buf.set i 0).set (i + 1) 0

def prepareIp (g : UInt64) (buf : List UInt8) : TxMeta × List UInt8 :=
  let m : TxMeta := ⟨fl.mbufIpv4, 14, ipHdrLen buf, 0⟩
  if g &&& fl.txIpv4Cksum ≠ 0 then
    ({ m with olFlags := m.olFlags ||| fl.mbufIpCksum }, zeroAt 24 buf)
  else (m, buf)

def prepareL4 (g : UInt64) (m : TxMeta) (buf : List UInt8) : TxMeta × List UInt8 :=
  let proto := buf.getD 23 0
  if proto = 6 ∧ l4Off buf + 20 ≤ buf.length ∧ g &&& fl.txTcpCksum ≠ 0 then
    let buf' := zeroAt (l4Off buf + 16) buf
    ({ m with
        l4Len := (buf'.getD (l4Off buf + 12) 0 >>> 4).toNat * 4
        olFlags := m.olFlags ||| fl.mbufTcpCksum }, buf')
  else if proto = 17 ∧ l4Off buf + 8 ≤ buf.length ∧ g &&& fl.txUdpCksum ≠ 0 then
    ({ m with l4Len := 8, olFlags := m.olFlags ||| fl.mbufUdpCksum }, zeroAt (l4Off buf + 6) buf)
  else (m, buf)

def enaTxOffloadPrepare (g : UInt64) (buf : List UInt8) : TxMeta × List UInt8 :=
  if g = 0 ∨ buf.length < 14 + 20 then (.zero, buf)
  else if ethertype buf ≠ 0x0800 then (.zero, buf)
  else if ipHdrLen buf < 20 ∨ 14 + ipHdrLen buf > buf.length then (.zero, buf)
  else
    let (m, buf) := prepareIp fl g buf
    prepareL4 fl g m buf

@[simp] lemma length_zeroAt (i : ℕ) (buf : List UInt8) : (zeroAt i buf).length = buf.length := by
  simp [zeroAt]

lemma getD_zeroAt {i j : ℕ} (h : j ≠ i) (h' : j ≠ i + 1) (buf : List UInt8) :
    (zeroAt i buf).getD j 0 = buf.getD j 0 := by
  simp only [zeroAt, List.getD_eq_getElem?_getD]
  rw [List.getElem?_set_ne h'.symm, List.getElem?_set_ne h.symm]

end SmoltcpS3.Device

import SmoltcpS3.Device.Checksums
import SmoltcpS3.Smoltcp.Socket
import SmoltcpS3.Wire.Checksum
import SmoltcpS3.Wire.TcpOption

namespace SmoltcpS3.Wire

open BigEndian Device Smoltcp

def fixedLen : ℕ := 20

inductive Field
  | srcPort | dstPort | seqNum | ackNum | flags | winSize | checksum | urgent
  deriving DecidableEq

namespace Field

def start : Field → ℕ
  | .srcPort => 0
  | .dstPort => 2
  | .seqNum => 4
  | .ackNum => 8
  | .flags => 12
  | .winSize => 14
  | .checksum => 16
  | .urgent => 18

def len : Field → ℕ
  | .seqNum | .ackNum => 4
  | _ => 2

lemma stop_le (f : Field) : f.start + f.len ≤ fixedLen := by
  cases f <;> decide

lemma disjoint {f g : Field} (h : f ≠ g) : f.start + f.len ≤ g.start ∨ g.start + g.len ≤ f.start := by
  cases f <;> cases g <;> first | exact absurd rfl h | decide

end Field

def flgFin : UInt16 := 0x001

def flgSyn : UInt16 := 0x002

def flgRst : UInt16 := 0x004

def flgPsh : UInt16 := 0x008

def flgAck : UInt16 := 0x010

/-- A buffer with room for the fixed part of the header, so that no access to its fields panics. -/
structure Packet where
  buffer : List UInt8
  header_le : fixedLen ≤ buffer.length

lemma Field.put_fits (f : Field) {bytes buffer : List UInt8} (hbytes : bytes.length = f.len)
    (h : fixedLen ≤ buffer.length) : f.start + bytes.length ≤ buffer.length := by
  have := f.stop_le
  omega

lemma header_le_put {pos : ℕ} {new buffer : List UInt8} (h : fixedLen ≤ buffer.length) :
    fixedLen ≤ pos ∨ pos + new.length ≤ buffer.length → fixedLen ≤ (put pos new buffer).length := by
  intro hpos
  simp only [put, List.length_append, List.length_take, List.length_drop]
  omega

namespace Packet

def get (p : Packet) (f : Field) : ℕ := decode (extract f.start f.len p.buffer)

def set (p : Packet) (f : Field) (n : ℕ) : Packet :=
  ⟨put f.start (encode f.len n) p.buffer,
    header_le_put p.header_le (.inr (f.put_fits (length_encode f.len n) p.header_le))⟩

def flags (p : Packet) : UInt16 := UInt16.ofNat (p.get .flags)

def setFlags (p : Packet) (raw : UInt16) : Packet := p.set .flags raw.toNat

def flag (p : Packet) (flg : UInt16) : Bool := p.flags &&& flg != 0

def headerLen (p : Packet) : ℕ := ((p.flags >>> 12) * 4).toUInt8.toNat

def clearFlags (p : Packet) : Packet := p.setFlags (p.flags &&& ~~~(0x0fff : UInt16))

def setFlag (p : Packet) (flg : UInt16) (value : Bool) : Packet :=
  p.setFlags (if value then p.flags ||| flg else p.flags &&& ~~~flg)

def setHeaderLen (p : Packet) (value : UInt8) : Packet :=
  p.setFlags ((p.flags &&& ~~~(0xf000 : UInt16)) ||| ((value.toUInt16 / 4) <<< 12))

def checkLen (buffer : List UInt8) : Except Fault Packet :=
  if h : fixedLen ≤ buffer.length then
    let p : Packet := ⟨buffer, h⟩
    if buffer.length < p.headerLen ∨ p.headerLen < fixedLen then .error .error else .ok p
  else .error .error

def options (p : Packet) : Except Fault (List UInt8) :=
  if fixedLen ≤ p.headerLen ∧ p.headerLen ≤ p.buffer.length then
    .ok (extract fixedLen (p.headerLen - fixedLen) p.buffer)
  else .error .panic

def payload (p : Packet) : Except Fault (List UInt8) :=
  if p.headerLen ≤ p.buffer.length then .ok (p.buffer.drop p.headerLen) else .error .panic

def sum (p : Packet) (src dst : Ipv4Address) : UInt16 :=
  Checksum.combine [Checksum.pseudoHeaderV4 src dst 6 p.buffer.length, Checksum.data p.buffer]

def verifyChecksum (p : Packet) (src dst : Ipv4Address) : Bool := p.sum src dst == 0xffff

def fillChecksum (p : Packet) (src dst : Ipv4Address) : Packet :=
  let p := p.set .checksum 0
  p.set .checksum (~~~ p.sum src dst).toNat

def control (p : Packet) : Except Fault Control :=
  match p.flag flgSyn, p.flag flgFin, p.flag flgRst, p.flag flgPsh with
  | false, false, false, false => .ok .none
  | false, false, false, true => .ok .psh
  | true, false, false, _ => .ok .syn
  | false, true, false, _ => .ok .fin
  | false, false, true, _ => .ok .rst
  | _, _, _, _ => .error .error

def updateOptions (p : Packet) (f : List UInt8 → Option (List UInt8)) : Option Packet :=
  if fixedLen ≤ p.headerLen ∧ p.headerLen ≤ p.buffer.length then
    (f (extract fixedLen (p.headerLen - fixedLen) p.buffer)).map fun area =>
      ⟨put fixedLen area p.buffer, header_le_put p.header_le (.inl le_rfl)⟩
  else none

def copyPayload (p : Packet) (payload : List UInt8) : Option Packet :=
  if h : p.headerLen + payload.length ≤ p.buffer.length then
    some ⟨put p.headerLen payload p.buffer, header_le_put p.header_le (.inr h)⟩
  else none

end Packet

structure Options where
  maxSegSize : Option UInt16
  windowScale : Option UInt8
  sackPermitted : Bool
  sackRanges : SackRanges
  timestamp : Option (BitVec 32 × BitVec 32)
  deriving DecidableEq

namespace Options

def empty : Options := ⟨none, none, false, fun _ => none, none⟩

def add (acc : Options) : TcpOption → Options
  | .maxSegmentSize value => { acc with maxSegSize := some value }
  | .windowScale value => { acc with windowScale := some (if 14 < value then 14 else value) }
  | .sackPermitted => { acc with sackPermitted := true }
  | .sackRange ranges => { acc with sackRanges := ranges }
  | .timeStamp tsval tsecr => { acc with timestamp := some (tsval, tsecr) }
  | _ => acc

def parse (acc : Options) (options : List UInt8) : Except Fault Options :=
  if options = [] then .ok acc
  else
    match h : TcpOption.parse options with
    | .error e => .error e
    | .ok (rest, o) =>
      have := TcpOption.parse_shrinks h
      if o = .endOfList then .ok acc else parse (acc.add o) rest
termination_by options.length

end Options

structure Repr extends Options where
  srcPort : UInt16
  dstPort : UInt16
  control : Control
  seqNumber : BitVec 32
  ackNumber : Option (BitVec 32)
  windowLen : UInt16
  payload : List UInt8
  deriving DecidableEq

namespace Repr

def parse (caps : ChecksumCapabilities) (src dst : Ipv4Address) (buffer : List UInt8) : Except Fault Repr := do
  let p ← Packet.checkLen buffer
  if p.get .srcPort = 0 then .error .error
  else if p.get .dstPort = 0 then .error .error
  else if caps.tcp.checksRx && !p.verifyChecksum src dst then .error .error
  else
    let control ← p.control
    let area ← p.options
    let options ← Options.parse .empty area
    let payload ← p.payload
    .ok { options with
      srcPort := UInt16.ofNat (p.get .srcPort)
      dstPort := UInt16.ofNat (p.get .dstPort)
      control := control
      seqNumber := BitVec.ofNat 32 (p.get .seqNum)
      ackNumber := if p.flag flgAck then some (BitVec.ofNat 32 (p.get .ackNum)) else none
      windowLen := UInt16.ofNat (p.get .winSize)
      payload := payload }

/-- The octets that a header takes before it is rounded up. The SACK blocks count also where none is written. -/
def contentLen (o : Options) : ℕ :=
  let ranges := (TcpOption.blocks o.sackRanges).length * 8
  fixedLen + (if o.maxSegSize.isSome then 4 else 0) + (if o.windowScale.isSome then 3 else 0) +
    (if o.sackPermitted then 2 else 0) + (if o.timestamp.isSome then 10 else 0) + if 0 < ranges then ranges + 2 else 0

def headerLen (repr : Repr) : ℕ :=
  let length := contentLen repr.toOptions
  if length % 4 = 0 then length else length + (4 - length % 4)

def bufferLen (repr : Repr) : ℕ := repr.headerLen + repr.payload.length

def optionList (repr : Repr) : List TcpOption :=
  (repr.maxSegSize.map .maxSegmentSize).toList ++ (repr.windowScale.map .windowScale).toList ++
    (if repr.sackPermitted then [.sackPermitted]
      else if repr.ackNumber.isSome ∧ TcpOption.blocks repr.sackRanges ≠ [] then [.sackRange repr.sackRanges]
      else []) ++
    (repr.timestamp.map fun t => .timeStamp t.1 t.2).toList

def emitOptions : List TcpOption → List UInt8 → Option (List UInt8)
  | [], [] => some []
  | [], rest => (TcpOption.endOfList.emit rest).map fun r => r.1 ++ r.2
  | o :: os, buffer => do
    let r ← o.emit buffer
    let tail ← emitOptions os r.2
    some (r.1 ++ tail)

def setControl (p : Packet) : Control → Packet
  | .none => p
  | .psh => p.setFlag flgPsh true
  | .syn => p.setFlag flgSyn true
  | .fin => p.setFlag flgFin true
  | .rst => p.setFlag flgRst true

def setFields (repr : Repr) (p : Packet) : Packet :=
  let p := p.set .srcPort repr.srcPort.toNat
  let p := p.set .dstPort repr.dstPort.toNat
  let p := p.set .seqNum repr.seqNumber.toNat
  let p := p.set .ackNum (repr.ackNumber.getD 0).toNat
  p.set .winSize repr.windowLen.toNat

def setFlags (repr : Repr) (p : Packet) : Packet :=
  let p := p.setHeaderLen (UInt8.ofNat repr.headerLen)
  let p := p.clearFlags
  let p := setControl p repr.control
  p.setFlag flgAck repr.ackNumber.isSome

def emit (caps : ChecksumCapabilities) (src dst : Ipv4Address) (repr : Repr) (p : Packet) : Option Packet := do
  let p := repr.setFlags (repr.setFields p)
  let p ← p.updateOptions (emitOptions repr.optionList)
  let p := p.set .urgent 0
  let p ← p.copyPayload repr.payload
  some (if caps.tcp.fillsTx then p.fillChecksum src dst else p.set .checksum 0)

end Repr

namespace Packet

section Fields

variable (p : Packet)

@[simp] lemma length_set (f : Field) (n : ℕ) : (p.set f n).buffer.length = p.buffer.length :=
  length_put (f.put_fits (length_encode _ _) p.header_le)

lemma get_set_self (f : Field) {n : ℕ} (h : n < 256 ^ f.len) : (p.set f n).get f = n := by
  have hstart : f.start ≤ p.buffer.length := by
    have := f.stop_le
    have := p.header_le
    omega
  have hget : extract f.start (encode f.len n).length (put f.start (encode f.len n) p.buffer) = encode f.len n :=
    extract_put_self hstart
  rw [length_encode] at hget
  rw [get, set, hget, decode_encode_of_lt h]

@[simp] lemma get_set_of_ne {f g : Field} (h : f ≠ g) (n : ℕ) : (p.set g n).get f = p.get f := by
  have hget : extract f.start f.len (put g.start (encode g.len n) p.buffer) = extract f.start f.len p.buffer := by
    apply extract_put_of_disjoint (g.put_fits (length_encode g.len n) p.header_le)
    rw [length_encode]
    exact Field.disjoint h
  rw [get, set, hget, get]

lemma drop_set (f : Field) (n : ℕ) {i : ℕ} (h : fixedLen ≤ i) : (p.set f n).buffer.drop i = p.buffer.drop i := by
  apply drop_put_of_le (f.put_fits (length_encode _ _) p.header_le)
  have := f.stop_le
  rw [length_encode]
  omega

@[simp] lemma flags_setFlags (raw : UInt16) : (p.setFlags raw).flags = raw := by
  rw [flags, setFlags, get_set_self _ _ raw.toNat_lt, UInt16.ofNat_toNat]

lemma get_of_put {p p' : Packet} {pos : ℕ} {new : List UInt8} (h : p'.buffer = put pos new p.buffer)
    (hpos : fixedLen ≤ pos) (hfit : pos + new.length ≤ p.buffer.length) (f : Field) : p'.get f = p.get f := by
  have := f.stop_le
  rw [get, h, extract_put_of_disjoint hfit (by omega), get]

end Fields

end Packet

end SmoltcpS3.Wire

import SmoltcpS3.Foundations.SerialNumbers
import SmoltcpS3.Smoltcp.Assembler
import SmoltcpS3.Smoltcp.RandomAccess
import SmoltcpS3.Smoltcp.Socket
import SmoltcpS3.Tcp.Rtte
import Mathlib.Data.Nat.Size

/-! The whole of smoltcp's `tcp::Socket` that a socket of this program uses. Nothing sets a timeout,
a keep-alive interval, a timestamp generator or a congestion controller, the delayed acknowledgements
are off, and no socket listens. Times are in milliseconds. -/

namespace SmoltcpS3.Tcp

open SerialNumbers Smoltcp

abbrev SeqNumber := BitVec 32

namespace SeqNumber

def add (a : SeqNumber) (n : ℕ) : SeqNumber := a + BitVec.ofNat 32 n

def sub (a b : SeqNumber) : Option ℕ := if 0 ≤ diff a b then some (diff a b).toNat else none

def lt (a b : SeqNumber) : Bool := diff a b < 0

def le (a b : SeqNumber) : Bool := diff a b ≤ 0

def max (a b : SeqNumber) : SeqNumber := if lt b a then a else b

def min (a b : SeqNumber) : SeqNumber := if lt a b then a else b

end SeqNumber

def Control.len : Control → ℕ
  | .syn | .fin => 1
  | _ => 0

def Control.quashPsh : Control → Control
  | .psh => .none
  | c => c

/-- `wire::tcp::Repr` without the ports, which `accepts` has compared. -/
structure TcpRepr where
  control : Control
  seqNumber : SeqNumber
  ackNumber : Option SeqNumber
  windowLen : UInt16
  windowScale : Option (Fin 15)
  maxSegSize : Option UInt16
  sackPermitted : Bool
  sackRange : Option (SeqNumber × SeqNumber)
  payload : List UInt8
  deriving DecidableEq

namespace TcpRepr

def segmentLen (repr : TcpRepr) : ℕ := repr.payload.length + Control.len repr.control

end TcpRepr

inductive Timer
  | idle
  | retransmit (expiresAt : ℤ)
  | fastRetransmit
  | zeroWindowProbe (expiresAt : ℤ) (delay : ℕ)
  | close (expiresAt : ℤ)
  deriving DecidableEq, Repr

def closeDelay : ℕ := 10000

namespace Timer

def shouldRetransmit (now : ℤ) : Timer → Bool
  | .retransmit expiresAt => expiresAt ≤ now
  | .fastRetransmit => true
  | _ => false

def shouldClose (now : ℤ) : Timer → Bool
  | .close expiresAt => expiresAt ≤ now
  | _ => false

def shouldZeroWindowProbe (now : ℤ) : Timer → Bool
  | .zeroWindowProbe expiresAt _ => expiresAt ≤ now
  | _ => false

def setForRetransmit (now : ℤ) (delay : ℕ) : Timer → Timer
  | .close expiresAt => .close expiresAt
  | _ => .retransmit (now + delay)

def setForClose (now : ℤ) : Timer := .close (now + closeDelay)

def setForZeroWindowProbe (now : ℤ) (delay : ℕ) : Timer := .zeroWindowProbe (now + delay) delay

def rewindZeroWindowProbe (now : ℤ) : Timer → Timer
  | .zeroWindowProbe _ delay => .zeroWindowProbe (now + min (delay * 2) rtteMaxRto) (min (delay * 2) rtteMaxRto)
  | t => t

def isIdle : Timer → Bool
  | .idle => true
  | _ => false

def isZeroWindowProbe : Timer → Bool
  | .zeroWindowProbe _ _ => true
  | _ => false

def isRetransmit : Timer → Bool
  | .retransmit _ | .fastRetransmit => true
  | _ => false

end Timer

def assemblerMaxSegmentCount : ℕ := 4

def defaultMss : ℕ := 536

def maxBuffer : ℕ := 2 ^ 30

/-- `tcp::Socket`. `Socket::new` refuses a receive buffer above `maxBuffer`, and the buffers of this
program are far smaller, so that adding a length to a sequence number never panics. -/
structure Socket where
  state : State
  timer : Timer
  rtte : RttEstimator
  assembler : Assembler assemblerMaxSegmentCount
  rxBuffer : RingBuffer UInt8
  rxFinReceived : Bool
  txBuffer : RingBuffer UInt8
  tuple : Bool
  localSeqNo : SeqNumber
  remoteSeqNo : SeqNumber
  remoteLastSeq : SeqNumber
  remoteLastAck : Option SeqNumber
  remoteLastWin : UInt16
  remoteWinShift : Fin 15
  remoteWinLen : ℕ
  remoteWinScale : Option (Fin 15)
  remoteHasSack : Bool
  remoteMss : ℕ
  localRxLastSeq : Option SeqNumber
  localRxLastAck : Option SeqNumber
  localRxDupAcks : UInt8
  challengeAckTimer : ℤ
  rx_lt : rxBuffer.capacity < maxBuffer
  tx_lt : txBuffer.capacity < maxBuffer

namespace Socket

def winShift (capacity : ℕ) (h : capacity < maxBuffer) : Fin 15 :=
  ⟨capacity.size - 16, by
    have hsize : capacity.size ≤ 30 := Nat.size_le.mpr h
    omega⟩

def new (rx tx : RingBuffer UInt8) (hrx : rx.capacity < maxBuffer) (htx : tx.capacity < maxBuffer) : Socket where
  state := .closed
  timer := .idle
  rtte := .default
  assembler := .new _
  rxBuffer := rx
  rxFinReceived := false
  txBuffer := tx
  tuple := false
  localSeqNo := 0
  remoteSeqNo := 0
  remoteLastSeq := 0
  remoteLastAck := none
  remoteLastWin := 0
  remoteWinShift := winShift rx.capacity hrx
  remoteWinLen := 0
  remoteWinScale := none
  remoteHasSack := false
  remoteMss := defaultMss
  localRxLastSeq := none
  localRxLastAck := none
  localRxDupAcks := 0
  challengeAckTimer := 0
  rx_lt := hrx
  tx_lt := htx

def saturate16 (n : ℕ) : UInt16 := UInt16.ofNat (min n 65535)

def scaledWindow (s : Socket) : UInt16 := saturate16 (s.rxBuffer.window >>> s.remoteWinShift.val)

def windowStart (s : Socket) : SeqNumber := s.remoteSeqNo.add s.rxBuffer.length

def lastWindow (s : Socket) : ℕ := s.remoteLastWin.toNat <<< s.remoteWinShift.val

def windowEnd (s : Socket) : SeqNumber :=
  match s.remoteLastAck with
  | some lastAck => lastAck.add s.lastWindow
  | none => s.windowStart

/-- `reset`, and what `connect` sets after it with the initial sequence number that it draws. -/
def synSent (s : Socket) (seq : SeqNumber) : Socket :=
  { s with
    state := .synSent
    timer := .idle
    rtte := .default
    assembler := .new _
    rxBuffer := .new s.rxBuffer.capacity s.rxBuffer.storage
    rxFinReceived := false
    txBuffer := .new s.txBuffer.capacity s.txBuffer.storage
    tuple := true
    localSeqNo := seq
    remoteSeqNo := 0
    remoteLastSeq := seq
    remoteLastAck := none
    remoteLastWin := 0
    remoteWinShift := winShift s.rxBuffer.capacity s.rx_lt
    remoteWinLen := 0
    remoteWinScale := none
    remoteMss := defaultMss
    challengeAckTimer := 0
    rx_lt := s.rx_lt
    tx_lt := s.tx_lt }

def maySend (s : Socket) : Bool := s.state == .established || s.state == .closeWait

def canRecv (s : Socket) : Bool := !s.rxBuffer.isEmpty

def mayRecv (s : Socket) : Bool :=
  s.state == .established || s.state == .finWait1 || s.state == .finWait2 || s.canRecv

def sendSlice (data : List UInt8) (s : Socket) : Option ℕ × Socket :=
  if s.maySend then
    let r := RandomAccess.enqueueSlice data s.txBuffer
    (some r.1, { s with
      txBuffer := r.2
      -- There is no clock here, so that the first probe is sent at once.
      timer :=
        if 0 < r.1 ∧ s.remoteWinLen = 0 ∧ s.timer.isIdle = true then .setForZeroWindowProbe 0 s.rtte.rto else s.timer
      tx_lt := (RandomAccess.enqueueSlice_spec data s.txBuffer).2.2 ▸ s.tx_lt })
  else (none, s)

/-- `recv` with the closure of `conn_step`, which takes the whole slice. -/
def recv (s : Socket) : Option (List UInt8) × Socket :=
  if s.mayRecv then
    let r := s.rxBuffer.dequeueMany
    (some r.1, { s with
      rxBuffer := r.2
      remoteSeqNo := s.remoteSeqNo.add r.1.length
      rx_lt := s.rx_lt })
  else (none, s)

def abort (s : Socket) : Socket := { s with state := .closed }

end Socket

end SmoltcpS3.Tcp

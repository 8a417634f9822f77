import SmoltcpS3.Foundations.EventRuns
import SmoltcpS3.Http.CountBody
import SmoltcpS3.Smoltcp.Socket

/-! `conn_step` and the TLS pump. What rustls answers is an input of the step. -/

namespace SmoltcpS3.Connection

open Smoltcp Http

inductive Failure
  | synTimeout (queueId srcPort : UInt16)
  | tls
  | tlsRecord
  | tlsEncode
  | tlsEncrypt
  deriving DecidableEq, Repr

def Failure.isTls : Failure → Bool
  | .synTimeout _ _ => false
  | _ => true

/-- The `Conn` of the source. Its five header fields are `body`; its `handle` is the socket of the
session, and its `tls` is absent exactly under `PLAIN_HTTP`. -/
structure Conn where
  incoming : List UInt8
  outgoing : List UInt8
  request : List UInt8
  requestQueued : Bool
  handshakeDone : Bool
  body : BodyCount
  done : Bool
  connectStartMs : ℤ
  queueId : UInt16
  srcPort : UInt16
  expected : UInt64
  closedCleanly : Bool
  attempts : ℕ
  settled : Bool
  startMs : ℤ
  deriving DecidableEq, Repr

structure Chunk where
  ofRequest : Bool
  bytes : List UInt8
  deriving DecidableEq, Repr

structure Trace where
  delivered : List UInt8
  dequeued : List UInt8
  accepted : List UInt8
  chunks : List Chunk
  deriving DecidableEq, Repr

structure Session where
  conn : Conn
  sock : Socket
  counters : Counters
  console : List Failure
  trace : Trace

/-- A rustls connection state, with what the calls made in it return; `none` is an error. -/
inductive ConnectionState
  | readTraffic (records : List (Option (List UInt8)))
  | encodeTlsData (out : Option (List UInt8))
  | transmitTlsData
  | writeTraffic (out : Option (List UInt8))
  | blocked
  deriving DecidableEq, Repr

structure UnbufferedStatus where
  discard : ℕ
  state : Option ConnectionState
  deriving DecidableEq, Repr

def UnbufferedStatus.failsReading (r : UnbufferedStatus) : Bool :=
  match r.state with
  | none => true
  | some (.readTraffic records) => records.contains none
  | some _ => false

def synTimeoutMs : ℤ := 5000

def tlsBufCap : ℕ := 256 * 1024

namespace Session

def settle (now : ℤ) (s : Session) : Session :=
  if s.conn.settled = false ∧ s.sock.state = .established then
    { s with
      conn := { s.conn with settled := true }
      counters := { s.counters with
        synRetries := s.counters.synRetries + (s.conn.attempts - 1)
        setupMsTotal := s.counters.setupMsTotal + (now - s.conn.startMs).toNat
        connsEstablished := s.counters.connsEstablished + 1 } }
  else s

def SynTimedOut (now : ℤ) (s : Session) : Prop :=
  s.sock.state = .synSent ∧ synTimeoutMs < now - s.conn.connectStartMs

instance (now : ℤ) (s : Session) : Decidable (s.SynTimedOut now) := inferInstanceAs (Decidable (_ ∧ _))

def giveUp (now : ℤ) (s : Session) : Session :=
  { s with
    sock := s.sock.abort
    console := s.console ++ [.synTimeout s.conn.queueId s.conn.srcPort]
    counters :=
      if s.conn.settled then s.counters
      else { s.counters with
        connsFailed := s.counters.connsFailed + 1
        setupMsTotal := s.counters.setupMsTotal + (now - s.conn.startMs).toNat }
    conn := { s.conn with settled := true, done := true } }

def queueRequest (cfg : Config) (s : Session) : Session :=
  if cfg.plainHttp = true ∧ s.conn.requestQueued = false ∧ s.sock.maySend = true then
    { s with
      conn := { s.conn with
        outgoing := s.conn.outgoing ++ s.conn.request
        requestQueued := true
        handshakeDone := true }
      trace := { s.trace with chunks := s.trace.chunks ++ [⟨true, s.conn.request⟩] } }
  else s

def pushOutgoing (s : Session) : Session :=
  if s.conn.outgoing ≠ [] ∧ s.sock.canSend = true then
    match s.sock.sendSlice s.conn.outgoing with
    | (some n, sock) =>
      { s with
        sock := sock
        conn := { s.conn with outgoing := s.conn.outgoing.drop n }
        trace := { s.trace with accepted := s.trace.accepted ++ s.conn.outgoing.take n } }
    | (none, sock) => { s with sock := sock }
  else s

def drainLoop : ℕ → Session → Session
  | 0, s => s
  | fuel + 1, s =>
    if s.sock.canRecv then
      match s.sock.recv with
      | (some buf, sock) =>
        let s := { s with
          sock := sock
          conn := { s.conn with incoming := s.conn.incoming ++ buf }
          trace := { s.trace with dequeued := s.trace.dequeued ++ buf } }
        if 0 < buf.length then drainLoop fuel s else s
      | (none, sock) => { s with sock := sock }
    else s

def drainSocket (s : Session) : Session := drainLoop (s.sock.rxBuffer.length + 1) s

def stubCount (cfg : Config) (s : Session) : Session :=
  if cfg.stubTlsAfterHandshake = true ∧ s.conn.handshakeDone = true ∧ s.conn.requestQueued = true then
    { s with conn := { s.conn with
        body := { s.conn.body with bytes := s.conn.body.bytes + s.conn.incoming.length }
        incoming := [] } }
  else s

def countData (data : List UInt8) (s : Session) : Session :=
  let (body, counters) := countBody s.conn.body s.counters data
  { s with conn := { s.conn with body := body }, counters := counters }

def clearIncoming (s : Session) : Session := { s with conn := { s.conn with incoming := [] } }

def plainCount (cfg : Config) (s : Session) : Session :=
  if cfg.plainHttp = true ∧ s.conn.incoming ≠ [] then (s.countData s.conn.incoming).clearIncoming
  else s

def fail (f : Failure) (s : Session) : Session :=
  { s with console := s.console ++ [f], conn := { s.conn with done := true } }

def readRecords (s : Session) : List (Option (List UInt8)) → Session
  | [] => s
  | some payload :: rest => (s.countData payload).readRecords rest
  | none :: _ => s.fail .tlsRecord

def resize (v : List UInt8) (n : ℕ) : List UInt8 := v.take n ++ List.replicate (n - v.length) 0

def writeAt (v : List UInt8) (head : ℕ) (out : List UInt8) : List UInt8 :=
  (v.take head ++ out ++ v.drop (head + out.length)).take (head + out.length)

def setOutgoing (v : List UInt8) (s : Session) : Session :=
  { s with conn := { s.conn with outgoing := v } }

def logChunk (c : Chunk) (s : Session) : Session :=
  { s with trace := { s.trace with chunks := s.trace.chunks ++ [c] } }

def encode (out : List UInt8) (s : Session) : Session :=
  (s.setOutgoing (writeAt (resize s.conn.outgoing tlsBufCap) s.conn.outgoing.length out)).logChunk
    ⟨false, out⟩

def encodeFailed (s : Session) : Session :=
  (s.setOutgoing (resize s.conn.outgoing tlsBufCap)).fail .tlsEncode

def encryptArea (s : Session) : List UInt8 :=
  resize s.conn.outgoing (s.conn.outgoing.length + s.conn.request.length + 128)

def encrypt (out : List UInt8) (s : Session) : Session :=
  let s := (s.setOutgoing (writeAt s.encryptArea s.conn.outgoing.length out)).logChunk ⟨true, out⟩
  { s with conn := { s.conn with requestQueued := true } }

def encryptFailed (s : Session) : Session := (s.setOutgoing s.encryptArea).fail .tlsEncrypt

def markHandshake (s : Session) : Session := { s with conn := { s.conn with handshakeDone := true } }

def discard (n : ℕ) (s : Session) : Session :=
  { s with conn := { s.conn with incoming := s.conn.incoming.drop n } }

def pumpOnce (s : Session) (r : UnbufferedStatus) : Session × Bool :=
  match r.state with
  | none => (s.fail .tls, false)
  | some (.readTraffic records) => ((s.readRecords records).discard r.discard, true)
  | some (.encodeTlsData (some out)) => ((s.encode out).discard r.discard, true)
  | some (.encodeTlsData none) => (s.encodeFailed, false)
  | some .transmitTlsData => (s.discard r.discard, true)
  | some (.writeTraffic out) =>
    if s.conn.requestQueued then (s.markHandshake.discard r.discard, false)
    else
      match out with
      | some out => ((s.markHandshake.encrypt out).discard r.discard, true)
      | none => (s.markHandshake.encryptFailed, false)
  | some .blocked => (s.discard r.discard, false)

/-- The pump on the answers of rustls, which reports `blocked` once they are used up. -/
def pump (s : Session) : List UnbufferedStatus → Session
  | [] => s
  | r :: rest => if (s.pumpOnce r).2 then (s.pumpOnce r).1.pump rest else (s.pumpOnce r).1

def ended (s : Session) : Bool :=
  s.sock.state == .closed || s.sock.state == .closeWait || s.sock.state == .timeWait

def closeCheck (s : Session) : Session :=
  if s.conn.handshakeDone = true ∧ s.conn.requestQueued = true ∧ s.ended = true ∧
      s.conn.outgoing = [] ∧ s.sock.canRecv = false then
    { s with conn := { s.conn with closedCleanly := true, done := true } }
  else s

def transfer (cfg : Config) (s : Session) : Session :=
  (((s.queueRequest cfg).pushOutgoing.drainSocket).stubCount cfg).plainCount cfg

def runPump (cfg : Config) (tls : List UnbufferedStatus) (s : Session) : Session :=
  if cfg.plainHttp then s else s.pump tls

def connStep (cfg : Config) (now : ℤ) (tls : List UnbufferedStatus) (s : Session) : Session × Bool :=
  if s.conn.done then (s, true)
  else
    let s := s.settle now
    if s.SynTimedOut now then (s.giveUp now, true)
    else
      let s := (((s.transfer cfg).runPump cfg tls).closeCheck)
      (s, s.conn.done)

def onSegment (seg : Segment) (s : Session) : Session :=
  { s with
    sock := s.sock.process seg
    trace := { s.trace with delivered := s.trace.delivered ++ s.sock.acceptedPayload seg } }

end Session

inductive Event
  | segment (seg : Segment)
  | step (now : ℤ) (tls : List UnbufferedStatus)
  deriving DecidableEq, Repr

def Session.next (cfg : Config) (s : Session) : Event → Session
  | .segment seg => s.onSegment seg
  | .step now tls => (s.connStep cfg now tls).1

structure Opening where
  request : List UInt8
  expected : UInt64
  queueId : UInt16
  srcPort : UInt16
  now : ℤ
  rxCapacity : ℕ
  txCapacity : ℕ
  counters : Counters
  deriving DecidableEq, Repr

def Opening.session (o : Opening) : Session where
  conn :=
    { incoming := []
      outgoing := []
      request := o.request
      requestQueued := false
      handshakeDone := false
      body := .zero
      done := false
      connectStartMs := o.now
      queueId := o.queueId
      srcPort := o.srcPort
      expected := o.expected
      closedCleanly := false
      attempts := 1
      settled := false
      startMs := o.now }
  sock := .connected o.rxCapacity o.txCapacity
  counters := o.counters
  console := []
  trace := ⟨[], [], [], []⟩

def sessionAfter (cfg : Config) (o : Opening) (es : List Event) : Session :=
  EventRuns.run (Session.next cfg) o.session es

end SmoltcpS3.Connection

import SmoltcpS3.Smoltcp.RingBuffer

/-! The part of smoltcp's `tcp::Socket` that `conn_step` sees: the state machine of `process`,
the receive buffer and the free space of the transmit buffer. -/

namespace SmoltcpS3.Smoltcp

inductive State
  | closed | listen | synSent | synReceived | established | finWait1 | finWait2
  | closeWait | closing | lastAck | timeWait
  deriving DecidableEq, Repr

inductive Control
  | none | psh | syn | fin | rst
  deriving DecidableEq, Repr

/-- A segment that passed the sequence number, window and acknowledgement checks of `process`.
`payload` is what it adds in order at the end of the receive buffer. -/
structure Segment where
  control : Control
  ack : Bool
  ackLen : ℕ
  ackOfFin : Bool
  payload : List UInt8
  deriving DecidableEq, Repr

structure Socket where
  state : State
  rxBuffer : RingBuffer UInt8
  txWindow : ℕ
  rxFinReceived : Bool

def nextState (seg : Segment) : State → Option State
  | .closed => none
  | .listen => if seg.control = .syn ∧ seg.ack = false then some .synReceived else none
  | .synSent =>
    match seg.control, seg.ack with
    | .rst, true => some .closed
    | .syn, true => some .established
    | .syn, false => some .synReceived
    | _, _ => none
  | st =>
    -- `connect` clears the listen endpoint, so a reset never leads back to `listen`.
    if seg.control = .rst then some .closed
    else if seg.ack = false then none
    else
      match st, seg.control with
      | .synReceived, .none | .synReceived, .psh => some .established
      | .synReceived, .fin => some .closeWait
      | .established, .none | .established, .psh => some .established
      | .established, .fin => some .closeWait
      | .finWait1, .none | .finWait1, .psh => some (if seg.ackOfFin then .finWait2 else .finWait1)
      | .finWait1, .fin => some (if seg.ackOfFin then .timeWait else .closing)
      | .finWait2, .none | .finWait2, .psh => some .finWait2
      | .finWait2, .fin => some .timeWait
      | .closing, .none | .closing, .psh => some (if seg.ackOfFin then .timeWait else .closing)
      | .closeWait, .none | .closeWait, .psh => some .closeWait
      | .lastAck, .none | .lastAck, .psh =>
        if seg.ackOfFin then some .closed else if seg.ackLen = 0 then none else some .lastAck
      | _, _ => none

namespace Socket

def maySend (s : Socket) : Bool := s.state == .established || s.state == .closeWait

def canSend (s : Socket) : Bool := s.maySend && s.txWindow != 0

def canRecv (s : Socket) : Bool := !s.rxBuffer.isEmpty

def mayRecv (s : Socket) : Bool :=
  s.state == .established || s.state == .finWait1 || s.state == .finWait2 || s.canRecv

def sendSlice (s : Socket) (data : List UInt8) : Option ℕ × Socket :=
  if s.maySend then
    let n := min s.txWindow data.length
    (some n, { s with txWindow := s.txWindow - n })
  else (none, s)

def recv (s : Socket) : Option (List UInt8) × Socket :=
  if s.mayRecv then
    let (buf, r) := s.rxBuffer.dequeueMany
    (some buf, { s with rxBuffer := r })
  else (none, s)

def abort (s : Socket) : Socket := { s with state := .closed }

def acceptedPayload (seg : Segment) (s : Socket) : List UInt8 :=
  match nextState seg s.state with
  | none => []
  | some _ =>
    if seg.control = .rst ∨ s.state = .synSent ∨ s.state = .listen then []
    else seg.payload.take s.rxBuffer.window

def process (seg : Segment) (s : Socket) : Socket :=
  match nextState seg s.state with
  | none => s
  | some st =>
    if seg.control = .rst then { s with state := st }
    else
      { state := st
        rxBuffer :=
          if s.state = .synSent ∨ s.state = .listen then s.rxBuffer
          else s.rxBuffer.enqueueUnallocated seg.payload
        txWindow := s.txWindow + seg.ackLen
        rxFinReceived := s.rxFinReceived || seg.control == .fin }

def connected (rxCapacity txCapacity : ℕ) : Socket where
  state := .synSent
  rxBuffer := .new rxCapacity fun _ => 0
  txWindow := txCapacity
  rxFinReceived := false

lemma canRecv_eq_false_iff (s : Socket) : s.canRecv = false ↔ s.rxBuffer.toList = [] := by
  simp [canRecv, RingBuffer.isEmpty_iff]

lemma process_toList (seg : Segment) (s : Socket) :
    (s.process seg).rxBuffer.toList = s.rxBuffer.toList ++ s.acceptedPayload seg := by
  rw [process, acceptedPayload]
  split
  · simp
  · by_cases hr : seg.control = .rst
    · simp [hr]
    · by_cases hs : s.state = .synSent ∨ s.state = .listen
      · simp [hr, hs]
      · simp [hr, hs, RingBuffer.toList_enqueueUnallocated]

lemma process_state (seg : Segment) (s : Socket) :
    (s.process seg).state = (nextState seg s.state).getD s.state := by
  rw [process]
  cases nextState seg s.state with
  | none => rfl
  | some st => by_cases hr : seg.control = .rst <;> simp [hr]

lemma process_rxFinReceived (seg : Segment) {s : Socket} (h : s.rxFinReceived = true) :
    (s.process seg).rxFinReceived = true := by
  rw [process]
  cases nextState seg s.state with
  | none => exact h
  | some st => by_cases hr : seg.control = .rst <;> simp [hr, h]

def ClientState (st : State) : Prop :=
  st = .closed ∨ st = .synSent ∨ st = .synReceived ∨ st = .established ∨ st = .closeWait

lemma nextState_client {seg : Segment} {st st' : State} (hc : ClientState st)
    (h : nextState seg st = some st') :
    (st' = .closed ∧ seg.control = .rst) ∨
    (seg.control ≠ .rst ∧ seg.control ≠ .fin ∧
      ((st = .synSent ∧ (st' = .established ∨ st' = .synReceived)) ∨
        (st = .synReceived ∧ st' = .established) ∨
        (st = .established ∧ st' = .established) ∨ (st = .closeWait ∧ st' = .closeWait))) ∨
    (seg.control = .fin ∧ (st = .synReceived ∨ st = .established) ∧ st' = .closeWait) := by
  rcases hc with rfl | rfl | rfl | rfl | rfl <;>
    rcases seg with ⟨control, ack, ackLen, ackOfFin, payload⟩ <;>
    cases control <;> cases ack <;> simp_all [nextState]

lemma process_clientState (seg : Segment) (s : Socket) (h : ClientState s.state) :
    ClientState (s.process seg).state := by
  rw [process_state]
  cases hn : nextState seg s.state with
  | none => exact h
  | some st =>
    rcases nextState_client h hn with ⟨rfl, _⟩ | ⟨_, _, ht⟩ | ⟨_, _, rfl⟩
    · simp [ClientState]
    · rcases ht with ⟨_, rfl | rfl⟩ | ⟨_, rfl⟩ | ⟨_, rfl⟩ | ⟨_, rfl⟩ <;> simp [ClientState]
    · simp [ClientState]

end Socket

end SmoltcpS3.Smoltcp

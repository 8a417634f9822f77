import SmoltcpS3.Smoltcp.UsizeAssembler
import SmoltcpS3.Tcp.Socket

/-! `tcp::Socket::process`. The result is `none` where the source panics. -/

namespace SmoltcpS3.Tcp

open SerialNumbers Smoltcp

namespace Socket

def sentSyn (s : Socket) : Bool := s.state == .synSent || s.state == .synReceived

def sentFin (s : Socket) : Bool := s.state == .finWait1 || s.state == .lastAck || s.state == .closing

def controlLen (s : Socket) : ℕ := s.sentSyn.toNat + s.sentFin.toNat

inductive AckCheck
  | accept
  | drop
  | reset
  | challenge
  deriving DecidableEq, Repr

def checkAck (s : Socket) (repr : TcpRepr) : AckCheck :=
  match s.state, repr.control, repr.ackNumber with
  | .synSent, .rst, none => .drop
  | .synSent, .rst, some ack => if ack = s.localSeqNo.add 1 then .accept else .drop
  | _, .rst, _ => .accept
  | .synSent, .syn, some ack => if ack = s.localSeqNo.add 1 then .accept else .reset
  | .synSent, .syn, none => .accept
  | .synSent, .none, some ack => if ack = s.localSeqNo.add 1 then .drop else .reset
  | .synSent, _, _ => .drop
  | _, _, none => .drop
  | .synReceived, _, some ack => if ack = s.localSeqNo.add 1 then .accept else .reset
  | _, _, some ack =>
    if ack.lt s.localSeqNo then .drop
    else if (s.localSeqNo.add (s.txBuffer.length + s.controlLen)).lt ack then .challenge
    else .accept

def rstReply (repr : TcpRepr) : TcpRepr where
  control := .rst
  seqNumber := repr.ackNumber.getD 0
  ackNumber :=
    if repr.control = .syn ∧ repr.ackNumber = none then some (repr.seqNumber.add repr.segmentLen) else none
  windowLen := 0
  windowScale := none
  maxSegSize := none
  sackPermitted := false
  sackRange := none
  payload := []

def sackRange (s : Socket) : Option (SeqNumber × SeqNumber) :=
  let blocks := s.assembler.iterData.map fun r => (s.windowStart.add r.1, s.windowStart.add r.2)
  match s.localRxLastSeq.bind fun last => blocks.find? fun b => b.1.le last && last.le b.2 with
  | some block => some block
  | none => blocks.head?

def ackReply (s : Socket) : Socket × TcpRepr :=
  ({ s with remoteLastAck := some s.windowStart, remoteLastWin := s.scaledWindow },
    { control := .none
      seqNumber := s.remoteLastSeq
      ackNumber := some s.windowStart
      windowLen := s.scaledWindow
      windowScale := none
      maxSegSize := none
      sackPermitted := false
      sackRange := if s.remoteHasSack then s.sackRange else none
      payload := [] })

def challengeAckReply (now : ℤ) (s : Socket) : Socket × Option TcpRepr :=
  if now < s.challengeAckTimer then (s, none)
  else
    let r := { s with challengeAckTimer := now + 1000 }.ackReply
    (r.1, some r.2)

def segmentInWindow (s : Socket) (repr : TcpRepr) : Bool :=
  let segmentStart := repr.seqNumber
  let segmentEnd := repr.seqNumber.add repr.payload.length
  if segmentStart = segmentEnd then
    -- A keep-alive or a window probe.
    if segmentEnd = s.windowStart - 1 then false
    else if s.windowStart = s.windowEnd then s.windowStart == segmentStart
    else s.windowStart.le segmentStart && segmentStart.lt s.windowEnd
  else if s.windowStart = s.windowEnd then false
  else (s.windowStart.le segmentStart && segmentStart.lt s.windowEnd) ||
    (s.windowStart.lt segmentEnd && segmentEnd.le s.windowEnd)

def overlap (s : Socket) (repr : TcpRepr) : Option (List UInt8 × ℕ) := do
  let overlapStart := s.windowStart.max repr.seqNumber
  let overlapEnd := s.windowEnd.min (repr.seqNumber.add repr.payload.length)
  let i ← overlapStart.sub repr.seqNumber
  let j ← overlapEnd.sub repr.seqNumber
  let offset ← overlapStart.sub s.windowStart
  if i ≤ j ∧ j ≤ repr.payload.length then some ((repr.payload.take j).drop i, offset) else none

structure Acked where
  len : ℕ
  ofFin : Bool
  all : Bool
  deriving DecidableEq, Repr

def acked (s : Socket) (repr : TcpRepr) : Acked :=
  match if repr.control = .rst then none else repr.ackNumber with
  | none => ⟨0, false, false⟩
  | some ack =>
    let start := s.localSeqNo.add s.sentSyn.toNat
    if start.le ack then
      let len := (diff ack start).toNat
      let ofFin := s.sentFin && s.txBuffer.length + 1 == len
      ⟨if ofFin then len - 1 else len, ofFin, s.remoteLastSeq.le ack⟩
    else ⟨0, false, false⟩

def onAck (now : ℤ) (s : Socket) (repr : TcpRepr) : Socket :=
  match if repr.control = .rst then none else repr.ackNumber with
  | none => s
  | some ack => { s with rtte := s.rtte.onAck now ack }

def effectiveControl (s : Socket) (repr : TcpRepr) : Control :=
  let control := Control.quashPsh repr.control
  if control = .fin ∧ s.windowStart.lt repr.seqNumber = true then .none else control

inductive Transition
  | go (s : Socket)
  | stop (s : Socket)
  | challenge (s : Socket)

def takeFin (s : Socket) (state : State) : Socket :=
  { s with remoteSeqNo := s.remoteSeqNo.add 1, rxFinReceived := true, state := state }

def timeWait (now : ℤ) (s : Socket) : Socket := { s with state := .timeWait, timer := .setForClose now }

def synchronize (s : Socket) (repr : TcpRepr) : Socket :=
  { s with
    remoteMss := repr.maxSegSize.elim s.remoteMss UInt16.toNat
    remoteSeqNo := repr.seqNumber.add 1
    remoteLastSeq := s.localSeqNo.add 1
    remoteLastAck := some repr.seqNumber
    remoteHasSack := repr.sackPermitted
    remoteWinScale := repr.windowScale
    remoteWinShift := if repr.windowScale.isNone then 0 else s.remoteWinShift
    state := if repr.ackNumber.isSome then .established else .synReceived }

def receiveRst (s : Socket) : Socket := { s with state := .closed, tuple := false }

def establish (s : Socket) : Socket := { s with state := .established }

/-- The validation and update of the state. `connect` clears `listen_endpoint`, so that a reset never
leads back to `Listen`. -/
def transition (now : ℤ) (s : Socket) (repr : TcpRepr) (control : Control) (a : Acked) : Transition :=
  match s.state, control with
  | _, .rst => .stop s.receiveRst
  | .synReceived, .none => .go s.establish
  | .synReceived, .fin => .go (s.takeFin .closeWait)
  | .synSent, .syn => if repr.maxSegSize = some 0 then .stop s else .go (s.synchronize repr)
  | .established, .none => .go s
  | .established, .fin => .go (s.takeFin .closeWait)
  | .finWait1, .none => .go (if a.ofFin then { s with state := .finWait2 } else s)
  | .finWait1, .fin => .go (if a.ofFin then (s.takeFin .timeWait).timeWait now else s.takeFin .closing)
  | .finWait2, .none => .go s
  | .finWait2, .fin => .go ((s.takeFin .timeWait).timeWait now)
  | .closing, .none => .go (if a.ofFin then s.timeWait now else s)
  | .closeWait, .none => .go s
  | .lastAck, .none =>
    if a.ofFin then .go { s with state := .closed, tuple := false }
    else if a.len = 0 then .challenge s
    else .go s
  | _, _ => .stop s

def announcedWindow (s : Socket) (repr : TcpRepr) : ℕ :=
  repr.windowLen.toNat <<< if repr.control = .syn then 0 else s.remoteWinScale.elim 0 Fin.val

def takeAck (s : Socket) (repr : TcpRepr) (isWindowUpdate : Bool) (ack : SeqNumber) : Socket :=
  let dup : Bool := repr.payload.isEmpty && s.localRxLastAck == some ack && ack.lt s.remoteLastSeq && !isWindowUpdate
  let dupAcks : UInt8 := if dup then (if s.localRxDupAcks = 255 then 255 else s.localRxDupAcks + 1) else 0
  { s with
    localRxDupAcks := dupAcks
    timer := if dup = true ∧ dupAcks = 3 then .fastRetransmit else s.timer
    localRxLastAck := if dup then s.localRxLastAck else some ack
    localSeqNo := ack
    remoteLastSeq := if s.remoteLastSeq.lt ack then ack else s.remoteLastSeq }

def updateTimer (now : ℤ) (s : Socket) (a : Acked) : Timer :=
  match s.timer with
  | .retransmit _ | .fastRetransmit =>
    if a.all then .idle else if 0 < a.len then s.timer.setForRetransmit now s.rtte.rto else s.timer
  | t => t

def probeTimer (now : ℤ) (s : Socket) (a : Acked) : Timer :=
  let timer :=
    if s.remoteWinLen = 0 ∧ s.txBuffer.isEmpty = false ∧ (s.timer.isIdle = true ∨ 0 < a.len) then
      .setForZeroWindowProbe now s.rtte.rto
    else s.timer
  if s.remoteWinLen ≠ 0 ∧ timer.isZeroWindowProbe = true then .idle else timer

def withTx (s : Socket) (tx : RingBuffer UInt8) (h : tx.capacity = s.txBuffer.capacity) : Socket :=
  { s with txBuffer := tx, tx_lt := h ▸ s.tx_lt }

def withRx (s : Socket) (assembler : Assembler assemblerMaxSegmentCount) (rx : RingBuffer UInt8)
    (h : rx.capacity = s.rxBuffer.capacity) : Socket :=
  { s with assembler := assembler, rxBuffer := rx, rx_lt := h ▸ s.rx_lt }

def dequeueAcked (s : Socket) (len : ℕ) : Option Socket :=
  if 0 < len then
    (RandomAccess.dequeueAllocated len s.txBuffer).pmap s.withTx
      fun _ htx => (RandomAccess.dequeueAllocated_eq_some htx).2.1
  else some s

def updateTimers (now : ℤ) (s : Socket) (a : Acked) : Socket :=
  let s := { s with timer := s.updateTimer now a }
  { s with timer := s.probeTimer now a }

def updateRemote (now : ℤ) (s : Socket) (repr : TcpRepr) (a : Acked) : Option Socket :=
  let isWindowUpdate := s.announcedWindow repr != s.remoteWinLen
  ({ s with remoteWinLen := s.announcedWindow repr }.dequeueAcked a.len).map fun s : Socket =>
    (repr.ackNumber.elim s (s.takeAck repr isWindowUpdate)).updateTimers now a

def placePayload (payload : List UInt8) (offset contigLen : ℕ) (rx : RingBuffer UInt8) : Option (RingBuffer UInt8) :=
  let rx := (RandomAccess.writeUnallocated offset payload rx).2
  if contigLen ≠ 0 then RandomAccess.enqueueUnallocated contigLen rx else some rx

lemma capacity_placePayload {payload : List UInt8} {offset contigLen : ℕ} {rx rx' : RingBuffer UInt8}
    (h : placePayload payload offset contigLen rx = some rx') : rx'.capacity = rx.capacity := by
  rw [placePayload] at h
  split_ifs at h
  · exact (RandomAccess.enqueueUnallocated_eq_some h).2.1
  · cases h
    rfl

def takePayload (s : Socket) (payload : List UInt8) (offset : ℕ) : Option (Socket × Option TcpRepr) :=
  if payload = [] then some (s, none)
  else
    match s.assembler.addThenRemoveFront offset payload.length with
    | none => some (s, none)
    | some (contigLen, assembler) =>
      ((placePayload payload offset contigLen s.rxBuffer).pmap (s.withRx assembler)
        fun _ h => capacity_placePayload h).map fun s' =>
          -- A segment out of order, or one that fills a gap, is acknowledged at once.
          if assembler.isEmpty = false ∨ s.assembler.isEmpty = false then
            (s'.ackReply.1, some s'.ackReply.2)
          else (s', none)

lemma lt_of_sub_eq_some {a b : SeqNumber} {d : ℕ} (h : a.sub b = some d) : d < 2 ^ 31 := by
  rw [SeqNumber.sub] at h
  split_ifs at h
  have hlt : 2 * diff a b < 2 ^ 32 := BitVec.two_mul_toInt_lt
  have hd := Option.some.inj h
  omega

/-- Every range that `process` hands to the assembler ends in a `usize`, so its exact arithmetic is
that of the program. -/
theorem addThenRemoveFront_overlap {s : Socket} {repr : TcpRepr} {payload : List UInt8} {offset : ℕ}
    (h : s.overlap repr = some (payload, offset)) {a : UsizeAssembler assemblerMaxSegmentCount}
    (ha : a.exact = s.assembler) :
    ∃ r : UsizeRange, r.offset.toNat = offset ∧ r.size.toNat = payload.length ∧
      (a.addThenRemoveFront r).map (fun p => (p.1.toNat, p.2.exact)) =
        s.assembler.addThenRemoveFront offset payload.length := by
  rw [overlap] at h
  obtain ⟨i, hi, h⟩ := Option.bind_eq_some_iff.mp h
  obtain ⟨j, hj, h⟩ := Option.bind_eq_some_iff.mp h
  obtain ⟨o, ho, h⟩ := Option.bind_eq_some_iff.mp h
  split_ifs at h with hij
  cases h
  have hj := lt_of_sub_eq_some hj
  have ho := lt_of_sub_eq_some ho
  have hlen : ((repr.payload.take j).drop i).length ≤ j := by
    rw [List.length_drop, List.length_take]
    omega
  have hoffset : (UInt64.ofNat offset).toNat = offset :=
    UInt64.toNat_ofNat_of_lt' (by rw [UInt64.size]; omega)
  have hsize : (UInt64.ofNat ((repr.payload.take j).drop i).length).toNat =
      ((repr.payload.take j).drop i).length :=
    UInt64.toNat_ofNat_of_lt' (by rw [UInt64.size]; omega)
  let r : UsizeRange := ⟨UInt64.ofNat offset, UInt64.ofNat ((repr.payload.take j).drop i).length, by omega⟩
  have hadd := a.exact_addThenRemoveFront r
  rw [ha, hoffset, hsize] at hadd
  exact ⟨r, hoffset, hsize, hadd⟩

def noteSeq (s : Socket) (seq : SeqNumber) : Socket := { s with localRxLastSeq := some seq }

def withTimer (s : Socket) (timer : Timer) : Socket := { s with timer := timer }

def processSegment (now : ℤ) (s : Socket) (repr : TcpRepr) (payload : List UInt8) (offset : ℕ) :
    Option (Socket × Option TcpRepr) :=
  let a := s.acked repr
  match (s.onAck now repr).transition now repr (s.effectiveControl repr) a with
  | .stop s => some (s, none)
  | .challenge s => some (s.challengeAckReply now)
  | .go s => (s.updateRemote now repr a).bind fun s => s.takePayload payload offset

def process (now : ℤ) (s : Socket) (repr : TcpRepr) : Option (Socket × Option TcpRepr) :=
  -- `accepts` turns away every segment for a closed socket.
  if s.state = .closed then some (s, none)
  else
    match s.checkAck repr with
    | .drop => some (s, none)
    | .reset => some (s, some (rstReply repr))
    | .challenge => some (s.challengeAckReply now)
    | .accept =>
      if s.state = .synSent then s.processSegment now repr [] 0
      else if s.segmentInWindow repr then
        (s.overlap repr).bind fun r => (s.noteSeq repr.seqNumber).processSegment now repr r.1 r.2
      else some ((s.withTimer (if s.state = .timeWait then .setForClose now else s.timer)).challengeAckReply now)

lemma takePayload_eq_some {s : Socket} {payload : List UInt8} {offset : ℕ} {r : Socket × Option TcpRepr}
    (h : s.takePayload payload offset = some r) :
    ((payload = [] ∨ s.assembler.addThenRemoveFront offset payload.length = none) ∧ r = (s, none)) ∨
    ∃ contigLen assembler rx hc, s.assembler.addThenRemoveFront offset payload.length = some (contigLen, assembler) ∧
      placePayload payload offset contigLen s.rxBuffer = some rx ∧
      ((r = ((s.withRx assembler rx hc).ackReply.1, some (s.withRx assembler rx hc).ackReply.2)) ∨
        (r = (s.withRx assembler rx hc, none) ∧ assembler.isEmpty = true ∧ s.assembler.isEmpty = true)) := by
  rw [takePayload] at h
  split_ifs at h with hnil
  · cases h
    exact Or.inl ⟨Or.inl hnil, rfl⟩
  · split at h
    · rename_i hnone
      cases h
      exact Or.inl ⟨Or.inr hnone, rfl⟩
    · rename_i contigLen assembler hadd
      right
      obtain ⟨s', hs', hr⟩ := Option.map_eq_some_iff.mp h
      obtain ⟨rx, hc, hrx, rfl⟩ := Option.pmap_eq_some_iff.mp hs'
      refine ⟨contigLen, assembler, rx, hc, hadd, hrx, ?_⟩
      split_ifs at hr with hreply
      · exact Or.inl hr.symm
      · exact Or.inr ⟨hr.symm, by simpa using hreply⟩

lemma effectiveControl_eq_rst {s : Socket} {repr : TcpRepr} : s.effectiveControl repr = .rst ↔ repr.control = .rst := by
  rw [effectiveControl]
  cases repr.control with
  | fin => by_cases hlt : s.windowStart.lt repr.seqNumber = true <;> simp [Control.quashPsh, hlt]
  | _ => simp [Control.quashPsh]

lemma effectiveControl_eq_syn {s : Socket} {repr : TcpRepr} (h : s.effectiveControl repr = .syn) : repr.control = .syn := by
  rw [effectiveControl] at h
  by_cases hlt : s.windowStart.lt repr.seqNumber = true
  · cases hc : repr.control <;> simp [Control.quashPsh, hc, hlt] at h ⊢
  · cases hc : repr.control <;> simp [Control.quashPsh, hc, hlt] at h ⊢

lemma effectiveControl_eq_fin {s : Socket} {repr : TcpRepr} (h : s.effectiveControl repr = .fin) :
    repr.control = .fin ∧ s.windowStart.lt repr.seqNumber = false := by
  rw [effectiveControl] at h
  by_cases hlt : s.windowStart.lt repr.seqNumber = true
  · cases hc : repr.control <;> simp [Control.quashPsh, hc, hlt] at h
  · cases hc : repr.control <;> simp [Control.quashPsh, hc] at h
    exact ⟨rfl, by simpa using hlt⟩

def Client (s : Socket) : Prop :=
  s.state = .synSent ∨ s.state = .synReceived ∨ s.state = .established ∨ s.state = .closeWait

inductive Move (repr : TcpRepr) (control : Control) (s : Socket) : Socket → Prop
  | syn (h : s.state = .synSent) (hc : control = .syn) : Move repr control s (s.synchronize repr)
  | ack (h : s.state = .synReceived) (hc : control = .none) : Move repr control s s.establish
  | data (h : s.state = .established ∨ s.state = .closeWait) (hc : control = .none) : Move repr control s s
  | fin (h : s.state = .synReceived ∨ s.state = .established) (hc : control = .fin) :
      Move repr control s (s.takeFin .closeWait)

lemma transition_client {s : Socket} (h : s.Client) (now : ℤ) (repr : TcpRepr) (control : Control) (a : Acked) :
    (control = .rst ∧ s.transition now repr control a = .stop s.receiveRst) ∨
    ((s.state = .synSent ∨ control ≠ .none) ∧ s.transition now repr control a = .stop s) ∨
    ∃ s', s.transition now repr control a = .go s' ∧ Move repr control s s' := by
  rcases h with h | h | h | h
  · cases control with
    | rst => exact Or.inl ⟨rfl, by simp [transition]⟩
    | syn =>
      by_cases hm : repr.maxSegSize = some 0
      · exact Or.inr (Or.inl ⟨Or.inl h, by simp [transition, h, hm]⟩)
      · exact Or.inr (Or.inr ⟨_, by simp [transition, h, hm], .syn h rfl⟩)
    | _ => exact Or.inr (Or.inl ⟨Or.inl h, by simp [transition, h]⟩)
  · cases control with
    | rst => exact Or.inl ⟨rfl, by simp [transition]⟩
    | none => exact Or.inr (Or.inr ⟨_, by simp [transition, h], .ack h rfl⟩)
    | fin => exact Or.inr (Or.inr ⟨_, by simp [transition, h], .fin (Or.inl h) rfl⟩)
    | _ => exact Or.inr (Or.inl ⟨Or.inr (by simp), by simp [transition, h]⟩)
  · cases control with
    | rst => exact Or.inl ⟨rfl, by simp [transition]⟩
    | none => exact Or.inr (Or.inr ⟨_, by simp [transition, h], .data (Or.inl h) rfl⟩)
    | fin => exact Or.inr (Or.inr ⟨_, by simp [transition, h], .fin (Or.inr h) rfl⟩)
    | _ => exact Or.inr (Or.inl ⟨Or.inr (by simp), by simp [transition, h]⟩)
  · cases control with
    | rst => exact Or.inl ⟨rfl, by simp [transition]⟩
    | none => exact Or.inr (Or.inr ⟨_, by simp [transition, h], .data (Or.inr h) rfl⟩)
    | _ => exact Or.inr (Or.inl ⟨Or.inr (by simp), by simp [transition, h]⟩)

lemma onAck_state (now : ℤ) (s : Socket) (repr : TcpRepr) : (s.onAck now repr).state = s.state := by
  rw [onAck]
  split <;> rfl

lemma processSegment_cases {s : Socket} (hs : s.Client) (now : ℤ) (repr : TcpRepr) (payload : List UInt8) (offset : ℕ) :
    (s.effectiveControl repr = .rst ∧
      s.processSegment now repr payload offset = some ((s.onAck now repr).receiveRst, none)) ∨
    ((s.state = .synSent ∨ s.effectiveControl repr ≠ .none) ∧
      s.processSegment now repr payload offset = some (s.onAck now repr, none)) ∨
    ∃ s', repr.control ≠ .rst ∧ Move repr (s.effectiveControl repr) (s.onAck now repr) s' ∧
      s.processSegment now repr payload offset =
        (s'.updateRemote now repr (s.acked repr)).bind fun s => s.takePayload payload offset := by
  have hs' : (s.onAck now repr).Client := by rwa [Client, onAck_state]
  rw [processSegment]
  rcases transition_client hs' now repr (s.effectiveControl repr) (s.acked repr) with
    ⟨hc, ht⟩ | ⟨hc, ht⟩ | ⟨s', ht, hm⟩
  · rw [ht]
    exact Or.inl ⟨hc, rfl⟩
  · rw [ht]
    rw [onAck_state] at hc
    exact Or.inr (Or.inl ⟨hc, rfl⟩)
  · rw [ht]
    refine Or.inr (Or.inr ⟨s', ?_, hm, rfl⟩)
    intro hrst
    have heff : s.effectiveControl repr = .rst := effectiveControl_eq_rst.mpr hrst
    rw [heff] at hm
    cases hm with
    | syn _ hc => cases hc
    | ack _ hc => cases hc
    | data _ hc => cases hc
    | fin _ hc => cases hc

lemma processSegment_eq_some {now : ℤ} {s : Socket} (hs : s.Client) {repr : TcpRepr} {payload : List UInt8} {offset : ℕ}
    {r : Socket × Option TcpRepr} (h : s.processSegment now repr payload offset = some r) :
    r = ((s.onAck now repr).receiveRst, none) ∨ r = (s.onAck now repr, none) ∨
    ∃ s' s'', repr.control ≠ .rst ∧ Move repr (s.effectiveControl repr) (s.onAck now repr) s' ∧
      s'.updateRemote now repr (s.acked repr) = some s'' ∧ s''.takePayload payload offset = some r := by
  rcases processSegment_cases hs now repr payload offset with ⟨_, h'⟩ | ⟨_, h'⟩ | ⟨s', hrst, hm, h'⟩
  · exact Or.inl (Option.some.inj (h.symm.trans h'))
  · exact Or.inr (Or.inl (Option.some.inj (h.symm.trans h')))
  · obtain ⟨s'', hs'', hr⟩ := Option.bind_eq_some_iff.mp (h'.symm.trans h)
    exact Or.inr (Or.inr ⟨s', s'', hrst, hm, hs'', hr⟩)

lemma process_eq_some {now : ℤ} {s : Socket} {repr : TcpRepr} {r : Socket × Option TcpRepr}
    (h : s.process now repr = some r) :
    (r.1 = s ∧ ∀ reply ∈ r.2, reply = rstReply repr) ∨
    (∃ timer, r = (s.withTimer timer).challengeAckReply now ∧ (s.state ≠ .timeWait → timer = s.timer)) ∨
    (s.state ≠ .closed ∧ s.checkAck repr = .accept ∧
      ((s.state = .synSent ∧ s.processSegment now repr [] 0 = some r) ∨
        (s.state ≠ .synSent ∧ s.segmentInWindow repr = true ∧ ∃ payload offset,
          s.overlap repr = some (payload, offset) ∧
          (s.noteSeq repr.seqNumber).processSegment now repr payload offset = some r))) := by
  rw [process] at h
  by_cases hclosed : s.state = .closed
  · rw [if_pos hclosed] at h
    cases h
    exact Or.inl ⟨rfl, by simp⟩
  · rw [if_neg hclosed] at h
    cases hcheck : s.checkAck repr with
    | drop =>
      rw [hcheck] at h
      cases h
      exact Or.inl ⟨rfl, by simp⟩
    | reset =>
      rw [hcheck] at h
      cases h
      exact Or.inl ⟨rfl, by simp⟩
    | challenge =>
      rw [hcheck] at h
      cases h
      exact Or.inr (Or.inl ⟨s.timer, rfl, fun _ => rfl⟩)
    | accept =>
      rw [hcheck] at h
      dsimp only at h
      split_ifs at h with hsyn hin htw
      · exact Or.inr (Or.inr ⟨hclosed, rfl, Or.inl ⟨hsyn, h⟩⟩)
      · obtain ⟨⟨payload, offset⟩, hov, hr⟩ := Option.bind_eq_some_iff.mp h
        exact Or.inr (Or.inr ⟨hclosed, rfl, Or.inr ⟨hsyn, hin, payload, offset, hov, hr⟩⟩)
      · cases h
        exact Or.inr (Or.inl ⟨_, rfl, fun h => absurd htw h⟩)
      · cases h
        exact Or.inr (Or.inl ⟨_, rfl, fun _ => rfl⟩)

lemma process_reply {now : ℤ} {s s' : Socket} {repr reply : TcpRepr} (h : s.process now repr = some (s', some reply)) :
    reply = rstReply repr ∨ ∃ s₁ : Socket, s' = s₁.ackReply.1 ∧ reply = s₁.ackReply.2 := by
  have hchallenge : ∀ s₁ : Socket, (s', some reply) = s₁.challengeAckReply now →
      ∃ s₁ : Socket, s' = s₁.ackReply.1 ∧ reply = s₁.ackReply.2 := by
    intro s₁ h₁
    rw [challengeAckReply] at h₁
    split_ifs at h₁
    · cases h₁
    · cases h₁
      exact ⟨_, rfl, rfl⟩
  have hsegment : ∀ {s₁ : Socket} {payload : List UInt8} {offset : ℕ},
      s₁.processSegment now repr payload offset = some (s', some reply) →
      ∃ s₁ : Socket, s' = s₁.ackReply.1 ∧ reply = s₁.ackReply.2 := by
    intro s₁ payload offset h₁
    rw [processSegment] at h₁
    split at h₁
    · cases h₁
    · exact hchallenge _ (Option.some.inj h₁).symm
    · obtain ⟨s₂, _, h₂⟩ := Option.bind_eq_some_iff.mp h₁
      rcases takePayload_eq_some h₂ with ⟨_, h₃⟩ | ⟨_, _, _, _, _, _, h₃ | ⟨h₃, _⟩⟩
      · cases h₃
      · cases h₃
        exact ⟨_, rfl, rfl⟩
      · cases h₃
  rcases process_eq_some h with ⟨_, hreply⟩ | ⟨timer, h₁, _⟩ | ⟨_, _, ⟨_, h₁⟩ | ⟨_, _, payload, offset, _, h₁⟩⟩
  · exact Or.inl (hreply reply rfl)
  · exact Or.inr (hchallenge _ h₁)
  · exact Or.inr (hsegment h₁)
  · exact Or.inr (hsegment h₁)

lemma checkAck_synchronized {s : Socket} {repr : TcpRepr} (h₁ : s.state ≠ .synSent) (h₂ : s.state ≠ .synReceived)
    (hr : repr.control ≠ .rst) :
    s.checkAck repr =
      match repr.ackNumber with
      | none => .drop
      | some ack =>
        if ack.lt s.localSeqNo then .drop
        else if (s.localSeqNo.add (s.txBuffer.length + s.controlLen)).lt ack then .challenge
        else .accept := by
  rw [checkAck]
  cases hs : s.state <;> cases hc : repr.control <;> cases ha : repr.ackNumber <;> simp_all

lemma dequeueAcked_ne_none {s : Socket} {len : ℕ} (h : len ≤ s.txBuffer.length) : ∃ s', s.dequeueAcked len = some s' := by
  rw [dequeueAcked]
  split_ifs with hlen
  · obtain ⟨tx, htx⟩ : ∃ tx, RandomAccess.dequeueAllocated len s.txBuffer = some tx := by
      rw [RandomAccess.dequeueAllocated, if_pos h]
      exact ⟨_, rfl⟩
    have hc := (RandomAccess.dequeueAllocated_eq_some htx).2.1
    exact ⟨s.withTx tx hc, Option.pmap_eq_some_iff.mpr ⟨tx, hc, htx, rfl⟩⟩
  · exact ⟨s, rfl⟩

lemma updateRemote_ne_none {s : Socket} {a : Acked} (h : a.len ≤ s.txBuffer.length) (now : ℤ) (repr : TcpRepr) :
    ∃ s', s.updateRemote now repr a = some s' := by
  have hlen : a.len ≤ { s with remoteWinLen := s.announcedWindow repr }.txBuffer.length := h
  obtain ⟨s', hs'⟩ := dequeueAcked_ne_none hlen
  rw [updateRemote]
  exact ⟨_, congrArg (Option.map _) hs'⟩

lemma dequeueAcked_eq_some {s s' : Socket} {len : ℕ} (h : s.dequeueAcked len = some s') :
    ∃ tx hc, s' = s.withTx tx hc ∧ tx.length + len = s.txBuffer.length ∧ tx.toList = s.txBuffer.toList.drop len := by
  rw [dequeueAcked] at h
  split_ifs at h with hlen
  · obtain ⟨tx, hc, htx, rfl⟩ := Option.pmap_eq_some_iff.mp h
    obtain ⟨hle, _, hl, _⟩ := RandomAccess.dequeueAllocated_eq_some htx
    exact ⟨tx, hc, rfl, by omega, RandomAccess.toList_dequeueAllocated htx⟩
  · cases h
    have h0 : len = 0 := by omega
    exact ⟨s.txBuffer, rfl, rfl, by omega, by simp [h0]⟩

end Socket

end SmoltcpS3.Tcp

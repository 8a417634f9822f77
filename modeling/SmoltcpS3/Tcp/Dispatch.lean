import SmoltcpS3.Tcp.Process

/-! `tcp::Socket::dispatch`. The result is `none` where the source panics. -/

namespace SmoltcpS3.Tcp

open SerialNumbers Smoltcp

/-- `cx.ip_mtu()` less the two headers, and how many octets are left in the frame. -/
structure Mtu where
  ipMtu : ℕ
  headers_lt : 40 < ipMtu

namespace Socket

def localMss (mtu : Mtu) : ℕ := mtu.ipMtu - 20 - 20

def wantFin (s : Socket) : Bool := s.state == .finWait1 || s.state == .closing || s.state == .lastAck

def dataInFlight (s : Socket) : Bool := s.remoteLastSeq != s.localSeqNo

def maxSend (s : Socket) : ℕ :=
  (diff (s.localSeqNo.add (min s.remoteWinLen s.txBuffer.length)) s.remoteLastSeq).toNat

def seqToTransmit (mtu : Mtu) (s : Socket) : Bool :=
  if s.sentSyn = true ∧ s.dataInFlight = false then true
  else
    let canSendFull := min (localMss mtu) s.remoteMss ≤ s.maxSend
    -- Nagle's algorithm, which is on.
    let canSend : Bool := s.maxSend ≠ 0 ∧ ¬ (s.dataInFlight = true ∧ ¬ canSendFull ∧ s.wantFin = false)
    canSend || (s.wantFin && s.remoteLastSeq == s.localSeqNo.add s.txBuffer.length)

def ackToTransmit (s : Socket) : Bool := s.remoteLastAck.any (·.lt s.windowStart)

def windowToUpdate (s : Socket) : Option Bool :=
  if s.state = .synSent ∨ s.state = .synReceived ∨ s.state = .established ∨ s.state = .finWait1 ∨
      s.state = .finWait2 then
    match s.remoteLastAck with
    | none => some false
    | some _ => (s.windowEnd.sub s.windowStart).map fun left =>
        0 < s.scaledWindow ∧ saturate16 (left >>> s.remoteWinShift.val) ≤ s.scaledWindow / 2
  else some false

def reset (s : Socket) : Socket := { s.synSent 0 with state := .closed, tuple := false }

def expire (mtu : Mtu) (now : ℤ) (s : Socket) : Socket :=
  if s.seqToTransmit mtu = false ∧ s.timer.shouldRetransmit now = true then
    { s with remoteLastSeq := s.localSeqNo, timer := .idle, rtte := s.rtte.onRetransmit }
  else s

inductive Decision
  | nothing
  | close
  | send
  deriving DecidableEq, Repr

def decision (mtu : Mtu) (now : ℤ) (s : Socket) : Option Decision :=
  if s.seqToTransmit mtu then some .send
  else if s.ackToTransmit then some .send
  else s.windowToUpdate.map fun update =>
    if update then .send
    else if s.state = .closed then .send
    else if s.timer.shouldZeroWindowProbe now then .send
    else if s.timer.shouldClose now then .close
    else .nothing

def winLimit (s : Socket) : ℕ := (diff (s.localSeqNo.add s.remoteWinLen) s.remoteLastSeq).toNat

def isZeroWindowProbe (now : ℤ) (s : Socket) : Bool := s.winLimit == 0 && s.timer.shouldZeroWindowProbe now

def ackSegment (s : Socket) : TcpRepr where
  control := .none
  seqNumber := s.remoteLastSeq
  ackNumber := some s.windowStart
  windowLen := s.scaledWindow
  windowScale := none
  maxSegSize := none
  sackPermitted := false
  sackRange := none
  payload := []

def synSegment (mtu : Mtu) (s : Socket) : TcpRepr :=
  { s.ackSegment with
    control := .syn
    seqNumber := s.localSeqNo
    windowLen := saturate16 s.rxBuffer.window
    ackNumber := if s.state = .synSent then none else some s.windowStart
    windowScale := if s.state = .synSent then some s.remoteWinShift else s.remoteWinScale.map fun _ => s.remoteWinShift
    sackPermitted := if s.state = .synSent then true else s.remoteHasSack
    maxSegSize := some (UInt16.ofNat (localMss mtu)) }

def dataSegment (mtu : Mtu) (now : ℤ) (s : Socket) : Option TcpRepr :=
  let limit := if s.isZeroWindowProbe now then 1 else s.winLimit
  let size := min (min limit s.remoteMss) (localMss mtu)
  (s.remoteLastSeq.sub s.localSeqNo).map fun offset =>
    let payload := RandomAccess.getAllocated offset size s.txBuffer
    { s.ackSegment with
      payload := payload
      control :=
        if offset + payload.length = s.txBuffer.length then
          if s.wantFin then .fin
          else if payload = [] then .none
          else .psh
        else .none }

def segment (mtu : Mtu) (now : ℤ) (s : Socket) : Option TcpRepr :=
  match s.state with
  | .closed => some { s.ackSegment with control := .rst }
  | .synSent | .synReceived => some (s.synSegment mtu)
  | .established | .finWait1 | .closing | .closeWait | .lastAck => s.dataSegment mtu now
  | _ => some s.ackSegment

def hasData (s : Socket) : Bool := s.sentFin || s.state == .established || s.state == .closeWait

def emitted (now : ℤ) (s : Socket) (repr : TcpRepr) : Socket :=
  if s.hasData = true ∧ s.isZeroWindowProbe now = true then
    { s with timer := s.timer.rewindZeroWindowProbe now }
  else
    let sent := repr.seqNumber.add repr.segmentLen
    { s with
      remoteLastSeq := sent
      remoteLastAck := repr.ackNumber
      remoteLastWin := repr.windowLen
      rtte := if 0 < repr.segmentLen then s.rtte.onSend now sent else s.rtte
      timer :=
        if 0 < repr.segmentLen ∧ s.timer.isRetransmit = false then
          s.timer.setForRetransmit now (if 0 < repr.segmentLen then s.rtte.onSend now sent else s.rtte).rto
        else s.timer
      tuple := s.tuple && s.state != .closed }

/-- `ok` is whether the segment reached the device. -/
def dispatch (mtu : Mtu) (now : ℤ) (ok : Bool) (s : Socket) : Option (Socket × Option TcpRepr) :=
  if s.tuple = false then some (s, none)
  else
    let s := s.expire mtu now
    (s.decision mtu now).bind fun
      | .nothing => some (s, none)
      | .close => some (s.reset, none)
      | .send => (s.segment mtu now).map fun repr => (if ok then s.emitted now repr else s, some repr)

lemma decision_eq_close {mtu : Mtu} {now : ℤ} {s : Socket} (h : s.decision mtu now = some .close) :
    s.timer.shouldClose now = true := by
  rw [decision] at h
  by_cases hseq : s.seqToTransmit mtu = true
  · rw [if_pos hseq] at h
    cases h
  · rw [if_neg hseq] at h
    by_cases hack : s.ackToTransmit = true
    · rw [if_pos hack] at h
      cases h
    · rw [if_neg hack] at h
      obtain ⟨update, _, hd⟩ := Option.map_eq_some_iff.mp h
      split_ifs at hd with _ _ _ hclose
      exact hclose

lemma dataSegment_eq_some {mtu : Mtu} {now : ℤ} {s : Socket} {repr : TcpRepr} (h : s.dataSegment mtu now = some repr) :
    ∃ offset, s.remoteLastSeq.sub s.localSeqNo = some offset ∧ repr.seqNumber = s.remoteLastSeq ∧
      repr.ackNumber = some s.windowStart ∧ repr.windowLen = s.scaledWindow ∧
      repr.payload = RandomAccess.getAllocated offset
        (min (min (if s.isZeroWindowProbe now then 1 else s.winLimit) s.remoteMss) (localMss mtu)) s.txBuffer ∧
      (s.wantFin = false → repr.control = .none ∨ repr.control = .psh) := by
  rw [dataSegment] at h
  obtain ⟨offset, hoffset, rfl⟩ := Option.map_eq_some_iff.mp h
  refine ⟨offset, hoffset, rfl, rfl, rfl, rfl, fun hfin => ?_⟩
  dsimp only
  rw [hfin]
  generalize RandomAccess.getAllocated _ _ _ = payload
  split_ifs with _ h'
  · cases h'
  · exact Or.inl rfl
  · exact Or.inr rfl
  · exact Or.inl rfl

lemma dispatch_eq_some {mtu : Mtu} {now : ℤ} {ok : Bool} {s : Socket} {r : Socket × Option TcpRepr}
    (h : s.dispatch mtu now ok = some r) :
    r = (s, none) ∨ r = (s.expire mtu now, none) ∨ r = ((s.expire mtu now).reset, none) ∨
    ∃ repr, (s.expire mtu now).segment mtu now = some repr ∧
      r = (if ok then (s.expire mtu now).emitted now repr else s.expire mtu now, some repr) := by
  rw [dispatch] at h
  by_cases ht : s.tuple = false
  · rw [if_pos ht] at h
    cases h
    exact Or.inl rfl
  · rw [if_neg ht] at h
    right
    obtain ⟨d, _, hd⟩ := Option.bind_eq_some_iff.mp h
    cases d with
    | nothing =>
      cases hd
      exact Or.inl rfl
    | close =>
      cases hd
      exact Or.inr (Or.inl rfl)
    | send =>
      obtain ⟨repr, hrepr, rfl⟩ := Option.map_eq_some_iff.mp hd
      exact Or.inr (Or.inr ⟨repr, hrepr, rfl⟩)

lemma dispatch_sends {mtu : Mtu} {now : ℤ} {ok : Bool} {s s' : Socket} {repr : TcpRepr}
    (h : s.dispatch mtu now ok = some (s', some repr)) :
    (s.expire mtu now).segment mtu now = some repr ∧
      s' = if ok then (s.expire mtu now).emitted now repr else s.expire mtu now := by
  rcases dispatch_eq_some h with h | h | h | ⟨repr', hrepr, h⟩
  · cases h
  · cases h
  · cases h
  · cases h
    exact ⟨hrepr, rfl⟩

end Socket

end SmoltcpS3.Tcp

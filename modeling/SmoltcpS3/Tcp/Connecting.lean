import SmoltcpS3.Tcp.Send

namespace SmoltcpS3.Tcp

open EventRuns SerialNumbers Smoltcp

inductive SameTimer : Timer → Smoltcp.Timer → Prop
  | idle : SameTimer .idle .idle
  | retransmit (expiresAt : ℤ) : SameTimer (.retransmit expiresAt) (.retransmit expiresAt)

structure Dialing (s : Socket) (d : Dial) : Prop where
  state : s.state = .synSent
  tuple : s.tuple = true
  ack : s.remoteLastAck = none
  tx : s.txBuffer.length = 0
  last : s.remoteLastSeq = s.localSeqNo.add d.dataInFlight.toNat
  rto : s.rtte.rto = d.rto
  rto_le : d.rto ≤ rtteMaxRto
  timer : SameTimer s.timer d.timer

section Dispatch

variable {mtu : Mtu} {s : Socket} {d : Dial}

lemma SameTimer.shouldRetransmit {t : Timer} {t' : Smoltcp.Timer} (h : SameTimer t t') (now : ℤ) :
    t.shouldRetransmit now = t'.shouldRetransmit now := by
  cases h <;> rfl

lemma SameTimer.isRetransmit {t : Timer} {t' : Smoltcp.Timer} (h : SameTimer t t') :
    t.isRetransmit = t'.isRetransmit := by
  cases h <;> rfl

lemma SameTimer.shouldZeroWindowProbe {t : Timer} {t' : Smoltcp.Timer} (h : SameTimer t t') (now : ℤ) :
    t.shouldZeroWindowProbe now = false := by
  cases h <;> rfl

lemma SameTimer.shouldClose {t : Timer} {t' : Smoltcp.Timer} (h : SameTimer t t') (now : ℤ) : t.shouldClose now = false := by
  cases h <;> rfl

lemma SameTimer.setForRetransmit {t : Timer} {t' : Smoltcp.Timer} (h : SameTimer t t') (now : ℤ) (delay : ℕ) :
    SameTimer (t.setForRetransmit now delay) (t'.setForRetransmit now delay) := by
  cases h <;> exact .retransmit _

lemma Dialing.dataInFlight (h : Dialing s d) : s.dataInFlight = d.dataInFlight := by
  rw [Socket.dataInFlight, h.last]
  cases d.dataInFlight with
  | false => simp [SeqNumber.add]
  | true =>
    have hne : s.localSeqNo.add 1 ≠ s.localSeqNo := by
      simp [SeqNumber.add]
    simpa using hne

lemma Dialing.seqToTransmit (h : Dialing s d) : s.seqToTransmit mtu = d.seqToTransmit := by
  have hsyn : s.sentSyn = true := by simp [Socket.sentSyn, h.state]
  have hfin : s.wantFin = false := by simp [Socket.wantFin, h.state]
  rw [Socket.seqToTransmit, Dial.seqToTransmit, h.dataInFlight, hsyn]
  cases hf : d.dataInFlight with
  | false => simp
  | true =>
    have hbase : s.localSeqNo = place s.localSeqNo 0 := (place_zero _).symm
    have hmax : s.maxSend = 0 := by
      rw [Socket.maxSend, h.tx, h.last, hf, Nat.min_zero]
      rw [hbase, add_place, add_place, diff_near _ (by simp) (by simp)]
      rfl
    simp [hmax, hfin]

lemma Dialing.expire (h : Dialing s d) (now : ℤ) : Dialing (s.expire mtu now) (d.expire now) := by
  rw [Socket.expire, Dial.expire, h.seqToTransmit, h.timer.shouldRetransmit]
  by_cases hexp : d.seqToTransmit = false ∧ d.timer.shouldRetransmit now = true
  · rw [if_pos hexp, if_pos hexp]
    have hrto : (s.rtte.onRetransmit).rto = min (d.rto * 2) rtteMaxRto := by
      have hle := h.rto_le
      have hmod : u32 (s.rtte.rto * 2) = d.rto * 2 := by
        rw [h.rto, u32, Nat.mod_eq_of_lt]
        rw [rtteMaxRto] at hle
        omega
      rw [RttEstimator.onRetransmit]
      dsimp only
      split_ifs <;> exact congrArg (min · rtteMaxRto) hmod
    exact ⟨h.state, h.tuple, h.ack, h.tx, by simp [Dial.retransmit, SeqNumber.add], hrto, Nat.min_le_right _ _, .idle⟩
  · rw [if_neg hexp, if_neg hexp]
    exact h

lemma Dialing.decision (h : Dialing s d) (now : ℤ) :
    s.decision mtu now = some (if d.seqToTransmit then .send else .nothing) := by
  rw [Socket.decision, h.seqToTransmit]
  cases d.seqToTransmit with
  | true => rfl
  | false =>
    have hack : s.ackToTransmit = false := by simp [Socket.ackToTransmit, h.ack]
    have hupdate : s.windowToUpdate = some false := by simp [Socket.windowToUpdate, h.state, h.ack]
    simp [hack, hupdate, h.timer.shouldZeroWindowProbe, h.timer.shouldClose, h.state]

lemma onSend_rto (now : ℤ) (seq : BitVec 32) (e : RttEstimator) : (e.onSend now seq).rto = e.rto := by
  rw [RttEstimator.onSend]
  split_ifs <;> rfl

lemma Dialing.emitted (h : Dialing s d) (now : ℤ) : Dialing (s.emitted now (s.synSegment mtu)) (d.emitted now) := by
  have hdata : s.hasData = false := by simp [Socket.hasData, Socket.sentFin, h.state]
  have hlen : (s.synSegment mtu).segmentLen = 1 := rfl
  have hrto : (s.rtte.onSend now ((s.synSegment mtu).seqNumber.add 1)).rto = d.rto := (onSend_rto _ _ _).trans h.rto
  rw [Socket.emitted, if_neg (by simp [hdata]), hlen]
  refine ⟨h.state, by simp [h.tuple, h.state], by simp [Socket.synSegment, h.state], h.tx, rfl, hrto, h.rto_le, ?_⟩
  simp only [Nat.one_pos, true_and, if_true, hrto, h.timer.isRetransmit, Dial.emitted]
  cases d.timer.isRetransmit with
  | true => exact h.timer
  | false => exact h.timer.setForRetransmit now d.rto

lemma Dialing.dispatch (h : Dialing s d) (now : ℤ) (ok : Bool) :
    ∃ s' sent, s.dispatch mtu now ok = some (s', sent) ∧ Dialing s' (d.dispatch now ok) ∧
      s'.localSeqNo = s.localSeqNo ∧ sent.isSome = d.sends now ∧
      ∀ repr ∈ sent, repr.control = .syn ∧ repr.seqNumber = s.localSeqNo := by
  have h' : Dialing (s.expire mtu now) (d.expire now) := h.expire now
  have hlocal : (s.expire mtu now).localSeqNo = s.localSeqNo := by
    rw [Socket.expire]
    split_ifs <;> rfl
  rw [Socket.dispatch, if_neg (by simp [h.tuple])]
  dsimp only
  rw [h'.decision, Option.bind_some, Dial.dispatch, ← Dial.seqToTransmit_expire]
  cases hseq : (d.expire now).seqToTransmit with
  | false => exact ⟨_, none, rfl, by simpa [hseq] using h', hlocal, rfl, by simp⟩
  | true =>
    have hsegment : (s.expire mtu now).segment mtu now = some ((s.expire mtu now).synSegment mtu) := by
      rw [Socket.segment, h'.state]
    simp only [if_true, hsegment, Option.map_some]
    refine ⟨_, _, rfl, ?_, ?_, rfl, ?_⟩
    · cases ok with
      | false => simpa using h'
      | true => simpa [hseq] using h'.emitted now
    · cases ok with
      | false => exact hlocal
      | true =>
        have hdata : (s.expire mtu now).hasData = false := by simp [Socket.hasData, Socket.sentFin, h'.state]
        rw [if_pos rfl, Socket.emitted, if_neg (by simp [hdata])]
        exact hlocal
    · intro repr hrepr
      cases hrepr
      exact ⟨rfl, hlocal⟩

end Dispatch

lemma dialing_connected (s : Socket) (seq : SeqNumber) : Dialing (s.synSent seq) Dial.connected :=
  ⟨rfl, rfl, rfl, rfl, by simp [Socket.synSent, Dial.connected, SeqNumber.add], rfl, by decide, .idle⟩

structure Unanswered (seq : SeqNumber) (t : Trace) (d : Dial) : Prop where
  running : t.panicked = false
  dialing : Dialing t.socket d
  localSeqNo : t.socket.localSeqNo = seq
  segments : ∀ repr ∈ t.segments, repr.control = .syn ∧ repr.seqNumber = seq

lemma Unanswered.step {mtu : Mtu} {seq : SeqNumber} {t : Trace} {d : Dial} (h : Unanswered seq t d) (now : ℤ) (ok : Bool) :
    Unanswered seq (t.step mtu (.dispatch now ok)) (d.dispatch now ok) := by
  obtain ⟨s', sent, hd, hdialing, hseq, _, hsyn⟩ := h.dialing.dispatch now ok
  rw [Trace.step_running h.running, Trace.call, hd]
  refine ⟨h.running, hdialing, hseq.trans h.localSeqNo, fun repr hmem => ?_⟩
  rcases List.mem_append.mp hmem with hmem | hmem
  · exact h.segments repr hmem
  · rw [← h.localSeqNo]
    exact hsyn repr (Option.mem_toList.mp hmem)

lemma Unanswered.run {mtu : Mtu} {seq : SeqNumber} {t : Trace} {d : Dial} (h : Unanswered seq t d)
    (polls : List (ℤ × Bool)) :
    Unanswered seq (EventRuns.run (Trace.step mtu) t (polls.map fun p => .dispatch p.1 p.2))
      (EventRuns.run (fun (d : Dial) p => d.dispatch p.1 p.2) d polls) := by
  induction polls generalizing t d with
  | nil => exact h
  | cons p polls ih => exact ih (h.step p.1 p.2)

theorem dials_run (mtu : Mtu) (s : Socket) (seq : SeqNumber) (polls : List (ℤ × Bool)) (now : ℤ) (ok : Bool) :
    let t := run (Trace.step mtu) (Trace.connected s seq) (polls.map fun p => .dispatch p.1 p.2)
    let d := run (fun (d : Dial) p => d.dispatch p.1 p.2) Dial.connected polls
    t.panicked = false ∧ Dialing t.socket d ∧
      (∀ repr ∈ t.segments, repr.control = .syn ∧ repr.seqNumber = seq) ∧
      ∃ s' sent, t.socket.dispatch mtu now ok = some (s', sent) ∧ sent.isSome = d.sends now := by
  intro t d
  have h₀ : Unanswered seq (Trace.connected s seq) Dial.connected :=
    ⟨rfl, dialing_connected s seq, rfl, by simp [Trace.connected]⟩
  have h : Unanswered seq t d := h₀.run polls
  obtain ⟨s', sent, hd, _, _, hsends, _⟩ := h.dialing.dispatch now ok
  exact ⟨h.running, h.dialing, h.segments, s', sent, hd, hsends⟩

end SmoltcpS3.Tcp

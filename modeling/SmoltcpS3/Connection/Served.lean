import SmoltcpS3.Connection.Input

namespace SmoltcpS3.Connection

open Smoltcp Http Delimiter

structure Response where
  header : List UInt8
  body : List UInt8
  header_ends : afterFirst crlf2 header = some []

def Response.stream (r : Response) : List UInt8 := r.header ++ r.body

lemma Response.bodyOf_stream (r : Response) : bodyOf r.stream = r.body := by
  rw [bodyOf, Response.stream, afterFirst_append r.header_ends]
  rfl

namespace Session

/-- The server delivers the response in order, in whatever pieces, and its FIN with the last one; the
SYN does not time out. -/
def ServedBy (r : Response) (s : Session) : Event → Prop
  | .segment seg =>
    seg.control ≠ .rst ∧ s.trace.delivered ++ s.sock.acceptedPayload seg <+: r.stream ∧
      (seg.control = .fin → s.trace.delivered ++ s.sock.acceptedPayload seg = r.stream)
  | .step now _ => ¬ s.SynTimedOut now

instance (r : Response) (s : Session) : ∀ e, Decidable (s.ServedBy r e)
  | .segment _ => inferInstanceAs (Decidable (_ ∧ _ ∧ _))
  | .step _ _ => inferInstanceAs (Decidable (¬ _))

structure Served (r : Response) (s : Session) : Prop extends CleanEmpty s, InputInv s where
  delivered_prefix : s.trace.delivered <+: r.stream
  fin_delivered : s.sock.rxFinReceived = true → s.trace.delivered = r.stream
  not_closed : s.sock.state ≠ .closed
  done_clean : s.conn.done = true → s.conn.closedCleanly = true

variable {r : Response} {s : Session}

lemma acceptedPayload_eq_nil {seg : Segment} (h : s.ServedBy r (.segment seg))
    (hd : s.trace.delivered = r.stream) : s.sock.acceptedPayload seg = [] := by
  have hlen := h.2.1.length_le
  rw [hd, List.length_append] at hlen
  exact List.eq_nil_of_length_eq_zero (by omega)

lemma ServedBy.quietAfterFin {e : Event} (h : s.ServedBy r e) (hs : s.Served r) : s.QuietAfterFin e := by
  cases e with
  | segment seg => exact fun hf => acceptedPayload_eq_nil h (hs.fin_delivered hf)
  | step now tls => trivial

lemma process_fin {seg : Segment} {k : Socket} (h : (k.process seg).rxFinReceived = true) :
    k.rxFinReceived = true ∨ seg.control = .fin := by
  rw [Socket.process] at h
  cases hn : nextState seg k.state with
  | none => simpa [hn] using Or.inl h
  | some st => by_cases hr : seg.control = .rst <;> simp_all

lemma process_not_closed {seg : Segment} {k : Socket} (hc : Socket.ClientState k.state)
    (hr : seg.control ≠ .rst) (h : k.state ≠ .closed) : (k.process seg).state ≠ .closed := by
  rw [Socket.process_state]
  cases hn : nextState seg k.state with
  | none => exact h
  | some st =>
    rcases Socket.nextState_client hc hn with ⟨_, hrst⟩ | ⟨_, _, ht⟩ | ⟨_, _, rfl⟩
    · exact absurd hrst hr
    · rcases ht with ⟨_, rfl | rfl⟩ | ⟨_, rfl⟩ | ⟨_, rfl⟩ | ⟨_, rfl⟩ <;> simp
    · simp

lemma transfer_done (cfg : Config) (s : Session) : (s.transfer cfg).conn.done = s.conn.done := by
  have hq : (s.queueRequest cfg).conn.done = s.conn.done := by
    rw [queueRequest]
    split <;> rfl
  obtain ⟨_, _, _, _, _, h⟩ := transfer_eq cfg s
  rw [h]
  exact hq

theorem Served.next {cfg : Config} (hp : cfg.plainHttp = true) (h : s.Served r) {e : Event}
    (he : s.ServedBy r e) : (s.next cfg e).Served r := by
  have hclean : (s.next cfg e).CleanEmpty := h.toCleanEmpty.next e (he.quietAfterFin h)
  have hinput := h.toInputInv.next hp e
  cases e with
  | segment seg =>
    refine ⟨hclean, hinput, he.2.1, fun hf => ?_, process_not_closed h.client he.1 h.not_closed, h.done_clean⟩
    rcases process_fin hf with hf | hf
    · change s.trace.delivered ++ s.sock.acceptedPayload seg = r.stream
      rw [acceptedPayload_eq_nil he (h.fin_delivered hf), List.append_nil, h.fin_delivered hf]
    · exact he.2.2 hf
  | step now tls =>
    obtain ⟨_, _, hs⟩ := settle_eq now s
    have hsyn : ¬ (s.settle now).SynTimedOut now := by
      rw [hs]
      exact he
    rcases connStep_cases cfg now tls s with ⟨_, hstep⟩ | ⟨_, hto, _⟩ | ⟨hd, _, hstep⟩
    · simpa only [Session.next, hstep] using h
    · exact absurd hto hsyn
    · obtain ⟨hst, hfin, _, hdel, _, _⟩ := work_frame cfg now tls s
      have hdone : (((s.settle now).transfer cfg).runPump cfg tls).conn.done = false := by
        simp only [runPump, hp, if_true]
        rw [transfer_done, hs]
        exact hd
      simp only [Session.next, hstep] at hclean hinput ⊢
      generalize ((s.settle now).transfer cfg).runPump cfg tls = t at *
      have hprefix : t.trace.delivered <+: r.stream := hdel ▸ h.delivered_prefix
      have hfull : t.sock.rxFinReceived = true → t.trace.delivered = r.stream := fun hf =>
        hdel.trans (h.fin_delivered (hfin ▸ hf))
      have hopen : t.sock.state ≠ .closed := hst ▸ h.not_closed
      rcases closeCheck_cases t with hx | ⟨_, _, _, _, _, hx⟩
      · rw [hx] at hclean hinput ⊢
        exact ⟨hclean, hinput, hprefix, hfull, hopen, fun hd' => by simp [hdone] at hd'⟩
      · rw [hx] at hclean hinput ⊢
        exact ⟨hclean, hinput, hprefix, hfull, hopen, fun _ => rfl⟩

lemma Served.withCounters (h : s.Served r) (k : Counters) : ({ s with counters := k } : Session).Served r :=
  ⟨⟨⟨⟨h.queued_handshake, h.failed_done⟩, h.client, h.closeWait_fin, h.clean_done, h.clean_ended⟩, h.empty⟩,
    ⟨h.incoming, h.counted, h.conserved⟩, h.delivered_prefix, h.fin_delivered, h.not_closed, h.done_clean⟩

lemma ServedBy.withCounters {e : Event} (h : s.ServedBy r e) (k : Counters) :
    ({ s with counters := k } : Session).ServedBy r e := by
  cases e with
  | segment seg => exact h
  | step now tls => exact h

theorem Served.of_done (h : s.Served r) (hd : s.conn.done = true) :
    s.conn.closedCleanly = true ∧ s.conn.body.bytes = r.body.length := by
  have hc := h.done_clean hd
  have hw : s.sock.state = .closeWait := (h.clean_ended hc).resolve_right h.not_closed
  have hall : s.trace.dequeued = r.stream := by
    have hcons := h.conserved
    rwa [h.empty hc, List.append_nil, h.fin_delivered (h.closeWait_fin hw)] at hcons
  refine ⟨hc, ?_⟩
  rw [h.counted.bytes_eq, hall, r.bodyOf_stream]

end Session

lemma Opening.served (o : Opening) (r : Response) : o.session.Served r where
  toCleanEmpty := ⟨o.flagsInv, fun h => by simp [Opening.session] at h⟩
  toInputInv := o.inputInv
  delivered_prefix := List.nil_prefix
  fin_delivered h := by simp [Opening.session, Socket.connected] at h
  not_closed := by simp [Opening.session, Socket.connected]
  done_clean h := by simp [Opening.session] at h

end SmoltcpS3.Connection

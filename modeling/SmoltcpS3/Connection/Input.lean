import SmoltcpS3.Connection.Flags

/-! The input side of a plain HTTP connection: every octet that leaves the socket is counted
once, and a clean close leaves none behind. -/

namespace SmoltcpS3.Connection

open Smoltcp Http EventRuns

namespace Session

structure InputInv (s : Session) : Prop where
  incoming : s.conn.incoming = []
  counted : Counted s.conn.body s.trace.dequeued
  conserved : s.trace.dequeued ++ s.sock.rxBuffer.toList = s.trace.delivered

structure ByteExact (s : Session) : Prop where
  bytes : s.conn.body.bytes = (bodyOf s.trace.dequeued).length
  incoming : s.conn.incoming = []
  complete : s.conn.closedCleanly = true → s.trace.dequeued = s.trace.delivered

def QuietAfterFin (s : Session) : Event → Prop
  | .segment seg => s.sock.rxFinReceived = true → s.sock.acceptedPayload seg = []
  | .step _ _ => True

theorem drainLoop_stable (fuel : ℕ) (s : Session) (h : s.sock.rxBuffer.length < fuel) :
    drainLoop (fuel + 1) s = drainLoop fuel s := by
  induction fuel generalizing s with
  | zero => omega
  | succ fuel ih =>
    by_cases hc : s.sock.canRecv = true
    · have hlt := length_drainRound_lt hc
      rw [drainLoop_succ hc, drainLoop_succ hc]
      exact ih _ (by omega)
    · rw [drainLoop_of_not_canRecv hc, drainLoop_of_not_canRecv hc]

lemma drainLoop_eq_drainSocket {fuel : ℕ} {s : Session} (h : s.sock.rxBuffer.length < fuel) :
    drainLoop fuel s = s.drainSocket := by
  induction fuel, h using Nat.le_induction with
  | base => rfl
  | succ fuel hle ih => rw [drainLoop_stable fuel s hle, ih]

lemma drainSocket_canRecv (s : Session) : s.drainSocket.sock.canRecv = false := by
  obtain ⟨r, hr, he⟩ := drainSocket_eq s
  rw [he]
  exact (Socket.canRecv_eq_false_iff _).mpr hr

lemma transfer_counted {cfg : Config} (hp : cfg.plainHttp = true) {s : Session}
    (hi : s.conn.incoming = []) (hc : Counted s.conn.body s.trace.dequeued) :
    (s.transfer cfg).conn.incoming = [] ∧
      Counted (s.transfer cfg).conn.body (s.transfer cfg).trace.dequeued := by
  have hstub : ∀ t : Session, t.stubCount cfg = t := by
    intro t
    simp [stubCount, Config.stubTlsAfterHandshake, hp]
  have hqueue : (s.queueRequest cfg).conn.incoming = s.conn.incoming ∧
      (s.queueRequest cfg).conn.body = s.conn.body ∧
      (s.queueRequest cfg).trace.dequeued = s.trace.dequeued := by
    rw [queueRequest]
    split <;> exact ⟨rfl, rfl, rfl⟩
  obtain ⟨r, _, hd⟩ := drainSocket_eq (s.queueRequest cfg).pushOutgoing
  rw [transfer]
  rw [hstub, hd, pushOutgoing_eq]
  simp only [plainCount, hp, true_and, hqueue, hi, List.nil_append]
  split_ifs with hne
  · exact ⟨rfl, countBody_counted hc _ _⟩
  · have hnil := not_not.mp hne
    simp only [hnil, List.append_nil]
    exact ⟨trivial, hc⟩

theorem InputInv.next {cfg : Config} (hp : cfg.plainHttp = true) {s : Session} (h : s.InputInv)
    (e : Event) : (s.next cfg e).InputInv := by
  cases e with
  | segment seg =>
    refine ⟨h.incoming, h.counted, ?_⟩
    change s.trace.dequeued ++ (s.sock.process seg).rxBuffer.toList = _
    rw [Socket.process_toList, ← List.append_assoc, h.conserved]
    rfl
  | step now tls =>
    obtain ⟨_, _, hs⟩ := settle_eq now s
    rcases connStep_cases cfg now tls s with ⟨_, he⟩ | ⟨_, _, he⟩ | ⟨_, _, he⟩
    · simpa only [Session.next, he] using h
    · simp only [Session.next, he, hs]
      exact ⟨h.incoming, h.counted, h.conserved⟩
    · have ht : (s.settle now).conn.incoming = [] ∧
          Counted (s.settle now).conn.body (s.settle now).trace.dequeued :=
        hs ▸ ⟨h.incoming, h.counted⟩
      obtain ⟨hin, hct⟩ := transfer_counted hp ht.1 ht.2
      obtain ⟨_, _, hrx, hdel, hdeq, _⟩ := work_frame cfg now tls s
      simp only [Session.next, he]
      simp only [runPump, hp, if_true] at hrx hdel hdeq ⊢
      have hcons : ((s.settle now).transfer cfg).trace.dequeued ++
          ((s.settle now).transfer cfg).sock.rxBuffer.toList =
          ((s.settle now).transfer cfg).trace.delivered := by
        rw [hrx, hdel, hdeq, List.append_nil, h.conserved]
      rcases closeCheck_cases ((s.settle now).transfer cfg) with hx | ⟨_, _, _, _, _, hx⟩
      · rw [hx]
        exact ⟨hin, hct, hcons⟩
      · rw [hx]
        exact ⟨hin, hct, hcons⟩

lemma connStep_clean_rxBuffer {cfg : Config} {now : ℤ} {tls : List UnbufferedStatus} {s : Session}
    (hc : (s.connStep cfg now tls).1.conn.closedCleanly = true)
    (hn : s.conn.closedCleanly = false) : (s.connStep cfg now tls).1.sock.rxBuffer.toList = [] := by
  rcases connStep_cases cfg now tls s with ⟨_, he⟩ | ⟨_, _, he⟩ | ⟨_, _, he⟩
  · rw [he] at hc
    simp [hn] at hc
  · obtain ⟨_, _, hs⟩ := settle_eq now s
    rw [he, hs] at hc
    simp [giveUp, hn] at hc
  · obtain ⟨_, _, hrx, _, _, hcl⟩ := work_frame cfg now tls s
    rw [he] at hc ⊢
    rcases closeCheck_cases (((s.settle now).transfer cfg).runPump cfg tls) with hx |
      ⟨_, _, _, _, _, hx⟩
    · simp only [hx] at hc
      simp [hcl, hn] at hc
    · simp only [hx]
      exact hrx

structure CleanEmpty (s : Session) : Prop extends FlagsInv s where
  empty : s.conn.closedCleanly = true → s.sock.rxBuffer.toList = []

lemma CleanEmpty.next {cfg : Config} {s : Session} (h : s.CleanEmpty) (e : Event)
    (hq : s.QuietAfterFin e) : (s.next cfg e).CleanEmpty := by
  refine ⟨h.toFlagsInv.next cfg e, fun hc => ?_⟩
  cases e with
  | segment seg =>
    have hnone : s.sock.acceptedPayload seg = [] := by
      rcases h.clean_ended hc with hs | hs
      · exact hq (h.closeWait_fin hs)
      · simp [Socket.acceptedPayload, nextState, hs]
    change (s.sock.process seg).rxBuffer.toList = []
    rw [Socket.process_toList, hnone, h.empty hc]
    rfl
  | step now tls =>
    by_cases hn : s.conn.closedCleanly = true
    · have hd := h.clean_done hn
      have he : s.next cfg (.step now tls) = s := by simp [Session.next, connStep, hd]
      rw [he]
      exact h.empty hn
    · exact connStep_clean_rxBuffer hc (by simpa using hn)

end Session

lemma Opening.inputInv (o : Opening) : o.session.InputInv :=
  ⟨rfl, counted_zero, rfl⟩

lemma input_sessionAfter {cfg : Config} (hp : cfg.plainHttp = true) (o : Opening) (es : List Event) :
    (sessionAfter cfg o es).InputInv :=
  run_preserves (fun _ e h => h.next hp e) es o.inputInv

/-- Every octet that leaves the socket is counted exactly once, the receive loop ends, a step that
reports a clean close has read all there was, and no more follows unless the peer sends data behind
its own FIN. -/
theorem received_bytes_exact (cfg : Config) (hp : cfg.plainHttp = true) (o : Opening)
    (es : List Event) :
    let s := sessionAfter cfg o es
    s.conn.body.bytes = (bodyOf s.trace.dequeued).length ∧ s.conn.incoming = [] ∧
      (∀ fuel, s.sock.rxBuffer.length < fuel → Session.drainLoop fuel s = s.drainSocket ∧
        s.drainSocket.sock.canRecv = false) ∧
      (∀ now tls, s.conn.closedCleanly = false →
        (s.connStep cfg now tls).1.conn.closedCleanly = true →
        (s.connStep cfg now tls).1.trace.dequeued = (s.connStep cfg now tls).1.trace.delivered) ∧
      (Along (Session.next cfg) Session.QuietAfterFin o.session es →
        s.conn.closedCleanly = true → s.trace.dequeued = s.trace.delivered) := by
  intro s
  have h : s.InputInv := input_sessionAfter hp o es
  refine ⟨h.counted.bytes_eq, h.incoming,
    fun fuel hf => ⟨Session.drainLoop_eq_drainSocket hf, s.drainSocket_canRecv⟩, ?_, ?_⟩
  · intro now tls hn hc
    have hnext := (h.next hp (.step now tls)).conserved
    have hrx := Session.connStep_clean_rxBuffer hc hn
    simp only [Session.next] at hnext
    rw [← hnext, hrx, List.append_nil]
  · intro hq hc
    have hempty : s.CleanEmpty :=
      run_invariant (fun _ e hi he => hi.next e he)
        ⟨o.flagsInv, fun _ => rfl⟩ hq
    rw [← h.conserved, hempty.empty hc, List.append_nil]

def plainOpening : Opening := ⟨[71, 69, 84], 1, 0, 49152, 0, 4, 16, .zero⟩

def plainInputRun : List Event :=
  [.segment ⟨.syn, true, 0, false, []⟩, .step 1 [], .segment ⟨.none, true, 3, false, [13, 10, 13]⟩,
    .step 2 [], .segment ⟨.psh, true, 0, false, [10]⟩, .segment ⟨.fin, true, 0, false, [88]⟩, .step 3 []]

theorem received_bytes_exact_wrapped :
    let s := sessionAfter (.small true) plainOpening plainInputRun
    s.conn.closedCleanly = true ∧ s.conn.body.bytes = 1 ∧
      s.conn.body.bytes = (bodyOf s.trace.dequeued).length :=
  ⟨by decide, by decide, (received_bytes_exact (.small true) rfl plainOpening plainInputRun).1⟩

theorem late_data_not_read :
    ¬ (sessionAfter (.small true) plainOpening
      (plainInputRun ++ [.segment ⟨.none, true, 0, false, [89]⟩, .step 4 []])).ByteExact := by
  intro h
  have hc := h.complete (by decide)
  revert hc
  decide

end SmoltcpS3.Connection

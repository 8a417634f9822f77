import SmoltcpS3.Connection.Step

/-! What each stage of `conn_step` can change. Later modules use these lemmas and never unfold
the stages. -/

namespace SmoltcpS3.Connection

open Smoltcp Http

namespace Session

def retouch (s : Session) (body : BodyCount) (k : Counters) (incoming : List UInt8)
    (handshakeDone : Bool) : Session :=
  { s with
    conn := { s.conn with body := body, incoming := incoming, handshakeDone := handshakeDone }
    counters := k }

lemma settle_eq (now : ℤ) (s : Session) :
    ∃ b k, s.settle now = { s with conn := { s.conn with settled := b }, counters := k } := by
  rw [settle]
  split
  · exact ⟨_, _, rfl⟩
  · exact ⟨s.conn.settled, s.counters, rfl⟩

@[simp] lemma settle_sock (now : ℤ) (s : Session) : (s.settle now).sock = s.sock := by
  obtain ⟨b, k, h⟩ := settle_eq now s
  rw [h]

lemma queueRequest_of_maySend_eq_false (cfg : Config) {s : Session} (h : s.sock.maySend = false) :
    s.queueRequest cfg = s := by
  simp [queueRequest, h]

lemma queueRequest_of_tls {cfg : Config} (h : cfg.plainHttp = false) (s : Session) :
    s.queueRequest cfg = s := by
  simp [queueRequest, h]

def pushed (s : Session) : ℕ :=
  if s.sock.maySend then min s.sock.txWindow s.conn.outgoing.length else 0

lemma pushOutgoing_eq (s : Session) :
    s.pushOutgoing = { s with
      sock := { s.sock with txWindow := s.sock.txWindow - s.pushed }
      conn := { s.conn with outgoing := s.conn.outgoing.drop s.pushed }
      trace := { s.trace with
        accepted := s.trace.accepted ++ s.conn.outgoing.take s.pushed } } := by
  by_cases h : s.conn.outgoing ≠ [] ∧ s.sock.canSend = true
  · have hm : s.sock.maySend = true := by simpa [Socket.canSend] using (Bool.and_eq_true _ _ ▸ h.2).1
    simp [pushOutgoing, pushed, h, hm, Socket.sendSlice]
  · have hp : s.pushed = 0 := by
      by_cases hm : s.sock.maySend = true <;> simp [Socket.canSend, pushed, hm] at h ⊢
      by_cases ho : s.conn.outgoing = [] <;> simp [ho, h]
    rw [pushOutgoing, if_neg h, hp]
    simp only [Nat.sub_zero, List.drop_zero, List.take_zero, List.append_nil]

lemma recv_of_canRecv {s : Socket} (h : s.canRecv = true) :
    s.recv = (some s.rxBuffer.dequeueMany.1, { s with rxBuffer := s.rxBuffer.dequeueMany.2 }) := by
  simp [Socket.recv, Socket.mayRecv, h]

def drainRound (s : Session) : Session :=
  { s with
    sock := { s.sock with rxBuffer := s.sock.rxBuffer.dequeueMany.2 }
    conn := { s.conn with incoming := s.conn.incoming ++ s.sock.rxBuffer.dequeueMany.1 }
    trace := { s.trace with dequeued := s.trace.dequeued ++ s.sock.rxBuffer.dequeueMany.1 } }

section Draining

variable {s : Session} (hc : s.sock.canRecv = true)
include hc

lemma length_dequeued_pos : 0 < s.sock.rxBuffer.dequeueMany.1.length := by
  apply List.length_pos_of_ne_nil
  apply s.sock.rxBuffer.dequeueMany_ne_nil
  intro he
  rw [(s.sock.canRecv_eq_false_iff).mpr he] at hc
  cases hc

lemma drainLoop_succ (fuel : ℕ) : drainLoop (fuel + 1) s = drainLoop fuel s.drainRound := by
  rw [drainLoop]
  simp only [hc, if_true, recv_of_canRecv hc, length_dequeued_pos hc]
  rfl

lemma length_drainRound_lt : s.drainRound.sock.rxBuffer.length < s.sock.rxBuffer.length := by
  have hpos := length_dequeued_pos hc
  have hlen := congrArg List.length s.sock.rxBuffer.toList_dequeueMany
  simp only [List.length_append, RingBuffer.toList_length] at hlen
  simp only [drainRound]
  omega

end Draining

lemma drainLoop_of_not_canRecv {s : Session} (hc : ¬ s.sock.canRecv = true) (fuel : ℕ) :
    drainLoop fuel s = s := by
  cases fuel with
  | zero => rfl
  | succ fuel => rw [drainLoop, if_neg hc]

theorem drainLoop_eq (fuel : ℕ) (s : Session) (h : s.sock.rxBuffer.length < fuel) :
    ∃ r : RingBuffer UInt8, r.toList = [] ∧
      drainLoop fuel s = { s with
        sock := { s.sock with rxBuffer := r }
        conn := { s.conn with incoming := s.conn.incoming ++ s.sock.rxBuffer.toList }
        trace := { s.trace with dequeued := s.trace.dequeued ++ s.sock.rxBuffer.toList } } := by
  induction fuel generalizing s with
  | zero => omega
  | succ fuel ih =>
    by_cases hc : s.sock.canRecv = true
    · have hlt := length_drainRound_lt hc
      obtain ⟨r, hr, he⟩ := ih s.drainRound (by omega)
      refine ⟨r, hr, ?_⟩
      rw [drainLoop_succ hc, he]
      simp only [drainRound, List.append_assoc, s.sock.rxBuffer.toList_dequeueMany]
    · have he := (s.sock.canRecv_eq_false_iff).mp (by simpa using hc)
      exact ⟨s.sock.rxBuffer, he, by simp [drainLoop_of_not_canRecv hc, he]⟩

lemma drainSocket_eq (s : Session) :
    ∃ r : RingBuffer UInt8, r.toList = [] ∧
      s.drainSocket = { s with
        sock := { s.sock with rxBuffer := r }
        conn := { s.conn with incoming := s.conn.incoming ++ s.sock.rxBuffer.toList }
        trace := { s.trace with dequeued := s.trace.dequeued ++ s.sock.rxBuffer.toList } } :=
  drainLoop_eq _ s (Nat.lt_succ_self _)

lemma stubCount_eq (cfg : Config) (s : Session) :
    ∃ body inc, s.stubCount cfg = s.retouch body s.counters inc s.conn.handshakeDone := by
  rw [stubCount]
  split
  · exact ⟨_, _, rfl⟩
  · exact ⟨s.conn.body, s.conn.incoming, rfl⟩

lemma plainCount_eq (cfg : Config) (s : Session) :
    ∃ body k inc, s.plainCount cfg = s.retouch body k inc s.conn.handshakeDone := by
  rw [plainCount]
  split
  · exact ⟨_, _, _, rfl⟩
  · exact ⟨s.conn.body, s.counters, s.conn.incoming, rfl⟩

lemma readRecords_eq (s : Session) (records : List (Option (List UInt8))) :
    ∃ body k, s.readRecords records = s.retouch body k s.conn.incoming s.conn.handshakeDone ∨
      (none ∈ records ∧ s.readRecords records =
        (s.retouch body k s.conn.incoming s.conn.handshakeDone).fail .tlsRecord) := by
  induction records generalizing s with
  | nil => exact ⟨s.conn.body, s.counters, Or.inl rfl⟩
  | cons r rest ih =>
    cases r with
    | none => exact ⟨s.conn.body, s.counters, Or.inr ⟨by simp, rfl⟩⟩
    | some payload =>
      obtain ⟨body, k, h | ⟨hm, h⟩⟩ := ih (s.countData payload)
      · exact ⟨body, k, Or.inl h⟩
      · exact ⟨body, k, Or.inr ⟨by simp [hm], h⟩⟩

lemma writeAt_resize {v : List UInt8} {n : ℕ} (h : v.length ≤ n) (out : List UInt8) :
    writeAt (resize v n) v.length out = v ++ out := by
  have ht : (resize v n).take v.length = v := by
    rw [resize, List.take_of_length_le h, List.take_left']
    rfl
  rw [writeAt, ht, List.take_left']
  simp

lemma resize_of_le {v : List UInt8} {n : ℕ} (h : v.length ≤ n) :
    resize v n = v ++ List.replicate (n - v.length) 0 := by
  rw [resize, List.take_of_length_le h]

lemma encode_outgoing {s : Session} (h : s.conn.outgoing.length ≤ tlsBufCap) (out : List UInt8) :
    (s.encode out).conn.outgoing = s.conn.outgoing ++ out := writeAt_resize h out

lemma encrypt_outgoing (s : Session) (out : List UInt8) :
    (s.encrypt out).conn.outgoing = s.conn.outgoing ++ out :=
  writeAt_resize (by omega) out

lemma encodeFailed_outgoing {s : Session} (h : s.conn.outgoing.length ≤ tlsBufCap) :
    s.encodeFailed.conn.outgoing =
      s.conn.outgoing ++ List.replicate (tlsBufCap - s.conn.outgoing.length) 0 := resize_of_le h

lemma encryptFailed_outgoing (s : Session) :
    s.encryptFailed.conn.outgoing = s.conn.outgoing ++ List.replicate
      (s.conn.outgoing.length + s.conn.request.length + 128 - s.conn.outgoing.length) 0 :=
  resize_of_le (by omega)

@[simp] lemma fail_done (s : Session) (f : Failure) : (s.fail f).conn.done = true := rfl

@[simp] lemma encodeFailed_done (s : Session) : s.encodeFailed.conn.done = true := rfl

@[simp] lemma encryptFailed_done (s : Session) : s.encryptFailed.conn.done = true := rfl

theorem pumpOnce_cases (s : Session) (r : UnbufferedStatus) :
    ∃ body k inc hd, (s.conn.handshakeDone = true → hd = true) ∧
      ((s.pumpOnce r).1 = s.retouch body k inc hd ∨
      (∃ f, r.failsReading = true ∧ (s.pumpOnce r).1 = (s.retouch body k inc hd).fail f) ∨
      (∃ out, r.state = some (.encodeTlsData (some out)) ∧
        (s.pumpOnce r).1 = (s.retouch body k inc hd).encode out) ∨
      (r.state = some (.encodeTlsData none) ∧
        (s.pumpOnce r).1 = (s.retouch body k inc hd).encodeFailed) ∨
      (∃ out, r.state = some (.writeTraffic (some out)) ∧ s.conn.requestQueued = false ∧ hd = true ∧
        (s.pumpOnce r).1 = (s.retouch body k inc hd).encrypt out) ∨
      (r.state = some (.writeTraffic none) ∧ s.conn.requestQueued = false ∧
        (s.pumpOnce r).1 = (s.retouch body k inc hd).encryptFailed)) := by
  rcases r with ⟨n, st⟩
  cases st with
  | none =>
    exact ⟨s.conn.body, s.counters, s.conn.incoming, s.conn.handshakeDone, id,
      Or.inr (Or.inl ⟨.tls, rfl, rfl⟩)⟩
  | some st =>
    cases st with
    | readTraffic records =>
      obtain ⟨body, k, h | ⟨hm, h⟩⟩ := readRecords_eq s records
      · refine ⟨body, k, s.conn.incoming.drop n, s.conn.handshakeDone, id, Or.inl ?_⟩
        simp only [pumpOnce, h]
        rfl
      · refine ⟨body, k, s.conn.incoming.drop n, s.conn.handshakeDone, id,
          Or.inr (Or.inl ⟨.tlsRecord, by simpa [UnbufferedStatus.failsReading] using hm, ?_⟩)⟩
        simp only [pumpOnce, h]
        rfl
    | encodeTlsData out =>
      cases out with
      | none =>
        exact ⟨s.conn.body, s.counters, s.conn.incoming, s.conn.handshakeDone, id,
          Or.inr (Or.inr (Or.inr (Or.inl ⟨rfl, rfl⟩)))⟩
      | some out =>
        exact ⟨s.conn.body, s.counters, s.conn.incoming.drop n, s.conn.handshakeDone, id,
          Or.inr (Or.inr (Or.inl ⟨out, rfl, rfl⟩))⟩
    | transmitTlsData | blocked =>
      exact ⟨s.conn.body, s.counters, s.conn.incoming.drop n, s.conn.handshakeDone, id, Or.inl rfl⟩
    | writeTraffic out =>
      by_cases hq : s.conn.requestQueued = true
      · refine ⟨s.conn.body, s.counters, s.conn.incoming.drop n, true, fun _ => rfl, Or.inl ?_⟩
        simp only [pumpOnce, hq, if_true]
        rfl
      · have hq' : s.conn.requestQueued = false := by simpa using hq
        cases out with
        | none =>
          refine ⟨s.conn.body, s.counters, s.conn.incoming, true, fun _ => rfl,
            Or.inr (Or.inr (Or.inr (Or.inr (Or.inr ⟨rfl, hq', ?_⟩))))⟩
          simp only [pumpOnce, hq]
          rfl
        | some out =>
          refine ⟨s.conn.body, s.counters, s.conn.incoming.drop n, true, fun _ => rfl,
            Or.inr (Or.inr (Or.inr (Or.inr (Or.inl ⟨out, rfl, hq', rfl, ?_⟩))))⟩
          simp only [pumpOnce, hq]
          rfl

def PumpAlong (P : Session → UnbufferedStatus → Prop) : Session → List UnbufferedStatus → Prop
  | _, [] => True
  | s, r :: rest => P s r ∧ ((s.pumpOnce r).2 = true → PumpAlong P (s.pumpOnce r).1 rest)

theorem pump_rule {P : Session → UnbufferedStatus → Prop} {I J : Session → Prop}
    (hrest : ∀ s, I s → J s)
    (hgo : ∀ s r, I s → P s r → (s.pumpOnce r).2 = true → I (s.pumpOnce r).1)
    (hstop : ∀ s r, I s → P s r → (s.pumpOnce r).2 = false → J (s.pumpOnce r).1)
    {s : Session} {tls : List UnbufferedStatus} (hp : PumpAlong P s tls) (hi : I s) :
    J (s.pump tls) := by
  induction tls generalizing s with
  | nil => exact hrest s hi
  | cons r rest ih =>
    rw [pump]
    split_ifs with h
    · exact ih (hp.2 h) (hgo s r hi hp.1 h)
    · exact hstop s r hi hp.1 (by simpa using h)

lemma pumpAlong_true (s : Session) (tls : List UnbufferedStatus) :
    PumpAlong (fun _ _ => True) s tls := by
  induction tls generalizing s with
  | nil => trivial
  | cons r rest ih => exact ⟨trivial, fun _ => ih _⟩

theorem pump_invariant {I : Session → Prop} (h : ∀ s r, I s → I (s.pumpOnce r).1) (s : Session)
    (tls : List UnbufferedStatus) (hi : I s) : I (s.pump tls) :=
  pump_rule (fun _ => id) (fun s r hi _ _ => h s r hi) (fun s r hi _ _ => h s r hi)
    (pumpAlong_true s tls) hi

theorem transfer_eq (cfg : Config) (s : Session) :
    ∃ (r : RingBuffer UInt8) (body : BodyCount) (k : Counters) (inc : List UInt8), r.toList = [] ∧
      s.transfer cfg =
        { (s.queueRequest cfg) with
          sock := { s.sock with
            rxBuffer := r, txWindow := s.sock.txWindow - (s.queueRequest cfg).pushed }
          conn := { (s.queueRequest cfg).conn with
            outgoing := (s.queueRequest cfg).conn.outgoing.drop (s.queueRequest cfg).pushed
            body := body
            incoming := inc }
          counters := k
          trace := { (s.queueRequest cfg).trace with
            accepted := s.trace.accepted ++
              (s.queueRequest cfg).conn.outgoing.take (s.queueRequest cfg).pushed
            dequeued := s.trace.dequeued ++ s.sock.rxBuffer.toList } } := by
  have hsock : (s.queueRequest cfg).sock = s.sock := by unfold queueRequest; split <;> rfl
  have hacc : (s.queueRequest cfg).trace.accepted = s.trace.accepted := by
    unfold queueRequest; split <;> rfl
  have hdeq : (s.queueRequest cfg).trace.dequeued = s.trace.dequeued := by
    unfold queueRequest; split <;> rfl
  obtain ⟨r, hr, hd⟩ := drainSocket_eq (s.queueRequest cfg).pushOutgoing
  obtain ⟨_, _, hs⟩ := stubCount_eq cfg ((s.queueRequest cfg).pushOutgoing.drainSocket)
  obtain ⟨body, k, inc, hp⟩ :=
    plainCount_eq cfg (((s.queueRequest cfg).pushOutgoing.drainSocket).stubCount cfg)
  refine ⟨r, body, k, inc, hr, ?_⟩
  rw [transfer]
  rw [hp, hs, hd, pushOutgoing_eq]
  simp only [retouch, hsock, hacc, hdeq]

theorem pump_frame (s : Session) (tls : List UnbufferedStatus) :
    (s.pump tls).sock = s.sock ∧ (s.pump tls).trace.delivered = s.trace.delivered ∧
      (s.pump tls).trace.dequeued = s.trace.dequeued ∧
      (s.pump tls).trace.accepted = s.trace.accepted ∧
      (s.pump tls).conn.closedCleanly = s.conn.closedCleanly := by
  refine pump_invariant (I := fun t => t.sock = s.sock ∧ t.trace.delivered = s.trace.delivered ∧
      t.trace.dequeued = s.trace.dequeued ∧ t.trace.accepted = s.trace.accepted ∧
      t.conn.closedCleanly = s.conn.closedCleanly) ?_ s tls ⟨rfl, rfl, rfl, rfl, rfl⟩
  intro t r h
  obtain ⟨_, _, _, _, _, hr | ⟨_, _, hr⟩ | ⟨_, _, hr⟩ | ⟨_, hr⟩ | ⟨_, _, _, _, hr⟩ | ⟨_, _, hr⟩⟩ :=
    pumpOnce_cases t r <;> rw [hr] <;> exact h

theorem work_frame (cfg : Config) (now : ℤ) (tls : List UnbufferedStatus) (s : Session) :
    let t := ((s.settle now).transfer cfg).runPump cfg tls
    t.sock.state = s.sock.state ∧ t.sock.rxFinReceived = s.sock.rxFinReceived ∧
      t.sock.rxBuffer.toList = [] ∧ t.trace.delivered = s.trace.delivered ∧
      t.trace.dequeued = s.trace.dequeued ++ s.sock.rxBuffer.toList ∧
      t.conn.closedCleanly = s.conn.closedCleanly := by
  intro t
  have hsettle : (s.settle now).trace = s.trace ∧
      (s.settle now).conn.closedCleanly = s.conn.closedCleanly := by
    obtain ⟨_, _, h⟩ := settle_eq now s
    rw [h]
    exact ⟨rfl, rfl⟩
  have hqueue : ∀ u : Session, (u.queueRequest cfg).trace.delivered = u.trace.delivered ∧
      (u.queueRequest cfg).conn.closedCleanly = u.conn.closedCleanly := by
    intro u
    rw [queueRequest]
    split <;> exact ⟨rfl, rfl⟩
  have hx : ((s.settle now).transfer cfg).sock.state = s.sock.state ∧
      ((s.settle now).transfer cfg).sock.rxFinReceived = s.sock.rxFinReceived ∧
      ((s.settle now).transfer cfg).sock.rxBuffer.toList = [] ∧
      ((s.settle now).transfer cfg).trace.delivered = s.trace.delivered ∧
      ((s.settle now).transfer cfg).trace.dequeued = s.trace.dequeued ++ s.sock.rxBuffer.toList ∧
      ((s.settle now).transfer cfg).conn.closedCleanly = s.conn.closedCleanly := by
    obtain ⟨r, _, _, _, hr, h⟩ := transfer_eq cfg (s.settle now)
    rw [h]
    refine ⟨by simp, by simp, hr, ?_, ?_, ?_⟩
    · exact (hqueue _).1.trans (congrArg Trace.delivered hsettle.1)
    · simp [hsettle.1]
    · exact (hqueue _).2.trans hsettle.2
  simp only [t, runPump]
  split_ifs
  · exact hx
  · obtain ⟨h₁, h₂, h₃, _, h₅⟩ := pump_frame ((s.settle now).transfer cfg) tls
    rw [h₁, h₂, h₃, h₅]
    exact hx

lemma closeCheck_cases (s : Session) :
    s.closeCheck = s ∨
      (s.conn.handshakeDone = true ∧ s.conn.requestQueued = true ∧ s.ended = true ∧
        s.conn.outgoing = [] ∧ s.sock.canRecv = false ∧
        s.closeCheck = { s with conn := { s.conn with closedCleanly := true, done := true } }) := by
  by_cases h : s.conn.handshakeDone = true ∧ s.conn.requestQueued = true ∧ s.ended = true ∧
      s.conn.outgoing = [] ∧ s.sock.canRecv = false
  · exact Or.inr ⟨h.1, h.2.1, h.2.2.1, h.2.2.2.1, h.2.2.2.2, by rw [closeCheck, if_pos h]⟩
  · exact Or.inl (by rw [closeCheck, if_neg h])

theorem connStep_cases (cfg : Config) (now : ℤ) (tls : List UnbufferedStatus) (s : Session) :
    (s.conn.done = true ∧ s.connStep cfg now tls = (s, true)) ∨
    (s.conn.done = false ∧ (s.settle now).SynTimedOut now ∧
      s.connStep cfg now tls = ((s.settle now).giveUp now, true)) ∨
    (s.conn.done = false ∧ ¬ (s.settle now).SynTimedOut now ∧
      s.connStep cfg now tls =
        ((((s.settle now).transfer cfg).runPump cfg tls).closeCheck,
          (((s.settle now).transfer cfg).runPump cfg tls).closeCheck.conn.done)) := by
  rw [connStep]
  by_cases hd : s.conn.done = true
  · exact Or.inl ⟨hd, by simp [hd]⟩
  · by_cases ht : (s.settle now).SynTimedOut now
    · exact Or.inr (Or.inl ⟨by simpa using hd, ht, by simp [hd, ht]⟩)
    · exact Or.inr (Or.inr ⟨by simpa using hd, ht, by simp [hd, ht]⟩)

end Session

end SmoltcpS3.Connection

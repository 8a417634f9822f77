import SmoltcpS3.Connection.Stages

namespace SmoltcpS3.Connection

open Smoltcp

namespace Session

structure FlagsMid (s : Session) : Prop where
  queued_handshake : s.conn.requestQueued = true → s.conn.handshakeDone = true
  failed_done : (∃ f ∈ s.console, f.isTls = true) → s.conn.done = true

structure FlagsInv (s : Session) : Prop extends FlagsMid s where
  client : Socket.ClientState s.sock.state
  closeWait_fin : s.sock.state = .closeWait → s.sock.rxFinReceived = true
  clean_done : s.conn.closedCleanly = true → s.conn.done = true
  clean_ended : s.conn.closedCleanly = true → s.sock.state = .closeWait ∨ s.sock.state = .closed

lemma FlagsMid.settle {s : Session} (h : s.FlagsMid) (now : ℤ) : (s.settle now).FlagsMid := by
  obtain ⟨_, _, he⟩ := settle_eq now s
  rw [he]
  exact ⟨h.queued_handshake, h.failed_done⟩

lemma FlagsMid.transfer {s : Session} (h : s.FlagsMid) (cfg : Config) :
    (s.transfer cfg).FlagsMid := by
  have hq : (s.queueRequest cfg).FlagsMid := by
    rw [queueRequest]
    split
    · exact ⟨fun _ => rfl, h.failed_done⟩
    · exact h
  obtain ⟨_, _, _, _, _, he⟩ := transfer_eq cfg s
  rw [he]
  exact ⟨hq.queued_handshake, hq.failed_done⟩

lemma FlagsMid.pumpOnce {s : Session} (h : s.FlagsMid) (r : UnbufferedStatus) :
    (s.pumpOnce r).1.FlagsMid := by
  obtain ⟨_, _, _, hd, hmono, hr | ⟨_, _, hr⟩ | ⟨_, _, hr⟩ | ⟨_, hr⟩ | ⟨_, _, _, hd', hr⟩ |
    ⟨_, _, hr⟩⟩ := pumpOnce_cases s r <;> rw [hr]
  · exact ⟨fun hq => hmono (h.queued_handshake hq), h.failed_done⟩
  · exact ⟨fun hq => hmono (h.queued_handshake hq), fun _ => rfl⟩
  · exact ⟨fun hq => hmono (h.queued_handshake hq), h.failed_done⟩
  · exact ⟨fun hq => hmono (h.queued_handshake hq), fun _ => rfl⟩
  · exact ⟨fun _ => hd', h.failed_done⟩
  · exact ⟨fun hq => hmono (h.queued_handshake hq), fun _ => rfl⟩

lemma FlagsMid.runPump {s : Session} (h : s.FlagsMid) (cfg : Config) (tls : List UnbufferedStatus) :
    (s.runPump cfg tls).FlagsMid := by
  rw [Session.runPump]
  split
  · exact h
  · exact pump_invariant (fun _ r hi => hi.pumpOnce r) s tls h

lemma ended_iff {s : Session} (hc : Socket.ClientState s.sock.state) :
    s.ended = true ↔ s.sock.state = .closeWait ∨ s.sock.state = .closed := by
  rcases hc with h | h | h | h | h <;> simp [ended, h]

lemma FlagsInv.onSegment {s : Session} (h : s.FlagsInv) (seg : Segment) :
    (s.onSegment seg).FlagsInv := by
  refine ⟨⟨h.queued_handshake, h.failed_done⟩, s.sock.process_clientState seg h.client, ?_,
    h.clean_done, fun hc => ?_⟩
  · intro hst
    change (s.sock.process seg).state = _ at hst
    change (s.sock.process seg).rxFinReceived = _
    rw [Socket.process] at hst ⊢
    cases hn : nextState seg s.sock.state with
    | none =>
      rw [hn] at hst
      exact h.closeWait_fin hst
    | some st =>
      rcases Socket.nextState_client h.client hn with ⟨rfl, hr⟩ | ⟨hr, _, ht⟩ | ⟨hf, _, rfl⟩
      · simp [hn, hr] at hst
      · simp only [hn, hr, if_false] at hst ⊢
        subst hst
        have hw : s.sock.state = .closeWait := by simpa using ht
        simp [h.closeWait_fin hw]
      · simp [hf]
  · change (s.sock.process seg).state = _ ∨ (s.sock.process seg).state = _
    rw [Socket.process_state]
    cases hn : nextState seg s.sock.state with
    | none => exact h.clean_ended hc
    | some st =>
      rcases Socket.nextState_client h.client hn with ⟨rfl, _⟩ | ⟨_, _, ht⟩ | ⟨_, _, rfl⟩
      · exact Or.inr rfl
      · rcases h.clean_ended hc with he | he <;> simp [he] at ht
        exact Or.inl ht
      · exact Or.inl rfl

lemma FlagsInv.connStep {s : Session} (h : s.FlagsInv) (cfg : Config) (now : ℤ)
    (tls : List UnbufferedStatus) : (s.connStep cfg now tls).1.FlagsInv := by
  rcases connStep_cases cfg now tls s with ⟨_, he⟩ | ⟨hd, _, he⟩ | ⟨hd, _, he⟩
  · rwa [he]
  · obtain ⟨_, _, hs⟩ := settle_eq now s
    rw [he, hs]
    have hnc : s.conn.closedCleanly = true → False := fun hc => by simp [h.clean_done hc] at hd
    exact ⟨⟨h.queued_handshake, fun _ => rfl⟩, Or.inl rfl, fun hst => by simp [giveUp, Socket.abort] at hst,
      fun _ => rfl, fun hc => (hnc hc).elim⟩
  · have hm := (((h.toFlagsMid.settle now).transfer cfg).runPump cfg tls)
    obtain ⟨hst, hfin, _, _, _, hcl⟩ := work_frame cfg now tls s
    rw [he]
    dsimp only
    generalize ((s.settle now).transfer cfg).runPump cfg tls = t at *
    have hc : Socket.ClientState t.sock.state := hst ▸ h.client
    rcases closeCheck_cases t with ht | ⟨_, _, hend, _, _, ht⟩
    · rw [ht]
      have hnc : t.conn.closedCleanly = true → False := fun hx => by
        rw [hcl] at hx
        simp [h.clean_done hx] at hd
      exact ⟨hm, hc, fun hw => hfin.trans (h.closeWait_fin (hst ▸ hw)), fun hx => (hnc hx).elim,
        fun hx => (hnc hx).elim⟩
    · rw [ht]
      exact ⟨⟨hm.queued_handshake, fun _ => rfl⟩, hc,
        fun hw => hfin.trans (h.closeWait_fin (hst ▸ hw)), fun _ => rfl,
        fun _ => (ended_iff hc).mp hend⟩

theorem FlagsInv.next {s : Session} (h : s.FlagsInv) (cfg : Config) (e : Event) :
    (s.next cfg e).FlagsInv := by
  cases e with
  | segment seg => exact h.onSegment seg
  | step now tls => exact h.connStep cfg now tls

end Session

lemma Opening.flagsInv (o : Opening) : o.session.FlagsInv where
  queued_handshake h := by simp [Opening.session] at h
  failed_done h := by simp [Opening.session] at h
  client := Or.inr (Or.inl rfl)
  closeWait_fin h := by simp [Opening.session, Socket.connected] at h
  clean_done h := by simp [Opening.session] at h
  clean_ended h := by simp [Opening.session] at h

theorem flags_sessionAfter (cfg : Config) (o : Opening) (es : List Event) :
    (sessionAfter cfg o es).FlagsInv :=
  EventRuns.run_preserves (fun _ e h => h.next cfg e) es o.flagsInv

end SmoltcpS3.Connection

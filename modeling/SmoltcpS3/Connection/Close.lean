import SmoltcpS3.Connection.Flags

/-! When a closed socket ends its connection: that depends on how far the request had got when the
peer reset it. -/

namespace SmoltcpS3.Connection

open Smoltcp EventRuns

namespace Session

def RequestOut (s : Session) : Prop := s.conn.requestQueued = true ∧ s.conn.outgoing = []

instance (s : Session) : Decidable s.RequestOut := inferInstanceAs (Decidable (_ ∧ _))

def Flushes (s : Session) : Prop :=
  s.conn.outgoing = [] ∨ (s.sock.maySend = true ∧ s.conn.outgoing.length ≤ s.sock.txWindow)

lemma maySend_of_closed {s : Session} (h : s.sock.state = .closed) : s.sock.maySend = false := by
  simp [Socket.maySend, h]

lemma transfer_of_closed (cfg : Config) {s : Session} (h : s.sock.state = .closed) :
    (s.transfer cfg).conn.requestQueued = s.conn.requestQueued ∧
      (s.transfer cfg).conn.outgoing = s.conn.outgoing ∧
      (s.transfer cfg).conn.done = s.conn.done := by
  have hq := queueRequest_of_maySend_eq_false cfg (maySend_of_closed h)
  have hp : s.pushed = 0 := by simp [pushed, maySend_of_closed h]
  obtain ⟨_, _, _, _, _, he⟩ := transfer_eq cfg s
  rw [he, hq, hp]
  exact ⟨rfl, rfl, rfl⟩

lemma transfer_of_tls {cfg : Config} (hp : cfg.plainHttp = false) (s : Session) :
    (s.transfer cfg).conn.requestQueued = s.conn.requestQueued ∧
      (s.transfer cfg).conn.outgoing = s.conn.outgoing.drop s.pushed := by
  obtain ⟨_, _, _, _, _, he⟩ := transfer_eq cfg s
  rw [he, queueRequest_of_tls hp]
  exact ⟨rfl, rfl⟩

lemma flushes_of_drop_pushed {s : Session} (h : s.conn.outgoing.drop s.pushed = []) : s.Flushes := by
  rw [List.drop_eq_nil_iff] at h
  by_cases hm : s.sock.maySend = true
  · simp only [pushed, hm, if_true] at h
    exact Or.inr ⟨hm, by omega⟩
  · simp only [pushed, hm] at h
    exact Or.inl (List.length_eq_zero_iff.mp (by simpa using h))

lemma settle_output (now : ℤ) (s : Session) :
    (s.settle now).conn.requestQueued = s.conn.requestQueued ∧
      (s.settle now).conn.outgoing = s.conn.outgoing ∧ (s.settle now).conn.done = s.conn.done := by
  obtain ⟨_, _, h⟩ := settle_eq now s
  rw [h]
  exact ⟨rfl, rfl, rfl⟩

lemma requestOut_settle (now : ℤ) (s : Session) : (s.settle now).RequestOut ↔ s.RequestOut := by
  obtain ⟨hq, ho, _⟩ := settle_output now s
  simp only [RequestOut, hq, ho]

lemma not_synTimedOut_of_closed {s : Session} (h : s.sock.state = .closed) (now : ℤ) :
    ¬ (s.settle now).SynTimedOut now := by
  simp [SynTimedOut, h]

def ResetAfterRequest (cfg : Config) (s : Session) : Event → Prop
  | .segment seg => nextState seg s.sock.state = some .closed → s.conn.done = true ∨ s.RequestOut
  | .step _ tls => cfg.plainHttp = false → s.sock.state = .closed →
      ∀ r ∈ tls, ∀ out, r.state = some (.encodeTlsData (some out)) → out = []

def Finishing (s : Session) : Prop := s.conn.done = true ∨ s.RequestOut

lemma Finishing.pumpOnce {s : Session} (h : s.Finishing) (r : UnbufferedStatus)
    (hr : ∀ out, r.state = some (.encodeTlsData (some out)) → out = []) :
    (s.pumpOnce r).1.Finishing := by
  obtain ⟨_, _, _, _, _, he | ⟨_, _, he⟩ | ⟨out, hs, he⟩ | ⟨_, he⟩ | ⟨_, _, hq, _, he⟩ | ⟨_, _, he⟩⟩ :=
    pumpOnce_cases s r <;> rw [he]
  · exact h
  · exact Or.inl rfl
  · rcases h with hd | ⟨hq, ho⟩
    · exact Or.inl hd
    · refine Or.inr ⟨hq, ?_⟩
      rw [encode_outgoing (by simp [retouch, ho]), hr out hs, List.append_nil]
      exact ho
  · exact Or.inl rfl
  · rcases h with hd | ⟨hq', _⟩
    · exact Or.inl hd
    · simp [hq] at hq'
  · exact Or.inl rfl

lemma Finishing.pump {s : Session} (h : s.Finishing) {tls : List UnbufferedStatus}
    (hr : ∀ r ∈ tls, ∀ out, r.state = some (.encodeTlsData (some out)) → out = []) :
    (s.pump tls).Finishing := by
  induction tls generalizing s with
  | nil => exact h
  | cons r rest ih =>
    have hround := h.pumpOnce r (hr r (by simp))
    rw [Session.pump]
    split
    · exact ih hround fun r' hm => hr r' (by simp [hm])
    · exact hround

theorem Finishing.connStep {cfg : Config} {s : Session} (h : s.Finishing) (hf : s.FlagsInv)
    (hc : s.sock.state = .closed) (now : ℤ) {tls : List UnbufferedStatus}
    (hr : s.ResetAfterRequest cfg (.step now tls)) :
    (s.connStep cfg now tls).2 = true ∧ (s.connStep cfg now tls).1.conn.done = true := by
  rcases connStep_cases cfg now tls s with ⟨hd, he⟩ | ⟨_, ht, _⟩ | ⟨hd, _, he⟩
  · rw [he]
    exact ⟨rfl, hd⟩
  · exact absurd ht (not_synTimedOut_of_closed hc now)
  · have hout : (s.settle now).RequestOut :=
      (requestOut_settle now s).mpr (h.resolve_left (by simp [hd]))
    have hx : ((s.settle now).transfer cfg).Finishing := by
      obtain ⟨hq, ho, _⟩ := transfer_of_closed cfg (s := s.settle now) (by simpa using hc)
      exact Or.inr ⟨hq.trans hout.1, ho.trans hout.2⟩
    have hrun : (((s.settle now).transfer cfg).runPump cfg tls).Finishing := by
      rw [runPump]
      split_ifs with hp
      · exact hx
      · exact hx.pump (hr (by simpa using hp) hc)
    have hm := ((hf.toFlagsMid.settle now).transfer cfg).runPump cfg tls
    obtain ⟨hst, _, hrx, _, _, _⟩ := work_frame cfg now tls s
    rw [he]
    dsimp only
    generalize ((s.settle now).transfer cfg).runPump cfg tls = t at *
    have hgoal : t.closeCheck.conn.done = true := by
      rcases closeCheck_cases t with hk | ⟨_, _, _, _, _, hk⟩
      · rw [hk]
        rcases hrun with hd' | ⟨hq, ho⟩
        · exact hd'
        · rw [closeCheck, if_pos ⟨hm.queued_handshake hq, hq, by simp [ended, hst, hc], ho,
            (Socket.canRecv_eq_false_iff _).mpr hrx⟩] at hk
          rw [← hk]
      · rw [hk]
    exact ⟨hgoal, hgoal⟩

structure ClosedFinishing (s : Session) : Prop extends FlagsInv s where
  finishing : s.sock.state = .closed → s.Finishing

lemma ClosedFinishing.next {cfg : Config} {s : Session} (h : s.ClosedFinishing) (e : Event)
    (hr : s.ResetAfterRequest cfg e) : (s.next cfg e).ClosedFinishing := by
  refine ⟨h.toFlagsInv.next cfg e, fun hc => ?_⟩
  cases e with
  | segment seg =>
    change (s.sock.process seg).state = _ at hc
    rw [Socket.process_state] at hc
    cases hn : nextState seg s.sock.state with
    | none =>
      rw [hn] at hc
      exact h.finishing hc
    | some st =>
      rw [hn] at hc
      obtain rfl : st = .closed := hc
      exact hr hn
  | step now tls =>
    by_cases hs : s.sock.state = .closed
    · exact Or.inl ((h.finishing hs).connStep h.toFlagsInv hs now hr).2
    · -- The step closed the socket itself, by giving up on the SYN.
      simp only [Session.next] at hc ⊢
      rcases connStep_cases cfg now tls s with ⟨_, he⟩ | ⟨_, _, he⟩ | ⟨_, _, he⟩
      · rw [he] at hc
        exact absurd hc hs
      · rw [he]
        exact Or.inl rfl
      · obtain ⟨hst, _⟩ := work_frame cfg now tls s
        rw [he] at hc
        rcases closeCheck_cases (((s.settle now).transfer cfg).runPump cfg tls) with hk |
          ⟨_, _, _, _, _, hk⟩ <;> simp only [hk] at hc <;> exact absurd (hst ▸ hc) hs

lemma finishing_of_connStep {cfg : Config} {s : Session} {now : ℤ} (hc : s.sock.state = .closed)
    (h : (s.connStep cfg now []).2 = true) : s.Finishing := by
  rcases connStep_cases cfg now [] s with ⟨hd, _⟩ | ⟨_, ht, _⟩ | ⟨hd, _, he⟩
  · exact Or.inl hd
  · exact absurd ht (not_synTimedOut_of_closed hc now)
  · obtain ⟨hq, ho, hd'⟩ := transfer_of_closed cfg (s := s.settle now) (by simpa using hc)
    obtain ⟨hq₀, ho₀, hd₀⟩ := settle_output now s
    have hrun : ((s.settle now).transfer cfg).runPump cfg [] = (s.settle now).transfer cfg := by
      simp [runPump, pump]
    rw [he, hrun] at h
    rcases closeCheck_cases ((s.settle now).transfer cfg) with hk | ⟨_, hk, _, hk', _, _⟩
    · simp only [hk, hd', hd₀, hd] at h
      cases h
    · exact Or.inr ⟨hq₀ ▸ hq ▸ hk, ho₀ ▸ ho ▸ hk'⟩

end Session

lemma Opening.closedFinishing (o : Opening) : o.session.ClosedFinishing :=
  ⟨o.flagsInv, fun h => by simp [Opening.session, Socket.connected] at h⟩

def EndsWhenClosed (cfg : Config) (s : Session) : Prop :=
  s.sock.state = .closed → s.sock.rxBuffer.toList = [] →
    ∀ now tls, (s.connStep cfg now tls).2 = true

/-- In a run whose resets all come after the request is out, the next step on a closed socket ends
the connection. On any closed socket that is the case exactly if the connection is over or its
request out. -/
theorem closed_socket_ends (cfg : Config) (o : Opening) (es : List Event) :
    let s := sessionAfter cfg o es
    s.sock.state = .closed →
      (∀ now tls, Along (Session.next cfg) (Session.ResetAfterRequest cfg) o.session
          (es ++ [.step now tls]) → (s.connStep cfg now tls).2 = true) ∧
      ((∀ now tls, s.ResetAfterRequest cfg (.step now tls) → (s.connStep cfg now tls).2 = true) ↔
        s.conn.done = true ∨ s.RequestOut) := by
  intro s hc
  refine ⟨fun now tls ha => ?_, fun hall => ?_, fun hf now tls hr => ?_⟩
  · obtain ⟨hrun, hlast, _⟩ := along_append.mp ha
    have hi : s.ClosedFinishing :=
      run_invariant (fun _ e hi he => hi.next e he) o.closedFinishing hrun
    exact ((hi.finishing hc).connStep hi.toFlagsInv hc now hlast).1
  · exact Session.finishing_of_connStep hc (hall 0 [] fun _ _ r hm => by simp at hm)
  · exact (Session.Finishing.connStep hf (flags_sessionAfter cfg o es) hc now hr).1

def resetOpening : Opening := ⟨[71, 69, 84], 1, 0, 49152, 0, 4, 16, .zero⟩

def synAck : Event := .segment ⟨.syn, true, 0, false, []⟩

def reset : Event := .segment ⟨.rst, true, 0, false, []⟩

theorem closed_socket_ends_after_request :
    let s := sessionAfter (.small true) resetOpening [synAck, .step 1 [], reset]
    s.sock.state = .closed ∧ (s.connStep (.small true) 2 []).2 = true :=
  ⟨by decide, ((closed_socket_ends (.small true) resetOpening [synAck, .step 1 [], reset])
    (by decide)).2.mpr (Or.inr (by decide)) 2 [] (by intro h; cases h)⟩

theorem refused_connection_stuck :
    ¬ EndsWhenClosed (.small true) (sessionAfter (.small true) resetOpening [reset]) ∧
      ¬ EndsWhenClosed (.small false) (sessionAfter (.small false) resetOpening [reset]) := by
  constructor <;> intro h <;> have hs := h (by decide) (by decide) 1 [] <;> revert hs <;> decide

end SmoltcpS3.Connection

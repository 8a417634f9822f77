import SmoltcpS3.Connection.Close

namespace SmoltcpS3.Connection

open Smoltcp EventRuns

namespace Session

def EncryptsToRecords : Event → Prop
  | .segment _ => True
  | .step _ tls => ∀ r ∈ tls, r.state ≠ some (.writeTraffic (some []))

/-- No reset arrives between the last octet of the request and the end of the connection, and
rustls reports no error in reading, in a step that starts with the peer gone and all output about to
be out. -/
def ErrorBeforeEnd (cfg : Config) (s : Session) : Event → Prop
  | .segment seg => nextState seg s.sock.state = some .closed → s.RequestOut → s.conn.done = true
  | .step _ tls => cfg.plainHttp = false → s.ended = true → s.conn.requestQueued = true →
      s.Flushes → ∀ r ∈ tls, r.failsReading = false

lemma resize_ne_nil (v : List UInt8) {n : ℕ} (hn : 0 < n) : resize v n ≠ [] := by
  apply List.ne_nil_of_length_pos
  simp only [resize, List.length_append, List.length_take, List.length_replicate]
  omega

lemma writeAt_ne_nil {v : List UInt8} (hv : v ≠ []) {head : ℕ} (hh : 0 < head) (out : List UInt8) :
    writeAt v head out ≠ [] := by
  have hl := List.length_pos_of_ne_nil hv
  apply List.ne_nil_of_length_pos
  simp only [writeAt, List.length_take, List.length_append]
  omega

lemma not_requestOut_pumpOnce {s : Session} (h : ¬ s.RequestOut) (r : UnbufferedStatus)
    (hr : r.state ≠ some (.writeTraffic (some []))) : ¬ (s.pumpOnce r).1.RequestOut := by
  obtain ⟨_, _, _, _, _, he | ⟨_, _, he⟩ | ⟨out, _, he⟩ | ⟨_, he⟩ | ⟨out, hs, _, _, he⟩ |
    ⟨_, hq, he⟩⟩ := pumpOnce_cases s r <;> rw [he] <;> rintro ⟨hq', ho'⟩
  · exact h ⟨hq', ho'⟩
  · exact h ⟨hq', ho'⟩
  · have hpos : 0 < s.conn.outgoing.length :=
      List.length_pos_of_ne_nil fun ho => h ⟨hq', ho⟩
    exact writeAt_ne_nil (resize_ne_nil _ (by decide)) hpos out ho'
  · exact resize_ne_nil _ (by decide) ho'
  · rw [encrypt_outgoing, List.append_eq_nil_iff] at ho'
    exact hr (ho'.2 ▸ hs)
  · exact absurd hq' (by simp [encryptFailed, fail, setOutgoing, retouch, hq])

lemma not_requestOut_runPump {s : Session} (h : ¬ s.RequestOut) (cfg : Config)
    {tls : List UnbufferedStatus} (hr : ∀ r ∈ tls, r.state ≠ some (.writeTraffic (some []))) :
    ¬ (s.runPump cfg tls).RequestOut := by
  rw [runPump]
  split_ifs
  · exact h
  · induction tls generalizing s with
    | nil => exact h
    | cons r rest ih =>
      have hround := not_requestOut_pumpOnce h r (hr r (by simp))
      rw [pump]
      split
      · exact ih hround fun r' hm => hr r' (by simp [hm])
      · exact hround

lemma pump_console {s : Session} (hq : s.conn.requestQueued = true) {tls : List UnbufferedStatus}
    (hr : ∀ r ∈ tls, r.failsReading = false) (hout : (s.pump tls).RequestOut) : (s.pump tls).console = s.console := by
  induction tls generalizing s with
  | nil => rfl
  | cons r rest ih =>
    have hround : ((s.pumpOnce r).2 = false → (s.pumpOnce r).1.RequestOut) →
        (s.pumpOnce r).1.console = s.console ∧ (s.pumpOnce r).1.conn.requestQueued = true := by
      have herr := hr r (by simp)
      intro hstop
      obtain ⟨_, _, _, _, _, he | ⟨_, hs, _⟩ | ⟨_, _, he⟩ | ⟨hs, he⟩ | ⟨_, _, hq', _⟩ | ⟨_, hq', _⟩⟩ :=
        pumpOnce_cases s r
      · rw [he]
        exact ⟨rfl, hq⟩
      · simp [herr] at hs
      · rw [he]
        exact ⟨rfl, hq⟩
      · have hend : (s.pumpOnce r).2 = false := by rw [pumpOnce, hs]
        have ho := (hstop hend).2
        rw [he] at ho
        exact absurd ho (resize_ne_nil _ (by decide))
      · simp [hq] at hq'
      · simp [hq] at hq'
    rw [pump] at hout ⊢
    split_ifs at hout ⊢ with hgo
    · have hr₁ := hround fun hend => by simp [hend] at hgo
      rw [ih hr₁.2 (fun r' hm => hr r' (by simp [hm])) hout, hr₁.1]
    · exact (hround fun _ => hout).1

lemma requestOut_transfer_of_closed (cfg : Config) {s : Session} (h : s.sock.state = .closed) :
    (s.transfer cfg).RequestOut ↔ s.RequestOut := by
  obtain ⟨hq, ho, _⟩ := transfer_of_closed cfg h
  simp only [RequestOut, hq, ho]

structure CleanMeans (s : Session) : Prop extends FlagsInv s where
  pending : s.sock.state = .closed → s.conn.done = true ∨ ¬ s.RequestOut
  fin : s.conn.closedCleanly = true → s.sock.rxFinReceived = true
  noError : s.conn.closedCleanly = true → ∀ f ∈ s.console, f.isTls = false

lemma console_of_requestOut {cfg : Config} {s : Session} (hf : s.FlagsMid)
    (hd : s.conn.done = false) {now : ℤ} {tls : List UnbufferedStatus} (hend : s.ended = true)
    (he : s.ErrorBeforeEnd cfg (.step now tls)) (hr : EncryptsToRecords (.step now tls))
    (hout : (((s.settle now).transfer cfg).runPump cfg tls).RequestOut) :
    ∀ f ∈ (((s.settle now).transfer cfg).runPump cfg tls).console, f.isTls = false := by
  have hquiet : ∀ f ∈ s.console, f.isTls = false := by
    intro f hm
    by_contra hne
    have := hf.failed_done ⟨f, hm, by simpa using hne⟩
    simp [hd] at this
  have hconsole : ((s.settle now).transfer cfg).console = s.console := by
    obtain ⟨_, _, hs⟩ := settle_eq now s
    have hq : ((s.settle now).queueRequest cfg).console = (s.settle now).console := by
      rw [queueRequest]
      split <;> rfl
    obtain ⟨_, _, _, _, _, ht⟩ := transfer_eq cfg (s.settle now)
    rw [ht]
    exact hq.trans (by rw [hs])
  by_cases hp : cfg.plainHttp = true
  · simpa only [runPump, hp, if_true, hconsole] using hquiet
  · -- The pump sends nothing, so the output was empty and the request queued before it.
    have hp' : cfg.plainHttp = false := by simpa using hp
    have hx : ((s.settle now).transfer cfg).RequestOut :=
      not_not.mp fun hn => not_requestOut_runPump hn cfg hr hout
    obtain ⟨hq, ho⟩ := transfer_of_tls hp' (s.settle now)
    obtain ⟨hq₀, ho₀, _⟩ := settle_output now s
    have hflush : s.Flushes := by
      have h := flushes_of_drop_pushed (ho ▸ hx.2)
      simpa only [Flushes, settle_sock, ho₀] using h
    have hqueued : s.conn.requestQueued = true := hq₀ ▸ hq ▸ hx.1
    have hcon : (((s.settle now).transfer cfg).pump tls).console = s.console := by
      rw [runPump, if_neg hp] at hout
      rw [pump_console hx.1 (he hp' hend hqueued hflush) hout, hconsole]
    rw [runPump, if_neg hp, hcon]
    exact hquiet

lemma CleanMeans.connStep_clean {cfg : Config} {s : Session} (h : s.CleanMeans) {now : ℤ}
    {tls : List UnbufferedStatus} (he : s.ErrorBeforeEnd cfg (.step now tls))
    (hr : EncryptsToRecords (.step now tls)) (hn : s.conn.closedCleanly = false)
    (hc : (s.connStep cfg now tls).1.conn.closedCleanly = true) :
    (s.connStep cfg now tls).1.sock.state ≠ .closed ∧
      (s.connStep cfg now tls).1.sock.rxFinReceived = true ∧
      ∀ f ∈ (s.connStep cfg now tls).1.console, f.isTls = false := by
  rcases connStep_cases cfg now tls s with ⟨_, heq⟩ | ⟨_, _, heq⟩ | ⟨hd, _, heq⟩
  · rw [heq] at hc
    simp [hn] at hc
  · obtain ⟨_, _, hs⟩ := settle_eq now s
    rw [heq, hs] at hc
    simp [giveUp, hn] at hc
  · obtain ⟨hst, hfin, _, _, _, hcl⟩ := work_frame cfg now tls s
    rw [heq] at hc ⊢
    rcases closeCheck_cases (((s.settle now).transfer cfg).runPump cfg tls) with hk |
      ⟨_, hq, hend, ho, _, hk⟩
    · simp only [hk] at hc
      simp [hcl, hn] at hc
    · have hend' : s.ended = true := by simpa only [ended, hst] using hend
      have hopen : s.sock.state ≠ .closed := by
        intro hs
        have hnot := (h.pending hs).resolve_left (by simp [hd])
        refine not_requestOut_runPump ?_ cfg hr ⟨hq, ho⟩
        rw [requestOut_transfer_of_closed cfg (by simpa using hs), requestOut_settle]
        exact hnot
      have hwait := ((ended_iff h.client).mp hend').resolve_right hopen
      simp only [hk]
      exact ⟨hst ▸ hopen, hfin.trans (h.closeWait_fin hwait),
        console_of_requestOut h.toFlagsMid hd hend' he hr ⟨hq, ho⟩⟩

lemma CleanMeans.next {cfg : Config} {s : Session} (h : s.CleanMeans) (e : Event)
    (he : s.ErrorBeforeEnd cfg e) (hr : EncryptsToRecords e) : (s.next cfg e).CleanMeans := by
  cases e with
  | segment seg =>
    refine ⟨h.toFlagsInv.next cfg (.segment seg), fun hc => ?_, fun hc => ?_, h.noError⟩
    · change (s.sock.process seg).state = _ at hc
      rw [Socket.process_state] at hc
      cases hn : nextState seg s.sock.state with
      | none =>
        rw [hn] at hc
        exact h.pending hc
      | some st =>
        rw [hn] at hc
        obtain rfl : st = .closed := hc
        exact or_iff_not_imp_right.mpr fun ho => he hn (not_not.mp ho)
    · exact Socket.process_rxFinReceived seg (h.fin hc)
  | step now tls =>
    have hflags := h.toFlagsInv.next cfg (.step now tls)
    by_cases hn : s.conn.closedCleanly = true
    · have hd := h.clean_done hn
      have hsame : s.next cfg (.step now tls) = s := by simp [Session.next, connStep, hd]
      rw [hsame]
      exact h
    · have hnew := h.connStep_clean he hr (by simpa using hn)
      refine ⟨hflags, fun hc => ?_, fun hc => (hnew hc).2.1, fun hc => (hnew hc).2.2⟩
      simp only [Session.next] at hc ⊢
      rcases connStep_cases cfg now tls s with ⟨_, heq⟩ | ⟨_, _, heq⟩ | ⟨hd, _, heq⟩
      · rw [heq] at hc ⊢
        exact h.pending hc
      · rw [heq]
        exact Or.inl rfl
      · obtain ⟨hst, _⟩ := work_frame cfg now tls s
        rw [heq] at hc ⊢
        rcases closeCheck_cases (((s.settle now).transfer cfg).runPump cfg tls) with hk |
          ⟨_, _, _, _, _, hk⟩
        · simp only [hk] at hc ⊢
          have hs : s.sock.state = .closed := hst ▸ hc
          refine Or.inr (not_requestOut_runPump ?_ cfg hr)
          rw [requestOut_transfer_of_closed cfg (by simpa using hs), requestOut_settle]
          exact (h.pending hs).resolve_left (by simp [hd])
        · rw [hk]
          exact Or.inl rfl

end Session

lemma Opening.cleanMeans (o : Opening) : o.session.CleanMeans :=
  ⟨o.flagsInv, fun h => by simp [Opening.session, Socket.connected] at h,
    fun h => by simp [Opening.session] at h, fun h => by simp [Opening.session] at h⟩

def HonestClose (s : Session) : Prop :=
  s.conn.closedCleanly = true → s.sock.rxFinReceived = true ∧ ∀ f ∈ s.console, f.isTls = false

/-- In a run without a reset behind the request and without a TLS error behind the end, the step
that sets `closed_cleanly` follows the peer's FIN on an open socket and no TLS error was printed;
the flag keeps that meaning in every later state. -/
theorem closed_cleanly_means_fin (cfg : Config) (o : Opening) (es : List Event)
    (h : Along (Session.next cfg)
      (fun s e => s.ErrorBeforeEnd cfg e ∧ Session.EncryptsToRecords e) o.session es) :
    let s := sessionAfter cfg o es
    HonestClose s ∧
      ∀ e, s.ErrorBeforeEnd cfg e → Session.EncryptsToRecords e →
        s.conn.closedCleanly = false → (s.next cfg e).conn.closedCleanly = true →
        (s.next cfg e).sock.state ≠ .closed := by
  intro s
  have hi : s.CleanMeans :=
    run_invariant (fun _ e hi he => hi.next e he.1 he.2) o.cleanMeans h
  refine ⟨fun hc => ⟨hi.fin hc, hi.noError hc⟩, fun e he hr hn hc => ?_⟩
  cases e with
  | segment seg =>
    change s.conn.closedCleanly = true at hc
    simp [hn] at hc
  | step now tls => exact (hi.connStep_clean he hr hn hc).1

def finRun : List Event :=
  [synAck, .step 1 [], .segment ⟨.fin, true, 3, false, [13, 10, 13, 10]⟩, .step 2 []]

theorem closed_cleanly_means_fin_http :
    (sessionAfter (.small true) resetOpening finRun).conn.closedCleanly = true ∧
      HonestClose (sessionAfter (.small true) resetOpening finRun) := by
  refine ⟨by decide, (closed_cleanly_means_fin (.small true) resetOpening finRun ?_).1⟩
  have hstep : ∀ (s : Session) (now : ℤ),
      s.ErrorBeforeEnd (.small true) (.step now []) ∧ Session.EncryptsToRecords (.step now []) :=
    fun s now => ⟨nofun, nofun⟩
  exact ⟨⟨nofun, trivial⟩, hstep _ _, ⟨nofun, trivial⟩, hstep _ _, trivial⟩

theorem dishonest_closes :
    ¬ HonestClose (sessionAfter (.small true) resetOpening
      [synAck, .step 1 [], reset, .step 2 []]) ∧
    ¬ HonestClose (sessionAfter (.small false) resetOpening
      [synAck, .step 1 [⟨0, some (.writeTraffic (some [23, 3, 3]))⟩],
        .segment ⟨.fin, true, 0, false, [21]⟩, .step 2 [⟨0, none⟩]]) := by
  constructor <;> intro h <;> have hs := h (by decide) <;> revert hs <;> decide

end SmoltcpS3.Connection

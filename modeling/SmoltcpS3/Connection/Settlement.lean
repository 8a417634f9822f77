import SmoltcpS3.Connection.Stages

namespace SmoltcpS3.Connection

open Smoltcp Http

structure SetupFigures where
  established : ℕ
  failed : ℕ
  synRetries : ℕ
  setupMs : ℕ
  deriving DecidableEq, Repr

def figures (k : Counters) : SetupFigures :=
  ⟨k.connsEstablished, k.connsFailed, k.synRetries, k.setupMsTotal⟩

structure Account where
  settled : Bool
  attempts : ℕ
  startMs : ℤ
  figures : SetupFigures
  deriving DecidableEq, Repr

namespace Session

def account (s : Session) : Account :=
  ⟨s.conn.settled, s.conn.attempts, s.conn.startMs, figures s.counters⟩

section Frame

lemma figures_noteStatus (k : Counters) (status : ℕ) : figures (k.noteStatus status) = figures k := by
  rw [Counters.noteStatus]
  split <;> rfl

lemma figures_countLoop (c : BodyCount) (k : Counters) (data : List UInt8) :
    figures (countLoop c k data).2 = figures k := by
  induction data generalizing c with
  | nil => rfl
  | cons b rest ih =>
    simp only [countLoop]
    split_ifs
    · exact figures_noteStatus k _
    · exact ih _

lemma account_countData (data : List UInt8) (s : Session) :
    (s.countData data).account = s.account := by
  have h : figures (countBody s.conn.body s.counters data).2 = figures s.counters := by
    rw [countBody]
    split_ifs
    · rfl
    · exact figures_countLoop _ _ _
  simp only [account, countData, h]

lemma account_readRecords (s : Session) (records : List (Option (List UInt8))) :
    (s.readRecords records).account = s.account := by
  induction records generalizing s with
  | nil => rfl
  | cons r rest ih =>
    cases r with
    | none => rfl
    | some payload => exact (ih _).trans (account_countData payload s)

lemma account_pumpOnce (s : Session) (r : UnbufferedStatus) :
    (s.pumpOnce r).1.account = s.account := by
  rcases r with ⟨n, _ | records | (_ | out) | _ | out | _⟩
  · rfl
  · exact account_readRecords s records
  · rfl
  · rfl
  · rfl
  · simp only [pumpOnce]
    split_ifs
    · rfl
    · cases out <;> rfl
  · rfl

lemma account_runPump (cfg : Config) (tls : List UnbufferedStatus) (s : Session) :
    (s.runPump cfg tls).account = s.account := by
  rw [runPump]
  split_ifs
  · rfl
  · exact pump_invariant (I := fun t => t.account = s.account)
      (fun t r h => (account_pumpOnce t r).trans h) s tls rfl

lemma account_queueRequest (cfg : Config) (s : Session) : (s.queueRequest cfg).account = s.account := by
  rw [queueRequest]
  split <;> rfl

lemma account_drainSocket (s : Session) : s.drainSocket.account = s.account := by
  obtain ⟨r, -, h⟩ := drainSocket_eq s
  rw [h]
  rfl

lemma account_stubCount (cfg : Config) (s : Session) : (s.stubCount cfg).account = s.account := by
  rw [stubCount]
  split <;> rfl

lemma account_plainCount (cfg : Config) (s : Session) : (s.plainCount cfg).account = s.account := by
  rw [plainCount]
  split
  · exact account_countData _ s
  · rfl

lemma account_transfer (cfg : Config) (s : Session) : (s.transfer cfg).account = s.account := by
  rw [transfer, account_plainCount, account_stubCount, account_drainSocket, pushOutgoing_eq]
  exact account_queueRequest cfg s

lemma account_closeCheck (s : Session) : s.closeCheck.account = s.account := by
  rw [closeCheck]
  split <;> rfl

end Frame

section Settling

def settlement (now : ℤ) (s : Session) : Option Bool :=
  if s.conn.done = true ∨ s.conn.settled = true then none
  else if s.sock.state = .established then some true
  else if s.SynTimedOut now then some false
  else none

def book (now : ℤ) (a : Account) : Option Bool → Account
  | none => a
  | some true =>
    { a with
      settled := true
      figures := { a.figures with
        established := a.figures.established + 1
        synRetries := a.figures.synRetries + (a.attempts - 1)
        setupMs := a.figures.setupMs + (now - a.startMs).toNat } }
  | some false =>
    { a with
      settled := true
      figures := { a.figures with
        failed := a.figures.failed + 1
        setupMs := a.figures.setupMs + (now - a.startMs).toNat } }

lemma account_settle_of_established {now : ℤ} {s : Session} (hs : s.conn.settled = false)
    (he : s.sock.state = .established) : (s.settle now).account = book now s.account (some true) := by
  rw [settle, if_pos ⟨hs, he⟩]
  rfl

lemma settle_of_not {now : ℤ} {s : Session}
    (h : ¬ (s.conn.settled = false ∧ s.sock.state = .established)) : s.settle now = s := by
  rw [settle, if_neg h]

lemma account_giveUp (now : ℤ) (s : Session) :
    (s.giveUp now).account =
      book now s.account (if s.conn.settled then none else some false) := by
  cases hs : s.conn.settled <;> simp [giveUp, account, book, hs, figures]

lemma settlement_of_settled {now : ℤ} {s : Session} (h : s.conn.settled = true) :
    s.settlement now = none := by
  rw [settlement, if_pos (.inr h)]

lemma settlement_of_unsettled {now : ℤ} {s : Session} (hd : s.conn.done = false)
    (hs : s.conn.settled = false) :
    s.settlement now =
      if s.sock.state = .established then some true
      else if s.SynTimedOut now then some false else none := by
  rw [settlement, if_neg (by simp [hd, hs])]

lemma account_work (cfg : Config) (tls : List UnbufferedStatus) (s : Session) :
    ((s.transfer cfg).runPump cfg tls).closeCheck.account = s.account := by
  rw [account_closeCheck, account_runPump, account_transfer]

theorem connStep_account (cfg : Config) (now : ℤ) (tls : List UnbufferedStatus) (s : Session) :
    (s.connStep cfg now tls).1.account = book now s.account (s.settlement now) := by
  rcases connStep_cases cfg now tls s with ⟨hd, he⟩ | ⟨hd, ht, he⟩ | ⟨hd, ht, he⟩ <;> rw [he]
  · rw [settlement, if_pos (.inl hd)]
    rfl
  · have hstate : s.sock.state = .synSent := by
      rw [← settle_sock now s]
      exact ht.1
    have hsame : s.settle now = s := settle_of_not (by simp [hstate])
    rw [hsame] at ht ⊢
    rw [account_giveUp]
    cases hs : s.conn.settled with
    | true => rw [settlement_of_settled hs, if_pos rfl]
    | false =>
      rw [settlement_of_unsettled hd hs, if_neg Bool.false_ne_true, if_neg (by simp [hstate]),
        if_pos ht]
  · rw [account_work]
    cases hs : s.conn.settled with
    | true => rw [settlement_of_settled hs, settle_of_not (by simp [hs]), book]
    | false =>
      rw [settlement_of_unsettled hd hs]
      by_cases hest : s.sock.state = .established
      · rw [if_pos hest, account_settle_of_established hs hest]
      · have hsame : s.settle now = s := settle_of_not (by simp [hest])
        rw [hsame] at ht ⊢
        rw [if_neg hest, if_neg ht, book]

end Settling

section Ending

def tlsFails : Bool → List UnbufferedStatus → Bool
  | _, [] => false
  | queued, r :: rest =>
    match r.state with
    | none => true
    | some (.readTraffic records) => records.contains none || tlsFails queued rest
    | some (.encodeTlsData (some _)) => tlsFails queued rest
    | some (.encodeTlsData none) => true
    | some .transmitTlsData => tlsFails queued rest
    | some (.writeTraffic (some _)) => !queued && tlsFails true rest
    | some (.writeTraffic none) => !queued
    | some .blocked => false

lemma readRecords_done (s : Session) (records : List (Option (List UInt8))) :
    (s.readRecords records).conn.done = (s.conn.done || records.contains none) ∧
      (s.readRecords records).conn.requestQueued = s.conn.requestQueued := by
  induction records generalizing s with
  | nil => simp [readRecords]
  | cons r rest ih =>
    cases r with
    | none => simp [readRecords, fail]
    | some payload =>
      obtain ⟨hd, hq⟩ := ih (s.countData payload)
      refine ⟨?_, hq⟩
      rw [readRecords, hd]
      simp [countData]

theorem pump_done (s : Session) (tls : List UnbufferedStatus) :
    (s.pump tls).conn.done = (s.conn.done || tlsFails s.conn.requestQueued tls) := by
  induction tls generalizing s with
  | nil => simp [pump, tlsFails]
  | cons r rest ih =>
    rcases r with ⟨n, _ | records | (_ | out) | _ | out | _⟩
    · simp [pump, pumpOnce, tlsFails, fail]
    · obtain ⟨hd, hq⟩ := readRecords_done s records
      simp [pump, pumpOnce, tlsFails, ih, discard, hd, hq, Bool.or_assoc]
    · simp [pump, pumpOnce, tlsFails]
    · simp [pump, pumpOnce, tlsFails, ih, discard, encode, setOutgoing, logChunk]
    · simp [pump, pumpOnce, tlsFails, ih, discard]
    · cases hq : s.conn.requestQueued <;> cases out <;>
        simp [pump, pumpOnce, tlsFails, ih, hq, discard, markHandshake, encrypt, setOutgoing, logChunk]
    · simp [pump, pumpOnce, tlsFails, discard]

lemma transfer_flags (cfg : Config) (s : Session) :
    (s.transfer cfg).conn.done = s.conn.done ∧
      (cfg.plainHttp = false → (s.transfer cfg).conn.requestQueued = s.conn.requestQueued) := by
  obtain ⟨r, body, k, inc, -, h⟩ := transfer_eq cfg s
  rw [h]
  constructor
  · dsimp only
    rw [queueRequest]
    split <;> rfl
  · intro htls
    dsimp only
    rw [queueRequest_of_tls htls]

lemma work_done (cfg : Config) (tls : List UnbufferedStatus) (s : Session) :
    ((s.transfer cfg).runPump cfg tls).conn.done =
      (s.conn.done || (!cfg.plainHttp && tlsFails s.conn.requestQueued tls)) := by
  obtain ⟨hd, hq⟩ := transfer_flags cfg s
  rw [runPump]
  cases hplain : cfg.plainHttp with
  | true => simp [hd]
  | false => simp [pump_done, hd, hq hplain]

def LeftInSetup (cfg : Config) (s : Session) : Event → Prop
  | .segment _ => True
  | .step now tls =>
    s.conn.done = false → s.conn.settled = false → s.sock.state ≠ .established →
      ¬ s.SynTimedOut now →
      s.ended = false ∧ (cfg.plainHttp = false → tlsFails s.conn.requestQueued tls = false)

instance (cfg : Config) (s : Session) : (e : Event) → Decidable (LeftInSetup cfg s e)
  | .segment _ => inferInstanceAs (Decidable True)
  | .step now _ =>
    inferInstanceAs (Decidable (_ = false → _ = false → _ ≠ State.established → ¬ s.SynTimedOut now →
      _ = false ∧ (_ = false → _ = false)))

variable {cfg : Config} {now : ℤ} {tls : List UnbufferedStatus} {s : Session}

lemma ended_of_state_eq {t : Session} (h : t.sock.state = s.sock.state) : t.ended = s.ended := by
  rw [ended, ended, h]

lemma work_ended (hest : s.sock.state ≠ .established) :
    ((s.transfer cfg).runPump cfg tls).ended = s.ended := by
  have hsame : s.settle 0 = s := settle_of_not (by simp [hest])
  have hstate := (work_frame cfg 0 tls s).1
  rw [hsame] at hstate
  exact ended_of_state_eq hstate

section Unsettled

variable (hd : s.conn.done = false) (hs : s.conn.settled = false)
  (hest : s.sock.state ≠ .established) (ht : ¬ s.SynTimedOut now)
include hd hs hest ht

lemma connStep_unsettled :
    (s.connStep cfg now tls).1 = ((s.transfer cfg).runPump cfg tls).closeCheck ∧
      (s.connStep cfg now tls).1.conn.settled = false := by
  have hsame : s.settle now = s := settle_of_not (by simp [hest])
  have hacc := connStep_account cfg now tls s
  rw [settlement_of_unsettled hd hs, if_neg hest, if_neg ht, book] at hacc
  refine ⟨?_, (congrArg Account.settled hacc).trans hs⟩
  rcases connStep_cases cfg now tls s with ⟨hd', -⟩ | ⟨-, ht', -⟩ | ⟨-, -, he⟩
  · rw [hd] at hd'
    cases hd'
  · rw [hsame] at ht'
    exact absurd ht' ht
  · rw [he, hsame]

lemma connStep_left (hended : s.ended = false)
    (htls : cfg.plainHttp = false → tlsFails s.conn.requestQueued tls = false) :
    (s.connStep cfg now tls).1.conn.done = false := by
  rw [(connStep_unsettled hd hs hest ht).1]
  rcases closeCheck_cases ((s.transfer cfg).runPump cfg tls) with he | ⟨-, -, hend, -⟩
  · rw [he, work_done, hd]
    cases hplain : cfg.plainHttp with
    | true => rfl
    | false => simp [htls hplain]
  · rw [work_ended hest, hended] at hend
    cases hend

end Unsettled

lemma connStep_settled (h : s.conn.settled = true) :
    (s.connStep cfg now tls).1.conn.settled = true := by
  have hacc := connStep_account cfg now tls s
  rw [settlement_of_settled h] at hacc
  exact (congrArg Account.settled hacc).trans h

lemma connStep_settles (hd : s.conn.done = false) (hs : s.conn.settled = false)
    (h : s.sock.state = .established ∨ s.SynTimedOut now) :
    (s.connStep cfg now tls).1.conn.settled = true := by
  have hacc := connStep_account cfg now tls s
  rw [settlement_of_unsettled hd hs] at hacc
  by_cases hest : s.sock.state = .established
  · rw [if_pos hest] at hacc
    exact congrArg Account.settled hacc
  · rw [if_neg hest, if_pos (h.resolve_left hest)] at hacc
    exact congrArg Account.settled hacc

def Unaccounted (s : Session) : Prop :=
  s.conn.settled = false ∧ (s.conn.done = true ∨ s.ended = true)

lemma next_done_settled {e : Event} (h : s.conn.done = true → s.conn.settled = true)
    (he : LeftInSetup cfg s e) :
    (s.next cfg e).conn.done = true → (s.next cfg e).conn.settled = true := by
  cases e with
  | segment seg => exact h
  | step now tls =>
    intro hdone
    rw [next] at hdone ⊢
    cases hs : s.conn.settled with
    | true => exact connStep_settled hs
    | false =>
      have hd : s.conn.done = false := by
        cases hd : s.conn.done with
        | true =>
          rw [h hd] at hs
          cases hs
        | false => rfl
      by_cases hset : s.sock.state = .established ∨ s.SynTimedOut now
      · exact connStep_settles hd hs hset
      · obtain ⟨hest, ht⟩ := not_or.mp hset
        obtain ⟨hended, htls⟩ := he hd hs hest ht
        rw [connStep_left hd hs hest ht hended htls] at hdone
        cases hdone

lemma ended_process (seg : Segment) (h : s.ended = true) : (s.onSegment seg).ended = true := by
  have hst : (s.onSegment seg).sock.state = (nextState seg s.sock.state).getD s.sock.state :=
    Socket.process_state seg s.sock
  simp only [ended, Bool.or_eq_true, beq_iff_eq] at h ⊢
  rw [hst]
  rcases h with (h | h) | h <;> rw [h] <;> rcases seg with ⟨control, ack, _, _, _⟩ <;>
    cases control <;> cases ack <;> simp [nextState]

lemma Unaccounted.next (h : s.Unaccounted) (e : Event) : (s.next cfg e).Unaccounted := by
  obtain ⟨hs, hover⟩ := h
  cases e with
  | segment seg => exact ⟨hs, hover.imp_right (ended_process seg)⟩
  | step now tls =>
    rw [Session.next]
    cases hd : s.conn.done with
    | true =>
      have hsame : (s.connStep cfg now tls).1 = s := by simp [connStep, hd]
      rw [hsame]
      exact ⟨hs, .inl hd⟩
    | false =>
      have hended := hover.resolve_left (by simp [hd])
      have hest : s.sock.state ≠ .established := by
        intro hest
        simp [ended, hest] at hended
      have ht : ¬ s.SynTimedOut now := by
        intro ht
        simp [ended, ht.1] at hended
      obtain ⟨hstep, hs'⟩ := @connStep_unsettled cfg now tls s hd hs hest ht
      refine ⟨hs', .inr ?_⟩
      have hend : ((s.transfer cfg).runPump cfg tls).ended = true := (work_ended hest).trans hended
      rw [hstep]
      rcases closeCheck_cases ((s.transfer cfg).runPump cfg tls) with he | ⟨-, -, -, -, -, he⟩
      · rw [he]
        exact hend
      · rw [he]
        exact hend

lemma unaccounted_of_not_left {e : Event} (h : ¬ LeftInSetup cfg s e) :
    (s.next cfg e).Unaccounted := by
  cases e with
  | segment seg => exact absurd trivial h
  | step now tls =>
    rw [LeftInSetup] at h
    push Not at h
    obtain ⟨hd, hs, hest, ht, hbad⟩ := h
    cases hended : s.ended with
    | true => exact Unaccounted.next ⟨hs, .inr hended⟩ (.step now tls)
    | false =>
      obtain ⟨hplain, htls⟩ := hbad hended
      obtain ⟨hstep, hs'⟩ := @connStep_unsettled cfg now tls s hd hs hest ht
      refine ⟨hs', .inl ?_⟩
      have hdone : ((s.transfer cfg).runPump cfg tls).conn.done = true := by
        rw [work_done, hplain]
        simpa using Or.inr htls
      rw [Session.next, hstep]
      rcases closeCheck_cases ((s.transfer cfg).runPump cfg tls) with he | ⟨-, -, -, -, -, he⟩
      · rw [he]
        exact hdone
      · rw [he]

end Ending

end Session

end SmoltcpS3.Connection

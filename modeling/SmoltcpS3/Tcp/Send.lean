import SmoltcpS3.Tcp.Runs

/-! The transmit half of a socket: whatever arrives, what it sends is what the program wrote. -/

namespace SmoltcpS3.Tcp

open EventRuns SerialNumbers Smoltcp

section Numbers

variable (base : SeqNumber)

lemma add_place (x : ℤ) (n : ℕ) : SeqNumber.add (place base x) n = place base (x + n) := place_add base x n

lemma diff_near {x y : ℤ} (hl : -2 ^ 31 ≤ x - y) (hu : x - y < 2 ^ 31) :
    diff (place base x) (place base y) = x - y := diff_place (by decide) base hl hu

lemma lt_near {x y : ℤ} (hl : -2 ^ 31 ≤ x - y) (hu : x - y < 2 ^ 31) :
    SeqNumber.lt (place base x) (place base y) = decide (x < y) := by
  rw [SeqNumber.lt, diff_near base hl hu]
  apply decide_eq_decide.mpr
  omega

lemma le_near {x y : ℤ} (hl : -2 ^ 31 ≤ x - y) (hu : x - y < 2 ^ 31) :
    SeqNumber.le (place base x) (place base y) = decide (x ≤ y) := by
  rw [SeqNumber.le, diff_near base hl hu]
  apply decide_eq_decide.mpr
  omega

lemma sub_near {x y : ℤ} (hl : 0 ≤ x - y) (hu : x - y < 2 ^ 31) :
    SeqNumber.sub (place base x) (place base y) = some (x - y).toNat := by
  rw [SeqNumber.sub, diff_near base (by omega) hu, if_pos hl]

lemma place_eq_near {x y : ℤ} (hl : -2 ^ 31 ≤ x - y) (hu : x - y < 2 ^ 31) : place base x = place base y ↔ x = y := by
  constructor
  · intro h
    have hdiff := diff_near base hl hu
    rw [h, show diff (place base y) (place base y) = 0 by simp [diff]] at hdiff
    omega
  · exact fun h => h ▸ rfl

end Numbers

structure SendView where
  state : State
  localSeqNo : SeqNumber
  remoteLastSeq : SeqNumber
  txBuffer : RingBuffer UInt8
  remoteWinLen : ℕ

def Socket.sendView (s : Socket) : SendView :=
  ⟨s.state, s.localSeqNo, s.remoteLastSeq, s.txBuffer, s.remoteWinLen⟩

inductive Sending (base : SeqNumber) (written : List UInt8) (v : SendView) : Prop
  | closed (h : v.state = .closed)
  | opening (h : v.state = .synSent ∨ v.state = .synReceived) (hl : v.localSeqNo = place base (-1))
      (hr : v.remoteLastSeq = place base (-1) ∨ v.remoteLastSeq = place base 0) (htx : v.txBuffer.length = 0)
      (hw : written = [])
  | opened (h : v.state = .established ∨ v.state = .closeWait) (una nxt : ℕ) (hl : v.localSeqNo = place base una)
      (hr : v.remoteLastSeq = place base nxt) (hle : una ≤ nxt) (hlen : una + v.txBuffer.length = written.length)
      (hnxt : nxt ≤ written.length) (htx : v.txBuffer.toList = written.drop una) (hwin : v.remoteWinLen < 2 ^ 30)

lemma Socket.announcedWindow_lt (s : Socket) (repr : TcpRepr) : s.announcedWindow repr < 2 ^ 30 := by
  have hlen : repr.windowLen.toNat < 2 ^ 16 := repr.windowLen.toNat_lt
  have hscale : (if repr.control = .syn then 0 else s.remoteWinScale.elim 0 Fin.val) ≤ 14 := by
    split_ifs
    · omega
    · cases s.remoteWinScale with
      | none => exact Nat.zero_le _
      | some scale => exact Nat.le_of_lt_succ scale.isLt
  rw [announcedWindow, Nat.shiftLeft_eq]
  calc repr.windowLen.toNat * 2 ^ _ ≤ repr.windowLen.toNat * 2 ^ 14 :=
        Nat.mul_le_mul_left _ (Nat.pow_le_pow_right (by omega) hscale)
    _ < 2 ^ 16 * 2 ^ 14 := by omega
    _ = 2 ^ 30 := by norm_num

section Frames

variable (s : Socket)

@[simp] lemma sendView_challengeAckReply (now : ℤ) : (s.challengeAckReply now).1.sendView = s.sendView := by
  rw [Socket.challengeAckReply]
  split_ifs <;> rfl

@[simp] lemma sendView_onAck (now : ℤ) (repr : TcpRepr) : (s.onAck now repr).sendView = s.sendView := by
  rw [Socket.onAck]
  split <;> rfl

variable {s}

lemma sendView_takePayload {payload : List UInt8} {offset : ℕ} {r : Socket × Option TcpRepr}
    (h : s.takePayload payload offset = some r) : r.1.sendView = s.sendView := by
  rcases Socket.takePayload_eq_some h with ⟨_, rfl⟩ | ⟨_, _, _, _, _, _, rfl | ⟨rfl, _⟩⟩
  · rfl
  · rfl
  · rfl

lemma sendView_updateRemote {now : ℤ} {repr : TcpRepr} {a : Socket.Acked} {s' : Socket}
    (h : s.updateRemote now repr a = some s') :
    s'.state = s.state ∧ s'.txBuffer.length + a.len = s.txBuffer.length ∧
      s'.txBuffer.toList = s.txBuffer.toList.drop a.len ∧
      s'.localSeqNo = repr.ackNumber.getD s.localSeqNo ∧
      s'.remoteLastSeq =
        repr.ackNumber.elim s.remoteLastSeq (fun ack => if s.remoteLastSeq.lt ack then ack else s.remoteLastSeq) ∧
      s'.remoteWinLen < 2 ^ 30 := by
  rw [Socket.updateRemote] at h
  obtain ⟨s₁, hs₁, rfl⟩ := Option.map_eq_some_iff.mp h
  obtain ⟨tx, hc, rfl, hlen, hlist⟩ := Socket.dequeueAcked_eq_some hs₁
  cases repr.ackNumber with
  | none => exact ⟨rfl, hlen, hlist, rfl, rfl, s.announcedWindow_lt repr⟩
  | some ack => exact ⟨rfl, hlen, hlist, rfl, rfl, s.announcedWindow_lt repr⟩

end Frames

section Segments

variable {s : Socket} {base : SeqNumber} {written : List UInt8}

lemma checkAck_opened {una : ℕ} (h : s.state = .established ∨ s.state = .closeWait)
    (hl : s.localSeqNo = place base una) {repr : TcpRepr} (hc : s.checkAck repr = .accept) (hr : repr.control ≠ .rst) :
    ∃ d ≤ s.txBuffer.length, repr.ackNumber = some (place base (una + d)) ∧ (s.acked repr).len = d := by
  have htx : s.txBuffer.length < 2 ^ 30 := s.txBuffer.length_le.trans_lt s.tx_lt
  have hsyn : s.sentSyn = false := by rcases h with h | h <;> simp [Socket.sentSyn, h]
  have hfin : s.sentFin = false := by rcases h with h | h <;> simp [Socket.sentFin, h]
  have hcheck : ∃ ack, repr.ackNumber = some ack ∧ ack.lt s.localSeqNo = false ∧
      (s.localSeqNo.add s.txBuffer.length).lt ack = false := by
    rw [Socket.checkAck_synchronized (by rcases h with h | h <;> simp [h]) (by rcases h with h | h <;> simp [h]) hr,
      show s.controlLen = 0 by simp [Socket.controlLen, hsyn, hfin]] at hc
    cases hack : repr.ackNumber with
    | none => simp [hack] at hc
    | some ack =>
      rw [hack] at hc
      dsimp only at hc
      split_ifs at hc with h₁ h₂
      exact ⟨ack, rfl, by simpa using h₁, by simpa using h₂⟩
  obtain ⟨ack, hack, hlt, hgt⟩ := hcheck
  obtain ⟨x, rfl, hx₁, hx₂⟩ := exists_place base ack una
  rw [hl] at hlt hgt
  rw [lt_near base hx₁ hx₂, decide_eq_false_iff_not] at hlt
  rw [add_place, lt_near base (by omega) (by omega), decide_eq_false_iff_not] at hgt
  refine ⟨(x - una).toNat, by omega, ?_, ?_⟩
  · rw [hack]
    congr 2
    omega
  · rw [Socket.acked, if_neg hr, hack]
    dsimp only
    rw [hsyn, hfin, hl, Bool.toNat_false, add_place, le_near base (by omega) (by omega), if_pos (by simp; omega)]
    simp only [Bool.false_and, Bool.false_eq_true, if_false]
    rw [diff_near base (by omega) (by omega)]
    omega

lemma checkAck_opening (h : s.state = .synSent ∨ s.state = .synReceived) {repr : TcpRepr}
    (hc : s.checkAck repr = .accept) (hr : repr.control ≠ .rst) :
    repr.ackNumber = some (s.localSeqNo.add 1) ∨ (s.state = .synSent ∧ repr.ackNumber = none) := by
  rw [Socket.checkAck] at hc
  rcases h with h | h
  · cases hcon : repr.control <;> cases hack : repr.ackNumber <;> simp_all
    split_ifs at hc
  · cases hcon : repr.control <;> cases hack : repr.ackNumber <;> simp_all

lemma acked_opening (h : s.state = .synSent ∨ s.state = .synReceived) {repr : TcpRepr}
    (hack : repr.ackNumber = some (s.localSeqNo.add 1) ∨ repr.ackNumber = none) : (s.acked repr).len = 0 := by
  have hsyn : s.sentSyn = true := by rcases h with h | h <;> simp [Socket.sentSyn, h]
  have hfin : s.sentFin = false := by rcases h with h | h <;> simp [Socket.sentFin, h]
  rw [Socket.acked]
  split
  · rfl
  · rename_i ack heq
    split_ifs at heq
    rcases hack with hack | hack
    · rw [hack] at heq
      cases heq
      have hzero : diff (s.localSeqNo.add 1) (s.localSeqNo.add 1) = 0 := by simp [diff]
      simp [hsyn, hfin, hzero, SeqNumber.le]
    · rw [hack] at heq
      cases heq

lemma Sending.acked_le (hs : Sending base written s.sendView) (hne : s.state ≠ .closed) {repr : TcpRepr}
    (hc : s.checkAck repr = .accept) (hr : repr.control ≠ .rst) : (s.acked repr).len ≤ s.txBuffer.length := by
  cases hs with
  | closed h => exact absurd h hne
  | opening h =>
    rw [acked_opening h ((checkAck_opening h hc hr).imp_right And.right)]
    exact Nat.zero_le _
  | opened h una nxt hl =>
    obtain ⟨d, hd, _, hlen⟩ := checkAck_opened h hl hc hr
    rwa [hlen]

lemma Sending.updateRemote {now : ℤ} {repr : TcpRepr} {s' s'' : Socket} {a : Socket.Acked}
    (h : s'.updateRemote now repr a = some s'') (hst : s'.state = .established ∨ s'.state = .closeWait) {una d : ℕ} {nxt : ℤ}
    (hr : s'.remoteLastSeq = place base nxt) (hle : una ≤ nxt + 1) (hlen : una + s'.txBuffer.length = written.length)
    (hnxt : nxt ≤ written.length) (htx : s'.txBuffer.toList = written.drop una) (hd : a.len = d)
    (hack : repr.ackNumber = some (place base ↑(una + d))) : Sending base written s''.sendView := by
  have htx30 : s'.txBuffer.length < 2 ^ 30 := s'.txBuffer.length_le.trans_lt s'.tx_lt
  obtain ⟨h₁, h₂, h₃, h₄, h₅, h₆⟩ := sendView_updateRemote h
  rw [hack, Option.getD_some] at h₄
  rw [hack, Option.elim_some, hr, lt_near base (by omega) (by omega)] at h₅
  refine .opened (by rwa [← h₁] at hst) (una + d) (max nxt (una + d)).toNat h₄ ?_ (by omega) ?_ (by omega) ?_ h₆
  · change s''.remoteLastSeq = _
    rw [h₅]
    split_ifs with hlt
    · rw [decide_eq_true_eq] at hlt
      congr 1
      omega
    · rw [decide_eq_true_eq] at hlt
      congr 1
      omega
  · simp only [Socket.sendView]
    omega
  · simp only [Socket.sendView]
    rw [h₃, htx, List.drop_drop, hd]

lemma sending_processSegment {now : ℤ} {repr : TcpRepr} {payload : List UInt8} {offset : ℕ}
    {r : Socket × Option TcpRepr} (hs : Sending base written s.sendView) (hne : s.state ≠ .closed)
    (hc : s.checkAck repr = .accept) (hr : s.processSegment now repr payload offset = some r) :
    Sending base written r.1.sendView := by
  have hview := sendView_onAck s now repr
  have hstate : (s.onAck now repr).state = s.state := congrArg SendView.state hview
  have hlocal : (s.onAck now repr).localSeqNo = s.localSeqNo := congrArg SendView.localSeqNo hview
  have hlast : (s.onAck now repr).remoteLastSeq = s.remoteLastSeq := congrArg SendView.remoteLastSeq hview
  have hbuf : (s.onAck now repr).txBuffer = s.txBuffer := congrArg SendView.txBuffer hview
  have hclient : s.Client := by
    cases hs with
    | closed h => exact absurd h hne
    | opening h => exact h.elim Or.inl fun h => Or.inr (Or.inl h)
    | opened h => exact Or.inr (Or.inr h)
  rcases Socket.processSegment_eq_some hclient hr with rfl | rfl | ⟨s', s'', hrst, hmove, hup, hpay⟩
  · exact .closed rfl
  · rwa [hview]
  · rw [sendView_takePayload hpay]
    cases hs with
    | closed h => exact absurd h hne
    | opened h una nxt hl hr' hle hlen hnxt htx _ =>
      -- The acknowledgement is of `d` octets of the buffer, which leave it.
      obtain ⟨d, _, hack, had⟩ := checkAck_opened h hl hc hrst
      have hack : repr.ackNumber = some (place base ↑(una + d)) := by
        rw [hack]
        push_cast
        rfl
      have hbuf₁ : una + (s.onAck now repr).txBuffer.length = written.length := hbuf ▸ hlen
      have hbuf₂ : (s.onAck now repr).txBuffer.toList = written.drop una := hbuf ▸ htx
      cases hmove with
      | syn h' => rw [hstate] at h'; rcases h with h | h <;> simp_all [Socket.sendView]
      | ack h' => rw [hstate] at h'; rcases h with h | h <;> simp_all [Socket.sendView]
      | data h' => exact .updateRemote hup h' (hlast.trans hr') (by omega) hbuf₁ (by omega) hbuf₂ had hack
      | fin h' => exact .updateRemote hup (Or.inr rfl) (hlast.trans hr') (by omega) hbuf₁ (by omega) hbuf₂ had hack
    | opening h hl hr' htx hw =>
      -- Only our SYN can be acknowledged, and no octet of the buffer with it.
      have hack := checkAck_opening h hc hrst
      have had : (s.acked repr).len = 0 := acked_opening h (hack.imp_right And.right)
      have hfirst : s.localSeqNo.add 1 = place base 0 := by
        rw [show s.localSeqNo = _ from hl, add_place]
        rfl
      have hzero : s.txBuffer.length = 0 := htx
      have hlist : s.txBuffer.toList = [] := List.eq_nil_of_length_eq_zero (by simpa using hzero)
      have hbuf₁ : 0 + (s.onAck now repr).txBuffer.length = written.length := by
        rw [hbuf, hw, zero_add]
        exact htx
      have hbuf₂ : (s.onAck now repr).txBuffer.toList = written.drop 0 := by rw [hbuf, hlist, hw, List.drop_zero]
      have hacked : s.state ≠ .synSent → repr.ackNumber = some (place base ↑(0 + 0)) := by
        intro hst
        rcases hack with hack | ⟨hsyn, _⟩
        · rw [hack, hfirst]
          rfl
        · exact absurd hsyn hst
      cases hmove with
      | syn h' hcon =>
        rcases hack with hack | ⟨_, hnone⟩
        · have hlast' : ((s.onAck now repr).synchronize repr).remoteLastSeq = place base 0 := by
            change (s.onAck now repr).localSeqNo.add 1 = _
            rw [hlocal, hfirst]
          have hstate' : ((s.onAck now repr).synchronize repr).state = .established := by simp [Socket.synchronize, hack]
          exact .updateRemote hup (Or.inl hstate') hlast' (by omega) hbuf₁ (by omega) hbuf₂ had (by rw [hack, hfirst]; rfl)
        · -- Both ends opened at the same time: our SYN is still to be acknowledged.
          obtain ⟨h₁, h₂, _, h₄, h₅, _⟩ := sendView_updateRemote hup
          rw [hnone] at h₄ h₅
          refine .opening (Or.inr ?_) ?_ (Or.inr ?_) ?_ hw
          · change s''.state = _
            rw [h₁]
            simp [Socket.synchronize, hnone]
          · change s''.localSeqNo = _
            rw [h₄]
            exact hlocal.trans hl
          · change s''.remoteLastSeq = _
            rw [h₅]
            change (s.onAck now repr).localSeqNo.add 1 = _
            rw [hlocal, hfirst]
          · change s''.txBuffer.length = 0
            have : ((s.onAck now repr).synchronize repr).txBuffer.length = 0 := by
              change (s.onAck now repr).txBuffer.length = 0
              rw [hbuf]
              exact htx
            omega
      | ack h' =>
        have hack := hacked (by rw [← hstate, h']; decide)
        rcases hr' with hr' | hr'
        · exact .updateRemote hup (Or.inl rfl) (hlast.trans hr') (by omega) hbuf₁ (by omega) hbuf₂ had hack
        · exact .updateRemote hup (Or.inl rfl) (hlast.trans hr') (by omega) hbuf₁ (by omega) hbuf₂ had hack
      | data h' => rw [hstate] at h'; rcases h with h | h <;> simp_all [Socket.sendView]
      | fin h' =>
        have hack := hacked (by rw [← hstate]; rcases h' with h' | h' <;> rw [h'] <;> decide)
        rcases hr' with hr' | hr'
        · exact .updateRemote hup (Or.inr rfl) (hlast.trans hr') (by omega) hbuf₁ (by omega) hbuf₂ had hack
        · exact .updateRemote hup (Or.inr rfl) (hlast.trans hr') (by omega) hbuf₁ (by omega) hbuf₂ had hack

lemma sending_process {now : ℤ} {repr : TcpRepr} {r : Socket × Option TcpRepr} (hs : Sending base written s.sendView)
    (hr : s.process now repr = some r) : Sending base written r.1.sendView := by
  rcases Socket.process_eq_some hr with ⟨h, _⟩ | ⟨timer, rfl, _⟩ | ⟨hne, hc, ⟨_, h⟩ | ⟨_, _, payload, offset, _, h⟩⟩
  · rw [h]
    exact hs
  · rw [sendView_challengeAckReply]
    exact hs
  · exact sending_processSegment hs hne hc h
  · have hs' : Sending base written (s.noteSeq repr.seqNumber).sendView := hs
    exact sending_processSegment hs' hne hc h

end Segments

section Calls

variable {s : Socket} {base : SeqNumber} {written : List UInt8}

lemma sending_sendSlice (hs : Sending base written s.sendView) (data : List UInt8) :
    Sending base (written ++ data.take ((s.sendSlice data).1.getD 0)) (s.sendSlice data).2.sendView := by
  rw [Socket.sendSlice]
  split_ifs with hmay
  · obtain ⟨hcount, hlist, _⟩ := RandomAccess.enqueueSlice_spec data s.txBuffer
    have hlen : (RandomAccess.enqueueSlice data s.txBuffer).2.length =
        s.txBuffer.length + min s.txBuffer.window data.length := by
      have := congrArg List.length hlist
      simpa using this
    dsimp only
    rw [Option.getD_some, hcount]
    cases hs with
    | closed h => simp_all [Socket.maySend, Socket.sendView]
    | opening h => rcases h with h | h <;> simp_all [Socket.maySend, Socket.sendView]
    | opened h una nxt hl hr hle hlen' hnxt htx hwin =>
      have hlen₂ : una + s.txBuffer.length = written.length := hlen'
      refine .opened h una nxt hl hr hle ?_ ?_ ?_ hwin
      · change una + (RandomAccess.enqueueSlice data s.txBuffer).2.length = _
        rw [hlen, List.length_append, List.length_take]
        omega
      · rw [List.length_append]
        omega
      · change (RandomAccess.enqueueSlice data s.txBuffer).2.toList = _
        rw [hlist, show s.txBuffer.toList = _ from htx, List.drop_append_of_le_length (by omega)]
  · simpa using hs

lemma sending_recv (hs : Sending base written s.sendView) : Sending base written s.recv.2.sendView := by
  rw [Socket.recv]
  split_ifs <;> exact hs

lemma sending_expire (mtu : Mtu) (now : ℤ) (hs : Sending base written s.sendView) :
    Sending base written (s.expire mtu now).sendView := by
  rw [Socket.expire]
  split_ifs
  · cases hs with
    | closed h => exact .closed h
    | opening h hl hr htx hw => exact .opening h hl (Or.inl hl) htx hw
    | opened h una nxt hl hr hle hlen hnxt htx hwin => exact .opened h una una hl hl le_rfl hlen (by omega) htx hwin
  · exact hs

structure Carries (base : SeqNumber) (written : List UInt8) (repr : TcpRepr) : Prop where
  control : repr.control ≠ .fin
  syn : repr.control = .syn → repr.seqNumber = place base (-1) ∧ repr.payload = []
  payload : repr.payload ≠ [] → ∃ a : ℕ, repr.seqNumber = place base a ∧ repr.payload <+: written.drop a

lemma Carries.mono {repr : TcpRepr} (h : Carries base written repr) (more : List UInt8) :
    Carries base (written ++ more) repr := by
  refine ⟨h.control, h.syn, fun hne => ?_⟩
  obtain ⟨a, ha, hp⟩ := h.payload hne
  refine ⟨a, ha, hp.trans ?_⟩
  rw [List.drop_append]
  exact List.prefix_append _ _

lemma carries_ackReply (s : Socket) : Carries base written s.ackReply.2 := by
  exact ⟨by simp [Socket.ackReply], by simp [Socket.ackReply], by simp [Socket.ackReply]⟩

lemma carries_rstReply (repr : TcpRepr) : Carries base written (Socket.rstReply repr) := by
  exact ⟨by simp [Socket.rstReply], by simp [Socket.rstReply], by simp [Socket.rstReply]⟩

lemma dataSegment_opened {mtu : Mtu} {now : ℤ} {repr : TcpRepr} (hst : s.state = .established ∨ s.state = .closeWait)
    {una nxt : ℕ} (hl : s.localSeqNo = place base una) (hr : s.remoteLastSeq = place base nxt) (hle : una ≤ nxt)
    (hlen : una + s.txBuffer.length = written.length) (hnxt : nxt ≤ written.length)
    (htx : s.txBuffer.toList = written.drop una) (h : s.dataSegment mtu now = some repr) :
    repr.seqNumber = place base nxt ∧ repr.segmentLen = repr.payload.length ∧ Carries base written repr ∧
      repr.payload <+: written.drop nxt ∧
      repr.payload.length ≤
        min (min (if s.isZeroWindowProbe now then 1 else s.winLimit) s.remoteMss) (Socket.localMss mtu) := by
  have htx30 : s.txBuffer.length < 2 ^ 30 := s.txBuffer.length_le.trans_lt s.tx_lt
  have hfin : s.wantFin = false := by rcases hst with hst | hst <;> simp [Socket.wantFin, hst]
  obtain ⟨offset, hoffset, hseq, _, _, hpayload, hcontrol⟩ := Socket.dataSegment_eq_some h
  rw [hl, hr, sub_near base (by omega) (by omega)] at hoffset
  cases hoffset
  have hprefix : repr.payload <+: written.drop nxt := by
    rw [hpayload, RandomAccess.getAllocated_eq, htx, List.drop_drop, show una + ((nxt : ℤ) - una).toNat = nxt by omega]
    exact List.take_prefix _ _
  refine ⟨hseq.trans hr, ?_, ⟨?_, ?_, fun _ => ⟨nxt, hseq.trans hr, hprefix⟩⟩, hprefix, ?_⟩
  · rw [TcpRepr.segmentLen]
    rcases hcontrol hfin with h | h <;> simp [h, Control.len]
  · rcases hcontrol hfin with h | h <;> simp [h]
  · rcases hcontrol hfin with h | h <;> simp [h]
  · rw [hpayload, RandomAccess.getAllocated_eq, List.length_take]
    omega

lemma sending_segment {mtu : Mtu} {now : ℤ} {repr : TcpRepr} (hs : Sending base written s.sendView)
    (h : s.segment mtu now = some repr) :
    Carries base written repr ∧ Sending base written (s.emitted now repr).sendView := by
  rw [Socket.segment] at h
  cases hs with
  | closed hst =>
    rw [show s.state = .closed from hst] at h
    cases h
    refine ⟨⟨by simp, by simp, by simp [Socket.ackSegment]⟩, .closed ?_⟩
    rw [Socket.emitted]
    split_ifs <;> exact hst
  | opening hst hl hr htx hw =>
    have hsyn : s.segment mtu now = some (s.synSegment mtu) := by
      rcases hst with hst | hst <;> rw [Socket.segment, show s.state = _ from hst]
    have hdata : s.hasData = false := by
      rcases hst with hst | hst <;> simp [Socket.hasData, Socket.sentFin, show s.state = _ from hst]
    rw [← Socket.segment, hsyn] at h
    cases h
    refine ⟨⟨by simp [Socket.synSegment], fun _ => ⟨hl, rfl⟩, by simp [Socket.synSegment, Socket.ackSegment]⟩, ?_⟩
    rw [Socket.emitted, if_neg (by simp [hdata])]
    refine .opening hst hl (Or.inr ?_) htx hw
    change s.localSeqNo.add 1 = _
    rw [show s.localSeqNo = _ from hl, add_place]
    rfl
  | opened hst una nxt hl hr hle hlen hnxt htx hwin =>
    have hdata : s.segment mtu now = s.dataSegment mtu now := by
      rcases hst with hst | hst <;> rw [Socket.segment, show s.state = _ from hst]
    rw [← Socket.segment, hdata] at h
    obtain ⟨hseq, hseg, hcarries, hprefix, _⟩ := dataSegment_opened hst hl hr hle hlen hnxt htx h
    refine ⟨hcarries, ?_⟩
    rw [Socket.emitted]
    by_cases hprobe : s.hasData = true ∧ s.isZeroWindowProbe now = true
    · rw [if_pos hprobe]
      exact .opened hst una nxt hl hr hle hlen hnxt htx hwin
    · rw [if_neg hprobe]
      have hlen' := hprefix.length_le
      rw [List.length_drop] at hlen'
      refine .opened hst una (nxt + repr.payload.length) hl ?_ (by omega) hlen (by omega) htx hwin
      change repr.seqNumber.add repr.segmentLen = _
      rw [hseq, hseg, add_place]
      push_cast
      rfl

lemma segment_within_window {mtu : Mtu} {now : ℤ} {repr : TcpRepr} (hs : Sending base written s.sendView)
    (h : s.segment mtu now = some repr) (hne : repr.payload ≠ []) :
    ∃ una a : ℕ, s.localSeqNo = place base una ∧ repr.seqNumber = place base a ∧ una ≤ a ∧
      repr.payload <+: written.drop a ∧ repr.payload.length ≤ min s.remoteMss (Socket.localMss mtu) ∧
      (a + repr.payload.length ≤ una + s.remoteWinLen ∨
        (repr.payload.length = 1 ∧ s.timer.shouldZeroWindowProbe now = true)) := by
  have hpos : 0 < repr.payload.length := List.length_pos_iff.mpr hne
  rw [Socket.segment] at h
  cases hs with
  | closed hst =>
    rw [show s.state = .closed from hst] at h
    cases h
    exact absurd rfl hne
  | opening hst =>
    rcases hst with hst | hst <;> rw [show s.state = _ from hst] at h <;> cases h <;> exact absurd rfl hne
  | opened hst una nxt hl hr hle hlen hnxt htx hwin =>
    have hdata : s.segment mtu now = s.dataSegment mtu now := by
      rcases hst with hst | hst <;> rw [Socket.segment, show s.state = _ from hst]
    rw [← Socket.segment, hdata] at h
    obtain ⟨hseq, _, _, hprefix, hsize⟩ := dataSegment_opened hst hl hr hle hlen hnxt htx h
    have htx30 : s.txBuffer.length < 2 ^ 30 := s.txBuffer.length_le.trans_lt s.tx_lt
    have hbuf : una + s.txBuffer.length = written.length := hlen
    have hwin30 : s.remoteWinLen < 2 ^ 30 := hwin
    refine ⟨una, nxt, hl, hseq, hle, hprefix, by omega, ?_⟩
    by_cases hprobe : s.isZeroWindowProbe now = true
    · rw [if_pos hprobe] at hsize
      rw [Socket.isZeroWindowProbe, Bool.and_eq_true] at hprobe
      exact Or.inr ⟨by omega, hprobe.2⟩
    · have hlimit : s.winLimit = una + s.remoteWinLen - nxt := by
        rw [Socket.winLimit, show s.localSeqNo = _ from hl, show s.remoteLastSeq = _ from hr, add_place,
          diff_near base (by omega) (by omega)]
        omega
      rw [if_neg hprobe, hlimit] at hsize
      exact Or.inl (by omega)

lemma sending_dispatch {mtu : Mtu} {now : ℤ} {ok : Bool} {r : Socket × Option TcpRepr}
    (hs : Sending base written s.sendView) (h : s.dispatch mtu now ok = some r) :
    Sending base written r.1.sendView ∧ ∀ repr ∈ r.2, Carries base written repr := by
  have hs' := sending_expire mtu now hs
  rcases Socket.dispatch_eq_some h with rfl | rfl | rfl | ⟨repr, hrepr, rfl⟩
  · exact ⟨hs, by simp⟩
  · exact ⟨hs', by simp⟩
  · exact ⟨.closed rfl, by simp⟩
  · obtain ⟨hcarries, hemitted⟩ := sending_segment hs' hrepr
    refine ⟨?_, by simpa using hcarries⟩
    cases ok
    · exact hs'
    · exact hemitted

end Calls

section Run

variable (mtu : Mtu)

structure SendInv (base : SeqNumber) (t : Trace) : Prop where
  sending : Sending base t.written t.socket.sendView
  segments : ∀ repr ∈ t.segments, Carries base t.written repr

lemma SendInv.after {base : SeqNumber} {t : Trace} (ht : SendInv base t) {r : Option (Socket × Option TcpRepr)}
    (h : ∀ p ∈ r, Sending base t.written p.1.sendView ∧ ∀ repr ∈ p.2, Carries base t.written repr) :
    SendInv base (t.after r) := by
  cases r with
  | none => exact ⟨ht.sending, ht.segments⟩
  | some p =>
    obtain ⟨hs, hc⟩ := h p rfl
    refine ⟨hs, fun repr hmem => ?_⟩
    rcases List.mem_append.mp hmem with hmem | hmem
    · exact ht.segments repr hmem
    · exact hc repr (Option.mem_toList.mp hmem)

lemma SendInv.step {base : SeqNumber} {t : Trace} (ht : SendInv base t) (e : Event) : SendInv base (t.step mtu e) := by
  rw [Trace.step]
  split_ifs
  · exact ht
  · cases e with
    | segment now repr =>
      refine ht.after fun p hp => ⟨sending_process ht.sending hp, fun reply hreply => ?_⟩
      obtain ⟨s', rep⟩ := p
      cases hreply
      rcases Socket.process_reply hp with rfl | ⟨s₁, _, rfl⟩
      · exact carries_rstReply repr
      · exact carries_ackReply s₁
    | dispatch now ok => exact ht.after fun p hp => sending_dispatch ht.sending hp
    | send data => exact ⟨sending_sendSlice ht.sending data, fun repr hmem => (ht.segments repr hmem).mono _⟩
    | recv => exact ⟨sending_recv ht.sending, ht.segments⟩
    | abort => exact ⟨.closed rfl, ht.segments⟩

lemma SendInv.connected (s : Socket) (seq : SeqNumber) : SendInv (place seq 1) (Trace.connected s seq) := by
  have hseq : seq = place (place seq 1) (-1) := by simp
  exact ⟨.opening (Or.inl rfl) hseq (Or.inl hseq) rfl rfl, by simp [Trace.connected]⟩

lemma sendInv_run (s : Socket) (seq : SeqNumber) (events : List Event) :
    SendInv (place seq 1) (run (Trace.step mtu) (Trace.connected s seq) events) :=
  run_preserves (fun _ e ht => ht.step mtu e) events (.connected s seq)

theorem segments_carry_written (s : Socket) (seq : SeqNumber) (events : List Event) :
    let t := run (Trace.step mtu) (Trace.connected s seq) events
    ∀ repr ∈ t.segments, Carries (place seq 1) t.written repr := (sendInv_run mtu s seq events).segments

/-- The octets of a segment are not acknowledged yet, and they fit the window of the remote end and the
segment sizes of both ends. Only the probe of a full window goes beyond it, by one octet. -/
theorem dispatch_within_window (s : Socket) (seq : SeqNumber) (events : List Event) (now : ℤ) (ok : Bool) :
    let t := run (Trace.step mtu) (Trace.connected s seq) events
    ∀ r repr, t.socket.dispatch mtu now ok = some (r, some repr) → repr.payload ≠ [] →
      ∃ una a : ℕ, t.socket.localSeqNo = place (place seq 1) una ∧ repr.seqNumber = place (place seq 1) a ∧ una ≤ a ∧
        repr.payload <+: t.written.drop a ∧ repr.payload.length ≤ min t.socket.remoteMss (Socket.localMss mtu) ∧
        (a + repr.payload.length ≤ una + t.socket.remoteWinLen ∨
          (repr.payload.length = 1 ∧ t.socket.timer.shouldZeroWindowProbe now = true)) := by
  intro t r repr h hne
  have hs := sending_expire mtu now (sendInv_run mtu s seq events).sending
  obtain ⟨una, a, hl, hseq, hle, hprefix, hsize, hwindow⟩ := segment_within_window hs (Socket.dispatch_sends h).1 hne
  rw [Socket.expire] at hl hsize hwindow
  split_ifs at hl hsize hwindow
  · exact ⟨una, a, hl, hseq, hle, hprefix, hsize, Or.inl (by simpa [Timer.shouldZeroWindowProbe] using hwindow)⟩
  · exact ⟨una, a, hl, hseq, hle, hprefix, hsize, hwindow⟩

def writing : List Event :=
  [.dispatch 0 true, .segment 1 (fromRemote .syn 0xffffffff []), .dispatch 2 true, .send [9]]

theorem dispatch_within_window_writing :
    let t := run (Trace.step ethernet) (Trace.connected smallSocket 5) writing
    ∃ r repr, t.socket.dispatch ethernet 3 true = some (r, some repr) ∧ repr.payload = [9] ∧
      ∃ una a : ℕ, t.socket.localSeqNo = place (place 5 1) una ∧ repr.seqNumber = place (place 5 1) a ∧ una ≤ a ∧
        repr.payload <+: t.written.drop a ∧ repr.payload.length ≤ min t.socket.remoteMss (Socket.localMss ethernet) ∧
        (a + repr.payload.length ≤ una + t.socket.remoteWinLen ∨
          (repr.payload.length = 1 ∧ t.socket.timer.shouldZeroWindowProbe 3 = true)) := by
  intro t
  have hsent : ((t.socket.dispatch ethernet 3 true).bind Prod.snd).map TcpRepr.payload = some [9] := by decide +kernel
  obtain ⟨repr, hrepr, hpayload⟩ := Option.map_eq_some_iff.mp hsent
  obtain ⟨⟨r, sent⟩, hdispatch, hsnd⟩ := Option.bind_eq_some_iff.mp hrepr
  cases hsnd
  exact ⟨r, repr, hdispatch, hpayload, dispatch_within_window ethernet smallSocket 5 writing 3 true r repr hdispatch
    (by rw [hpayload]; exact List.cons_ne_nil _ _)⟩

end Run

end SmoltcpS3.Tcp

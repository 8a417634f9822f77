import SmoltcpS3.Tcp.Reassembly
import SmoltcpS3.Tcp.Send

namespace SmoltcpS3.Tcp

open EventRuns Smoltcp

structure SameQueue (q r : RingBuffer UInt8) : Prop where
  capacity : q.capacity = r.capacity
  readAt : q.readAt = r.readAt
  toList : q.toList = r.toList

section Queues

variable {q r : RingBuffer UInt8}

lemma SameQueue.length (h : SameQueue q r) : q.length = r.length := by
  rw [← q.toList_length, h.toList, r.toList_length]

lemma SameQueue.window (h : SameQueue q r) : q.window = r.window := by
  rw [RingBuffer.window, RingBuffer.window, h.capacity, h.length]

lemma SameQueue.isEmpty (h : SameQueue q r) : q.isEmpty = r.isEmpty := by
  rw [RingBuffer.isEmpty, RingBuffer.isEmpty, h.length]

lemma contiguous_eq_take (q : RingBuffer UInt8) : q.contiguous = q.toList.take q.contiguous.length := by
  have hlist : q.contiguous ++ q.dequeueMany.2.toList = q.toList := q.toList_dequeueMany
  rw [← hlist, List.take_left]

lemma SameQueue.contiguous (h : SameQueue q r) : q.contiguous = r.contiguous := by
  rw [contiguous_eq_take q, contiguous_eq_take r, RingBuffer.contiguous_length, RingBuffer.contiguous_length, h.toList,
    h.length, h.capacity, h.readAt]

lemma SameQueue.dequeueMany (h : SameQueue q r) :
    q.dequeueMany.1 = r.dequeueMany.1 ∧ SameQueue q.dequeueMany.2 r.dequeueMany.2 := by
  refine ⟨h.contiguous, h.capacity, ?_, ?_⟩
  · simp only [RingBuffer.dequeueMany, h.contiguous, h.capacity, h.readAt]
  · have hq : q.contiguous ++ q.dequeueMany.2.toList = q.toList := q.toList_dequeueMany
    have hr : r.contiguous ++ r.dequeueMany.2.toList = r.toList := r.toList_dequeueMany
    rw [h.toList, h.contiguous, ← hr] at hq
    exact List.append_cancel_left hq

lemma SameQueue.enqueue (h : SameQueue q r) {r' : RingBuffer UInt8} {data : List UInt8} (hc : r'.capacity = r.capacity)
    (ha : r'.readAt = r.readAt) (hl : r'.toList = r.toList ++ data) : SameQueue (q.enqueueUnallocated data) r' := by
  refine ⟨h.capacity.trans hc.symm, h.readAt.trans ha.symm, ?_⟩
  have hlen := congrArg List.length hl
  rw [List.length_append, RingBuffer.toList_length, RingBuffer.toList_length] at hlen
  have hle := r'.length_le
  have hfit : data.length ≤ r.window := by
    rw [RingBuffer.window]
    omega
  rw [RingBuffer.toList_enqueueUnallocated, h.toList, h.window, List.take_of_length_le hfit, hl]

end Queues

lemma placePayload_enqueues {payload : List UInt8} {offset contigLen : ℕ} {rx rx' : RingBuffer UInt8}
    (h : Socket.placePayload payload offset contigLen rx = some rx') :
    rx'.capacity = rx.capacity ∧ rx'.readAt = rx.readAt ∧ ∃ data, rx'.toList = rx.toList ++ data := by
  have hle := rx.length_le
  have hplace : rx'.capacity = rx.capacity ∧ rx'.readAt = rx.readAt ∧ rx.length ≤ rx'.length ∧
      ∀ k, RandomAccess.cell rx' k = RandomAccess.cell (RandomAccess.writeUnallocated offset payload rx).2 k := by
    rw [Socket.placePayload] at h
    split_ifs at h with hzero
    · rw [RandomAccess.enqueueUnallocated] at h
      split_ifs at h
      cases h
      exact ⟨rfl, rfl, Nat.le_add_right _ _, fun _ => rfl⟩
    · cases h
      exact ⟨rfl, rfl, le_refl _, fun _ => rfl⟩
  obtain ⟨hc, ha, hl, hcell⟩ := hplace
  refine ⟨hc, ha, rx'.toList.drop rx.length, ?_⟩
  have htake : rx'.toList.take rx.length = rx.toList := by
    apply List.ext_getElem
    · simp [hl]
    · intro k h₁ h₂
      have hk : k < rx.length := by simpa using h₂
      simp only [RandomAccess.toList_eq, List.getElem_take, List.getElem_map, List.getElem_range, hcell]
      rw [RandomAccess.cell_writeUnallocated offset payload rx (by omega), if_neg (by omega)]
  rw [← htake, List.take_append_drop]

/-- `s` looks like `a` to the program, and it is not about to close by itself. -/
structure Refines (s : Socket) (a : Smoltcp.Socket) : Prop where
  state : a.state = s.state
  rx : SameQueue a.rxBuffer s.rxBuffer
  tx : a.txWindow = s.txBuffer.window
  fin : a.rxFinReceived = s.rxFinReceived
  timer : ∀ x, s.timer ≠ .close x

section Frames

variable {s s' : Socket} {now : ℤ} {repr : TcpRepr} {acked : Socket.Acked}

lemma updateTimer_ne_close (h : ∀ x, s.timer ≠ .close x) : ∀ x, s.updateTimer now acked ≠ .close x := by
  intro x
  rw [Socket.updateTimer]
  cases ht : s.timer with
  | idle => simp
  | retransmit e => dsimp only; split_ifs <;> simp [Timer.setForRetransmit]
  | fastRetransmit => dsimp only; split_ifs <;> simp [Timer.setForRetransmit]
  | zeroWindowProbe e d => simp
  | close e => exact absurd ht (h e)

lemma probeTimer_ne_close (h : ∀ x, s.timer ≠ .close x) : ∀ x, s.probeTimer now acked ≠ .close x := by
  intro x
  rw [Socket.probeTimer]
  split_ifs <;> first | exact h x | simp [Timer.setForZeroWindowProbe]

lemma takeAck_ne_close {isWindowUpdate : Bool} {ack : SeqNumber} (h : ∀ x, s.timer ≠ .close x) :
    ∀ x, (s.takeAck repr isWindowUpdate ack).timer ≠ .close x := by
  intro x
  rw [Socket.takeAck]
  dsimp only
  split_ifs <;> first | exact h x | simp

lemma updateTimers_ne_close (h : ∀ x, s.timer ≠ .close x) : ∀ x, (s.updateTimers now acked).timer ≠ .close x := by
  have hupdate : ∀ x, ({ s with timer := s.updateTimer now acked } : Socket).timer ≠ .close x := updateTimer_ne_close h
  exact probeTimer_ne_close hupdate

lemma updateRemote_frame (h : s.updateRemote now repr acked = some s') :
    s'.state = s.state ∧ s'.rxBuffer = s.rxBuffer ∧ s'.rxFinReceived = s.rxFinReceived ∧
      s'.txBuffer.window = s.txBuffer.window + acked.len ∧ ((∀ x, s.timer ≠ .close x) → ∀ x, s'.timer ≠ .close x) := by
  rw [Socket.updateRemote] at h
  obtain ⟨s₁, hs₁, rfl⟩ := Option.map_eq_some_iff.mp h
  obtain ⟨tx, hc, rfl, hlen, _⟩ := Socket.dequeueAcked_eq_some hs₁
  have hlen : tx.length + acked.len = s.txBuffer.length := hlen
  have hcap : tx.capacity = s.txBuffer.capacity := hc
  have hle := s.txBuffer.length_le
  have hwindow : tx.window = s.txBuffer.window + acked.len := by
    rw [RingBuffer.window, RingBuffer.window]
    omega
  cases repr.ackNumber with
  | none => exact ⟨rfl, rfl, rfl, hwindow, fun ht => updateTimers_ne_close ht⟩
  | some ack => exact ⟨rfl, rfl, rfl, hwindow, fun ht => updateTimers_ne_close (takeAck_ne_close ht)⟩

lemma takePayload_frame {payload : List UInt8} {offset : ℕ} {r : Socket × Option TcpRepr}
    (h : s.takePayload payload offset = some r) :
    r.1.state = s.state ∧ r.1.txBuffer = s.txBuffer ∧ r.1.rxFinReceived = s.rxFinReceived ∧ r.1.timer = s.timer ∧
      r.1.rxBuffer.capacity = s.rxBuffer.capacity ∧ r.1.rxBuffer.readAt = s.rxBuffer.readAt ∧
      ∃ data, r.1.rxBuffer.toList = s.rxBuffer.toList ++ data ∧ (payload = [] → data = []) := by
  by_cases hnil : payload = []
  · rw [Socket.takePayload, if_pos hnil] at h
    cases h
    exact ⟨rfl, rfl, rfl, rfl, rfl, rfl, [], (List.append_nil _).symm, fun _ => rfl⟩
  · rcases Socket.takePayload_eq_some h with ⟨_, rfl⟩ | ⟨contigLen, assembler, rx, hc, _, hrx, rfl | ⟨rfl, _⟩⟩
    · exact ⟨rfl, rfl, rfl, rfl, rfl, rfl, [], (List.append_nil _).symm, fun _ => rfl⟩
    · obtain ⟨hcap, hread, data, hdata⟩ := placePayload_enqueues hrx
      exact ⟨rfl, rfl, rfl, rfl, hcap, hread, data, hdata, fun h => absurd h hnil⟩
    · obtain ⟨hcap, hread, data, hdata⟩ := placePayload_enqueues hrx
      exact ⟨rfl, rfl, rfl, rfl, hcap, hread, data, hdata, fun h => absurd h hnil⟩

lemma refines_onAck {a : Smoltcp.Socket} (h : Refines s a) : Refines (s.onAck now repr) a := by
  rw [Socket.onAck]
  split <;> exact ⟨h.state, h.rx, h.tx, h.fin, h.timer⟩

lemma refines_challengeAckReply {a : Smoltcp.Socket} (h : Refines s a) : Refines (s.challengeAckReply now).1 a := by
  rw [Socket.challengeAckReply]
  split_ifs <;> exact ⟨h.state, h.rx, h.tx, h.fin, h.timer⟩

end Frames

lemma process_of_nextState {seg : Segment} {a : Smoltcp.Socket} {st : State} (hn : nextState seg a.state = some st)
    (hc : seg.control ≠ .rst) (hs : a.state ≠ .synSent) (hl : a.state ≠ .listen) :
    a.process seg =
      { state := st
        rxBuffer := a.rxBuffer.enqueueUnallocated seg.payload
        txWindow := a.txWindow + seg.ackLen
        rxFinReceived := a.rxFinReceived || seg.control == .fin } := by
  rw [Smoltcp.Socket.process, hn]
  simp [hc, hs, hl]

section Segments

variable {s : Socket} {a : Smoltcp.Socket} {now : ℤ} {repr : TcpRepr}

lemma Refines.move (h : Refines s a) {control : Control} {s₁ s₂ : Socket} {acked : Socket.Acked} {payload : List UInt8}
    {offset : ℕ} {r : Socket × Option TcpRepr} (hm : Socket.Move repr control s s₁)
    (hsyn : s.state = .synSent → payload = [] ∧ acked.len = 0)
    (hu : s₁.updateRemote now repr acked = some s₂) (hp : s₂.takePayload payload offset = some r) :
    ∃ seg, Refines r.1 (a.process seg) := by
  obtain ⟨hst₂, hrx₂, hfin₂, htx₂, htimer₂⟩ := updateRemote_frame hu
  obtain ⟨hst, htx, hfin, htimer, hcap, hread, data, hdata, hnil⟩ := takePayload_frame hp
  rw [hrx₂] at hcap hread hdata
  rw [hst₂] at hst
  rw [hfin₂] at hfin
  have hwindow : r.1.txBuffer.window = s₁.txBuffer.window + acked.len := by rw [htx, htx₂]
  have hclose : (∀ x, s₁.timer ≠ .close x) → ∀ x, r.1.timer ≠ .close x := by
    intro ht
    rw [htimer]
    exact htimer₂ ht
  -- The three moves of a synchronized socket differ only in the state that they lead to.
  have hgo : ∀ control st, control ≠ .rst → s.state ≠ .synSent → s.state ≠ .listen →
      nextState ⟨control, true, acked.len, false, data⟩ s.state = some st → s₁.state = st →
      s₁.rxBuffer = s.rxBuffer → s₁.txBuffer = s.txBuffer → s₁.timer = s.timer →
      s₁.rxFinReceived = (s.rxFinReceived || control == .fin) → ∃ seg, Refines r.1 (a.process seg) := by
    intro control st hc hs hl hn hst₁ hrx₁ htx₁ htimer₁ hfin₁
    refine ⟨⟨control, true, acked.len, false, data⟩, ?_⟩
    rw [process_of_nextState (h.state ▸ hn) hc (h.state ▸ hs) (h.state ▸ hl)]
    refine ⟨hst₁.symm.trans hst.symm, ?_, ?_, ?_, hclose (htimer₁ ▸ h.timer)⟩
    · exact h.rx.enqueue (hcap.trans (by rw [hrx₁])) (hread.trans (by rw [hrx₁])) (hdata.trans (by rw [hrx₁]))
    · rw [hwindow, htx₁, h.tx]
    · rw [hfin, hfin₁, h.fin]
  cases hm with
  | syn hs hc =>
    obtain ⟨hpayload, hlen⟩ := hsyn hs
    refine ⟨⟨.syn, repr.ackNumber.isSome, 0, false, []⟩, ?_⟩
    have hprocess : a.process ⟨.syn, repr.ackNumber.isSome, 0, false, []⟩ =
        { a with state := if repr.ackNumber.isSome then .established else .synReceived } := by
      rw [Smoltcp.Socket.process]
      cases repr.ackNumber <;> simp [h.state, hs, nextState]
    rw [hprocess]
    refine ⟨hst.symm, ⟨h.rx.capacity.trans hcap.symm, h.rx.readAt.trans hread.symm, ?_⟩, ?_, h.fin.trans hfin.symm,
      hclose h.timer⟩
    · rw [hdata, hnil hpayload, List.append_nil]
      exact h.rx.toList
    · rw [hwindow, hlen, Nat.add_zero]
      exact h.tx
  | ack hs hc =>
    exact hgo .none .established (by simp) (by simp [hs]) (by simp [hs]) (by simp [hs, nextState]) rfl rfl rfl rfl
      (by simp [Socket.establish])
  | data hs hc =>
    rcases hs with hs | hs
    · exact hgo .none .established (by simp) (by simp [hs]) (by simp [hs]) (by simp [hs, nextState]) hs rfl rfl rfl (by simp)
    · exact hgo .none .closeWait (by simp) (by simp [hs]) (by simp [hs]) (by simp [hs, nextState]) hs rfl rfl rfl (by simp)
  | fin hs hc =>
    rcases hs with hs | hs
    · exact hgo .fin .closeWait (by simp) (by simp [hs]) (by simp [hs]) (by simp [hs, nextState]) rfl rfl rfl rfl
        (by simp [Socket.takeFin])
    · exact hgo .fin .closeWait (by simp) (by simp [hs]) (by simp [hs]) (by simp [hs, nextState]) rfl rfl rfl rfl
        (by simp [Socket.takeFin])

lemma Refines.close (h : Refines s a) (hs : s.Client) :
    ∃ seg, Refines s.receiveRst (a.process seg) := by
  refine ⟨⟨.rst, true, 0, false, []⟩, ?_⟩
  have hn : nextState ⟨.rst, true, 0, false, []⟩ a.state = some .closed := by
    rw [h.state]
    rcases hs with hs | hs | hs | hs <;> simp [hs, nextState]
  rw [Smoltcp.Socket.process, hn]
  exact ⟨rfl, h.rx, h.tx, h.fin, h.timer⟩

lemma Refines.processSegment (h : Refines s a) (hs : s.Client) {payload : List UInt8} {offset : ℕ}
    {r : Socket × Option TcpRepr} (hsyn : s.state = .synSent → payload = [] ∧ (s.acked repr).len = 0)
    (hr : s.processSegment now repr payload offset = some r) :
    Refines r.1 a ∨ ∃ seg, Refines r.1 (a.process seg) := by
  have hack : Refines (s.onAck now repr) a := refines_onAck h
  have hs' : (s.onAck now repr).Client := by rwa [Socket.Client, Socket.onAck_state]
  rcases Socket.processSegment_eq_some hs hr with rfl | rfl | ⟨s', s'', _, hm, hu, hp⟩
  · exact Or.inr (hack.close hs')
  · exact Or.inl hack
  · exact Or.inr (hack.move hm (by rwa [Socket.onAck_state]) hu hp)

lemma Refines.process (h : Refines s a) {base : SeqNumber} {written : List UInt8}
    (hs : Sending base written s.sendView) {r : Socket × Option TcpRepr} (hr : s.process now repr = some r) :
    Refines r.1 a ∨ ∃ seg, Refines r.1 (a.process seg) := by
  rcases Socket.process_eq_some hr with ⟨hr, _⟩ | ⟨timer, rfl, ht⟩ | ⟨hne, hc, hr⟩
  · exact Or.inl (hr ▸ h)
  · have htimer : timer = s.timer := by
      apply ht
      cases hs with
      | closed hst => simp [show s.state = _ from hst]
      | opening hst => rcases hst with hst | hst <;> simp [show s.state = _ from hst]
      | opened hst => rcases hst with hst | hst <;> simp [show s.state = _ from hst]
    subst htimer
    exact Or.inl (refines_challengeAckReply ⟨h.state, h.rx, h.tx, h.fin, h.timer⟩)
  · have hclient : s.Client := by
      cases hs with
      | closed hst => exact absurd hst hne
      | opening hst => exact hst.elim Or.inl fun hst => Or.inr (Or.inl hst)
      | opened hst => exact Or.inr (Or.inr hst)
    rcases hr with ⟨hst, hr⟩ | ⟨hst, _, payload, offset, _, hr⟩
    · by_cases hrst : repr.control = .rst
      · refine h.processSegment hclient (fun _ => ⟨rfl, ?_⟩) hr
        rw [Socket.acked, if_pos hrst]
      · refine h.processSegment hclient (fun _ => ⟨rfl, ?_⟩) hr
        exact acked_opening (Or.inl hst) ((checkAck_opening (Or.inl hst) hc hrst).imp_right And.right)
    · have h' : Refines (s.noteSeq repr.seqNumber) a := ⟨h.state, h.rx, h.tx, h.fin, h.timer⟩
      exact h'.processSegment hclient (fun hst' => absurd hst' hst) hr

end Segments

section Calls

variable {s : Socket} {a : Smoltcp.Socket}

lemma Refines.sendSlice (h : Refines s a) (data : List UInt8) :
    (a.sendSlice data).1 = (s.sendSlice data).1 ∧ Refines (s.sendSlice data).2 (a.sendSlice data).2 := by
  obtain ⟨hcount, hlist, hcap⟩ := RandomAccess.enqueueSlice_spec data s.txBuffer
  have hmay : a.maySend = s.maySend := by rw [Smoltcp.Socket.maySend, Socket.maySend, h.state]
  rw [Smoltcp.Socket.sendSlice, Socket.sendSlice, hmay]
  by_cases hm : s.maySend = true
  · rw [if_pos hm, if_pos hm]
    have hlen := congrArg List.length hlist
    rw [List.length_append, List.length_take, RingBuffer.toList_length, RingBuffer.toList_length] at hlen
    have hwindow : (RandomAccess.enqueueSlice data s.txBuffer).2.window =
        s.txBuffer.window - min s.txBuffer.window data.length := by
      simp only [RingBuffer.window] at hlen ⊢
      rw [hlen, hcap]
      omega
    refine ⟨?_, h.state, h.rx, ?_, h.fin, ?_⟩
    · change some (min a.txWindow data.length) = some (RandomAccess.enqueueSlice data s.txBuffer).1
      rw [hcount, h.tx]
    · change a.txWindow - min a.txWindow data.length = (RandomAccess.enqueueSlice data s.txBuffer).2.window
      rw [hwindow, h.tx]
    · intro x
      dsimp only
      split_ifs
      · simp [Timer.setForZeroWindowProbe]
      · exact h.timer x
  · rw [if_neg hm, if_neg hm]
    exact ⟨rfl, h⟩

lemma Refines.recv (h : Refines s a) : a.recv.1 = s.recv.1 ∧ Refines s.recv.2 a.recv.2 := by
  have hmay : a.mayRecv = s.mayRecv := by
    rw [Smoltcp.Socket.mayRecv, Socket.mayRecv, Smoltcp.Socket.canRecv, Socket.canRecv, h.state, h.rx.isEmpty]
  obtain ⟨hdata, hrx⟩ := h.rx.dequeueMany
  rw [Smoltcp.Socket.recv, Socket.recv, hmay]
  by_cases hm : s.mayRecv = true
  · rw [if_pos hm, if_pos hm]
    exact ⟨congrArg some hdata, h.state, hrx, h.tx, h.fin, h.timer⟩
  · rw [if_neg hm, if_neg hm]
    exact ⟨rfl, h⟩

lemma refines_expire (h : Refines s a) (mtu : Mtu) (now : ℤ) : Refines (s.expire mtu now) a := by
  rw [Socket.expire]
  split_ifs
  · exact ⟨h.state, h.rx, h.tx, h.fin, by simp⟩
  · exact h

lemma emitted_ne_close (h : ∀ x, s.timer ≠ .close x) (now : ℤ) (repr : TcpRepr) :
    ∀ x, (s.emitted now repr).timer ≠ .close x := by
  intro x
  rw [Socket.emitted]
  by_cases hprobe : s.hasData = true ∧ s.isZeroWindowProbe now = true
  · rw [if_pos hprobe]
    dsimp only
    cases ht : s.timer with
    | close e => exact absurd ht (h e)
    | _ => simp [Timer.rewindZeroWindowProbe]
  · rw [if_neg hprobe]
    dsimp only
    by_cases hset : 0 < repr.segmentLen ∧ s.timer.isRetransmit = false
    · rw [if_pos hset]
      cases ht : s.timer with
      | close e => exact absurd ht (h e)
      | _ => simp [Timer.setForRetransmit]
    · rw [if_neg hset]
      exact h x

lemma refines_emitted (h : Refines s a) (now : ℤ) (repr : TcpRepr) : Refines (s.emitted now repr) a := by
  have hview : (s.emitted now repr).state = s.state ∧ (s.emitted now repr).rxBuffer = s.rxBuffer ∧
      (s.emitted now repr).txBuffer = s.txBuffer ∧ (s.emitted now repr).rxFinReceived = s.rxFinReceived := by
    rw [Socket.emitted]
    by_cases hprobe : s.hasData = true ∧ s.isZeroWindowProbe now = true
    · rw [if_pos hprobe]
      exact ⟨rfl, rfl, rfl, rfl⟩
    · rw [if_neg hprobe]
      exact ⟨rfl, rfl, rfl, rfl⟩
  obtain ⟨hst, hrx, htx, hfin⟩ := hview
  exact ⟨h.state.trans hst.symm, hrx ▸ h.rx, htx ▸ h.tx, h.fin.trans hfin.symm, emitted_ne_close h.timer now repr⟩

lemma Refines.dispatch (h : Refines s a) {mtu : Mtu} {now : ℤ} {ok : Bool} {r : Socket × Option TcpRepr}
    (hr : s.dispatch mtu now ok = some r) : Refines r.1 a := by
  have h' := refines_expire h mtu now
  rw [Socket.dispatch] at hr
  by_cases ht : s.tuple = false
  · rw [if_pos ht] at hr
    cases hr
    exact h
  · rw [if_neg ht] at hr
    obtain ⟨d, hd, hr⟩ := Option.bind_eq_some_iff.mp hr
    cases d with
    | nothing =>
      cases hr
      exact h'
    | close =>
      have hclose := Socket.decision_eq_close hd
      cases htimer : (s.expire mtu now).timer with
      | close e => exact absurd htimer (h'.timer e)
      | _ => rw [htimer] at hclose; cases hclose
    | send =>
      obtain ⟨repr, _, rfl⟩ := Option.map_eq_some_iff.mp hr
      cases ok
      · exact h'
      · exact refines_emitted h' now repr

end Calls

inductive Call
  | segment (seg : Segment)
  | send (data : List UInt8)
  | recv
  | abort
  deriving DecidableEq

structure Observed where
  socket : Smoltcp.Socket
  written : List UInt8
  read : List UInt8

namespace Observed

def connected (rxCapacity txCapacity : ℕ) : Observed := ⟨.connected rxCapacity txCapacity, [], []⟩

def step (o : Observed) : Call → Observed
  | .segment seg => { o with socket := o.socket.process seg }
  | .send data =>
    { o with
      socket := (o.socket.sendSlice data).2
      written := o.written ++ data.take ((o.socket.sendSlice data).1.getD 0) }
  | .recv => { o with socket := o.socket.recv.2, read := o.read ++ o.socket.recv.1.getD [] }
  | .abort => { o with socket := o.socket.abort }

end Observed

structure Matches (base : SeqNumber) (t : Trace) (o : Observed) : Prop where
  sending : SendInv base t
  socket : Refines t.socket o.socket
  written : t.written = o.written
  read : t.read = o.read

def Seen (t : Trace) (e : Event) (calls : List Call) : Prop :=
  if t.panicked = true then calls = []
  else
    match e with
    | .segment _ _ => calls = [] ∨ ∃ seg, calls = [.segment seg]
    | .dispatch _ _ => calls = []
    | .send data => calls = [.send data]
    | .recv => calls = [.recv]
    | .abort => calls = [.abort]

lemma Matches.step {base : SeqNumber} {t : Trace} {o : Observed} (h : Matches base t o) (mtu : Mtu) (e : Event) :
    ∃ calls, Seen t e calls ∧ Matches base (t.step mtu e) (run Observed.step o calls) := by
  have hsend := h.sending.step mtu e
  by_cases hp : t.panicked = true
  · refine ⟨[], by simp [Seen, hp], ?_⟩
    rw [Trace.step, if_pos hp]
    exact h
  · rw [Trace.step, if_neg hp] at hsend ⊢
    simp only [Seen, if_neg hp]
    cases e with
    | segment now repr =>
      cases hr : t.socket.process now repr with
      | none =>
        rw [Trace.call, hr] at hsend
        refine ⟨[], Or.inl rfl, ?_⟩
        rw [Trace.call, hr]
        exact ⟨hsend, h.socket, h.written, h.read⟩
      | some r =>
        rw [Trace.call, hr] at hsend
        rw [Trace.call, hr]
        rcases h.socket.process h.sending.sending hr with hsame | ⟨seg, hseg⟩
        · exact ⟨[], Or.inl rfl, hsend, hsame, h.written, h.read⟩
        · exact ⟨[.segment seg], Or.inr ⟨seg, rfl⟩, hsend, hseg, h.written, h.read⟩
    | dispatch now ok =>
      cases hr : t.socket.dispatch mtu now ok with
      | none =>
        rw [Trace.call, hr] at hsend
        refine ⟨[], rfl, ?_⟩
        rw [Trace.call, hr]
        exact ⟨hsend, h.socket, h.written, h.read⟩
      | some r =>
        rw [Trace.call, hr] at hsend
        rw [Trace.call, hr]
        exact ⟨[], rfl, hsend, h.socket.dispatch hr, h.written, h.read⟩
    | send data =>
      obtain ⟨hcount, hsocket⟩ := h.socket.sendSlice data
      refine ⟨[.send data], rfl, hsend, hsocket, ?_, h.read⟩
      change t.written ++ _ = o.written ++ _
      rw [h.written, hcount]
    | recv =>
      obtain ⟨hdata, hsocket⟩ := h.socket.recv
      refine ⟨[.recv], rfl, hsend, hsocket, h.written, ?_⟩
      change t.read ++ _ = o.read ++ _
      rw [h.read, hdata]
    | abort =>
      exact ⟨[.abort], rfl, hsend, ⟨rfl, h.socket.rx, h.socket.tx, h.socket.fin, h.socket.timer⟩, h.written, h.read⟩

/-- Every run of the whole socket looks to the program, call by call, like a run of the socket that
`conn_step` sees: the same octets are taken from it and given to it, and the two stay in the same state. -/
theorem refines_run (mtu : Mtu) (s : Socket) (seq : SeqNumber) (events : List Event) :
    ∃ calls : List (List Call), calls.length = events.length ∧ ∀ k ≤ events.length,
      let t := run (Trace.step mtu) (Trace.connected s seq) (events.take k)
      let o := run Observed.step (Observed.connected s.rxBuffer.capacity s.txBuffer.capacity) (calls.take k).flatten
      (Refines t.socket o.socket ∧ t.written = o.written ∧ t.read = o.read) ∧
        ∀ e seen, events[k]? = some e → calls[k]? = some seen → Seen t e seen := by
  have h₀ : Matches (SerialNumbers.place seq 1) (Trace.connected s seq)
      (Observed.connected s.rxBuffer.capacity s.txBuffer.capacity) :=
    ⟨.connected s seq, ⟨rfl, ⟨rfl, rfl, rfl⟩, rfl, rfl, by simp [Trace.connected, Socket.synSent]⟩, rfl, rfl⟩
  obtain ⟨calls, hlen, h⟩ := run_simulation (R := Matches (SerialNumbers.place seq 1)) (C := Seen)
    (fun _ _ e h => h.step mtu e) h₀ events
  refine ⟨calls, hlen, fun k hk => ?_⟩
  obtain ⟨hm, hseen⟩ := h k hk
  exact ⟨⟨hm.socket, hm.written, hm.read⟩, hseen⟩

end SmoltcpS3.Tcp

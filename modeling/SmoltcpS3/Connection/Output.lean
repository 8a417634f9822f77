import SmoltcpS3.Connection.Stages

/-! The output side of a connection: the socket gets the produced chunks in order, without the
scratch padding, and the request only once. -/

namespace SmoltcpS3.Connection

open EventRuns

def Trace.produced (t : Trace) : List UInt8 := (t.chunks.map Chunk.bytes).flatten

lemma Trace.produced_snoc (t : Trace) (c : Chunk) :
    Trace.produced { t with chunks := t.chunks ++ [c] } = t.produced ++ c.bytes := by
  simp [produced]

namespace Session

def RoundFits (s : Session) (r : UnbufferedStatus) : Prop :=
  match r.state with
  | some (.encodeTlsData out) => s.conn.outgoing.length + (out.getD []).length ≤ tlsBufCap
  | some (.writeTraffic (some out)) => out.length ≤ s.conn.request.length + 128
  | _ => True

def Fits (cfg : Config) (s : Session) : Event → Prop
  | .segment _ => True
  | .step now tls => cfg.plainHttp = false → s.conn.done = false →
      PumpAlong RoundFits ((s.settle now).transfer cfg) tls

structure Flowing (s : Session) : Prop where
  intact : s.trace.accepted ++ s.conn.outgoing = s.trace.produced
  once : s.trace.chunks.countP Chunk.ofRequest = s.conn.requestQueued.toNat
  notClean : s.conn.closedCleanly = false

structure Stopped (s : Session) : Prop where
  intact : ∃ pending pad, s.conn.outgoing = pending ++ pad ∧
    s.trace.accepted ++ pending = s.trace.produced ∧ (s.conn.done = false → pad = [])
  once : s.trace.chunks.countP Chunk.ofRequest = s.conn.requestQueued.toNat
  notClean : s.conn.closedCleanly = false

structure OutputInv (s : Session) : Prop where
  intact : ∃ pending pad, s.conn.outgoing = pending ++ pad ∧
    s.trace.accepted ++ pending = s.trace.produced ∧ (s.conn.done = false → pad = [])
  once : s.trace.chunks.countP Chunk.ofRequest = s.conn.requestQueued.toNat
  clean : s.conn.closedCleanly = true → s.conn.done = true ∧ s.trace.accepted = s.trace.produced

lemma Flowing.stopped {s : Session} (h : s.Flowing) : s.Stopped :=
  ⟨⟨s.conn.outgoing, [], by simp, h.intact, fun _ => rfl⟩, h.once, h.notClean⟩

lemma Flowing.retouch {s : Session} (h : s.Flowing) (body : Http.BodyCount) (k : Counters)
    (inc : List UInt8) (hd : Bool) : (s.retouch body k inc hd).Flowing :=
  ⟨h.intact, h.once, h.notClean⟩

lemma Flowing.settle {s : Session} (h : s.Flowing) (now : ℤ) : (s.settle now).Flowing := by
  obtain ⟨b, k, he⟩ := settle_eq now s
  rw [he]
  exact ⟨h.intact, h.once, h.notClean⟩

lemma Flowing.queueRequest {s : Session} (h : s.Flowing) (cfg : Config) :
    (s.queueRequest cfg).Flowing := by
  rw [Session.queueRequest]
  split_ifs with hq
  · refine ⟨?_, ?_, h.notClean⟩
    · rw [Trace.produced_snoc, ← h.intact, List.append_assoc]
    · have := h.once
      rw [hq.2.1] at this
      simpa using this
  · exact h

lemma Flowing.pushOutgoing {s : Session} (h : s.Flowing) : s.pushOutgoing.Flowing := by
  rw [pushOutgoing_eq]
  refine ⟨?_, h.once, h.notClean⟩
  change s.trace.accepted ++ s.conn.outgoing.take s.pushed ++ s.conn.outgoing.drop s.pushed = _
  rw [List.append_assoc, List.take_append_drop]
  exact h.intact

lemma Flowing.drainSocket {s : Session} (h : s.Flowing) : s.drainSocket.Flowing := by
  obtain ⟨r, _, he⟩ := drainSocket_eq s
  rw [he]
  exact ⟨h.intact, h.once, h.notClean⟩

lemma Flowing.transfer {s : Session} (h : s.Flowing) (cfg : Config) : (s.transfer cfg).Flowing := by
  have hd := (h.queueRequest cfg).pushOutgoing.drainSocket
  rw [Session.transfer]
  obtain ⟨body, inc, he⟩ :=
    stubCount_eq cfg (((s.queueRequest cfg).pushOutgoing).drainSocket)
  obtain ⟨body', k, inc', he'⟩ :=
    plainCount_eq cfg ((((s.queueRequest cfg).pushOutgoing).drainSocket).stubCount cfg)
  rw [he', he]
  exact (hd.retouch _ _ _ _).retouch _ _ _ _

lemma Flowing.encode {s : Session} (h : s.Flowing) (hle : s.conn.outgoing.length ≤ tlsBufCap)
    (out : List UInt8) : (s.encode out).Flowing := by
  refine ⟨?_, ?_, h.notClean⟩
  · rw [encode_outgoing hle, ← List.append_assoc]
    change s.trace.accepted ++ s.conn.outgoing ++ out = _
    rw [h.intact]
    exact (Trace.produced_snoc s.trace ⟨false, out⟩).symm
  · simpa [Session.encode, logChunk] using! h.once

lemma Flowing.encrypt {s : Session} (h : s.Flowing) (hq : s.conn.requestQueued = false)
    (out : List UInt8) : (s.encrypt out).Flowing := by
  refine ⟨?_, ?_, h.notClean⟩
  · rw [encrypt_outgoing, ← List.append_assoc]
    change s.trace.accepted ++ s.conn.outgoing ++ out = _
    rw [h.intact]
    exact (Trace.produced_snoc s.trace ⟨true, out⟩).symm
  · have := h.once
    rw [hq] at this
    simpa [Session.encrypt, logChunk] using! this

lemma Flowing.pumpOnce {s : Session} (h : s.Flowing) (r : UnbufferedStatus) (hf : s.RoundFits r) :
    (s.pumpOnce r).1.Flowing ∨ ((s.pumpOnce r).2 = false ∧ (s.pumpOnce r).1.Stopped) := by
  obtain ⟨body, k, inc, hd, _, hr⟩ := pumpOnce_cases s r
  have ht := h.retouch body k inc hd
  rcases hr with hr | ⟨f, _, hr⟩ | ⟨out, hs, hr⟩ | ⟨hs, hr⟩ | ⟨out, hs, hq, _, hr⟩ | ⟨hs, hq, hr⟩
  · exact Or.inl (hr ▸ ht)
  · exact Or.inl (hr ▸ ⟨ht.intact, ht.once, ht.notClean⟩)
  · refine Or.inl (hr ▸ ht.encode ?_ out)
    simp only [RoundFits, hs, Option.getD_some] at hf
    exact (Nat.le_add_right _ _).trans hf
  · refine Or.inr ⟨by simp [Session.pumpOnce, hs], ?_⟩
    rw [hr]
    refine ⟨⟨s.conn.outgoing, _, encodeFailed_outgoing ?_, ht.intact, by simp⟩, ht.once, ht.notClean⟩
    simpa [RoundFits, hs] using! hf
  · exact Or.inl (hr ▸ ht.encrypt hq out)
  · refine Or.inr ⟨by simp [Session.pumpOnce, hs, hq], ?_⟩
    rw [hr]
    exact ⟨⟨s.conn.outgoing, _, encryptFailed_outgoing _, ht.intact, by simp⟩, ht.once, ht.notClean⟩

lemma Flowing.runPump {s : Session} (h : s.Flowing) (cfg : Config) {tls : List UnbufferedStatus}
    (hf : cfg.plainHttp = false → PumpAlong RoundFits s tls) : (s.runPump cfg tls).Stopped := by
  rw [Session.runPump]
  split_ifs with hp
  · exact h.stopped
  · refine pump_rule (I := Flowing) (J := Stopped) (fun _ => Flowing.stopped) ?_ ?_
      (hf (by simpa using hp)) h
    · intro s r hi hr hp
      exact (hi.pumpOnce r hr).resolve_right (by simp [hp])
    · intro s r hi hr _
      exact (hi.pumpOnce r hr).elim Flowing.stopped And.right

lemma Stopped.closeCheck {s : Session} (h : s.Stopped) : s.closeCheck.OutputInv := by
  obtain ⟨pending, pad, ho, ha, hp⟩ := h.intact
  rcases closeCheck_cases s with he | ⟨_, _, _, hempty, _, he⟩
  · rw [he]
    exact ⟨⟨pending, pad, ho, ha, hp⟩, h.once, fun hc => absurd hc (by simp [h.notClean])⟩
  · rw [he]
    rw [ho, List.append_eq_nil_iff] at hempty
    refine ⟨⟨pending, pad, ho, ha, by simp⟩, h.once, fun _ => ⟨rfl, ?_⟩⟩
    simpa [hempty.1] using ha

lemma OutputInv.flowing {s : Session} (h : s.OutputInv) (hd : s.conn.done = false) : s.Flowing := by
  obtain ⟨pending, pad, ho, ha, hp⟩ := h.intact
  refine ⟨?_, h.once, ?_⟩
  · rw [ho, hp hd, List.append_nil, ha]
  · by_contra hc
    have := (h.clean (by simpa using hc)).1
    simp [hd] at this

theorem OutputInv.next {cfg : Config} {s : Session} (h : s.OutputInv) (e : Event)
    (hf : s.Fits cfg e) : (s.next cfg e).OutputInv := by
  cases e with
  | segment seg => exact ⟨h.intact, h.once, h.clean⟩
  | step now tls =>
    rcases connStep_cases cfg now tls s with ⟨_, he⟩ | ⟨hd, _, he⟩ | ⟨hd, _, he⟩
    · simpa only [Session.next, he] using h
    · obtain ⟨b, k, hs⟩ := settle_eq now s
      have hflow := (h.flowing hd).settle now
      simp only [Session.next, he]
      exact ⟨⟨_, [], by simp [giveUp], hflow.intact, fun _ => rfl⟩, hflow.once,
        fun hc => absurd hc (by simp [giveUp, hflow.notClean])⟩
    · simp only [Session.next, he]
      exact ((((h.flowing hd).settle now).transfer cfg).runPump cfg fun hp => hf hp hd).closeCheck

end Session

structure PlainOutput (request : List UInt8) (s : Session) : Prop where
  request_eq : s.conn.request = request
  chunks_eq : ∀ c ∈ s.trace.chunks, c = ⟨true, request⟩

lemma PlainOutput.transfer {request : List UInt8} {s : Session} (h : PlainOutput request s)
    (cfg : Config) : PlainOutput request (s.transfer cfg) := by
  have hq : PlainOutput request (s.queueRequest cfg) := by
    rw [Session.queueRequest]
    split_ifs
    · refine ⟨h.request_eq, fun c hc => ?_⟩
      rcases List.mem_append.mp hc with hc | hc
      · exact h.chunks_eq c hc
      · rw [List.mem_singleton.mp hc, h.request_eq]
    · exact h
  rw [Session.transfer]
  obtain ⟨r, _, hr⟩ := Session.drainSocket_eq (s.queueRequest cfg).pushOutgoing
  obtain ⟨_, _, hs⟩ := Session.stubCount_eq cfg ((s.queueRequest cfg).pushOutgoing.drainSocket)
  obtain ⟨_, _, _, hp⟩ := Session.plainCount_eq cfg
    (((s.queueRequest cfg).pushOutgoing.drainSocket).stubCount cfg)
  rw [hp, hs, hr, Session.pushOutgoing_eq]
  exact ⟨hq.request_eq, hq.chunks_eq⟩

lemma PlainOutput.next {cfg : Config} (hp : cfg.plainHttp = true) {request : List UInt8}
    {s : Session} (h : PlainOutput request s) (e : Event) : PlainOutput request (s.next cfg e) := by
  cases e with
  | segment seg => exact ⟨h.request_eq, h.chunks_eq⟩
  | step now tls =>
    obtain ⟨_, _, hs⟩ := Session.settle_eq now s
    have ht : PlainOutput request (s.settle now) := hs ▸ ⟨h.request_eq, h.chunks_eq⟩
    rcases Session.connStep_cases cfg now tls s with ⟨_, he⟩ | ⟨_, _, he⟩ | ⟨_, _, he⟩
    · simpa only [Session.next, he] using h
    · simp only [Session.next, he]
      exact ⟨ht.request_eq, ht.chunks_eq⟩
    · simp only [Session.next, he, Session.runPump, hp, if_true]
      have hx := ht.transfer cfg
      rcases Session.closeCheck_cases ((s.settle now).transfer cfg) with hc | ⟨_, _, _, _, _, hc⟩
      · rw [hc]
        exact hx
      · rw [hc]
        exact ⟨hx.request_eq, hx.chunks_eq⟩

lemma Opening.outputInv (o : Opening) : o.session.OutputInv :=
  ⟨⟨[], [], rfl, rfl, fun _ => rfl⟩, rfl, fun h => by simp [Opening.session] at h⟩

theorem output_stream_intact (cfg : Config) (o : Opening) (es : List Event)
    (hf : Along (Session.next cfg) (Session.Fits cfg) o.session es) :
    let s := sessionAfter cfg o es
    s.trace.accepted <+: s.trace.produced ∧
      s.trace.chunks.countP Chunk.ofRequest ≤ 1 ∧
      (cfg.plainHttp = true → ∀ c ∈ s.trace.chunks, c = ⟨true, o.request⟩) ∧
      (s.conn.done = false → s.trace.accepted ++ s.conn.outgoing = s.trace.produced) ∧
      (s.conn.closedCleanly = true → s.trace.accepted = s.trace.produced) := by
  intro s
  have h : s.OutputInv := run_invariant (fun _ e hi he => hi.next e he) o.outputInv hf
  refine ⟨?_, ?_, ?_, fun hd => (h.flowing hd).intact, fun hc => (h.clean hc).2⟩
  · obtain ⟨pending, pad, _, ha, _⟩ := h.intact
    exact ⟨pending, ha⟩
  · rw [h.once]
    exact Bool.toNat_le s.conn.requestQueued
  · intro hp
    exact (run_preserves (I := PlainOutput o.request) (fun _ e hi => hi.next hp e) es
      ⟨rfl, by simp [Opening.session]⟩).chunks_eq

def tlsOutputRun : List Event :=
  [.segment ⟨.syn, true, 0, false, []⟩,
    .step 1 [⟨0, some (.encodeTlsData (some [22, 3, 1]))⟩, ⟨0, some .transmitTlsData⟩],
    .step 2 [⟨0, some (.writeTraffic (some [23, 3, 3]))⟩, ⟨0, some (.writeTraffic none)⟩]]

def tlsOpening : Opening := ⟨[71, 69, 84], 1, 0, 49152, 0, 16, 2, .zero⟩

theorem output_stream_intact_tls :
    let s := sessionAfter (.small false) tlsOpening tlsOutputRun
    s.trace.accepted = [22, 3] ∧ s.trace.accepted <+: s.trace.produced := by
  refine ⟨rfl, (output_stream_intact (.small false) tlsOpening tlsOutputRun ?_).1⟩
  refine And.intro trivial (And.intro (fun _ _ => ?_) (And.intro (fun _ _ => ?_) trivial))
  · exact And.intro (by decide : 3 ≤ tlsBufCap) fun _ => And.intro trivial fun _ => trivial
  · exact And.intro (by decide : 3 ≤ 3 + 128) fun _ => And.intro trivial fun _ => trivial

end SmoltcpS3.Connection

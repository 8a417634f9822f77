import SmoltcpS3.Tcp.Receive

/-! Whole runs of a socket whose segments come from one remote end, over a network that may lose, repeat,
cut and reorder them. -/

namespace SmoltcpS3.Tcp

open EventRuns SerialNumbers Smoltcp

def Trace.received (t : Trace) : ℕ := t.socket.recvView.received t.read

def Peer (base : SeqNumber) (stream : List UInt8) (t : Trace) : Event → Prop
  | .segment _ repr => ∃ a, Genuine base stream t.read t.socket repr a
  | _ => True

structure Delivering (base : SeqNumber) (stream : List UInt8) (seq : SeqNumber) (t : Trace) : Prop where
  sending : SendInv (place seq 1) t
  receiving : Receiving base stream t.read t.socket.recvView
  running : t.panicked = false

section Run

variable {mtu : Mtu} {base seq : SeqNumber} {stream : List UInt8} {t : Trace}

lemma Delivering.acked_le (h : Delivering base stream seq t) (hne : t.socket.state ≠ .closed) {repr : TcpRepr}
    (hc : t.socket.checkAck repr = .accept) (hr : repr.control ≠ .rst) :
    (t.socket.acked repr).len ≤ t.socket.txBuffer.length :=
  h.sending.sending.acked_le hne hc hr

lemma Delivering.process (h : Delivering base stream seq t) {repr : TcpRepr} {a : ℤ}
    (hg : Genuine base stream t.read t.socket repr a) (now : ℤ) :
    ∃ r, t.socket.process now repr = some r ∧ Processed base stream t.read r := by
  cases h.receiving with
  | closed hst hp hf =>
    have hst : t.socket.state = .closed := hst
    exact ⟨(t.socket, none), by rw [Socket.process, if_pos hst], h.receiving.processed⟩
  | opening hst hr hlen ha hf hack =>
    have hst : t.socket.state = .synSent := hst
    exact processed_synSent hst hr hlen ha hf hack hg (h.acked_le (by simp [hst])) now
  | opened ho =>
    exact ho.process hg (h.acked_le (by rcases ho.state_cases with hst | hst <;> simp [hst])) now

lemma Delivering.step (h : Delivering base stream seq t) {e : Event} (he : Peer base stream t e) :
    Delivering base stream seq (t.step mtu e) := by
  have hsend := h.sending.step mtu e
  have hrunning : t.panicked = false := h.running
  rw [Trace.step_running hrunning] at hsend ⊢
  refine ⟨hsend, ?_, ?_⟩
  · cases e with
    | segment now repr =>
      obtain ⟨a, hg⟩ := he
      obtain ⟨r, hr, hprocessed⟩ := h.process hg now
      rw [Trace.call, hr]
      exact hprocessed.receiving
    | dispatch now ok =>
      obtain ⟨r, hr, hreceiving⟩ := receiving_dispatch h.sending.sending h.receiving mtu now ok
      rw [Trace.call, hr]
      exact hreceiving
    | send data =>
      change Receiving base stream t.read (t.socket.sendSlice data).2.recvView
      rw [recvView_sendSlice]
      exact h.receiving
    | recv => exact receiving_recv h.receiving
    | abort => exact h.receiving.close
  · cases e with
    | segment now repr =>
      obtain ⟨a, hg⟩ := he
      obtain ⟨r, hr, _⟩ := h.process hg now
      rw [Trace.call, hr]
      exact hrunning
    | dispatch now ok =>
      obtain ⟨r, hr, _⟩ := receiving_dispatch h.sending.sending h.receiving mtu now ok
      rw [Trace.call, hr]
      exact hrunning
    | _ => exact hrunning

lemma Delivering.connected (base : SeqNumber) (stream : List UInt8) (s : Socket) (seq : SeqNumber) :
    Delivering base stream seq (Trace.connected s seq) :=
  ⟨.connected s seq, .opening rfl rfl rfl (Assembler.present_new) rfl rfl, rfl⟩

end Run

section Reordered

end Reordered

section Acknowledgements

variable {mtu : Mtu} {base seq : SeqNumber} {stream read : List UInt8} {s : Socket} {repr : TcpRepr}

end Acknowledgements

section Progress

variable {mtu : Mtu} {base seq : SeqNumber} {stream : List UInt8} {t : Trace}

end Progress

end SmoltcpS3.Tcp

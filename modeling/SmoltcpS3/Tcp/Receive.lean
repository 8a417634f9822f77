import SmoltcpS3.Tcp.Reassembly
import SmoltcpS3.Tcp.Send

/-! The receive half of a socket: the network may lose, repeat, cut and reorder what the remote end sends,
and the program still reads the stream of the remote end. -/

namespace SmoltcpS3.Tcp

open EventRuns SerialNumbers Smoltcp

structure RecvView where
  state : State
  assembler : Assembler assemblerMaxSegmentCount
  rxBuffer : RingBuffer UInt8
  rxFinReceived : Bool
  remoteSeqNo : SeqNumber
  remoteLastAck : Option SeqNumber
  remoteLastWin : UInt16
  remoteWinShift : Fin 15

def Socket.recvView (s : Socket) : RecvView :=
  ⟨s.state, s.assembler, s.rxBuffer, s.rxFinReceived, s.remoteSeqNo, s.remoteLastAck, s.remoteLastWin, s.remoteWinShift⟩

namespace RecvView

def lastWindow (v : RecvView) : ℕ := v.remoteLastWin.toNat <<< v.remoteWinShift.val

def scaledWindow (v : RecvView) : UInt16 := Socket.saturate16 (v.rxBuffer.window >>> v.remoteWinShift.val)

def received (v : RecvView) (read : List UInt8) : ℕ := read.length + v.rxBuffer.length + v.rxFinReceived.toNat

def acknowledged (v : RecvView) : RecvView :=
  { v with remoteLastAck := some (v.remoteSeqNo.add v.rxBuffer.length), remoteLastWin := v.scaledWindow }

def takeFin (v : RecvView) : RecvView :=
  { v with state := .closeWait, rxFinReceived := true, remoteSeqNo := v.remoteSeqNo.add 1 }

def recv (v : RecvView) : RecvView :=
  { v with rxBuffer := v.rxBuffer.dequeueMany.2, remoteSeqNo := v.remoteSeqNo.add v.rxBuffer.dequeueMany.1.length }

lemma lastWindow_lt (v : RecvView) : v.lastWindow < 2 ^ 30 := by
  have hwin : v.remoteLastWin.toNat < 2 ^ 16 := v.remoteLastWin.toNat_lt
  have hshift : v.remoteWinShift.val ≤ 14 := Nat.le_of_lt_succ v.remoteWinShift.isLt
  rw [lastWindow, Nat.shiftLeft_eq]
  calc v.remoteLastWin.toNat * 2 ^ _ ≤ v.remoteLastWin.toNat * 2 ^ 14 :=
        Nat.mul_le_mul_left _ (Nat.pow_le_pow_right (by omega) hshift)
    _ < 2 ^ 16 * 2 ^ 14 := by omega
    _ = 2 ^ 30 := by norm_num

lemma scaledWindow_le (v : RecvView) : v.scaledWindow.toNat <<< v.remoteWinShift.val ≤ v.rxBuffer.window := by
  have hsat : v.scaledWindow.toNat ≤ v.rxBuffer.window >>> v.remoteWinShift.val := by
    rw [scaledWindow, Socket.saturate16, UInt16.toNat_ofNat']
    exact (Nat.mod_le _ _).trans (Nat.min_le_left _ _)
  rw [Nat.shiftLeft_eq]
  rw [Nat.shiftRight_eq_div_pow] at hsat
  exact (Nat.mul_le_mul_right _ hsat).trans (Nat.div_mul_le_self _ _)

end RecvView

/-- The edge of the window that the remote end was last told of. Until the first acknowledgement, the
window of the SYN counts, which was not scaled. -/
structure Window (base : SeqNumber) (read : List UInt8) (v : RecvView) (A : ℤ) : Prop where
  ack : v.remoteLastAck = some (place base A)
  first : -1 ≤ A
  ack_le : A ≤ v.received read
  received_le : v.received read ≤ A + v.lastWindow + 1
  room : A = -1 ∨ A + v.lastWindow ≤ read.length + v.rxBuffer.capacity + v.rxFinReceived.toNat

/-- `base` is the sequence number of the first octet of the stream, one after the SYN. While a segment
is processed its FIN counts before its payload does. -/
structure Aligned (base : SeqNumber) (stream read : List UInt8) (v : RecvView) : Prop where
  state : v.state = if v.rxFinReceived then .closeWait else .established
  seq : v.remoteSeqNo = place base ↑(read.length + v.rxFinReceived.toNat)
  consumed : read <+: stream
  holds : Holds stream read.length v.assembler v.rxBuffer
  gap : ¬ v.assembler.Present 0

structure Open (base : SeqNumber) (stream read : List UInt8) (v : RecvView) : Prop extends
    Aligned base stream read v where
  fin : v.rxFinReceived = true → read.length + v.rxBuffer.length = stream.length
  window : ∃ A, Window base read v A

inductive Receiving (base : SeqNumber) (stream read : List UInt8) (v : RecvView) : Prop
  | closed (h : v.state = .closed) (hp : read ++ v.rxBuffer.toList <+: stream)
      (hf : v.rxFinReceived = true → read ++ v.rxBuffer.toList = stream)
  | opening (h : v.state = .synSent) (hr : read = []) (hlen : v.rxBuffer.length = 0)
      (ha : ∀ x, ¬ v.assembler.Present x) (hf : v.rxFinReceived = false) (hack : v.remoteLastAck = none)
  | opened (h : Open base stream read v)

section Views

variable {base : SeqNumber} {stream read : List UInt8} {v : RecvView}

lemma Aligned.stream_prefix (h : Aligned base stream read v) : read ++ v.rxBuffer.toList <+: stream := by
  obtain ⟨rest, hrest⟩ := h.consumed
  have hdrop : stream.drop read.length = rest := by rw [← hrest, List.drop_left]
  have hrx := h.holds.toList_prefix
  rw [hdrop] at hrx
  rw [← hrest]
  exact (List.prefix_append_right_inj read).mpr hrx

lemma Aligned.length_le (h : Aligned base stream read v) : read.length + v.rxBuffer.length ≤ stream.length := by
  simpa using h.stream_prefix.length_le

lemma Open.complete (h : Open base stream read v) (hf : v.rxFinReceived = true) : read ++ v.rxBuffer.toList = stream := by
  apply h.stream_prefix.eq_of_length
  simpa using h.fin hf

lemma Aligned.windowStart (h : Aligned base stream read v) :
    v.remoteSeqNo.add v.rxBuffer.length = place base (v.received read) := by
  rw [h.seq, add_place, RecvView.received]
  congr 1
  push_cast
  ring

lemma Window.windowEnd {s : Socket} {A : ℤ} (h : Window base read s.recvView A) :
    s.windowEnd = place base (A + s.recvView.lastWindow) := by
  rw [Socket.windowEnd, show s.remoteLastAck = _ from h.ack]
  exact add_place base A _

lemma Receiving.stream_prefix (h : Receiving base stream read v) :
    read ++ v.rxBuffer.toList <+: stream ∧ (v.rxFinReceived = true → read ++ v.rxBuffer.toList = stream) := by
  cases h with
  | closed _ hp hf => exact ⟨hp, hf⟩
  | opening _ hr hlen _ hf =>
    have hlist : v.rxBuffer.toList = [] := List.eq_nil_of_length_eq_zero (by simpa using hlen)
    rw [hr, hlist, hf]
    exact ⟨List.nil_prefix, by simp⟩
  | opened h => exact ⟨h.stream_prefix, h.complete⟩

lemma Receiving.close (h : Receiving base stream read v) : Receiving base stream read { v with state := .closed } :=
  .closed rfl h.stream_prefix.1 h.stream_prefix.2

lemma Aligned.acknowledged (h : Aligned base stream read v)
    (hf : v.rxFinReceived = true → read.length + v.rxBuffer.length = stream.length) :
    Open base stream read v.acknowledged := by
  have hroom : v.acknowledged.lastWindow ≤ v.rxBuffer.window := v.scaledWindow_le
  have hwindow : v.rxBuffer.window = v.rxBuffer.capacity - v.rxBuffer.length := rfl
  have hle := v.rxBuffer.length_le
  have hr : v.received read = read.length + v.rxBuffer.length + v.rxFinReceived.toNat := rfl
  refine ⟨⟨h.state, h.seq, h.consumed, h.holds, h.gap⟩, hf, v.received read, ?_⟩
  refine ⟨congrArg some h.windowStart, by omega, le_refl _, ?_, Or.inr ?_⟩
  · have : v.acknowledged.received read = v.received read := rfl
    omega
  · have hc : v.acknowledged.rxBuffer.capacity = v.rxBuffer.capacity := rfl
    have hf : v.acknowledged.rxFinReceived.toNat = v.rxFinReceived.toNat := rfl
    omega

end Views

section Window

variable {base : SeqNumber} {s : Socket} {repr : TcpRepr} {W E a : ℤ}

lemma overlap_near (hstart : s.windowStart = place base W) (hend : s.windowEnd = place base E)
    (hseq : repr.seqNumber = place base a) (hWE : W ≤ E + 1) (hEW : E ≤ W + 2 ^ 30) (ha : W - 2 ^ 30 < a)
    (hlen : a + repr.payload.length < W + 2 ^ 30) (hin : s.segmentInWindow repr = true) :
    s.overlap repr = some ((repr.payload.take (min E (a + repr.payload.length) - a).toNat).drop (max W a - a).toNat,
      (max W a - W).toNat) ∧ W ≤ E ∧ max W a ≤ min E (a + repr.payload.length) ∧
      (repr.payload ≠ [] → max W a < min E (a + repr.payload.length)) := by
  have hbefore : s.windowStart - 1 = place base (W - 1) := by
    rw [hstart, place, place, show W - 1 = W + (-1) by ring, BitVec.ofInt_add, ← BitVec.add_assoc, BitVec.sub_eq_add_neg]
    rfl
  have hrange : W ≤ E ∧ max W a ≤ min E (a + repr.payload.length) ∧
      (repr.payload ≠ [] → max W a < min E (a + repr.payload.length)) := by
    rw [← List.length_pos_iff]
    rw [Socket.segmentInWindow] at hin
    rw [hbefore, hstart, hend, hseq, add_place] at hin
    simp only [place_eq_near base (show -2 ^ 31 ≤ a - (a + repr.payload.length) by omega) (by omega),
      place_eq_near base (show -2 ^ 31 ≤ a + repr.payload.length - (W - 1) by omega) (by omega),
      place_eq_near base (show -2 ^ 31 ≤ W - E by omega) (by omega)] at hin
    rw [le_near base (by omega) (by omega), lt_near base (by omega) (by omega), lt_near base (by omega) (by omega),
      le_near base (by omega) (by omega)] at hin
    split_ifs at hin
    · rw [beq_iff_eq, place_eq_near base (by omega) (by omega)] at hin
      omega
    · simp only [Bool.and_eq_true, decide_eq_true_eq] at hin
      omega
    · simp only [Bool.or_eq_true, Bool.and_eq_true, decide_eq_true_eq] at hin
      omega
  refine ⟨?_, hrange⟩
  have hmax : s.windowStart.max repr.seqNumber = place base (max W a) := by
    rw [SeqNumber.max, hstart, hseq, lt_near base (by omega) (by omega)]
    split_ifs with h
    · rw [max_eq_left (by simpa using (of_decide_eq_true h).le)]
    · rw [max_eq_right (by simpa using h)]
  have hmin : s.windowEnd.min (repr.seqNumber.add repr.payload.length) =
      place base (min E (a + repr.payload.length)) := by
    rw [SeqNumber.min, hend, hseq, add_place, lt_near base (by omega) (by omega)]
    split_ifs with h
    · rw [min_eq_left (by simpa using (of_decide_eq_true h).le)]
    · rw [min_eq_right (by simpa using h)]
  rw [Socket.overlap, hmax, hmin, hstart, hseq, sub_near base (by omega) (by omega), sub_near base (by omega) (by omega),
    sub_near base (by omega) (by omega)]
  simp only [Option.bind_eq_bind, Option.bind_some]
  rw [if_pos ⟨by omega, by omega⟩]

end Window

section Payload

variable {stream : List UInt8} {start : ℕ} {s : Socket}

lemma takePayload_holds (h : Holds stream start s.assembler s.rxBuffer) {payload : List UInt8} {offset : ℕ}
    (hfit : payload ≠ [] → offset + payload.length ≤ s.rxBuffer.window)
    (hpayload : payload ≠ [] → payload <+: stream.drop (start + (s.rxBuffer.length + offset))) :
    (s.takePayload payload offset = some (s, none) ∧ (payload = [] ∨ offset ≠ 0)) ∨
    ∃ contigLen assembler rx hc,
      Holds stream start assembler rx ∧ ¬ assembler.Present 0 ∧ rx.length = s.rxBuffer.length + contigLen ∧
      (offset = 0 → payload.length ≤ contigLen) ∧
      (s.takePayload payload offset =
          some ((s.withRx assembler rx hc).ackReply.1, some (s.withRx assembler rx hc).ackReply.2) ∨
        (s.takePayload payload offset = some (s.withRx assembler rx hc, none) ∧
          contigLen ≤ offset + payload.length)) := by
  by_cases hnil : payload = []
  · left
    rw [Socket.takePayload, if_pos hnil]
    exact ⟨rfl, Or.inl hnil⟩
  · cases hadd : s.assembler.addThenRemoveFront offset payload.length with
    | none =>
      left
      rw [Socket.takePayload, if_neg hnil, hadd]
      refine ⟨rfl, Or.inr fun hzero => ?_⟩
      rw [hzero] at hadd
      exact Assembler.addThenRemoveFront_zero_ne_none s.assembler (by decide) payload.length hadd
    | some r =>
      obtain ⟨contigLen, assembler⟩ := r
      right
      have hfront := Assembler.front_addThenRemoveFront hadd
      obtain ⟨rx, hrx, hholds, hc, hlen⟩ := h.placePayload (hfit hnil) (hpayload hnil) hadd
      refine ⟨contigLen, assembler, rx, hc, hholds, hfront.not_present, hlen, ?_, ?_⟩
      · intro hzero
        by_contra hlt
        exact hfront.missing (Or.inr (by dsimp only; omega))
      · rw [Socket.takePayload, if_neg hnil, hadd]
        dsimp only
        rw [show (Socket.placePayload payload offset contigLen s.rxBuffer).pmap (s.withRx assembler) _ =
          some (s.withRx assembler rx hc) from Option.pmap_eq_some_iff.mpr ⟨rx, hc, hrx, rfl⟩, Option.map_some]
        split_ifs with hreply
        · exact Or.inl rfl
        · refine Or.inr ⟨rfl, ?_⟩
          have hempty : s.assembler.isEmpty = true := by
            rw [not_or] at hreply
            simpa using hreply.2
          have hnone := (Assembler.isEmpty_iff _).mp hempty
          by_contra hlt
          rcases hfront.before (offset + payload.length) (by dsimp only; omega) with hp | hp
          · exact hnone _ hp
          · omega

variable {base : SeqNumber} {read : List UInt8}

lemma Aligned.takePayload {v : RecvView} (h : Aligned base stream read v) (hv : s.recvView = v) {payload : List UInt8}
    {offset : ℕ} {A : ℤ} (hack : v.remoteLastAck = some (place base A)) (hfirst : -1 ≤ A) (hle : A ≤ v.received read)
    (hroom : A = -1 ∨ A + v.lastWindow ≤ read.length + v.rxBuffer.capacity + v.rxFinReceived.toNat)
    (hedge : v.received read + offset + payload.length ≤ A + v.lastWindow + 1)
    (hfit : payload ≠ [] → offset + payload.length ≤ v.rxBuffer.window)
    (hpayload : payload ≠ [] → payload <+: stream.drop (read.length + (v.rxBuffer.length + offset)))
    (hfin : v.rxFinReceived = true →
      read.length + v.rxBuffer.length + payload.length = stream.length ∧ (payload ≠ [] → offset = 0)) :
    ∃ r, s.takePayload payload offset = some r ∧ Open base stream read r.1.recvView ∧
      (offset = 0 → v.rxBuffer.length + payload.length ≤ r.1.rxBuffer.length) := by
  subst hv
  have hreceived : s.recvView.received read = read.length + s.rxBuffer.length + s.rxFinReceived.toNat := rfl
  have hkept : s.recvView.received read ≤ A + s.recvView.lastWindow + 1 := by omega
  rcases takePayload_holds h.holds hfit hpayload with
    ⟨hr, hdrop⟩ | ⟨contigLen, assembler, rx, hc, hholds, hgap, hlen, hfull, hr⟩
  · refine ⟨_, hr, ⟨h, ?_, A, hack, hfirst, hle, hkept, hroom⟩, ?_⟩
    · intro hf
      obtain ⟨hlen, hzero⟩ := hfin hf
      have hnil : payload = [] := by
        rcases hdrop with hdrop | hdrop
        · exact hdrop
        · by_contra hne
          exact hdrop (hzero hne)
      rw [hnil] at hlen
      exact hlen
    · intro hzero
      rw [hdrop.resolve_right (not_not.mpr hzero)]
      exact le_refl _
  · by_cases hnil : payload = []
    · refine ⟨(s, none), by rw [Socket.takePayload, if_pos hnil], ⟨h, ?_, A, hack, hfirst, hle, hkept, hroom⟩, ?_⟩
      · intro hf
        have hlen := (hfin hf).1
        rw [hnil] at hlen
        exact hlen
      · rw [hnil]
        exact fun _ => le_refl _
    · have halign : Aligned base stream read (s.withRx assembler rx hc).recvView :=
        ⟨h.state, h.seq, h.consumed, hholds, hgap⟩
      have hcomplete : s.rxFinReceived = true → read.length + rx.length = stream.length := by
        intro hf
        obtain ⟨hlen', hzero⟩ := hfin hf
        have hge := hfull (hzero hnil)
        have hrx : s.recvView.rxBuffer.length = s.rxBuffer.length := rfl
        have hupper : read.length + rx.length ≤ stream.length := halign.length_le
        omega
      have hgrow : offset = 0 → s.rxBuffer.length + payload.length ≤ rx.length := by
        intro hzero
        have hge := hfull hzero
        omega
      rcases hr with hr | ⟨hr, hcontig⟩
      · exact ⟨_, hr, halign.acknowledged hcomplete, hgrow⟩
      · have hreceived' : (s.withRx assembler rx hc).recvView.received read =
            read.length + rx.length + s.rxFinReceived.toNat := rfl
        have hle' : A ≤ (s.withRx assembler rx hc).recvView.received read := by omega
        have hedge' : (s.withRx assembler rx hc).recvView.received read ≤ A + s.recvView.lastWindow + 1 := by omega
        exact ⟨_, hr, ⟨halign, hcomplete, A, hack, hfirst, hle', hedge', hc ▸ hroom⟩, hgrow⟩

end Payload

section Frames

variable {s s' : Socket}

lemma recvView_onAck (s : Socket) (now : ℤ) (repr : TcpRepr) : (s.onAck now repr).recvView = s.recvView := by
  rw [Socket.onAck]
  split <;> rfl

lemma recvView_updateRemote {now : ℤ} {repr : TcpRepr} {a : Socket.Acked} (h : s.updateRemote now repr a = some s') :
    s'.recvView = s.recvView := by
  rw [Socket.updateRemote] at h
  obtain ⟨s₁, hs₁, rfl⟩ := Option.map_eq_some_iff.mp h
  obtain ⟨tx, hc, rfl, _⟩ := Socket.dequeueAcked_eq_some hs₁
  cases repr.ackNumber <;> rfl

lemma synchronize_recvView {repr : TcpRepr} (h : repr.ackNumber ≠ none) : (s.synchronize repr).recvView =
    { s.recvView with
      state := .established
      remoteSeqNo := repr.seqNumber.add 1
      remoteLastAck := some repr.seqNumber
      remoteWinShift := if repr.windowScale.isNone then 0 else s.recvView.remoteWinShift } := by
  have hsome : repr.ackNumber.isSome = true := Option.isSome_iff_ne_none.mpr h
  simp [Socket.recvView, Socket.synchronize, hsome]

lemma recvView_challengeAckReply (s : Socket) (now : ℤ) :
    (s.challengeAckReply now).1.recvView = s.recvView ∨
      (s.challengeAckReply now).1.recvView = s.recvView.acknowledged := by
  rw [Socket.challengeAckReply]
  split_ifs
  · exact Or.inl rfl
  · exact Or.inr rfl

end Frames

/-- A segment that the remote end could have sent, at place `a` of its stream: the stream begins after
the SYN and ends with the FIN. It is not so old that its sequence number has come round again. Before it
has an acknowledgement of its SYN, the remote end keeps to the window in ours, and its FIN fits the
window whole. -/
@[mk_iff] structure Genuine (base : SeqNumber) (stream read : List UInt8) (s : Socket) (repr : TcpRepr)
    (a : ℤ) : Prop where
  seq : repr.seqNumber = place base a
  left : s.recvView.received read - 2 ^ 30 < a
  right : a + repr.payload.length < s.recvView.received read + 2 ^ 30
  syn : repr.control = .syn → a = -1 ∧ repr.ackNumber ≠ none
  payload : repr.payload ≠ [] → 0 ≤ a ∧ repr.payload <+: stream.drop a.toNat
  early : repr.payload ≠ [] → s.remoteLastAck = some (place base (-1)) →
    a + repr.payload.length ≤ s.rxBuffer.capacity
  fin : repr.control = .fin → a + repr.payload.length = stream.length ∧
    (s.remoteLastAck ≠ none → (repr.seqNumber.add repr.payload.length).le s.windowEnd = true)

instance (base : SeqNumber) (stream read : List UInt8) (s : Socket) (repr : TcpRepr) (a : ℤ) :
    Decidable (Genuine base stream read s repr a) :=
  decidable_of_iff _ (genuine_iff base stream read s repr a).symm

section Segments

variable {base : SeqNumber} {stream read : List UInt8} {s : Socket} {repr : TcpRepr} {a : ℤ}

structure Cut (base : SeqNumber) (stream read : List UInt8) (s : Socket) (repr : TcpRepr) (A : ℤ)
    (payload : List UInt8) (offset : ℕ) : Prop where
  edge : s.recvView.received read + offset + payload.length ≤ A + s.recvView.lastWindow
  fit : payload ≠ [] → offset + payload.length ≤ s.rxBuffer.window
  octets : payload ≠ [] → payload <+: stream.drop (read.length + (s.rxBuffer.length + offset))
  ended : payload ≠ [] → s.rxFinReceived = false
  fin : s.effectiveControl repr = .fin → offset = 0 ∧ s.rxFinReceived = false ∧
    read.length + s.rxBuffer.length + payload.length = stream.length

lemma Open.fin_eq_false (h : Open base stream read s.recvView) (hlt : s.recvView.received read ≤ stream.length) :
    s.rxFinReceived = false := by
  have hreceived : s.recvView.received read = read.length + s.rxBuffer.length + s.rxFinReceived.toNat := rfl
  by_contra hf
  rw [Bool.not_eq_false] at hf
  have hfin : read.length + s.rxBuffer.length = stream.length := h.fin hf
  rw [hf, Bool.toNat_true] at hreceived
  omega

lemma Genuine.new_octets (hg : Genuine base stream read s repr a) (h : Open base stream read s.recvView)
    (hne : repr.payload ≠ []) (hlt : s.recvView.received read < a + repr.payload.length) :
    s.rxFinReceived = false ∧ ∃ k : ℕ, a = k ∧ repr.payload <+: stream.drop k := by
  obtain ⟨hk, hprefix⟩ := hg.payload hne
  have hpos : 0 < repr.payload.length := List.length_pos_iff.mpr hne
  have hlen := hprefix.length_le
  rw [List.length_drop] at hlen
  exact ⟨h.fin_eq_false (by omega), a.toNat, by omega, hprefix⟩

lemma Genuine.last_octets (hg : Genuine base stream read s repr a) (h : Open base stream read s.recvView) {A : ℤ}
    (hA : Window base read s.recvView A) (hfin : s.effectiveControl repr = .fin) :
    a ≤ s.recvView.received read ∧ a + repr.payload.length = stream.length ∧
      stream.length ≤ A + s.recvView.lastWindow := by
  have hleft := hg.left
  have hright := hg.right
  have hlast := s.recvView.lastWindow_lt
  have hack := hA.ack_le
  have hle := hA.received_le
  have hstart : s.windowStart = place base (s.recvView.received read) := h.windowStart
  obtain ⟨hcontrol, hge⟩ := Socket.effectiveControl_eq_fin hfin
  obtain ⟨hend, hfits⟩ := hg.fin hcontrol
  have hlastAck : s.remoteLastAck = some (place base A) := hA.ack
  have hfits := hfits (by simp [hlastAck])
  rw [hstart, hg.seq, lt_near base (by omega) (by omega), decide_eq_false_iff_not] at hge
  rw [hA.windowEnd, hg.seq, add_place, le_near base (by omega) (by omega), decide_eq_true_eq] at hfits
  omega

lemma Genuine.cut (hg : Genuine base stream read s repr a) (h : Open base stream read s.recvView) {A : ℤ}
    (hA : Window base read s.recvView A) (hin : s.segmentInWindow repr = true) :
    ∃ payload offset, s.overlap repr = some (payload, offset) ∧ Cut base stream read s repr A payload offset := by
  have hreceived : s.recvView.received read = read.length + s.rxBuffer.length + s.rxFinReceived.toNat := rfl
  have hlast := s.recvView.lastWindow_lt
  have hack := hA.ack_le
  have hle := hA.received_le
  obtain ⟨hov, _, hmaxmin, _⟩ :=
    overlap_near h.windowStart hA.windowEnd hg.seq (by omega) (by omega) hg.left hg.right hin
  refine ⟨_, _, hov, ?_⟩
  set W : ℤ := ((s.recvView.received read : ℕ) : ℤ)
  set E : ℤ := A + s.recvView.lastWindow
  set payload := (repr.payload.take (min E (a + repr.payload.length) - a).toNat).drop (max W a - a).toNat with hp
  have hplen : payload.length = (min E (a + repr.payload.length) - max W a).toNat := by
    rw [hp, List.length_drop, List.length_take]
    omega
  have hwhole : payload ≠ [] → repr.payload ≠ [] ∧ W < a + repr.payload.length := by
    intro hne
    have hpos : 0 < payload.length := List.length_pos_iff.mpr hne
    exact ⟨fun hnil => hne (by rw [hp, hnil]; simp), by omega⟩
  refine ⟨by omega, ?_, ?_, fun hne => (hg.new_octets h (hwhole hne).1 (hwhole hne).2).1, ?_⟩
  · intro hne
    obtain ⟨hf, _⟩ := hg.new_octets h (hwhole hne).1 (hwhole hne).2
    have hwindow : s.rxBuffer.window = s.rxBuffer.capacity - s.rxBuffer.length := rfl
    have hlen := s.rxBuffer.length_le
    rw [hf, Bool.toNat_false] at hreceived
    rcases hA.room with hroom | hroom
    · have hearly := hg.early (hwhole hne).1 (hA.ack.trans (by rw [hroom]))
      omega
    · rw [show s.recvView.rxFinReceived = false from hf, Bool.toNat_false,
        show s.recvView.rxBuffer.capacity = s.rxBuffer.capacity from rfl] at hroom
      omega
  · intro hne
    obtain ⟨hf, k, hk, hprefix⟩ := hg.new_octets h (hwhole hne).1 (hwhole hne).2
    rw [hf, Bool.toNat_false] at hreceived
    rw [hp, List.drop_take]
    refine (List.take_prefix _ _).trans ?_
    have hdrop := hprefix.drop (max W a - a).toNat
    rw [List.drop_drop] at hdrop
    rwa [show read.length + (s.rxBuffer.length + (max W a - W).toNat) = k + (max W a - a).toNat by omega]
  · intro hfin
    obtain ⟨hge, hend, hfits⟩ := hg.last_octets h hA hfin
    have hf := h.fin_eq_false (by omega)
    rw [hf, Bool.toNat_false] at hreceived
    exact ⟨by omega, hf, by omega⟩

lemma Open.state_cases (h : Open base stream read s.recvView) : s.state = .established ∨ s.state = .closeWait := by
  have hst : s.state = if s.rxFinReceived then .closeWait else .established := h.state
  split_ifs at hst
  · exact Or.inr hst
  · exact Or.inl hst

lemma Open.takeData (h : Open base stream read s.recvView) {A : ℤ} (hA : Window base read s.recvView A)
    {payload : List UInt8} {offset : ℕ} (hcut : Cut base stream read s repr A payload offset) {s' : Socket}
    (hv : s'.recvView = s.recvView) :
    ∃ r, s'.takePayload payload offset = some r ∧ Open base stream read r.1.recvView ∧
      (offset = 0 → s.rxBuffer.length + payload.length ≤ r.1.rxBuffer.length) := by
  have hedge := hcut.edge
  have hended : s.recvView.rxFinReceived = true →
      read.length + s.recvView.rxBuffer.length + payload.length = stream.length ∧ (payload ≠ [] → offset = 0) := by
    intro hf
    have hnil : payload = [] := by
      by_contra hne
      rw [show s.recvView.rxFinReceived = _ from hcut.ended hne] at hf
      cases hf
    rw [hnil]
    exact ⟨h.fin hf, fun hne => absurd rfl hne⟩
  exact h.toAligned.takePayload hv hA.ack hA.first hA.ack_le hA.room (by omega) hcut.fit hcut.octets hended

lemma Open.takeLast (h : Open base stream read s.recvView) {A : ℤ} (hA : Window base read s.recvView A)
    {payload : List UInt8} {offset : ℕ} (hcut : Cut base stream read s repr A payload offset)
    (hc : s.effectiveControl repr = .fin) {s' : Socket} (hv : s'.recvView = s.recvView.takeFin) :
    ∃ r, s'.takePayload payload offset = some r ∧ Open base stream read r.1.recvView := by
  obtain ⟨hzero, hf, hlen⟩ := hcut.fin hc
  have hf : s.recvView.rxFinReceived = false := hf
  have hedge := hcut.edge
  have hle := hA.ack_le
  have halign : Aligned base stream read s.recvView.takeFin := by
    refine ⟨rfl, ?_, h.consumed, h.holds, h.gap⟩
    change s.recvView.remoteSeqNo.add 1 = _
    rw [h.seq, hf, add_place]
    rfl
  have hreceived : s.recvView.takeFin.received read = s.recvView.received read + 1 := by
    simp only [RecvView.received, RecvView.takeFin, hf]
    rfl
  have hlast : s.recvView.takeFin.lastWindow = s.recvView.lastWindow := rfl
  have hroom : A = -1 ∨ A + s.recvView.takeFin.lastWindow ≤
      read.length + s.recvView.takeFin.rxBuffer.capacity + s.recvView.takeFin.rxFinReceived.toNat := by
    refine hA.room.imp_right fun hroom => ?_
    rw [hf] at hroom
    exact hroom.trans (by simp [RecvView.takeFin])
  obtain ⟨r, hr, ho, _⟩ := halign.takePayload hv hA.ack hA.first (by omega) hroom (by omega) hcut.fit hcut.octets
    fun _ => ⟨hlen, fun _ => hzero⟩
  exact ⟨r, hr, ho⟩

structure Processed (base : SeqNumber) (stream read : List UInt8) (r : Socket × Option TcpRepr) : Prop where
  receiving : Receiving base stream read r.1.recvView
  replies : ∀ reply ∈ r.2, reply.control ≠ .rst → Open base stream read r.1.recvView

lemma Open.processed {r : Socket × Option TcpRepr} (h : Open base stream read r.1.recvView) :
    Processed base stream read r := ⟨.opened h, fun _ _ _ => h⟩

lemma Receiving.processed (h : Receiving base stream read s.recvView) : Processed base stream read (s, none) :=
  ⟨h, by simp⟩

lemma Open.processSegment (h : Open base stream read s.recvView) {A : ℤ} (hA : Window base read s.recvView A)
    {payload : List UInt8} {offset : ℕ} (hcut : Cut base stream read s repr A payload offset)
    (hacked : repr.control ≠ .rst → (s.acked repr).len ≤ s.txBuffer.length) (now : ℤ) :
    ∃ r, s.processSegment now repr payload offset = some r ∧ Processed base stream read r ∧
      (s.effectiveControl repr = .none → offset = 0 → s.rxBuffer.length + payload.length ≤ r.1.rxBuffer.length) := by
  have hview := recvView_onAck s now repr
  have htx : (s.onAck now repr).txBuffer = s.txBuffer := congrArg SendView.txBuffer (sendView_onAck s now repr)
  have hst := h.state_cases
  have hopen : Open base stream read (s.onAck now repr).recvView := hview ▸ h
  rcases Socket.processSegment_cases (Or.inr (Or.inr hst)) now repr payload offset with
    ⟨hc, hr⟩ | ⟨hc, hr⟩ | ⟨s', hrst, hm, hr⟩
  · refine ⟨_, hr, (Receiving.opened hopen).close.processed, fun hnone => ?_⟩
    rw [hc] at hnone
    cases hnone
  · refine ⟨_, hr, (Receiving.opened hopen).processed, fun hnone => absurd hnone (hc.resolve_left ?_)⟩
    rcases hst with hst | hst <;> simp [hst]
  · rw [hr]
    cases hm with
    | syn h' => rw [Socket.onAck_state] at h'; rcases hst with hst | hst <;> simp [hst] at h'
    | ack h' => rw [Socket.onAck_state] at h'; rcases hst with hst | hst <;> simp [hst] at h'
    | data _ _ =>
      obtain ⟨s'', hs''⟩ := Socket.updateRemote_ne_none (htx ▸ hacked hrst) now repr
      rw [hs'', Option.bind_some]
      obtain ⟨r, hr, ho, hgrow⟩ := h.takeData hA hcut ((recvView_updateRemote hs'').trans hview)
      exact ⟨r, hr, ho.processed, fun _ => hgrow⟩
    | fin _ hc =>
      have hlen : (s.acked repr).len ≤ ((s.onAck now repr).takeFin .closeWait).txBuffer.length := htx ▸ hacked hrst
      obtain ⟨s'', hs''⟩ := Socket.updateRemote_ne_none hlen now repr
      rw [hs'', Option.bind_some]
      have hview' : s''.recvView = s.recvView.takeFin := by
        rw [recvView_updateRemote hs'', ← hview]
        rfl
      obtain ⟨r, hr, ho⟩ := h.takeLast hA hcut hc hview'
      exact ⟨r, hr, ho.processed, fun hnone => absurd hnone (by rw [hc]; simp)⟩

lemma Open.challengeAckReply (h : Open base stream read s.recvView) (now : ℤ) :
    Open base stream read (s.challengeAckReply now).1.recvView := by
  rcases recvView_challengeAckReply s now with hview | hview
  · rwa [hview]
  · rw [hview]
    exact h.toAligned.acknowledged h.fin

lemma Open.process (h : Open base stream read s.recvView) (hg : Genuine base stream read s repr a)
    (hacked : s.checkAck repr = .accept → repr.control ≠ .rst → (s.acked repr).len ≤ s.txBuffer.length) (now : ℤ) :
    ∃ r, s.process now repr = some r ∧ Processed base stream read r := by
  have hst := h.state_cases
  obtain ⟨A, hA⟩ := h.window
  rw [Socket.process, if_neg (by rcases hst with hst | hst <;> simp [hst])]
  cases hcheck : s.checkAck repr with
  | drop => exact ⟨_, rfl, (Receiving.opened h).processed⟩
  | reset => exact ⟨_, rfl, .opened h, fun _ _ _ => h⟩
  | challenge => exact ⟨_, rfl, (h.challengeAckReply now).processed⟩
  | accept =>
    dsimp only
    rw [if_neg (by rcases hst with hst | hst <;> simp [hst])]
    by_cases hin : s.segmentInWindow repr = true
    · obtain ⟨payload, offset, hov, hcut⟩ := hg.cut h hA hin
      rw [if_pos hin, hov, Option.bind_some]
      have hcut' : Cut base stream read (s.noteSeq repr.seqNumber) repr A payload offset :=
        ⟨hcut.edge, hcut.fit, hcut.octets, hcut.ended, hcut.fin⟩
      have h' : Open base stream read (s.noteSeq repr.seqNumber).recvView := h
      obtain ⟨r, hr, hprocessed, _⟩ := h'.processSegment hA hcut' (hacked hcheck) now
      exact ⟨r, hr, hprocessed⟩
    · rw [if_neg hin]
      have h' : ∀ timer, Open base stream read (s.withTimer timer).recvView := fun _ => h
      exact ⟨_, rfl, ((h' _).challengeAckReply now).processed⟩

lemma open_synchronize (hr : read = []) (hlen : s.rxBuffer.length = 0) (ha : ∀ x, ¬ s.assembler.Present x)
    (hf : s.rxFinReceived = false) (hseq : repr.seqNumber = place base (-1)) (hsome : repr.ackNumber ≠ none) :
    Open base stream read (s.synchronize repr).recvView := by
  have hfirst : repr.seqNumber.add 1 = place base 0 := by
    rw [hseq, add_place]
    rfl
  have hf : s.recvView.rxFinReceived = false := hf
  have hfilled : Holds stream 0 s.assembler s.rxBuffer := by
    intro k hk
    rcases hk with hk | ⟨_, hk⟩
    · omega
    · exact absurd hk (ha _)
  have hreceived : (s.synchronize repr).recvView.received read = 0 := by
    change read.length + s.rxBuffer.length + s.recvView.rxFinReceived.toNat = 0
    rw [hr, hlen, hf]
    rfl
  refine ⟨⟨?_, ?_, ?_, ?_, ha 0⟩, ?_, -1, ?_, le_rfl, by omega, by omega, Or.inl rfl⟩
  · rw [synchronize_recvView hsome, hf]
    rfl
  · rw [synchronize_recvView hsome, hr, hf, hfirst]
    rfl
  · rw [hr]
    exact List.nil_prefix
  · rw [hr]
    exact hfilled
  · intro hfin
    have hfin : s.recvView.rxFinReceived = true := hfin
    rw [hf] at hfin
    cases hfin
  · rw [synchronize_recvView hsome, hseq]

lemma processed_synSent (h : s.state = .synSent) (hr : read = []) (hlen : s.rxBuffer.length = 0)
    (ha : ∀ x, ¬ s.assembler.Present x) (hf : s.rxFinReceived = false) (hack : s.remoteLastAck = none)
    (hg : Genuine base stream read s repr a)
    (hacked : s.checkAck repr = .accept → repr.control ≠ .rst → (s.acked repr).len ≤ s.txBuffer.length) (now : ℤ) :
    ∃ r, s.process now repr = some r ∧ Processed base stream read r := by
  have hopening : Receiving base stream read s.recvView := .opening h hr hlen ha hf hack
  have hview := recvView_onAck s now repr
  have hopening' : Receiving base stream read (s.onAck now repr).recvView := hview ▸ hopening
  rw [Socket.process, if_neg (by simp [h])]
  cases hcheck : s.checkAck repr with
  | drop => exact ⟨_, rfl, hopening.processed⟩
  | reset => exact ⟨_, rfl, hopening, by simp [Socket.rstReply]⟩
  | challenge =>
    rw [Socket.checkAck, h] at hcheck
    cases hc : repr.control <;> cases hn : repr.ackNumber <;> simp [hc, hn] at hcheck <;> split_ifs at hcheck
  | accept =>
    dsimp only
    rw [if_pos h]
    rcases Socket.processSegment_cases (Or.inl h) now repr [] 0 with ⟨_, hp⟩ | ⟨_, hp⟩ | ⟨s', hrst, hm, hp⟩
    · exact ⟨_, hp, hopening'.close.processed⟩
    · exact ⟨_, hp, hopening'.processed⟩
    · rw [hp]
      cases hm with
      | syn _ hc =>
        obtain ⟨rfl, hsome⟩ := hg.syn (Socket.effectiveControl_eq_syn hc)
        have htx : (s.onAck now repr).txBuffer = s.txBuffer := congrArg SendView.txBuffer (sendView_onAck s now repr)
        have hlen' : (s.acked repr).len ≤ ((s.onAck now repr).synchronize repr).txBuffer.length :=
          htx ▸ hacked hcheck hrst
        obtain ⟨s'', hs''⟩ := Socket.updateRemote_ne_none hlen' now repr
        have hopen : Open base stream read s''.recvView := by
          rw [recvView_updateRemote hs'']
          refine open_synchronize hr ?_ ?_ ?_ hg.seq hsome
          · exact (congrArg RingBuffer.length (congrArg RecvView.rxBuffer hview)).trans hlen
          · rw [show (s.onAck now repr).assembler = s.assembler from congrArg RecvView.assembler hview]
            exact ha
          · exact (congrArg RecvView.rxFinReceived hview).trans hf
        rw [hs'', Option.bind_some]
        exact ⟨(s'', none), by rw [Socket.takePayload, if_pos rfl], (Receiving.opened hopen).processed⟩
      | ack h' => rw [Socket.onAck_state, h] at h'; cases h'
      | data h' => rw [Socket.onAck_state, h] at h'; rcases h' with h' | h' <;> cases h'
      | fin h' => rw [Socket.onAck_state, h] at h'; rcases h' with h' | h' <;> cases h'

end Segments

section Calls

variable {base : SeqNumber} {stream read : List UInt8} {s : Socket}

lemma received_recv (v : RecvView) (read : List UInt8) :
    v.recv.received (read ++ v.rxBuffer.dequeueMany.1) = v.received read := by
  have hlen : v.rxBuffer.dequeueMany.1.length + v.rxBuffer.dequeueMany.2.length = v.rxBuffer.length := by
    simpa using congrArg List.length v.rxBuffer.toList_dequeueMany
  simp only [RecvView.received, RecvView.recv, List.length_append]
  omega

lemma Window.recv {v : RecvView} {A : ℤ} (h : Window base read v A) :
    Window base (read ++ v.rxBuffer.dequeueMany.1) v.recv A := by
  refine ⟨h.ack, h.first, ?_, ?_, h.room.imp_right fun hroom => ?_⟩
  · rw [received_recv]
    exact h.ack_le
  · rw [received_recv]
    exact h.received_le
  · have hlast : v.recv.lastWindow = v.lastWindow := rfl
    have hcap : v.recv.rxBuffer.capacity = v.rxBuffer.capacity := rfl
    have hfin : v.recv.rxFinReceived = v.rxFinReceived := rfl
    rw [hlast, hcap, hfin, List.length_append]
    omega

lemma Open.recv {v : RecvView} (h : Open base stream read v) :
    Open base stream (read ++ v.rxBuffer.dequeueMany.1) v.recv := by
  have hlist := v.rxBuffer.toList_dequeueMany
  have hread : read ++ v.rxBuffer.dequeueMany.1 ++ v.rxBuffer.dequeueMany.2.toList = read ++ v.rxBuffer.toList := by
    rw [List.append_assoc, hlist]
  obtain ⟨A, hA⟩ := h.window
  refine ⟨⟨h.state, ?_, ?_, ?_, h.gap⟩, ?_, A, hA.recv⟩
  · change v.remoteSeqNo.add v.rxBuffer.dequeueMany.1.length = place base ↑(_ + v.rxFinReceived.toNat)
    rw [h.seq, add_place, List.length_append]
    congr 1
    push_cast
    ring
  · refine List.IsPrefix.trans ?_ h.stream_prefix
    rw [← hread]
    exact List.prefix_append _ _
  · rw [List.length_append]
    exact h.holds.dequeueMany
  · intro hf
    have hfull := congrArg List.length hread
    simp only [List.length_append, RingBuffer.toList_length] at hfull
    change (read ++ v.rxBuffer.dequeueMany.1).length + v.rxBuffer.dequeueMany.2.length = stream.length
    rw [List.length_append, hfull]
    exact h.fin hf

lemma receiving_recv (h : Receiving base stream read s.recvView) :
    Receiving base stream (read ++ s.recv.1.getD []) s.recv.2.recvView := by
  by_cases hmay : s.mayRecv = true
  · have hrecv : s.recv.1.getD [] = s.recvView.rxBuffer.dequeueMany.1 ∧ s.recv.2.recvView = s.recvView.recv := by
      rw [Socket.recv, if_pos hmay]
      exact ⟨rfl, rfl⟩
    rw [hrecv.1, hrecv.2]
    cases h with
    | closed hst hp hf =>
      have hread : read ++ s.recvView.rxBuffer.dequeueMany.1 ++ s.recvView.recv.rxBuffer.toList =
          read ++ s.recvView.rxBuffer.toList := by
        rw [List.append_assoc]
        exact congrArg _ s.recvView.rxBuffer.toList_dequeueMany
      refine .closed hst ?_ ?_
      · rwa [hread]
      · rwa [hread]
    | opening hst _ hzero =>
      have hempty : s.rxBuffer.length = 0 := hzero
      have hst : s.state = .synSent := hst
      simp [Socket.mayRecv, Socket.canRecv, RingBuffer.isEmpty, hst, hempty] at hmay
    | opened h => exact .opened h.recv
  · rw [Socket.recv, if_neg hmay]
    simpa using h

lemma recvView_sendSlice (data : List UInt8) : (s.sendSlice data).2.recvView = s.recvView := by
  rw [Socket.sendSlice]
  by_cases hmay : s.maySend = true
  · rw [if_pos hmay]
    dsimp only [Socket.recvView]
  · rw [if_neg hmay]

lemma recvView_expire (mtu : Mtu) (now : ℤ) : (s.expire mtu now).recvView = s.recvView := by
  rw [Socket.expire]
  split_ifs <;> rfl

lemma decision_ne_none (mtu : Mtu) (now : ℤ) (h : Receiving base stream read s.recvView) :
    ∃ d, s.decision mtu now = some d := by
  rw [Socket.decision]
  by_cases hseq : s.seqToTransmit mtu = true
  · exact ⟨_, by rw [if_pos hseq]⟩
  · rw [if_neg hseq]
    by_cases hack : s.ackToTransmit = true
    · exact ⟨_, by rw [if_pos hack]⟩
    · rw [if_neg hack]
      have hupdate : ∃ b, s.windowToUpdate = some b := by
        rw [Socket.windowToUpdate]
        cases h with
        | closed hst =>
          have hst : s.state = .closed := hst
          exact ⟨false, by simp [hst]⟩
        | opening _ _ _ _ _ hnone =>
          have hnone : s.remoteLastAck = none := hnone
          split_ifs
          · exact ⟨false, by rw [hnone]⟩
          · exact ⟨false, rfl⟩
        | opened h =>
          obtain ⟨A, hA⟩ := h.window
          have hle := hA.ack_le
          have hge := hA.received_le
          have hlast := s.recvView.lastWindow_lt
          have hstart : s.windowStart = place base (s.recvView.received read) := h.windowStart
          have hlastAck : s.remoteLastAck = some (place base A) := hA.ack
          rw [Socket.ackToTransmit, hlastAck, Option.any_some, hstart, lt_near base (by omega) (by omega),
            decide_eq_true_eq] at hack
          split_ifs
          · rw [hlastAck]
            dsimp only
            rw [hA.windowEnd, hstart, sub_near base (by omega) (by omega)]
            exact ⟨_, rfl⟩
          · exact ⟨false, rfl⟩
      obtain ⟨b, hb⟩ := hupdate
      rw [hb]
      exact ⟨_, rfl⟩

lemma segment_ne_none {base' : SeqNumber} {written : List UInt8} (hs : Sending base' written s.sendView) (mtu : Mtu)
    (now : ℤ) : ∃ repr, s.segment mtu now = some repr := by
  rw [Socket.segment]
  cases hs with
  | closed h =>
    rw [show s.state = _ from h]
    exact ⟨_, rfl⟩
  | opening h => rcases h with h | h <;> rw [show s.state = _ from h] <;> exact ⟨_, rfl⟩
  | opened h una nxt hl hr hle hlen hnxt =>
    have htx30 : s.txBuffer.length < 2 ^ 30 := s.txBuffer.length_le.trans_lt s.tx_lt
    have hbuf : una + s.txBuffer.length = written.length := hlen
    have hdata : ∃ repr, s.dataSegment mtu now = some repr := by
      rw [Socket.dataSegment, show s.localSeqNo = _ from hl, show s.remoteLastSeq = _ from hr,
        sub_near base' (by omega) (by omega)]
      exact ⟨_, rfl⟩
    rcases h with h | h <;> rwa [show s.state = _ from h]

lemma receiving_emitted {mtu : Mtu} {now : ℤ} {repr : TcpRepr} (h : Receiving base stream read s.recvView)
    (hr : s.segment mtu now = some repr) : Receiving base stream read (s.emitted now repr).recvView := by
  rw [Socket.emitted]
  by_cases hprobe : s.hasData = true ∧ s.isZeroWindowProbe now = true
  · rw [if_pos hprobe]
    exact h
  · rw [if_neg hprobe]
    cases h with
    | closed hst hp hf => exact .closed hst hp hf
    | opening hst hread hlen ha hf _ =>
      have hsyn : s.state = .synSent := hst
      rw [Socket.segment, hsyn] at hr
      cases hr
      exact .opening hst hread hlen ha hf (by simp [Socket.recvView, Socket.synSegment, hsyn])
    | opened h =>
      have hdata : s.dataSegment mtu now = some repr := by
        rw [Socket.segment] at hr
        rcases h.state_cases with hst | hst <;> rwa [hst] at hr
      obtain ⟨_, _, _, hack, hwin, _⟩ := Socket.dataSegment_eq_some hdata
      have hview : ∀ timer rtte tuple last, ({ s with
          remoteLastSeq := last, remoteLastAck := repr.ackNumber, remoteLastWin := repr.windowLen,
          rtte := rtte, timer := timer, tuple := tuple } : Socket).recvView = s.recvView.acknowledged := by
        intro timer rtte tuple last
        simp only [Socket.recvView, hack, hwin]
        rfl
      dsimp only
      rw [hview]
      exact .opened (h.toAligned.acknowledged h.fin)

lemma receiving_dispatch {base' : SeqNumber} {written : List UInt8} (hs : Sending base' written s.sendView)
    (h : Receiving base stream read s.recvView) (mtu : Mtu) (now : ℤ) (ok : Bool) :
    ∃ r, s.dispatch mtu now ok = some r ∧ Receiving base stream read r.1.recvView := by
  rw [Socket.dispatch]
  by_cases ht : s.tuple = false
  · rw [if_pos ht]
    exact ⟨_, rfl, h⟩
  · rw [if_neg ht]
    dsimp only
    have h' : Receiving base stream read (s.expire mtu now).recvView := by rwa [recvView_expire]
    obtain ⟨d, hd⟩ := decision_ne_none mtu now h'
    rw [hd, Option.bind_some]
    cases d with
    | nothing => exact ⟨_, rfl, h'⟩
    | close =>
      have hread : read <+: stream := (List.prefix_append _ _).trans h.stream_prefix.1
      exact ⟨_, rfl, .closed rfl (by simpa [Socket.recvView, Socket.reset, Socket.synSent] using hread)
        (by simp [Socket.recvView, Socket.reset, Socket.synSent])⟩
    | send =>
      obtain ⟨repr, hrepr⟩ := segment_ne_none (sending_expire mtu now hs) mtu now
      rw [hrepr, Option.map_some]
      refine ⟨_, rfl, ?_⟩
      cases ok
      · exact h'
      · exact receiving_emitted h' hrepr

end Calls

end SmoltcpS3.Tcp

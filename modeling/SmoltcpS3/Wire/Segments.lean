import SmoltcpS3.Tcp.Send
import SmoltcpS3.Wire.TcpRoundTrip

namespace SmoltcpS3.Wire

open Device (ChecksumCapabilities)
open EventRuns Tcp

def toRepr (srcPort dstPort : UInt16) (r : TcpRepr) : Repr where
  maxSegSize := r.maxSegSize
  windowScale := r.windowScale.map fun shift => UInt8.ofNat shift.val
  sackPermitted := r.sackPermitted
  sackRanges := ![r.sackRange, none, none]
  timestamp := none
  srcPort := srcPort
  dstPort := dstPort
  control := r.control
  seqNumber := r.seqNumber
  ackNumber := r.ackNumber
  windowLen := r.windowLen
  payload := r.payload

def ofRepr (r : Repr) : TcpRepr where
  control := r.control
  seqNumber := r.seqNumber
  ackNumber := r.ackNumber
  windowLen := r.windowLen
  windowScale := r.windowScale.map fun value => ⟨min value.toNat 14, Nat.lt_succ_of_le (Nat.min_le_right _ _)⟩
  maxSegSize := r.maxSegSize
  sackPermitted := r.sackPermitted
  sackRange := r.sackRanges ⟨0, Nat.zero_lt_succ 2⟩
  payload := r.payload

section Sendable

variable {mtu : Mtu}

structure Sendable (mtu : Mtu) (r : TcpRepr) : Prop where
  sack : r.sackRange ≠ none → r.sackPermitted = false ∧ r.ackNumber.isSome = true
  size : r.payload = [] ∨ (r.maxSegSize = none ∧ r.windowScale = none ∧ r.sackPermitted = false ∧ r.sackRange = none ∧
    r.payload.length ≤ Socket.localMss mtu)

lemma sendable_rstReply (r : TcpRepr) : Sendable mtu (Socket.rstReply r) := ⟨fun h => absurd rfl h, .inl rfl⟩

lemma sendable_ackReply (s : Socket) : Sendable mtu s.ackReply.2 := ⟨fun _ => ⟨rfl, rfl⟩, .inl rfl⟩

lemma sendable_segment {now : ℤ} {s : Socket} {r : TcpRepr} (h : s.segment mtu now = some r) : Sendable mtu r := by
  have hdata : ∀ {r}, s.dataSegment mtu now = some r → Sendable mtu r := by
    intro r hr
    obtain ⟨offset, _, rfl⟩ := Option.map_eq_some_iff.mp hr
    refine ⟨fun h => absurd rfl h, .inr ⟨rfl, rfl, rfl, rfl, ?_⟩⟩
    have hle := List.length_take_le (min (min (min (if s.isZeroWindowProbe now then 1 else s.winLimit) s.remoteMss)
      (Socket.localMss mtu)) (s.txBuffer.capacity - s.txBuffer.getIdx offset)) (s.txBuffer.toList.drop offset)
    rw [← Smoltcp.RandomAccess.getAllocated_eq] at hle
    exact hle.trans ((Nat.min_le_left _ _).trans (Nat.min_le_right _ _))
  rw [Socket.segment] at h
  split at h
  all_goals first
    | exact hdata h
    | (cases h; exact ⟨fun h => absurd rfl h, .inl rfl⟩)

lemma sendable_step {t : Trace} (h : ∀ r ∈ t.segments, Sendable mtu r) (e : Event) :
    ∀ r ∈ (t.step mtu e).segments, Sendable mtu r := by
  have hafter : ∀ {res : Option (Socket × Option TcpRepr)}, (∀ p ∈ res, ∀ r ∈ p.2, Sendable mtu r) →
      ∀ r ∈ (t.after res).segments, Sendable mtu r := by
    intro res hres r hr
    cases res with
    | none => exact h r hr
    | some p =>
      rcases List.mem_append.mp hr with hr | hr
      · exact h r hr
      · exact hres p rfl r (Option.mem_toList.mp hr)
  rw [Trace.step]
  split_ifs
  · exact h
  · cases e with
    | segment now repr =>
      refine hafter fun p hp r hr => ?_
      obtain ⟨s', reply⟩ := p
      cases hr
      rcases Socket.process_reply hp with rfl | ⟨s₁, _, rfl⟩
      · exact sendable_rstReply repr
      · exact sendable_ackReply s₁
    | dispatch now ok =>
      refine hafter fun p hp r hr => ?_
      obtain ⟨s', sent⟩ := p
      cases hr
      exact sendable_segment (Socket.dispatch_sends hp).1
    | send data => exact h
    | recv => exact h
    | abort => exact h

end Sendable

section Survival

variable {mtu : Mtu} {r : TcpRepr} {srcPort dstPort : UInt16}

lemma blocks_single (x : Option Range) : TcpOption.blocks ![x, none, none] = x.toList := by
  cases x <;> rfl

lemma no_blocks : (![none, none, none] : SackRanges) = fun _ => none :=
  funext fun i => by fin_cases i <;> rfl

lemma pack_single (x : Option Range) : TcpOption.pack ![x, none, none] = ![x, none, none] := by
  funext i
  rw [TcpOption.pack, blocks_single]
  cases x <;> fin_cases i <;> rfl

lemma received_toRepr (h : Sendable mtu r) : (toRepr srcPort dstPort r).received = toRepr srcPort dstPort r := by
  have hshift : ∀ shift : Fin 15, (if 14 < UInt8.ofNat shift.val then 14 else UInt8.ofNat shift.val) =
      UInt8.ofNat shift.val := by decide
  have hscale : ((toRepr srcPort dstPort r).windowScale.map fun value => if 14 < value then 14 else value) =
      (toRepr srcPort dstPort r).windowScale := by
    rw [toRepr, Option.map_map]
    exact Option.map_congr fun shift _ => hshift shift
  have hranges : (if (toRepr srcPort dstPort r).sackPermitted = false ∧ (toRepr srcPort dstPort r).ackNumber.isSome then
      TcpOption.pack (toRepr srcPort dstPort r).sackRanges else fun _ => none) =
        (toRepr srcPort dstPort r).sackRanges := by
    change (if r.sackPermitted = false ∧ r.ackNumber.isSome then TcpOption.pack ![r.sackRange, none, none]
      else fun _ => none) = ![r.sackRange, none, none]
    by_cases hsack : r.sackRange = none
    · rw [pack_single, hsack, no_blocks, ite_self]
    · rw [if_pos (h.sack hsack), pack_single]
  rw [Repr.received, hscale, hranges]

lemma contentLen_le {o : Options} (ht : o.timestamp = none) (hb : (TcpOption.blocks o.sackRanges).length ≤ 1) :
    Repr.contentLen o ≤ 39 := by
  have htime : (if o.timestamp.isSome then 10 else 0) = 0 := by
    rw [ht]
    rfl
  rw [Repr.contentLen, htime, fixedLen]
  split_ifs <;> omega

lemma bufferLen_toRepr (h : Sendable mtu r) (hmtu : 60 ≤ mtu.ipMtu) :
    (toRepr srcPort dstPort r).headerLen ≤ 40 ∧ (toRepr srcPort dstPort r).bufferLen + 20 ≤ mtu.ipMtu := by
  have hblocks : (TcpOption.blocks (toRepr srcPort dstPort r).sackRanges).length ≤ 1 := by
    rw [toRepr, blocks_single]
    exact Option.length_toList_le
  have hcontent := contentLen_le (o := (toRepr srcPort dstPort r).toOptions) rfl hblocks
  have hheader : (toRepr srcPort dstPort r).headerLen ≤ 40 := by
    rw [Repr.headerLen]
    split_ifs <;> omega
  refine ⟨hheader, ?_⟩
  rw [Repr.bufferLen]
  rcases h.size with hnil | ⟨hmss, hscale, hperm, hsack, hlen⟩
  · have hpayload : (toRepr srcPort dstPort r).payload.length = 0 := by
      rw [toRepr, hnil]
      rfl
    omega
  · have hempty : (toRepr srcPort dstPort r).toOptions = Options.empty := by
      rw [toRepr, hmss, hscale, hperm, hsack, no_blocks]
      rfl
    have hpayload : (toRepr srcPort dstPort r).payload.length ≤ mtu.ipMtu - 20 - 20 := hlen
    have hpos := mtu.headers_lt
    rw [Repr.headerLen, hempty, show Repr.contentLen Options.empty = 20 from rfl, if_pos (by decide)]
    omega

lemma ofRepr_toRepr (r : TcpRepr) : ofRepr (toRepr srcPort dstPort r) = r := by
  have hshift : ∀ shift : Fin 15,
      (⟨min (UInt8.ofNat shift.val).toNat 14, Nat.lt_succ_of_le (Nat.min_le_right _ _)⟩ : Fin 15) = shift := by decide
  have hscale : ((r.windowScale.map fun shift => UInt8.ofNat shift.val).map fun value =>
      ⟨min value.toNat 14, Nat.lt_succ_of_le (Nat.min_le_right _ _)⟩) = r.windowScale := by
    cases r.windowScale with
    | none => rfl
    | some shift => exact congrArg some (hshift shift)
  rw [ofRepr]
  dsimp only [toRepr]
  rw [hscale]
  rfl

theorem segments_survive (mtu : Mtu) (hmtu : 60 ≤ mtu.ipMtu) (hmax : mtu.ipMtu ≤ 65535) (s : Tcp.Socket) (seq : SeqNumber)
    (events : List Event) (caps : ChecksumCapabilities) (hcaps : caps.tcp.checksRx = true → caps.tcp.fillsTx = true)
    (src dst : Ipv4Address) (srcPort dstPort : UInt16) (hsrc : srcPort ≠ 0) (hdst : dstPort ≠ 0) :
    ∀ r ∈ (run (Trace.step mtu) (Trace.connected s seq) events).segments,
      (toRepr srcPort dstPort r).bufferLen + 20 ≤ mtu.ipMtu ∧
      ∀ p : Packet, p.buffer.length = (toRepr srcPort dstPort r).bufferLen →
        ∃ p' repr, (toRepr srcPort dstPort r).emit caps src dst p = some p' ∧
          Repr.parse caps src dst p'.buffer = .ok repr ∧ repr.srcPort = srcPort ∧ repr.dstPort = dstPort ∧
          ofRepr repr = r := by
  intro r hr
  have hsend : Sendable mtu r := by
    have hrun := run_preserves (I := fun t : Trace => ∀ r ∈ t.segments, Sendable mtu r)
      (fun _ e h => sendable_step h e) events (s := Trace.connected s seq)
      (fun r hr => absurd hr List.not_mem_nil)
    exact hrun r hr
  have hbounds : (toRepr srcPort dstPort r).headerLen ≤ 40 ∧ (toRepr srcPort dstPort r).bufferLen + 20 ≤ mtu.ipMtu :=
    bufferLen_toRepr hsend hmtu
  obtain ⟨hheader, hfits⟩ := hbounds
  refine ⟨hfits, fun p hp => ?_⟩
  obtain ⟨p', hemit, hemitted, hvalid⟩ := Repr.emit_spec caps src dst hp (by omega) (by omega) hcaps
  refine ⟨p', toRepr srcPort dstPort r, hemit, ?_, rfl, rfl, ofRepr_toRepr r⟩
  rw [hemitted.parse_eq (by omega) hsrc hdst hvalid, received_toRepr hsend]

theorem segments_survive_writing :
    let t := run (Trace.step ethernet) (Trace.connected smallSocket 5) (writing ++ [.dispatch 3 true])
    t.segments.map TcpRepr.payload = [[], [], [9]] ∧
    ∀ r ∈ t.segments, (toRepr 49152 80 r).bufferLen + 20 ≤ 1500 ∧
      ∀ p : Packet, p.buffer.length = (toRepr 49152 80 r).bufferLen →
        ∃ p' repr, (toRepr 49152 80 r).emit .ignored ⟨10, 0, 0, 2⟩ ⟨10, 0, 0, 1⟩ p = some p' ∧
          Repr.parse .ignored ⟨10, 0, 0, 2⟩ ⟨10, 0, 0, 1⟩ p'.buffer = .ok repr ∧ repr.srcPort = 49152 ∧
          repr.dstPort = 80 ∧ ofRepr repr = r := by
  intro t
  refine ⟨by decide +kernel, ?_⟩
  exact segments_survive ethernet (by decide) (by decide) smallSocket 5 (writing ++ [.dispatch 3 true]) .ignored (by decide)
    ⟨10, 0, 0, 2⟩ ⟨10, 0, 0, 1⟩ 49152 80 (by decide) (by decide)

end Survival

end SmoltcpS3.Wire

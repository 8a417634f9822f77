import SmoltcpS3.Wire.TcpRoundTrip

namespace SmoltcpS3.Wire

open BigEndian Device Smoltcp

namespace Options

section Canonical

structure Canonical (o : Options) : Prop where
  scale : ∀ value ∈ o.windowScale, value ≤ 14
  packed : TcpOption.pack o.sackRanges = o.sackRanges

lemma canonical_empty : Canonical empty := ⟨nofun, funext fun _ => rfl⟩

lemma Canonical.add {acc : Options} (h : acc.Canonical) {o : TcpOption} (ho : o.normal = o) : (acc.add o).Canonical := by
  cases o with
  | windowScale value =>
    refine ⟨fun v hv => ?_, h.packed⟩
    cases hv
    split_ifs with hlt
    · exact UInt8.le_refl _
    · exact UInt8.not_lt.mp hlt
  | sackRange ranges => exact ⟨h.scale, TcpOption.sackRange.inj ho⟩
  | _ => exact ⟨h.scale, h.packed⟩

lemma contentLen_add (acc : Options) (o : TcpOption) :
    Repr.contentLen (acc.add o) ≤ Repr.contentLen acc + o.bufferLen := by
  cases o with
  | endOfList => exact Nat.le_add_right _ _
  | noOperation => exact Nat.le_add_right _ _
  | unknown kind data => exact Nat.le_add_right _ _
  | maxSegmentSize value =>
    dsimp only [Repr.contentLen, add, TcpOption.bufferLen, Option.isSome_some]
    rw [if_pos rfl]
    omega
  | windowScale value =>
    dsimp only [Repr.contentLen, add, TcpOption.bufferLen, Option.isSome_some]
    rw [if_pos rfl]
    omega
  | sackPermitted =>
    dsimp only [Repr.contentLen, add, TcpOption.bufferLen]
    rw [if_pos rfl]
    omega
  | timeStamp tsval tsecr =>
    dsimp only [Repr.contentLen, add, TcpOption.bufferLen, Option.isSome_some]
    rw [if_pos rfl]
    omega
  | sackRange ranges =>
    have hranges : (if 0 < (TcpOption.blocks ranges).length * 8 then (TcpOption.blocks ranges).length * 8 + 2 else 0) ≤
        (TcpOption.blocks ranges).length * 8 + 2 := by
      split_ifs
      · exact le_rfl
      · exact Nat.zero_le _
    dsimp only [Repr.contentLen, add, TcpOption.bufferLen]
    omega

lemma parse_canonical {acc o : Options} {area : List UInt8} (h : parse acc area = .ok o) (hacc : acc.Canonical) :
    o.Canonical ∧ Repr.contentLen o ≤ Repr.contentLen acc + area.length := by
  induction hn : area.length using Nat.strong_induction_on generalizing acc area with
  | _ n ih =>
    by_cases hne : area = []
    · rw [hne, parse_nil] at h
      cases h
      exact ⟨hacc, Nat.le_add_right _ _⟩
    cases he : TcpOption.parse area with
    | error e =>
      rw [parse_of_error hne he] at h
      cases h
    | ok r =>
      obtain ⟨rest, o'⟩ := r
      obtain ⟨hnormal, hlen⟩ := TcpOption.parse_spec he
      rw [parse_of_ok hne he] at h
      by_cases hend : o' = .endOfList
      · rw [if_pos hend] at h
        cases h
        exact ⟨hacc, Nat.le_add_right _ _⟩
      · rw [if_neg hend] at h
        have hadd := contentLen_add acc o'
        obtain ⟨hcanonical, hle⟩ := ih rest.length (hn ▸ TcpOption.parse_shrinks he) h (hacc.add hnormal) rfl
        exact ⟨hcanonical, by omega⟩

lemma parse_ne_panic (acc : Options) (area : List UInt8) : parse acc area ≠ .error .panic := by
  induction hn : area.length using Nat.strong_induction_on generalizing acc area with
  | _ n ih =>
    by_cases hne : area = []
    · rw [hne, parse_nil]
      nofun
    cases he : TcpOption.parse area with
    | error e =>
      rw [parse_of_error hne he]
      intro hpanic
      cases hpanic
      exact TcpOption.parse_ne_panic area he
    | ok r =>
      obtain ⟨rest, o⟩ := r
      rw [parse_of_ok hne he]
      by_cases hend : o = .endOfList
      · rw [if_pos hend]
        nofun
      · rw [if_neg hend]
        exact ih rest.length (hn ▸ TcpOption.parse_shrinks he) (acc.add o) rest rfl

end Canonical

end Options

namespace Packet

lemma headerLen_le (p : Packet) : p.headerLen ≤ 60 ∧ p.headerLen % 4 = 0 := by
  have hlt := p.flags.toNat_lt
  have hnat : p.headerLen = p.flags.toNat / 4096 * 4 := by
    rw [headerLen, UInt16.toNat_toUInt8, UInt16.toNat_mul, UInt16.toNat_shiftRight,
      show (12 : UInt16).toNat % 16 = 12 from rfl, Nat.shiftRight_eq_div_pow, show (4 : UInt16).toNat = 4 from rfl]
    omega
  omega

lemma checkLen_eq_ok {buffer : List UInt8} {p : Packet} (h : checkLen buffer = .ok p) :
    p.buffer = buffer ∧ fixedLen ≤ p.headerLen ∧ p.headerLen ≤ buffer.length := by
  rw [checkLen] at h
  by_cases hlen : fixedLen ≤ buffer.length
  · rw [dif_pos hlen] at h
    dsimp only at h
    split_ifs at h with hbad
    cases h
    dsimp only at hbad ⊢
    exact ⟨rfl, by omega, by omega⟩
  · rw [dif_neg hlen] at h
    cases h

lemma checkLen_ne_panic (buffer : List UInt8) : checkLen buffer ≠ .error .panic := by
  rw [checkLen]
  dsimp only
  split_ifs <;> (intro hpanic; cases hpanic)

lemma control_ne_panic (p : Packet) : p.control ≠ .error .panic := by
  rw [control]
  split <;> (intro hpanic; cases hpanic)

end Packet

namespace Repr

section Accepted

variable (caps : ChecksumCapabilities) (src dst : Ipv4Address) (buffer : List UInt8)

lemma parse_cases :
    parse caps src dst buffer = .error .error ∨
    ∃ p control options ack, Packet.checkLen buffer = .ok p ∧ p.get .srcPort ≠ 0 ∧ p.get .dstPort ≠ 0 ∧
      Options.parse .empty (extract fixedLen (p.headerLen - fixedLen) buffer) = .ok options ∧
      parse caps src dst buffer = .ok { options with
        srcPort := UInt16.ofNat (p.get .srcPort)
        dstPort := UInt16.ofNat (p.get .dstPort)
        control := control
        seqNumber := BitVec.ofNat 32 (p.get .seqNum)
        ackNumber := ack
        windowLen := UInt16.ofNat (p.get .winSize)
        payload := buffer.drop p.headerLen } := by
  have herror : ∀ {α : Type} {x : Except Fault α} {e : Fault}, x = .error e → x ≠ .error .panic → e = .error := by
    intro α x e he hne
    cases e with
    | error => rfl
    | panic => exact absurd he hne
  cases hp : Packet.checkLen buffer with
  | error e =>
    left
    rw [parse, hp, herror hp (Packet.checkLen_ne_panic buffer)]
    rfl
  | ok p =>
    obtain ⟨hbuffer, hfixed, hle⟩ := Packet.checkLen_eq_ok hp
    have hoptions : p.options = .ok (extract fixedLen (p.headerLen - fixedLen) buffer) := by
      rw [Packet.options, hbuffer, if_pos ⟨hfixed, hle⟩]
    have hpayload : p.payload = .ok (buffer.drop p.headerLen) := by
      rw [Packet.payload, hbuffer, if_pos hle]
    rw [parse, hp]
    simp only [bind, Except.bind]
    by_cases hsrc : p.get .srcPort = 0
    · exact .inl (if_pos hsrc)
    by_cases hdst : p.get .dstPort = 0
    · rw [if_neg hsrc, if_pos hdst]
      exact .inl rfl
    by_cases hsum : (caps.tcp.checksRx && !p.verifyChecksum src dst) = true
    · rw [if_neg hsrc, if_neg hdst, if_pos hsum]
      exact .inl rfl
    rw [if_neg hsrc, if_neg hdst, if_neg hsum, hoptions, hpayload]
    cases hc : p.control with
    | error e =>
      rw [herror hc p.control_ne_panic]
      exact .inl rfl
    | ok control =>
      dsimp only
      cases ho : Options.parse .empty (extract fixedLen (p.headerLen - fixedLen) buffer) with
      | error e =>
        rw [herror ho (Options.parse_ne_panic _ _)]
        exact .inl rfl
      | ok options => exact .inr ⟨p, control, options, _, rfl, hsrc, hdst, ho, rfl⟩

variable {caps src dst buffer} {repr : Repr}

lemma parse_eq_ok (h : parse caps src dst buffer = .ok repr) :
    repr.srcPort ≠ 0 ∧ repr.dstPort ≠ 0 ∧ repr.toOptions.Canonical ∧ repr.headerLen ≤ 60 ∧
      repr.bufferLen ≤ buffer.length := by
  obtain herr | ⟨p, control, options, ack, hp, hsrc, hdst, hoptions, hok⟩ := parse_cases caps src dst buffer
  · rw [herr] at h
    cases h
  · rw [hok] at h
    cases h
    obtain ⟨hbuffer, hfixed, hle⟩ := Packet.checkLen_eq_ok hp
    obtain ⟨hcanonical, hcontent⟩ := Options.parse_canonical hoptions Options.canonical_empty
    rw [show contentLen Options.empty = fixedLen from rfl, extract, List.length_take, List.length_drop] at hcontent
    obtain ⟨hsixty, hfour⟩ := p.headerLen_le
    have hport : ∀ f : Field, f.len = 2 → p.get f ≠ 0 → UInt16.ofNat (p.get f) ≠ 0 := by
      intro f hlen hne hzero
      have hsize : (extract f.start f.len p.buffer).length ≤ 2 := by
        rw [← hlen]
        exact List.length_take_le _ _
      have hlt : p.get f < 65536 :=
        calc p.get f < 256 ^ (extract f.start f.len p.buffer).length := decode_lt _
          _ ≤ 256 ^ 2 := Nat.pow_le_pow_right (by decide) hsize
      rw [← UInt16.toNat_inj, UInt16.toNat_ofNat', UInt16.toNat_zero] at hzero
      omega
    have hheader : headerLen { options with
        srcPort := UInt16.ofNat (p.get .srcPort)
        dstPort := UInt16.ofNat (p.get .dstPort)
        control := control
        seqNumber := BitVec.ofNat 32 (p.get .seqNum)
        ackNumber := ack
        windowLen := UInt16.ofNat (p.get .winSize)
        payload := buffer.drop p.headerLen } ≤ p.headerLen := by
      rw [headerLen]
      dsimp only
      split_ifs <;> omega
    refine ⟨hport .srcPort rfl hsrc, hport .dstPort rfl hdst, hcanonical, hheader.trans hsixty, ?_⟩
    rw [bufferLen, List.length_drop]
    omega

lemma received_of_canonical (h : repr.toOptions.Canonical) :
    repr.received = { repr with
      sackRanges := if repr.sackPermitted = false ∧ repr.ackNumber.isSome then repr.sackRanges else fun _ => none } := by
  have hscale : (repr.windowScale.map fun value => if 14 < value then 14 else value) = repr.windowScale := by
    cases hs : repr.windowScale with
    | none => rfl
    | some value => rw [Option.map_some, if_neg (UInt8.not_lt.mpr (h.scale value hs))]
  rw [received, hscale, h.packed]

theorem accepted_reemits (caps : ChecksumCapabilities) (src dst : Ipv4Address) (buffer : List UInt8) :
    parse caps src dst buffer ≠ .error .panic ∧
    ∀ repr, parse caps src dst buffer = .ok repr → repr.bufferLen ≤ buffer.length ∧
      (buffer.length ≤ 65535 → (caps.tcp.checksRx = true → caps.tcp.fillsTx = true) →
      ∀ p : Packet, p.buffer.length = repr.bufferLen → ∃ p', repr.emit caps src dst p = some p' ∧
        parse caps src dst p'.buffer = .ok { repr with
          sackRanges :=
            if repr.sackPermitted = false ∧ repr.ackNumber.isSome then repr.sackRanges else fun _ => none }) := by
  constructor
  · obtain herr | ⟨_, _, _, _, _, _, _, _, hok⟩ := parse_cases caps src dst buffer
    · rw [herr]
      exact fun h => Fault.noConfusion (Except.error.inj h)
    · rw [hok]
      nofun
  · intro repr h
    obtain ⟨hsrc, hdst, hcanonical, hle, hsize⟩ := parse_eq_ok h
    refine ⟨hsize, fun hlen hcaps p hp => ?_⟩
    obtain ⟨p', hemit, hemitted, hvalid⟩ := emit_spec caps src dst hp hle (hsize.trans hlen) hcaps
    refine ⟨p', hemit, ?_⟩
    rw [hemitted.parse_eq hle hsrc hdst hvalid, received_of_canonical hcanonical]

theorem accepted_reemits_openingSegment :
    ∃ buffer repr, parse ⟨.both, .both, .both, .both⟩ ⟨10, 0, 0, 2⟩ ⟨10, 0, 0, 1⟩ buffer = .ok repr ∧
      repr.bufferLen ≤ buffer.length ∧
      ∀ p : Packet, p.buffer.length = repr.bufferLen →
        ∃ p', repr.emit ⟨.both, .both, .both, .both⟩ ⟨10, 0, 0, 2⟩ ⟨10, 0, 0, 1⟩ p = some p' ∧
        parse ⟨.both, .both, .both, .both⟩ ⟨10, 0, 0, 2⟩ ⟨10, 0, 0, 1⟩ p'.buffer = .ok { repr with
          sackRanges :=
            if repr.sackPermitted = false ∧ repr.ackNumber.isSome then repr.sackRanges else fun _ => none } := by
  have hemits : ∃ p', openingSegment.emit ⟨.both, .both, .both, .both⟩ ⟨10, 0, 0, 2⟩ ⟨10, 0, 0, 1⟩
        ⟨List.replicate 32 0xff, by decide⟩ = some p' ∧ openingSegment.Emitted p' ∧
      (Checksum.both.checksRx = true → p'.verifyChecksum ⟨10, 0, 0, 2⟩ ⟨10, 0, 0, 1⟩ = true) :=
    emit_spec _ _ _ (by decide) (by decide) (by decide) (by decide)
  obtain ⟨p', _, hemitted, hvalid⟩ := hemits
  have hparse : parse ⟨.both, .both, .both, .both⟩ ⟨10, 0, 0, 2⟩ ⟨10, 0, 0, 1⟩ p'.buffer = .ok openingSegment.received :=
    hemitted.parse_eq (by decide) (by decide) (by decide) hvalid
  obtain ⟨hle, hreemits⟩ :=
    (accepted_reemits ⟨.both, .both, .both, .both⟩ ⟨10, 0, 0, 2⟩ ⟨10, 0, 0, 1⟩ p'.buffer).2 _ hparse
  exact ⟨p'.buffer, _, hparse, hle, hreemits (by rw [hemitted.length]; decide) (by decide)⟩

end Accepted

end Repr

end SmoltcpS3.Wire

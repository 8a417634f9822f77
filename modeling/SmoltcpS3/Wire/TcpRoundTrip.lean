import SmoltcpS3.Wire.TcpChecksum

namespace SmoltcpS3.Wire

open BigEndian Device Smoltcp

namespace Options

section Area

def sizeOf (os : List TcpOption) : ℕ := (os.map TcpOption.bufferLen).sum

variable {os : List TcpOption}

lemma emitOptions_eq (h : ∀ o ∈ os, o.Sized) {buffer : List UInt8} (hlen : sizeOf os ≤ buffer.length) :
    Repr.emitOptions os buffer =
      some (os.flatMap TcpOption.bytes ++ List.replicate (buffer.length - sizeOf os) TcpOption.optEnd) := by
  induction os generalizing buffer with
  | nil =>
    cases buffer with
    | nil => rfl
    | cons b buffer =>
      rw [Repr.emitOptions, TcpOption.emit, Option.map_some, List.map_const', List.singleton_append, ← List.replicate_succ]
      · rfl
      · exact List.cons_ne_nil _ _
  | cons o os ih =>
    have ho := h o List.mem_cons_self
    rw [sizeOf, List.map_cons, List.sum_cons] at hlen
    have hrest : sizeOf os ≤ (buffer.drop o.bufferLen).length := by
      rw [List.length_drop, sizeOf]
      omega
    have htail := ih (fun o ho => h o (List.mem_cons_of_mem _ ho)) hrest
    rw [Repr.emitOptions, ho.emit_eq (by omega)]
    simp only [bind, Option.bind, htail, List.flatMap_cons, List.append_assoc, List.length_drop, sizeOf,
      List.map_cons, List.sum_cons, Nat.sub_sub]

lemma length_flatMap_bytes (h : ∀ o ∈ os, o.Sized) : (os.flatMap TcpOption.bytes).length = sizeOf os := by
  induction os with
  | nil => rfl
  | cons o os ih =>
    have ho := h o List.mem_cons_self
    rw [List.flatMap_cons, List.length_append, ih fun o ho => h o (List.mem_cons_of_mem _ ho), ho.bytes_eq,
      List.length_cons, List.length_cons, ← ho.length_data]
    rfl

lemma parse_nil (acc : Options) : parse acc [] = .ok acc := by
  rw [parse, if_pos rfl]

lemma parse_of_error {acc : Options} {area : List UInt8} {e : Fault} (hne : area ≠ [])
    (he : TcpOption.parse area = .error e) : parse acc area = .error e := by
  rw [parse, if_neg hne]
  split
  · rename_i e' he'
    rw [he] at he'
    cases he'
    rfl
  · rename_i rest o he'
    rw [he] at he'
    cases he'

lemma parse_of_ok {acc : Options} {area rest : List UInt8} {o : TcpOption} (hne : area ≠ [])
    (he : TcpOption.parse area = .ok (rest, o)) :
    parse acc area = if o = .endOfList then .ok acc else parse (acc.add o) rest := by
  rw [parse, if_neg hne]
  split
  · rename_i e he'
    rw [he] at he'
    cases he'
  · rename_i rest' o' he'
    rw [he] at he'
    cases he'
    rfl

lemma parse_area (h : ∀ o ∈ os, o.Sized) (acc : Options) (n : ℕ) :
    parse acc (os.flatMap TcpOption.bytes ++ List.replicate n TcpOption.optEnd) =
      .ok (os.foldl (fun acc o => acc.add o.normal) acc) := by
  induction os generalizing acc with
  | nil =>
    cases n with
    | zero =>
      rw [parse, if_pos (by rfl)]
      rfl
    | succ n =>
      rw [parse, if_neg (by simp)]
      rfl
  | cons o os ih =>
    have ho := h o List.mem_cons_self
    have hparse := ho.parse_bytes (os.flatMap TcpOption.bytes ++ List.replicate n TcpOption.optEnd)
    have hne : o.normal ≠ .endOfList := by
      cases o <;> first | exact False.elim ho | nofun
    have hcons : o.bytes ++ (os.flatMap TcpOption.bytes ++ List.replicate n TcpOption.optEnd) ≠ [] := by
      rw [ho.bytes_eq]
      exact List.cons_ne_nil _ _
    rw [List.flatMap_cons, List.append_assoc, parse_of_ok hcons hparse, if_neg hne,
      ih (fun o ho => h o (List.mem_cons_of_mem _ ho)), List.foldl_cons]

end Area

end Options

namespace Repr

section Header

def lenWord (k : Fin 16) : UInt16 := ((UInt8.ofNat (4 * k)).toUInt16 / 4) <<< 12

def flagsWord (k : Fin 16) (control : Control) (ack : Bool) : UInt16 :=
  let raw := match control with
    | .none => lenWord k
    | .psh => lenWord k ||| flgPsh
    | .syn => lenWord k ||| flgSyn
    | .fin => lenWord k ||| flgFin
    | .rst => lenWord k ||| flgRst
  if ack then raw ||| flgAck else raw &&& ~~~flgAck

lemma cleared (raw : UInt16) (k : Fin 16) :
    ((raw &&& ~~~(0xf000 : UInt16)) ||| lenWord k) &&& ~~~(0x0fff : UInt16) = lenWord k := by
  have hnone : ~~~(0xf000 : UInt16) &&& ~~~(0x0fff : UInt16) = 0 := by decide
  have hkept : ∀ k : Fin 16, lenWord k &&& ~~~(0x0fff : UInt16) = lenWord k := by decide +kernel
  have hdistrib : ∀ x y z : UInt16, (x ||| y) &&& z = x &&& z ||| y &&& z :=
    fun x y z => UInt16.toBitVec_inj.mp BitVec.and_or_distrib_right
  rw [hdistrib, UInt16.and_assoc, hnone, UInt16.and_zero, UInt16.zero_or, hkept]

lemma flags_setControl {p : Packet} {k : Fin 16} (h : p.flags = lenWord k) (control : Control) (ack : Bool) :
    ((setControl p control).setFlag flgAck ack).flags = flagsWord k control ack := by
  rw [Packet.setFlag, Packet.flags_setFlags]
  cases control with
  | none => rw [setControl, h]; rfl
  | _ => rw [setControl, Packet.setFlag, Packet.flags_setFlags, h]; rfl

lemma flags_reprSetFlags {repr : Repr} {k : Fin 16} (h : repr.headerLen = 4 * k) (p : Packet) :
    (repr.setFlags p).flags = flagsWord k repr.control repr.ackNumber.isSome := by
  apply flags_setControl
  rw [Packet.clearFlags, Packet.flags_setFlags, Packet.setHeaderLen, Packet.flags_setFlags, h]
  exact cleared p.flags k

variable {p : Packet} {k : Fin 16} {control : Control} {ack : Bool}

lemma headerLen_flagsWord (h : p.flags = flagsWord k control ack) : p.headerLen = 4 * k := by
  rw [Packet.headerLen, h]
  clear h
  cases control <;> cases ack <;> revert k <;> decide +kernel

lemma control_flagsWord (h : p.flags = flagsWord k control ack) : p.control = .ok control := by
  rw [Packet.control, Packet.flag, Packet.flag, Packet.flag, Packet.flag, h]
  clear h
  cases control <;> cases ack <;> revert k <;> decide +kernel

lemma ack_flagsWord (h : p.flags = flagsWord k control ack) : p.flag flgAck = ack := by
  rw [Packet.flag, h]
  clear h
  cases control <;> cases ack <;> revert k <;> decide +kernel

end Header

section Emission

variable (repr : Repr)

lemma get_setFlags {f : Field} (h : f ≠ .flags) (p : Packet) : (repr.setFlags p).get f = p.get f := by
  cases hc : repr.control <;>
    simp [setFlags, hc, setControl, Packet.setFlag, Packet.clearFlags, Packet.setHeaderLen, Packet.setFlags, h]

lemma length_header (p : Packet) : (repr.setFlags (repr.setFields p)).buffer.length = p.buffer.length := by
  cases hc : repr.control <;>
    simp [setFlags, setFields, hc, setControl, Packet.setFlag, Packet.clearFlags, Packet.setHeaderLen, Packet.setFlags]

lemma sized_optionList : ∀ o ∈ repr.optionList, o.Sized := by
  intro o ho
  simp only [optionList, List.mem_append, Option.mem_toList, Option.map_eq_some_iff] at ho
  obtain ((⟨value, _, rfl⟩ | ⟨value, _, rfl⟩) | ho) | ⟨t, _, rfl⟩ := ho
  · trivial
  · trivial
  · split_ifs at ho with hperm hranges
    · rw [List.mem_singleton.mp ho]
      trivial
    · rw [List.mem_singleton.mp ho]
      exact hranges.2
    · cases ho
  · trivial

lemma sizeOf_optionList : fixedLen + Options.sizeOf repr.optionList ≤ repr.headerLen := by
  have hround : contentLen repr.toOptions ≤ repr.headerLen := by
    rw [headerLen]
    split_ifs <;> omega
  have hopt : ∀ {α : Type} (x : Option α) (f : α → TcpOption) (n : ℕ), (∀ a, (f a).bufferLen = n) →
      Options.sizeOf (x.map f).toList = if x.isSome then n else 0 := by
    intro α x f n hf
    cases x with
    | none => rfl
    | some a => simp [Options.sizeOf, hf]
  have hsack : Options.sizeOf (if repr.sackPermitted then [.sackPermitted]
      else if repr.ackNumber.isSome ∧ TcpOption.blocks repr.sackRanges ≠ [] then [.sackRange repr.sackRanges]
      else []) ≤ (if repr.sackPermitted then 2 else 0) +
        if 0 < (TcpOption.blocks repr.sackRanges).length * 8 then (TcpOption.blocks repr.sackRanges).length * 8 + 2 else 0 := by
    by_cases hperm : repr.sackPermitted = true
    · rw [if_pos hperm, if_pos hperm]
      exact Nat.le_add_right _ _
    rw [if_neg hperm, if_neg hperm, Nat.zero_add]
    by_cases hranges : repr.ackNumber.isSome ∧ TcpOption.blocks repr.sackRanges ≠ []
    · have hpos := List.length_pos_iff.mpr hranges.2
      rw [if_pos hranges, if_pos (by omega)]
      exact le_rfl
    · rw [if_neg hranges]
      exact Nat.zero_le _
  have happend : ∀ l l', Options.sizeOf (l ++ l') = Options.sizeOf l + Options.sizeOf l' := by
    intro l l'
    rw [Options.sizeOf, List.map_append, List.sum_append]
    rfl
  rw [contentLen] at hround
  rw [optionList, happend, happend, happend, hopt _ _ 4 (fun _ => rfl), hopt _ _ 3 (fun _ => rfl),
    hopt _ _ 10 (fun _ => rfl)]
  omega

lemma headerLen_mod : repr.headerLen % 4 = 0 := by
  rw [headerLen]
  split_ifs <;> omega

structure HasFields (p : Packet) : Prop where
  srcPort : p.get .srcPort = repr.srcPort.toNat
  dstPort : p.get .dstPort = repr.dstPort.toNat
  seqNum : p.get .seqNum = repr.seqNumber.toNat
  ackNum : p.get .ackNum = (repr.ackNumber.getD 0).toNat
  winSize : p.get .winSize = repr.windowLen.toNat
  flags : ∀ k : Fin 16, repr.headerLen = 4 * k → p.flags = flagsWord k repr.control repr.ackNumber.isSome

variable {repr}

lemma HasFields.of_get {p p' : Packet} (h : repr.HasFields p)
    (hget : ∀ f, f ≠ .checksum → f ≠ .urgent → p'.get f = p.get f) : repr.HasFields p' where
  srcPort := (hget .srcPort (by decide) (by decide)).trans h.srcPort
  dstPort := (hget .dstPort (by decide) (by decide)).trans h.dstPort
  seqNum := (hget .seqNum (by decide) (by decide)).trans h.seqNum
  ackNum := (hget .ackNum (by decide) (by decide)).trans h.ackNum
  winSize := (hget .winSize (by decide) (by decide)).trans h.winSize
  flags k hk := by rw [Packet.flags, hget .flags (by decide) (by decide), ← Packet.flags, h.flags k hk]

lemma HasFields.headerLen_eq {p : Packet} (h : repr.HasFields p) (hle : repr.headerLen ≤ 60) :
    p.headerLen = repr.headerLen := by
  have hmod := repr.headerLen_mod
  have hk : repr.headerLen = 4 * (repr.headerLen / 4) := by omega
  rw [headerLen_flagsWord (h.flags ⟨repr.headerLen / 4, by omega⟩ hk), ← hk]

variable (repr)

lemma hasFields_header (p : Packet) : repr.HasFields (repr.setFlags (repr.setFields p)) where
  srcPort := by
    rw [get_setFlags (f := .srcPort) _ (by decide)]
    simp [setFields, Packet.get_set_self _ Field.srcPort repr.srcPort.toNat_lt]
  dstPort := by
    rw [get_setFlags (f := .dstPort) _ (by decide)]
    simp [setFields, Packet.get_set_self _ Field.dstPort repr.dstPort.toNat_lt]
  seqNum := by
    rw [get_setFlags (f := .seqNum) _ (by decide)]
    simp [setFields, Packet.get_set_self _ Field.seqNum repr.seqNumber.isLt]
  ackNum := by
    rw [get_setFlags (f := .ackNum) _ (by decide)]
    simp [setFields, Packet.get_set_self _ Field.ackNum (repr.ackNumber.getD 0#32).isLt]
  winSize := by
    rw [get_setFlags (f := .winSize) _ (by decide)]
    simp [setFields, Packet.get_set_self _ Field.winSize repr.windowLen.toNat_lt]
  flags k hk := flags_reprSetFlags hk _

structure Emitted (p : Packet) : Prop extends repr.HasFields p where
  area : ∃ n, extract fixedLen (repr.headerLen - fixedLen) p.buffer =
    repr.optionList.flatMap TcpOption.bytes ++ List.replicate n TcpOption.optEnd
  payload : p.buffer.drop repr.headerLen = repr.payload
  length : p.buffer.length = repr.bufferLen

variable {repr}

lemma fixedLen_le_headerLen : fixedLen ≤ repr.headerLen :=
  (Nat.le_add_right _ _).trans repr.sizeOf_optionList

lemma extract_set (p : Packet) (f : Field) (n len : ℕ) :
    extract fixedLen len (p.set f n).buffer = extract fixedLen len p.buffer := by
  rw [extract, p.drop_set f n le_rfl, extract]

lemma Emitted.set_checksum {p : Packet} (h : repr.Emitted p) (n : ℕ) : repr.Emitted (p.set .checksum n) where
  toHasFields := h.toHasFields.of_get fun _ hf _ => p.get_set_of_ne hf n
  area := by
    rw [extract_set]
    exact h.area
  payload := by rw [p.drop_set _ n fixedLen_le_headerLen, h.payload]
  length := by rw [p.length_set, h.length]

lemma Emitted.fillChecksum {p : Packet} (h : repr.Emitted p) (src dst : Ipv4Address) :
    repr.Emitted (p.fillChecksum src dst) := (h.set_checksum 0).set_checksum _

lemma updateOptions_eq {p : Packet} (h : repr.HasFields p) (hle : repr.headerLen ≤ 60)
    (hlen : p.buffer.length = repr.bufferLen) :
    ∃ p', p.updateOptions (emitOptions repr.optionList) = some p' ∧ repr.HasFields p' ∧
      p'.buffer.length = repr.bufferLen ∧
      ∃ n, extract fixedLen (repr.headerLen - fixedLen) p'.buffer =
        repr.optionList.flatMap TcpOption.bytes ++ List.replicate n TcpOption.optEnd := by
  have hsize := repr.sizeOf_optionList
  have hbuf : repr.headerLen ≤ p.buffer.length := by
    rw [hlen, bufferLen]
    omega
  set space := extract fixedLen (repr.headerLen - fixedLen) p.buffer with hspace
  have hspaceLen : space.length = repr.headerLen - fixedLen := by
    rw [hspace, extract, List.length_take, List.length_drop]
    omega
  have hemit := Options.emitOptions_eq repr.sized_optionList (show Options.sizeOf repr.optionList ≤ space.length by omega)
  set area := repr.optionList.flatMap TcpOption.bytes ++
    List.replicate (space.length - Options.sizeOf repr.optionList) TcpOption.optEnd with harea
  have hareaLen : area.length = repr.headerLen - fixedLen := by
    rw [harea, List.length_append, Options.length_flatMap_bytes repr.sized_optionList, List.length_replicate]
    omega
  have hfit : fixedLen + area.length ≤ p.buffer.length := by omega
  refine ⟨⟨put fixedLen area p.buffer, header_le_put p.header_le (.inl le_rfl)⟩, ?_, ?_, ?_, ?_⟩
  · rw [Packet.updateOptions, h.headerLen_eq hle, if_pos ⟨fixedLen_le_headerLen, hbuf⟩, ← hspace, hemit]
    rfl
  · exact h.of_get fun f _ _ => Packet.get_of_put (by rfl) le_rfl hfit f
  · exact (length_put hfit).trans hlen
  · exact ⟨_, hareaLen ▸ extract_put_self p.header_le⟩

lemma copyPayload_eq {p : Packet} (h : repr.HasFields p) (hle : repr.headerLen ≤ 60)
    (hlen : p.buffer.length = repr.bufferLen)
    (harea : ∃ n, extract fixedLen (repr.headerLen - fixedLen) p.buffer =
      repr.optionList.flatMap TcpOption.bytes ++ List.replicate n TcpOption.optEnd) :
    ∃ p', p.copyPayload repr.payload = some p' ∧ repr.Emitted p' := by
  have hhead := h.headerLen_eq hle
  have hfit : p.headerLen + repr.payload.length ≤ p.buffer.length := by rw [hhead, hlen, bufferLen]
  have hfixed : fixedLen ≤ p.headerLen := hhead.symm ▸ fixedLen_le_headerLen
  refine ⟨⟨put p.headerLen repr.payload p.buffer, header_le_put p.header_le (.inr hfit)⟩, ?_, ?_, ?_, ?_, ?_⟩
  · rw [Packet.copyPayload, dif_pos hfit]
  · exact h.of_get fun f _ _ => Packet.get_of_put (by rfl) hfixed hfit f
  · obtain ⟨n, hn⟩ := harea
    refine ⟨n, ?_⟩
    rw [← hn]
    exact extract_put_of_disjoint hfit (by omega)
  · have htake : (p.buffer.take p.headerLen).length = repr.headerLen := by
      rw [List.length_take, hhead]
      omega
    have hdrop : p.buffer.drop (p.headerLen + repr.payload.length) = [] := by
      apply List.drop_eq_nil_of_le
      rw [hlen, hhead, bufferLen]
    change (put p.headerLen repr.payload p.buffer).drop repr.headerLen = repr.payload
    rw [put, List.append_assoc, List.drop_left' htake, hdrop, List.append_nil]
  · exact (length_put hfit).trans hlen

lemma emit_emitted (caps : ChecksumCapabilities) (src dst : Ipv4Address) {p : Packet}
    (hlen : p.buffer.length = repr.bufferLen) (hle : repr.headerLen ≤ 60) :
    ∃ p', repr.Emitted p' ∧
      repr.emit caps src dst p = some (if caps.tcp.fillsTx then p'.fillChecksum src dst else p'.set .checksum 0) := by
  obtain ⟨p₁, hp₁, hfields₁, hlen₁, n, harea₁⟩ :=
    updateOptions_eq (repr.hasFields_header p) hle ((repr.length_header p).trans hlen)
  obtain ⟨p₂, hp₂, hemitted⟩ := copyPayload_eq (p := p₁.set .urgent 0)
    (hfields₁.of_get fun f _ hf => p₁.get_set_of_ne hf 0) hle ((p₁.length_set _ _).trans hlen₁)
    ⟨n, by rw [extract_set, harea₁]⟩
  refine ⟨p₂, hemitted, ?_⟩
  rw [emit]
  simp only [bind, Option.bind, hp₁, hp₂]

end Emission

section RoundTrip

/-- What arrives: no shift above 14, and the SACK blocks only where `emit` writes them, moved to the front. -/
def received (repr : Repr) : Repr :=
  { repr with
    windowScale := repr.windowScale.map fun value => if 14 < value then 14 else value
    sackRanges :=
      if repr.sackPermitted = false ∧ repr.ackNumber.isSome then TcpOption.pack repr.sackRanges else fun _ => none }

lemma pack_of_blocks {ranges : SackRanges} (h : TcpOption.blocks ranges = []) : TcpOption.pack ranges = fun _ => none := by
  funext i
  rw [TcpOption.pack, h, List.getElem?_nil]

lemma foldl_optionList (repr : Repr) :
    repr.optionList.foldl (fun acc o => acc.add o.normal) .empty = repr.received.toOptions := by
  obtain ⟨⟨mss, scale, perm, ranges, ts⟩, srcPort, dstPort, control, seq, ack, win, payload⟩ := repr
  have hsack : ∀ acc : Options, acc.sackPermitted = false → acc.sackRanges = (fun _ => none) →
      (if perm = true then [TcpOption.sackPermitted]
        else if ack.isSome ∧ TcpOption.blocks ranges ≠ [] then [.sackRange ranges] else []).foldl
          (fun acc o => acc.add o.normal) acc =
        { acc with
          sackPermitted := perm
          sackRanges := if perm = false ∧ ack.isSome then TcpOption.pack ranges else fun _ => none } := by
    intro acc hperm hranges
    obtain ⟨_, _, _, _, _⟩ := acc
    subst hperm hranges
    by_cases hp : perm = true
    · subst hp
      rfl
    · rw [Bool.not_eq_true] at hp
      subst hp
      by_cases hack : ack.isSome = true
      · by_cases hblocks : TcpOption.blocks ranges = []
        · rw [if_neg Bool.false_ne_true, if_neg fun h => h.2 hblocks, if_pos ⟨rfl, hack⟩, pack_of_blocks hblocks]
          rfl
        · rw [if_neg Bool.false_ne_true, if_pos ⟨hack, hblocks⟩, if_pos ⟨rfl, hack⟩]
          rfl
      · rw [if_neg Bool.false_ne_true, if_neg fun h => hack h.1, if_neg fun h => hack h.2]
        rfl
  simp only [optionList, List.foldl_append]
  rw [hsack _ (by cases mss <;> cases scale <;> rfl) (by cases mss <;> cases scale <;> rfl)]
  cases mss <;> cases scale <;> cases ts <;> rfl

variable {repr : Repr} {p : Packet} {caps : ChecksumCapabilities} {src dst : Ipv4Address}

lemma Emitted.parse_eq (h : repr.Emitted p) (hle : repr.headerLen ≤ 60) (hsrc : repr.srcPort ≠ 0)
    (hdst : repr.dstPort ≠ 0) (hsum : caps.tcp.checksRx = true → p.verifyChecksum src dst = true) :
    parse caps src dst p.buffer = .ok repr.received := by
  have hhead := h.headerLen_eq hle
  have hmod := repr.headerLen_mod
  have hk : repr.headerLen = 4 * (repr.headerLen / 4) := by omega
  have hflags := h.flags ⟨repr.headerLen / 4, by omega⟩ hk
  have hbuf : repr.headerLen ≤ p.buffer.length := by
    rw [h.length, bufferLen]
    omega
  have hcheck : Packet.checkLen p.buffer = .ok p := by
    have hfixed : fixedLen ≤ repr.headerLen := fixedLen_le_headerLen
    rw [Packet.checkLen, dif_pos p.header_le]
    exact if_neg (by rw [hhead]; omega)
  have hport : ∀ {port : UInt16}, port ≠ 0 → port.toNat ≠ 0 := by
    intro port hne hzero
    exact hne (UInt16.toNat_inj.mp hzero)
  have hverify : ¬ (caps.tcp.checksRx && !p.verifyChecksum src dst) = true := by
    cases hrx : caps.tcp.checksRx with
    | false => simp
    | true => simp [hsum hrx]
  have hoptions : p.options = .ok (extract fixedLen (repr.headerLen - fixedLen) p.buffer) := by
    rw [Packet.options, hhead, if_pos ⟨fixedLen_le_headerLen, hbuf⟩]
  have hpayload : p.payload = .ok repr.payload := by
    rw [Packet.payload, hhead, if_pos hbuf, h.payload]
  obtain ⟨n, harea⟩ := h.area
  rw [parse]
  simp only [bind, Except.bind, hcheck]
  rw [h.srcPort, h.dstPort, if_neg (hport hsrc), if_neg (hport hdst), if_neg hverify, control_flagsWord hflags,
    hoptions, harea]
  dsimp only
  rw [Options.parse_area repr.sized_optionList, foldl_optionList, hpayload, ack_flagsWord hflags, h.seqNum, h.ackNum,
    h.winSize]
  dsimp only
  congr 1
  obtain ⟨⟨mss, scale, perm, ranges, ts⟩, srcPort, dstPort, control, seq, ack, win, payload⟩ := repr
  cases ack with
  | none => simp [received]
  | some ack => simp [received]

lemma emit_spec (caps : ChecksumCapabilities) (src dst : Ipv4Address) (hlen : p.buffer.length = repr.bufferLen)
    (hle : repr.headerLen ≤ 60) (hsize : repr.bufferLen ≤ 65535)
    (hcaps : caps.tcp.checksRx = true → caps.tcp.fillsTx = true) :
    ∃ p', repr.emit caps src dst p = some p' ∧ repr.Emitted p' ∧
      (caps.tcp.checksRx = true → p'.verifyChecksum src dst = true) := by
  obtain ⟨p', hemitted, hemit⟩ := emit_emitted caps src dst hlen hle
  refine ⟨_, hemit, ?_⟩
  by_cases htx : caps.tcp.fillsTx = true
  · rw [if_pos htx]
    refine ⟨hemitted.fillChecksum src dst, fun _ => ?_⟩
    exact Packet.verifyChecksum_fillChecksum src dst (by rw [hemitted.length]; omega)
  · rw [if_neg htx]
    exact ⟨hemitted.set_checksum 0, fun hrx => absurd (hcaps hrx) htx⟩

theorem parse_emit (repr : Repr) (p : Packet) (caps : ChecksumCapabilities) (src dst : Ipv4Address)
    (hlen : p.buffer.length = repr.bufferLen) (hle : repr.headerLen ≤ 60) (hsize : repr.bufferLen ≤ 65535)
    (hsrc : repr.srcPort ≠ 0) (hdst : repr.dstPort ≠ 0) (hcaps : caps.tcp.checksRx = true → caps.tcp.fillsTx = true) :
    ∃ p', repr.emit caps src dst p = some p' ∧ p'.buffer.length = repr.bufferLen ∧
      parse caps src dst p'.buffer = .ok repr.received := by
  obtain ⟨p', hemit, hemitted, hvalid⟩ := emit_spec caps src dst hlen hle hsize hcaps
  exact ⟨p', hemit, hemitted.length, hemitted.parse_eq hle hsrc hdst hvalid⟩

def openingSegment : Repr where
  maxSegSize := some 1460
  windowScale := some 6
  sackPermitted := true
  sackRanges := fun _ => none
  timestamp := none
  srcPort := 49152
  dstPort := 80
  control := .syn
  seqNumber := 5
  ackNumber := none
  windowLen := 0xffff
  payload := []

theorem parse_emit_openingSegment :
    ∃ p', openingSegment.emit ⟨.both, .both, .both, .both⟩ ⟨10, 0, 0, 2⟩ ⟨10, 0, 0, 1⟩
        ⟨List.replicate 32 0xff, by decide⟩ = some p' ∧ p'.buffer.length = 32 ∧
      parse ⟨.both, .both, .both, .both⟩ ⟨10, 0, 0, 2⟩ ⟨10, 0, 0, 1⟩ p'.buffer = .ok openingSegment.received :=
  parse_emit openingSegment ⟨List.replicate 32 0xff, by decide⟩ _ _ _ (by decide) (by decide) (by decide) (by decide)
    (by decide) (by decide)

end RoundTrip

end Repr

end SmoltcpS3.Wire

import SmoltcpS3.Network.Interface

namespace SmoltcpS3.Network

section Parse

def buildArpRequest (ourMac : EthernetAddress) (ourIp targetIp : Ipv4Address) : List UInt8 :=
  arpFrame .broadcast ourMac 1 ourIp ⟨0, 0, 0, 0, 0, 0⟩ targetIp

-- `none` is the panic of an index out of range.
def slice (frame : List UInt8) (i j : ℕ) : Option (List UInt8) :=
  if i ≤ j ∧ j ≤ frame.length then some ((frame.drop i).take (j - i)) else none

def copyMac : List UInt8 → Option EthernetAddress
  | [o₀, o₁, o₂, o₃, o₄, o₅] => some ⟨o₀, o₁, o₂, o₃, o₄, o₅⟩
  | _ => none

def parseArpReplyFrom (frame : List UInt8) (expectedIp : Ipv4Address) :
    Option (Option EthernetAddress) :=
  if frame.length < 42 then some none
  else
    (slice frame 12 14).bind fun ethertype =>
      if ethertype ≠ [0x08, 0x06] then some none
      else
        (slice frame 20 22).bind fun op =>
          if op ≠ [0x00, 0x02] then some none
          else
            (slice frame 28 32).bind fun sender =>
              if sender ≠ expectedIp.octets then some none
              else (slice frame 22 28).bind fun mac => (copyMac mac).map some

end Parse

section Reads

lemma slice_eq {frame : List UInt8} {i n : ℕ} (h : i + n ≤ frame.length) :
    slice frame i (i + n) = some ((List.range n).map fun j => frame.getD (i + j) 0) := by
  rw [slice, if_pos ⟨by omega, h⟩]
  congr 1
  apply List.ext_getElem
  · simp only [List.length_take, List.length_drop, List.length_map, List.length_range]
    omega
  · intro j hj hj'
    have hlt : i + j < frame.length := by
      simp only [List.length_take, List.length_drop] at hj
      omega
    simp [hlt]

lemma octets_readMac (frame : List UInt8) (i : ℕ) :
    (List.range 6).map (fun j => frame.getD (i + j) 0) = (readMac frame i).octets := rfl

lemma octets_readIp (frame : List UInt8) (i : ℕ) :
    (List.range 4).map (fun j => frame.getD (i + j) 0) = (readIp frame i).octets := rfl

lemma octets_inj {x y : Ipv4Address} : x.octets = y.octets ↔ x = y := by
  constructor
  · intro h
    cases x
    cases y
    simpa [Ipv4Address.octets] using h
  · exact congrArg _

lemma copyMac_octets (m : EthernetAddress) : copyMac m.octets = some m := rfl

lemma toNat_readU16 (frame : List UInt8) (i : ℕ) :
    (readU16 frame i).toNat = (frame.getD i 0).toNat * 256 + (frame.getD (i + 1) 0).toNat := by
  have hx := (frame.getD i 0).toNat_lt
  have hy := (frame.getD (i + 1) 0).toNat_lt
  have hor := Nat.two_pow_add_eq_or_of_lt (i := 8) hy (frame.getD i 0).toNat
  rw [readU16, UInt16.toNat_or, UInt16.toNat_shiftLeft, UInt8.toNat_toUInt16, UInt8.toNat_toUInt16]
  have hshift : (frame.getD i 0).toNat <<< ((8 : UInt16).toNat % 16) % 2 ^ 16 =
      2 ^ 8 * (frame.getD i 0).toNat := by
    rw [show (8 : UInt16).toNat % 16 = 8 from rfl, Nat.shiftLeft_eq]
    omega
  rw [hshift, ← hor]
  omega

lemma readU16_toBeBytes (op : UInt16) : readU16 (toBeBytes op) 0 = op := by
  rw [← UInt16.toNat_inj, toNat_readU16]
  have h := op.toNat_lt
  have hhigh : ((op >>> 8).toUInt8).toNat = op.toNat / 256 := by
    rw [UInt16.toNat_toUInt8, UInt16.toNat_shiftRight, show (8 : UInt16).toNat % 16 = 8 from rfl,
      Nat.shiftRight_eq_div_pow]
    omega
  simp only [toBeBytes, List.getD_cons_zero, List.getD_cons_succ, hhigh, UInt16.toNat_toUInt8]
  omega

lemma bytes_eq_iff (frame : List UInt8) (i : ℕ) {a b : UInt8} {v : UInt16}
    (hv : v.toNat = a.toNat * 256 + b.toNat) :
    (List.range 2).map (fun j => frame.getD (i + j) 0) = [a, b] ↔ readU16 frame i = v := by
  have hx := (frame.getD (i + 1) 0).toNat_lt
  have hb := b.toNat_lt
  rw [← UInt16.toNat_inj, toNat_readU16, hv]
  have hlist : (List.range 2).map (fun j => frame.getD (i + j) 0) =
      [frame.getD i 0, frame.getD (i + 1) 0] := rfl
  rw [hlist, List.cons.injEq, List.cons.injEq, ← UInt8.toNat_inj, ← UInt8.toNat_inj]
  simp only [and_true]
  omega

/-- The address types and lengths of an ARP packet of Ethernet and IPv4, which
`parse_arp_reply_from` does not look at. -/
structure EthernetIpv4 (frame : List UInt8) : Prop where
  htype : readU16 frame 14 = 1
  ptype : readU16 frame 16 = 0x0800
  hlen : frame.getD 18 0 = 6
  plen : frame.getD 19 0 = 4

structure IsArpReply (frame : List UInt8) (sender : Ipv4Address) (mac : EthernetAddress) : Prop where
  length : 42 ≤ frame.length
  ethertype : readU16 frame 12 = 0x0806
  addresses : EthernetIpv4 frame
  operation : readU16 frame 20 = 2
  sender_mac : readMac frame 22 = mac
  sender_ip : readIp frame 28 = sender

theorem parseArpReplyFrom_eq (frame : List UInt8) (e : Ipv4Address) :
    parseArpReplyFrom frame e = some
      (if 42 ≤ frame.length ∧ readU16 frame 12 = 0x0806 ∧ readU16 frame 20 = 2 ∧ readIp frame 28 = e
        then some (readMac frame 22) else none) := by
  rw [parseArpReplyFrom]
  by_cases hlen : frame.length < 42
  · rw [if_pos hlen, if_neg (by omega)]
  · have h12 : slice frame 12 14 = _ := slice_eq (i := 12) (n := 2) (by omega)
    have h20 : slice frame 20 22 = _ := slice_eq (i := 20) (n := 2) (by omega)
    have h28 : slice frame 28 32 = _ := slice_eq (i := 28) (n := 4) (by omega)
    have h22 : slice frame 22 28 = _ := slice_eq (i := 22) (n := 6) (by omega)
    have htype := bytes_eq_iff frame 12 (a := 0x08) (b := 0x06) (v := 0x0806) (by decide)
    have hop := bytes_eq_iff frame 20 (a := 0x00) (b := 0x02) (v := 2) (by decide)
    rw [if_neg hlen, h12, h20, h28, h22]
    simp only [Option.bind_some, Option.map_some, octets_readMac, octets_readIp, copyMac_octets,
      ne_eq, octets_inj, htype, hop, ite_not, not_lt.mp hlen, true_and]
    by_cases h₁ : readU16 frame 12 = 0x0806
    · by_cases h₂ : readU16 frame 20 = 2
      · by_cases h₃ : readIp frame 28 = e <;> simp [h₁, h₂, h₃]
      · simp [h₂]
    · simp [h₁]

lemma parseArpReplyFrom_spec (frame : List UInt8) (e : Ipv4Address) :
    ∃ r, parseArpReplyFrom frame e = some r ∧ (∀ m, IsArpReply frame e m → r = some m) ∧
      ∀ m, r = some m → 42 ≤ frame.length ∧ readU16 frame 12 = 0x0806 ∧ readU16 frame 20 = 2 ∧
        readMac frame 22 = m ∧ readIp frame 28 = e ∧ (EthernetIpv4 frame → IsArpReply frame e m) := by
  refine ⟨_, parseArpReplyFrom_eq frame e, ?_, ?_⟩
  · intro m hr
    rw [if_pos ⟨hr.length, hr.ethertype, hr.operation, hr.sender_ip⟩, hr.sender_mac]
  · intro m hm
    split_ifs at hm with h
    obtain ⟨hlen, htype, hop, hip⟩ := h
    have hmac : readMac frame 22 = m := Option.some.inj hm
    exact ⟨hlen, htype, hop, hmac, hip, fun haddr => ⟨hlen, htype, haddr, hop, hmac, hip⟩⟩

lemma readU16_drop (frame : List UInt8) (n i : ℕ) :
    readU16 (frame.drop n) i = readU16 frame (n + i) := by
  simp [readU16, List.getElem?_drop, Nat.add_assoc]

lemma readMac_drop (frame : List UInt8) (n i : ℕ) :
    readMac (frame.drop n) i = readMac frame (n + i) := by
  simp [readMac, List.getElem?_drop, Nat.add_assoc]

lemma readIp_drop (frame : List UInt8) (n i : ℕ) :
    readIp (frame.drop n) i = readIp frame (n + i) := by
  simp [readIp, List.getElem?_drop, Nat.add_assoc]

-- What smoltcp's decoder takes has the lengths of Ethernet and IPv4, so the offsets are the same.
theorem parseArpReplyFrom_of_parseArp {frame : List UInt8} {r : ArpRepr}
    (htype : readU16 frame 12 = 0x0806) (h : parseArp (frame.drop 14) = some r) (e : Ipv4Address) :
    parseArpReplyFrom frame e = some
      (if r.operation = 2 ∧ r.sourceProtocolAddr = e then some r.sourceHardwareAddr else none) := by
  rw [parseArp] at h
  split_ifs at h with h₁ h₂ hhead
  rw [Option.some.injEq] at h
  subst h
  have hlen : 42 ≤ frame.length := by
    rw [hhead.2.2.1, hhead.2.2.2, List.length_drop] at h₂
    simp at h₂
    omega
  rw [parseArpReplyFrom_eq]
  simp only [readU16_drop, readMac_drop, readIp_drop, hlen, htype, true_and]

end Reads

section Host

structure Host where
  mac : EthernetAddress
  anyIp : Bool
  ipAddrs : List (Ipv4Address × ℕ)

inductive EthernetPacket (P : Type*)
  | arp (repr : ArpRepr)
  | ip (packet : P)

namespace Host

variable (host : Host)

def hasIpAddr (addr : Ipv4Address) : Bool := host.anyIp || host.ipAddrs.any fun c => c.1 == addr

def inSameNetwork (addr : Ipv4Address) : Bool :=
  host.ipAddrs.any fun c => containsAddr c.1 c.2 addr

def processArp (timestamp : ℤ) (payload : List UInt8) (c : Cache) : Cache × Option ArpRepr :=
  match parseArp payload with
  | none => (c, none)
  | some r =>
    if !host.hasIpAddr r.targetProtocolAddr then (c, none)
    else if r.operation ≠ 1 ∧ r.operation ≠ 2 then (c, none)
    else if !r.sourceProtocolAddr.isUnicast || !r.sourceHardwareAddr.isUnicast then (c, none)
    else if !host.inSameNetwork r.sourceProtocolAddr then (c, none)
    else
      (c.fill r.sourceProtocolAddr r.sourceHardwareAddr timestamp,
        if r.operation = 1 then
          some ⟨2, host.mac, r.targetProtocolAddr, r.sourceHardwareAddr, r.sourceProtocolAddr⟩
        else none)

-- `processIpv4` is what the interface does with an IPv4 packet and the address it came from.
def processEthernet {P : Type*}
    (processIpv4 : EthernetAddress → List UInt8 → Cache → Cache × Option P) (timestamp : ℤ)
    (frame : List UInt8) (c : Cache) : Cache × Option (EthernetPacket P) :=
  if frame.length < 14 then (c, none)
  else if readMac frame 0 ≠ .broadcast ∧ (readMac frame 0).isMulticast = false ∧
      readMac frame 0 ≠ host.mac then (c, none)
  else if readU16 frame 12 = 0x0806 then
    let (c, answer) := host.processArp timestamp (frame.drop 14) c
    (c, answer.map .arp)
  else if readU16 frame 12 = 0x0800 then
    let (c, answer) := processIpv4 (readMac frame 6) (frame.drop 14) c
    (c, answer.map .ip)
  else (c, none)

end Host

def Link.host (link : Link) : Host := ⟨link.mac, false, [(link.ip, link.prefixLen)]⟩

lemma Link.host_hasIpAddr (link : Link) (addr : Ipv4Address) :
    link.host.hasIpAddr addr = decide (addr = link.ip) := by
  simp [Link.host, Host.hasIpAddr, eq_comm, Bool.beq_eq_decide_eq]

lemma Link.host_inSameNetwork (link : Link) (addr : Ipv4Address) :
    link.host.inSameNetwork addr = link.inSameNetwork addr := by
  simp [Link.host, Host.inSameNetwork, Link.inSameNetwork]

lemma Interface.processArp_eq_host (link : Link) (payload : List UInt8) (s : Interface) :
    s.processArp link payload =
      { s with
        cache := (link.host.processArp s.now payload s.cache).1
        sent := s.sent ++ ((link.host.processArp s.now payload s.cache).2.map Sent.arp).toList } := by
  rw [Interface.processArp, Host.processArp]
  cases parseArp payload with
  | none => simp
  | some r =>
    simp only [Link.host_hasIpAddr, Link.host_inSameNetwork]
    by_cases hip : r.targetProtocolAddr = link.ip
    · simp only [hip, ne_eq, not_true, if_false, decide_true, Bool.not_true, Bool.false_eq_true]
      split_ifs <;> simp [Link.host]
    · simp [hip]

end Host

section Recorded

namespace Cache

lemma get_append_of_not_mem {storage : List (Ipv4Address × Neighbor)} {addr : Ipv4Address}
    (h : ∀ e ∈ storage, e.1 ≠ addr) (n : Neighbor) (silentUntil : ℤ) :
    Cache.get ⟨storage ++ [(addr, n)], silentUntil⟩ addr = some n := by
  have hnone : storage.find? (fun e => e.1 == addr) = none := by
    rw [List.find?_eq_none]
    intro e he
    simp [h e he]
  rw [Cache.get, List.find?_append, hnone]
  simp

lemma mem_swapRemove {storage : List (Ipv4Address × Neighbor)} {i : ℕ}
    {e : Ipv4Address × Neighbor} (h : e ∈ swapRemove storage i) : e ∈ storage := by
  rw [swapRemove] at h
  cases hlast : storage.getLast? with
  | none => simpa [hlast] using h
  | some l =>
    simp only [hlast] at h
    rcases List.mem_or_eq_of_mem_set (List.mem_of_mem_dropLast h) with hmem | rfl
    · exact hmem
    · exact List.mem_of_getLast? hlast

lemma get_replaced {storage : List (Ipv4Address × Neighbor)} {addr : Ipv4Address}
    (h : storage.any fun e => e.1 == addr) (n : Neighbor) (silentUntil : ℤ) :
    Cache.get ⟨storage.map fun e => if e.1 == addr then (addr, n) else e, silentUntil⟩ addr =
      some n := by
  obtain ⟨e, he, hkey⟩ := List.any_eq_true.mp h
  have hsame : ((fun e : Ipv4Address × Neighbor => e.1 == addr) ∘
      fun e => if e.1 == addr then (addr, n) else e) = fun e => e.1 == addr := by
    funext e
    by_cases hk : e.1 = addr <;> simp [hk]
  obtain ⟨found, hfound⟩ := Option.isSome_iff_exists.mp
    (List.find?_isSome.mpr ⟨e, he, hkey⟩ : (storage.find? fun e => e.1 == addr).isSome)
  have hfkey := List.find?_some hfound
  rw [Cache.get, List.find?_map, hsame, hfound]
  simp only [Option.map_some, hfkey, if_true]

theorem get_fill (addr : Ipv4Address) (hardwareAddr : EthernetAddress) (timestamp : ℤ) (c : Cache) :
    (c.fill addr hardwareAddr timestamp).get addr =
      some ⟨hardwareAddr, timestamp + entryLifetime⟩ := by
  rw [fill, fillWithExpiration, insert]
  by_cases hany : c.storage.any fun e => e.1 == addr
  · simp only [hany, if_true]
    exact get_replaced hany _ _
  · have hnot : ∀ e ∈ c.storage, e.1 ≠ addr := by
      intro e he hkey
      exact hany (List.any_eq_true.mpr ⟨e, he, by simp [hkey]⟩)
    by_cases hroom : c.storage.length < capacity
    · simp only [hany, hroom, if_true, Bool.false_eq_true, if_false]
      exact get_append_of_not_mem hnot _ _
    · simp only [hany, hroom, Bool.false_eq_true, if_false]
      exact get_append_of_not_mem (fun e he => hnot e (mem_swapRemove he)) _ _

lemma lookup_fill (addr : Ipv4Address) (hardwareAddr : EthernetAddress) (timestamp : ℤ)
    (c : Cache) :
    (c.fill addr hardwareAddr timestamp).lookup addr timestamp = .found hardwareAddr := by
  rw [lookup, get_fill]
  simp [entryLifetime]

end Cache

end Recorded

section Frames

variable (dst src tm : EthernetAddress) (op : UInt16) (ip tip : Ipv4Address)

lemma length_arpFrame : (arpFrame dst src op ip tm tip).length = 42 := by
  simp [arpFrame, EthernetAddress.octets, Ipv4Address.octets, toBeBytes]

lemma readMac_arpFrame : readMac (arpFrame dst src op ip tm tip) 0 = dst := by
  simp [readMac, arpFrame, EthernetAddress.octets]

lemma ethertype_arpFrame : readU16 (arpFrame dst src op ip tm tip) 12 = 0x0806 := by
  simp [readU16, arpFrame, EthernetAddress.octets]
  decide

lemma parseArp_arpFrame :
    parseArp ((arpFrame dst src op ip tm tip).drop 14) = some ⟨op, src, ip, tm, tip⟩ := by
  have hop := readU16_toBeBytes op
  simp [parseArp, arpFrame, EthernetAddress.octets, Ipv4Address.octets, toBeBytes, readU16,
    readMac, readIp] at hop ⊢
  exact ⟨by decide, hop⟩

lemma parseArpReplyFrom_arpFrame (e : Ipv4Address) :
    parseArpReplyFrom (arpFrame dst src op ip tm tip) e =
      some (if op = 2 ∧ ip = e then some src else none) :=
  parseArpReplyFrom_of_parseArp (ethertype_arpFrame dst src tm op ip tip)
    (parseArp_arpFrame dst src tm op ip tip) e

end Frames

section Accepts

variable {host : Host} {m : EthernetAddress} {ip tip : Ipv4Address} {prefixLen : ℕ}

lemma Host.processArp_reply (tm : EthernetAddress) (hip : (tip, prefixLen) ∈ host.ipAddrs)
    (hsub : containsAddr tip prefixLen ip = true) (hu : ip.isUnicast = true)
    (hmu : m.isUnicast = true) (timestamp : ℤ) (c : Cache) :
    host.processArp timestamp ((buildArpReply m ip tm tip).drop 14) c =
      (c.fill ip m timestamp, none) := by
  have htarget : host.hasIpAddr tip = true := by
    rw [Host.hasIpAddr, Bool.or_eq_true]
    exact .inr (List.any_eq_true.mpr ⟨_, hip, by simp⟩)
  have hnet : host.inSameNetwork ip = true := List.any_eq_true.mpr ⟨_, hip, hsub⟩
  rw [Host.processArp, buildArpReply, parseArp_arpFrame]
  simp [htarget, hnet, hu, hmu]

lemma Host.processEthernet_reply {P : Type*}
    (processIpv4 : EthernetAddress → List UInt8 → Cache → Cache × Option P)
    (hip : (tip, prefixLen) ∈ host.ipAddrs) (hsub : containsAddr tip prefixLen ip = true)
    (hu : ip.isUnicast = true) (hmu : m.isUnicast = true) (timestamp : ℤ) (c : Cache) :
    host.processEthernet processIpv4 timestamp (buildArpReply m ip host.mac tip) c =
      (c.fill ip m timestamp, none) := by
  have hlen : ¬ (buildArpReply m ip host.mac tip).length < 14 := by
    rw [buildArpReply, length_arpFrame]
    decide
  have hdst : readMac (buildArpReply m ip host.mac tip) 0 = host.mac := readMac_arpFrame _ _ _ _ _ _
  have htype : readU16 (buildArpReply m ip host.mac tip) 12 = 0x0806 := ethertype_arpFrame _ _ _ _ _ _
  rw [Host.processEthernet, if_neg hlen, hdst, htype, if_neg (by simp), if_pos rfl,
    Host.processArp_reply host.mac hip hsub hu hmu]
  rfl

end Accepts

theorem arpReply_read_back {P : Type*}
    (processIpv4 : EthernetAddress → List UInt8 → Cache → Cache × Option P) :
    (∀ m ip tm tip e, parseArpReplyFrom (buildArpReply m ip tm tip) e =
      some (if ip = e then some m else none)) ∧
    (∀ ourMac ourIp targetIp e,
      parseArpReplyFrom (buildArpRequest ourMac ourIp targetIp) e = some none) ∧
    (∀ (host : Host) m ip tip prefixLen timestamp c, (tip, prefixLen) ∈ host.ipAddrs →
      containsAddr tip prefixLen ip = true → ip.isUnicast = true → m.isUnicast = true →
      (buildArpReply m ip host.mac tip).length = 42 ∧
      host.processEthernet processIpv4 timestamp (buildArpReply m ip host.mac tip) c =
        (c.fill ip m timestamp, none) ∧
      (c.fill ip m timestamp).lookup ip timestamp = .found m) ∧
    (∀ frame e, ∃ r, parseArpReplyFrom frame e = some r ∧ (∀ m, IsArpReply frame e m → r = some m) ∧
      ∀ m, r = some m → 42 ≤ frame.length ∧ readU16 frame 12 = 0x0806 ∧ readU16 frame 20 = 2 ∧
        readMac frame 22 = m ∧ readIp frame 28 = e ∧ (EthernetIpv4 frame → IsArpReply frame e m)) ∧
    (∀ frame r e, readU16 frame 12 = 0x0806 → parseArp (frame.drop 14) = some r →
      parseArpReplyFrom frame e = some
        (if r.operation = 2 ∧ r.sourceProtocolAddr = e then some r.sourceHardwareAddr else none)) := by
  refine ⟨?_, ?_, ?_, parseArpReplyFrom_spec, ?_⟩
  · intro m ip tm tip e
    rw [buildArpReply, parseArpReplyFrom_arpFrame]
    simp
  · intro ourMac ourIp targetIp e
    rw [buildArpRequest, parseArpReplyFrom_arpFrame]
    simp
  · intro host m ip tip prefixLen timestamp c hip hsub hu hmu
    exact ⟨rfl, Host.processEthernet_reply processIpv4 hip hsub hu hmu timestamp c,
      Cache.lookup_fill ip m timestamp c⟩
  · intro frame r e htype h
    exact parseArpReplyFrom_of_parseArp htype h e

theorem arpReply_read_back_gateway :
    (Host.processEthernet ⟨⟨2, 0, 0, 0, 0, 2⟩, false, [(⟨10, 0, 0, 2⟩, 24)]⟩
      (fun _ _ c => (c, (none : Option Unit))) 0
      (buildArpReply ⟨2, 0, 0, 0, 0, 1⟩ ⟨10, 0, 0, 1⟩ ⟨2, 0, 0, 0, 0, 2⟩ ⟨10, 0, 0, 2⟩) .new).1.lookup
        ⟨10, 0, 0, 1⟩ 0 = .found ⟨2, 0, 0, 0, 0, 1⟩ := by
  obtain ⟨-, -, haccept, -⟩ := arpReply_read_back fun _ _ c => (c, (none : Option Unit))
  obtain ⟨-, hprocess, hlookup⟩ := haccept ⟨⟨2, 0, 0, 0, 0, 2⟩, false, [(⟨10, 0, 0, 2⟩, 24)]⟩
    ⟨2, 0, 0, 0, 0, 1⟩ ⟨10, 0, 0, 1⟩ ⟨10, 0, 0, 2⟩ 24 0 .new (by decide) (by decide) (by decide)
    (by decide)
  rw [hprocess]
  exact hlookup

-- Its hardware addresses have 8 octets, so that the sender's protocol address begins at 30.
def longAddressReply : List UInt8 :=
  [2, 0, 0, 0, 0, 2, 2, 0, 0, 0, 0, 1, 0x08, 0x06, 0, 1, 0x08, 0x00, 8, 4, 0, 2] ++
    [2, 0, 0, 0, 0, 1, 10, 0] ++ [0, 1, 9, 9] ++ [2, 0, 0, 0, 0, 2, 0, 0] ++ [10, 0, 0, 2]

theorem longAddressReply_misread :
    parseArpReplyFrom longAddressReply ⟨10, 0, 0, 1⟩ = some (some ⟨2, 0, 0, 0, 0, 1⟩) ∧
      readIp longAddressReply (22 + 8) = ⟨0, 1, 9, 9⟩ ∧
      ∀ m, ¬ IsArpReply longAddressReply ⟨10, 0, 0, 1⟩ m := by
  refine ⟨by decide, by decide, fun m h => ?_⟩
  exact absurd h.addresses.hlen (by decide)

end SmoltcpS3.Network

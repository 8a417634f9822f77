import SmoltcpS3.Device.Transmit

namespace SmoltcpS3.Device

variable (fl : OffloadFlags)

inductive Transport
  | tcp
  | udp
  deriving DecidableEq, Repr

namespace Transport

def proto : Transport → UInt8
  | .tcp => 6
  | .udp => 17

def hdrLen : Transport → ℕ
  | .tcp => 20
  | .udp => 8

def txOffload : Transport → UInt64
  | .tcp => fl.txTcpCksum
  | .udp => fl.txUdpCksum

def request : Transport → UInt64
  | .tcp => fl.mbufTcpCksum
  | .udp => fl.mbufUdpCksum

end Transport

section Access

-- `none` is an access behind the frame.
def load (buf : List UInt8) (i : ℕ) : Option UInt8 := buf[i]?

def store (buf : List UInt8) (i : ℕ) (x : UInt8) : Option (List UInt8) :=
  if i < buf.length then some (buf.set i x) else none

def clearPair (buf : List UInt8) (i : ℕ) : Option (List UInt8) :=
  (store buf i 0).bind fun buf => store buf (i + 1) 0

def accessIp (g : UInt64) (ipHdrLen : ℕ) (buf : List UInt8) : Option (TxMeta × List UInt8) :=
  let m : TxMeta := ⟨fl.mbufIpv4, 14, ipHdrLen, 0⟩
  if g &&& fl.txIpv4Cksum ≠ 0 then
    (clearPair buf (14 + 10)).map fun buf => ({ m with olFlags := m.olFlags ||| fl.mbufIpCksum }, buf)
  else some (m, buf)

def accessL4 (g : UInt64) (l4Off : ℕ) (m : TxMeta) (buf : List UInt8) :
    Option (TxMeta × List UInt8) :=
  (load buf (14 + 9)).bind fun proto =>
    if proto = 6 ∧ l4Off + 20 ≤ buf.length ∧ g &&& fl.txTcpCksum ≠ 0 then
      (clearPair buf (l4Off + 16)).bind fun buf =>
        (load buf (l4Off + 12)).map fun (x : UInt8) =>
          ({ m with l4Len := (x >>> 4).toNat * 4, olFlags := m.olFlags ||| fl.mbufTcpCksum }, buf)
    else if proto = 17 ∧ l4Off + 8 ≤ buf.length ∧ g &&& fl.txUdpCksum ≠ 0 then
      (clearPair buf (l4Off + 6)).map fun buf =>
        ({ m with l4Len := 8, olFlags := m.olFlags ||| fl.mbufUdpCksum }, buf)
    else some (m, buf)

/-- `ena_tx_offload_prepare` with each of its accesses to the frame. -/
def accessPrepare (g : UInt64) (buf : List UInt8) : Option (TxMeta × List UInt8) :=
  if g = 0 ∨ buf.length < 14 + 20 then some (.zero, buf)
  else
    (load buf 12).bind fun hi => (load buf 13).bind fun lo =>
      if hi.toUInt16 <<< 8 ||| lo.toUInt16 ≠ 0x0800 then some (.zero, buf)
      else
        (load buf 14).bind fun x =>
          let ipHdrLen := (x &&& 0x0f).toNat * 4
          if ipHdrLen < 20 ∨ 14 + ipHdrLen > buf.length then some (.zero, buf)
          else (accessIp fl g ipHdrLen buf).bind fun (m, buf) => accessL4 fl g (14 + ipHdrLen) m buf

lemma load_eq {buf : List UInt8} {i : ℕ} (h : i < buf.length) : load buf i = some (buf.getD i 0) := by
  simp [load, h]

lemma clearPair_eq {buf : List UInt8} {i : ℕ} (h : i + 1 < buf.length) :
    clearPair buf i = some (zeroAt i buf) := by
  rw [clearPair, store, if_pos (by omega), Option.bind_some, store, if_pos (by simpa using h)]
  rfl

variable {fl}

lemma accessIp_eq {g : UInt64} {buf : List UInt8} (h : 34 ≤ buf.length) :
    accessIp fl g (ipHdrLen buf) buf = some (prepareIp fl g buf) := by
  rw [accessIp, prepareIp, clearPair_eq (by omega)]
  split_ifs <;> rfl

lemma accessL4_eq {g : UInt64} {m : TxMeta} {buf : List UInt8} (h : 34 ≤ buf.length) :
    accessL4 fl g (l4Off buf) m buf = some (prepareL4 fl g m buf) := by
  rw [accessL4, prepareL4, load_eq (by omega), Option.bind_some]
  dsimp only
  split_ifs with htcp hudp
  · rw [clearPair_eq (by omega), Option.bind_some, load_eq (i := l4Off buf + 12) (by
      rw [length_zeroAt]
      omega)]
    rfl
  · rw [clearPair_eq (by omega)]
    rfl
  · rfl

lemma prepareIp_spec (g : UInt64) (frame : List UInt8) :
    (prepareIp fl g frame).1.olFlags =
        fl.mbufIpv4 ||| (if g &&& fl.txIpv4Cksum ≠ 0 then fl.mbufIpCksum else 0) ∧
      (prepareIp fl g frame).2.length = frame.length ∧
      (prepareIp fl g frame).2.getD 23 0 = frame.getD 23 0 ∧
      l4Off (prepareIp fl g frame).2 = l4Off frame := by
  rw [prepareIp]
  split_ifs with hip
  · refine ⟨rfl, length_zeroAt _ _, getD_zeroAt (by decide) (by decide) _, ?_⟩
    rw [l4Off, l4Off, ipHdrLen, ipHdrLen, getD_zeroAt (by decide) (by decide)]
  · exact ⟨(UInt64.or_zero).symm, rfl, rfl, rfl⟩

lemma l4Off_prepareIp (g : UInt64) (buf : List UInt8) :
    l4Off (prepareIp fl g buf).2 = l4Off buf := (prepareIp_spec g buf).2.2.2

theorem accessPrepare_eq (g : UInt64) (buf : List UInt8) :
    accessPrepare fl g buf = some (enaTxOffloadPrepare fl g buf) := by
  rw [accessPrepare, enaTxOffloadPrepare]
  by_cases hlen : g = 0 ∨ buf.length < 14 + 20
  · rw [if_pos hlen, if_pos hlen]
  · have h34 : 34 ≤ buf.length := by omega
    rw [if_neg hlen, if_neg hlen, load_eq (by omega), Option.bind_some, load_eq (by omega),
      Option.bind_some, load_eq (by omega), Option.bind_some, ← ethertype, ← ipHdrLen]
    by_cases htype : ethertype buf ≠ 0x0800
    · rw [if_pos htype, if_pos htype]
    · rw [if_neg htype, if_neg htype]
      by_cases hhdr : ipHdrLen buf < 20 ∨ 14 + ipHdrLen buf > buf.length
      · simp only [hhdr, if_true]
      · have hip := (@prepareIp_spec fl g buf).2.1
        simp only [hhdr, if_false]
        rw [accessIp_eq h34, Option.bind_some]
        have hl4 := @accessL4_eq fl g (prepareIp fl g buf).1 (prepareIp fl g buf).2 (by omega)
        rw [l4Off_prepareIp] at hl4
        exact hl4

end Access

section Effect

structure Accepted (g : UInt64) (buf : List UInt8) : Prop where
  offloads : g ≠ 0
  length : 34 ≤ buf.length
  ethertype : ethertype buf = 0x0800
  ihl : 20 ≤ ipHdrLen buf
  fits : 14 + ipHdrLen buf ≤ buf.length

def Transport.cksumOff : Transport → ℕ
  | .tcp => 16
  | .udp => 6

def requestedL4 (g : UInt64) (buf : List UInt8) : Option Transport :=
  if buf.getD 23 0 = 6 ∧ l4Off buf + 20 ≤ buf.length ∧ g &&& fl.txTcpCksum ≠ 0 then some .tcp
  else if buf.getD 23 0 = 17 ∧ l4Off buf + 8 ≤ buf.length ∧ g &&& fl.txUdpCksum ≠ 0 then some .udp
  else none

def requestBits : Option Transport → UInt64
  | some t => t.request fl
  | none => 0

def clearL4 (buf : List UInt8) : Option Transport → List UInt8
  | some t => zeroAt (l4Off buf + t.cksumOff) buf
  | none => buf

variable {fl} {g : UInt64} {buf : List UInt8}

lemma prepareL4_spec (m : TxMeta) :
    (prepareL4 fl g m buf).1.olFlags = m.olFlags ||| requestBits fl (requestedL4 fl g buf) ∧
      (prepareL4 fl g m buf).1.l2Len = m.l2Len ∧ (prepareL4 fl g m buf).1.l3Len = m.l3Len ∧
      (prepareL4 fl g m buf).2 = clearL4 buf (requestedL4 fl g buf) := by
  rw [prepareL4, requestedL4]
  split_ifs
  · exact ⟨rfl, rfl, rfl, rfl⟩
  · exact ⟨rfl, rfl, rfl, rfl⟩
  · exact ⟨UInt64.or_zero.symm, rfl, rfl, rfl⟩

lemma requestedL4_prepareIp : requestedL4 fl g (prepareIp fl g buf).2 = requestedL4 fl g buf := by
  obtain ⟨-, hlen, hproto, hl4⟩ := @prepareIp_spec fl g buf
  rw [requestedL4, requestedL4, hlen, hproto, hl4]

lemma Accepted.prepare (h : Accepted g buf) :
    enaTxOffloadPrepare fl g buf = prepareL4 fl g (prepareIp fl g buf).1 (prepareIp fl g buf).2 := by
  have hlen := h.length
  have hihl := h.ihl
  have hfits := h.fits
  rw [enaTxOffloadPrepare, if_neg (not_or.mpr ⟨h.offloads, by omega⟩),
    if_neg (not_not.mpr h.ethertype), if_neg (by omega)]

lemma prepare_of_not_accepted (h : ¬ Accepted g buf) :
    enaTxOffloadPrepare fl g buf = (.zero, buf) := by
  rw [enaTxOffloadPrepare]
  split_ifs with hlen htype hhdr
  · rfl
  · rfl
  · rfl
  · obtain ⟨hg, hl⟩ := not_or.mp hlen
    exact absurd ⟨hg, by omega, not_not.mp htype, by omega, by omega⟩ h

lemma prepareIp_buf :
    (prepareIp fl g buf).2 = if g &&& fl.txIpv4Cksum ≠ 0 then zeroAt 24 buf else buf := by
  rw [prepareIp]
  split_ifs <;> rfl

lemma prepareIp_lens :
    (prepareIp fl g buf).1.l2Len = 14 ∧ (prepareIp fl g buf).1.l3Len = ipHdrLen buf := by
  rw [prepareIp]
  split_ifs <;> exact ⟨rfl, rfl⟩

def Cleared (fl : OffloadFlags) (g : UInt64) (buf : List UInt8) (i : ℕ) : Prop :=
  (g &&& fl.txIpv4Cksum ≠ 0 ∧ (i = 24 ∨ i = 25)) ∨
    ∃ t, requestedL4 fl g buf = some t ∧
      (i = l4Off buf + t.cksumOff ∨ i = l4Off buf + t.cksumOff + 1)

lemma requestedL4_fits {t : Transport} (h : requestedL4 fl g buf = some t) :
    l4Off buf + t.cksumOff + 1 < buf.length := by
  rw [requestedL4] at h
  split_ifs at h with htcp hudp
  · rw [Option.some.injEq] at h
    subst h
    simp only [Transport.cksumOff]
    omega
  · rw [Option.some.injEq] at h
    subst h
    simp only [Transport.cksumOff]
    omega

lemma getElem?_zeroAt_of_eq {i j : ℕ} {buf : List UInt8} (h : i + 1 < buf.length)
    (hj : j = i ∨ j = i + 1) : (zeroAt i buf)[j]? = some 0 := by
  rcases hj with rfl | rfl
  · rw [zeroAt, List.getElem?_set_ne (by omega), List.getElem?_set_self (by omega)]
  · rw [zeroAt, List.getElem?_set_self (by simpa using h)]

lemma getElem?_zeroAt_of_ne {i j : ℕ} (hj : ¬ (j = i ∨ j = i + 1)) (buf : List UInt8) :
    (zeroAt i buf)[j]? = buf[j]? := by
  rw [zeroAt, List.getElem?_set_ne (by omega), List.getElem?_set_ne (by omega)]

lemma prepareIp_cleared {i : ℕ} (hlen : 34 ≤ buf.length)
    (h : g &&& fl.txIpv4Cksum ≠ 0 ∧ (i = 24 ∨ i = 25)) : (prepareIp fl g buf).2[i]? = some 0 := by
  rw [prepareIp_buf, if_pos h.1]
  exact getElem?_zeroAt_of_eq (by omega) h.2

lemma prepareIp_kept {i : ℕ} (h : ¬ (g &&& fl.txIpv4Cksum ≠ 0 ∧ (i = 24 ∨ i = 25))) :
    (prepareIp fl g buf).2[i]? = buf[i]? := by
  rw [prepareIp_buf]
  split_ifs with hip
  · exact getElem?_zeroAt_of_ne (fun hi => h ⟨hip, hi⟩) buf
  · rfl

lemma Accepted.prepare_buf (h : Accepted g buf) :
    (enaTxOffloadPrepare fl g buf).2 = clearL4 (prepareIp fl g buf).2 (requestedL4 fl g buf) := by
  rw [h.prepare, (prepareL4_spec _).2.2.2, requestedL4_prepareIp]

lemma Accepted.cleared (h : Accepted g buf) {i : ℕ} (hi : Cleared fl g buf i) :
    (enaTxOffloadPrepare fl g buf).2[i]? = some 0 := by
  have hlen := (@prepareIp_spec fl g buf).2.1
  rw [h.prepare_buf]
  cases ht : requestedL4 fl g buf with
  | none =>
    rcases hi with hip | ⟨t, hreq, -⟩
    · exact prepareIp_cleared h.length hip
    · rw [ht] at hreq
      cases hreq
  | some t =>
    rw [clearL4, l4Off_prepareIp]
    by_cases hl4 : i = l4Off buf + t.cksumOff ∨ i = l4Off buf + t.cksumOff + 1
    · exact getElem?_zeroAt_of_eq (by rw [hlen]; exact requestedL4_fits ht) hl4
    · rw [getElem?_zeroAt_of_ne hl4]
      rcases hi with hip | ⟨t', hreq, hi'⟩
      · exact prepareIp_cleared h.length hip
      · rw [ht, Option.some.injEq] at hreq
        subst hreq
        exact absurd hi' hl4

lemma Accepted.kept (h : Accepted g buf) {i : ℕ} (hi : ¬ Cleared fl g buf i) :
    (enaTxOffloadPrepare fl g buf).2[i]? = buf[i]? := by
  obtain ⟨hip, hl4⟩ := not_or.mp hi
  rw [h.prepare_buf]
  cases ht : requestedL4 fl g buf with
  | none => exact prepareIp_kept hip
  | some t =>
    rw [clearL4, l4Off_prepareIp, getElem?_zeroAt_of_ne fun hi' => hl4 ⟨t, ht, hi'⟩]
    exact prepareIp_kept hip

end Effect

section Flags

variable {fl} {g : UInt64} {buf : List UInt8}

lemma Accepted.olFlags (h : Accepted g buf) :
    (enaTxOffloadPrepare fl g buf).1.olFlags =
      fl.mbufIpv4 ||| (if g &&& fl.txIpv4Cksum ≠ 0 then fl.mbufIpCksum else 0) |||
        requestBits fl (requestedL4 fl g buf) := by
  rw [h.prepare, (prepareL4_spec _).1, requestedL4_prepareIp, (prepareIp_spec g buf).1]

lemma Accepted.lens (h : Accepted g buf) :
    (enaTxOffloadPrepare fl g buf).1.l2Len = 14 ∧
      (enaTxOffloadPrepare fl g buf).1.l3Len = ipHdrLen buf := by
  obtain ⟨-, hl2, hl3, -⟩ := @prepareL4_spec fl g (prepareIp fl g buf).2 (prepareIp fl g buf).1
  rw [h.prepare, hl2, hl3]
  exact prepareIp_lens

lemma or_and_distrib (x y z : UInt64) : (x ||| y) &&& z = x &&& z ||| y &&& z :=
  UInt64.toBitVec_inj.mp BitVec.and_or_distrib_right

lemma request_mask (t : Transport) : t.request fl &&& fl.l4Mask = t.request fl := by
  cases t with
  | tcp => exact fl.tcpCksum_mask
  | udp => exact fl.udpCksum_mask

lemma request_ne (t : Transport) : t.request fl ≠ 0 := by
  cases t with
  | tcp => exact fl.tcpCksum_ne
  | udp => exact fl.udpCksum_ne

lemma request_ipCksum (t : Transport) : t.request fl &&& fl.mbufIpCksum = 0 := by
  rw [← request_mask, UInt64.and_assoc, UInt64.and_comm fl.l4Mask, fl.ipCksum_mask, UInt64.and_zero]

structure OffloadFlags.Distinct (fl : OffloadFlags) : Prop where
  ipv4_ne : fl.mbufIpv4 ≠ 0
  tcp_ne_udp : fl.mbufTcpCksum ≠ fl.mbufUdpCksum

lemma requestBits_mask (t : Option Transport) : requestBits fl t &&& fl.l4Mask = requestBits fl t := by
  cases t with
  | none => exact UInt64.zero_and
  | some t => exact request_mask t

lemma requestBits_ipCksum (t : Option Transport) : requestBits fl t &&& fl.mbufIpCksum = 0 := by
  cases t with
  | none => exact UInt64.zero_and
  | some t => exact request_ipCksum t

lemma OffloadFlags.Distinct.requestBits_eq (hd : fl.Distinct) {o : Option Transport} {t : Transport} :
    requestBits fl o = t.request fl ↔ o = some t := by
  constructor
  · intro h
    cases o with
    | none => exact absurd h.symm (request_ne t)
    | some t' =>
      cases t' <;> cases t
      · rfl
      · exact absurd h hd.tcp_ne_udp
      · exact absurd h.symm hd.tcp_ne_udp
      · rfl
  · rintro rfl
    rfl

lemma Accepted.ipFlag (h : Accepted g buf) :
    (enaTxOffloadPrepare fl g buf).1.olFlags &&& fl.mbufIpCksum = fl.mbufIpCksum ↔
      g &&& fl.txIpv4Cksum ≠ 0 := by
  rw [h.olFlags, or_and_distrib, or_and_distrib, fl.ipv4_ipCksum, requestBits_ipCksum]
  split_ifs with hip
  · simp [hip]
  · simpa [hip] using fl.ipCksum_ne.symm

lemma Accepted.l4Flag (h : Accepted g buf) :
    (enaTxOffloadPrepare fl g buf).1.olFlags &&& fl.l4Mask =
      requestBits fl (requestedL4 fl g buf) := by
  have hip : (if g &&& fl.txIpv4Cksum ≠ 0 then fl.mbufIpCksum else 0) &&& fl.l4Mask = 0 := by
    split_ifs
    · exact fl.ipCksum_mask
    · exact UInt64.zero_and
  rw [h.olFlags, or_and_distrib, or_and_distrib, fl.ipv4_mask, hip, requestBits_mask]
  simp

def l4LenOf (buf : List UInt8) : Option Transport → ℕ
  | some .tcp => (buf.getD (l4Off buf + 12) 0 >>> 4).toNat * 4
  | some .udp => 8
  | none => 0

lemma Accepted.l4Len (h : Accepted g buf) :
    (enaTxOffloadPrepare fl g buf).1.l4Len = l4LenOf buf (requestedL4 fl g buf) := by
  have hl4 : 34 ≤ l4Off buf := Nat.add_le_add_left h.ihl 14
  have hzero : (prepareIp fl g buf).1.l4Len = 0 := by
    rw [prepareIp]
    split_ifs <;> rfl
  have hbyte : (prepareIp fl g buf).2.getD (l4Off buf + 12) 0 = buf.getD (l4Off buf + 12) 0 := by
    rw [prepareIp_buf]
    split_ifs
    · exact getD_zeroAt (by omega) (by omega) buf
    · rfl
  rw [h.prepare, ← requestedL4_prepareIp, prepareL4, requestedL4]
  split_ifs
  · simp only [l4LenOf, l4Off_prepareIp]
    rw [getD_zeroAt (by omega) (by omega), hbyte]
  · rfl
  · exact hzero

end Flags

section Again

variable {fl} {g : UInt64} {buf : List UInt8}

lemma Accepted.getD_kept (h : Accepted g buf) {i : ℕ} (hi : ¬ Cleared fl g buf i) :
    (enaTxOffloadPrepare fl g buf).2.getD i 0 = buf.getD i 0 := by
  rw [List.getD_eq_getElem?_getD, List.getD_eq_getElem?_getD, h.kept hi]

lemma Accepted.not_cleared_header (h : Accepted g buf) {i : ℕ} (hi : i < 24) :
    ¬ Cleared fl g buf i := by
  have hl4 : 34 ≤ l4Off buf := Nat.add_le_add_left h.ihl 14
  rintro (⟨-, hi'⟩ | ⟨t, -, hi'⟩) <;> omega

lemma Accepted.not_cleared_offset (h : Accepted g buf) :
    ¬ Cleared fl g buf (l4Off buf + 12) := by
  have hl4 : 34 ≤ l4Off buf := Nat.add_le_add_left h.ihl 14
  rintro (⟨-, hi⟩ | ⟨t, -, hi⟩)
  · omega
  · cases t <;> simp only [Transport.cksumOff] at hi <;> omega

lemma length_prepare : (enaTxOffloadPrepare fl g buf).2.length = buf.length := by
  by_cases h : Accepted g buf
  · have hlen := (@prepareIp_spec fl g buf).2.1
    rw [h.prepare_buf]
    cases requestedL4 fl g buf with
    | none => exact hlen
    | some t => rw [clearL4, length_zeroAt, hlen]
  · rw [prepare_of_not_accepted h]

structure SameHeaders (x y : List UInt8) : Prop where
  length : x.length = y.length
  ethertype : ethertype x = ethertype y
  ipHdrLen : ipHdrLen x = ipHdrLen y
  proto : x.getD 23 0 = y.getD 23 0
  l4Len : x.getD (l4Off y + 12) 0 = y.getD (l4Off y + 12) 0

lemma Accepted.sameHeaders (h : Accepted g buf) :
    SameHeaders (enaTxOffloadPrepare fl g buf).2 buf where
  length := length_prepare
  ethertype := by
    rw [Device.ethertype, Device.ethertype, h.getD_kept (h.not_cleared_header (by decide)),
      h.getD_kept (h.not_cleared_header (by decide))]
  ipHdrLen := by
    rw [Device.ipHdrLen, Device.ipHdrLen, h.getD_kept (h.not_cleared_header (by decide))]
  proto := h.getD_kept (h.not_cleared_header (by decide))
  l4Len := h.getD_kept h.not_cleared_offset

lemma SameHeaders.l4Off {x y : List UInt8} (h : SameHeaders x y) : l4Off x = l4Off y := by
  rw [Device.l4Off, Device.l4Off, h.ipHdrLen]

lemma SameHeaders.accepted {x y : List UInt8} (h : SameHeaders x y) (hy : Accepted g y) :
    Accepted g x where
  offloads := hy.offloads
  length := by
    rw [h.length]
    exact hy.length
  ethertype := h.ethertype.trans hy.ethertype
  ihl := by
    rw [h.ipHdrLen]
    exact hy.ihl
  fits := by
    rw [h.ipHdrLen, h.length]
    exact hy.fits

lemma SameHeaders.requestedL4 {x y : List UInt8} (h : SameHeaders x y) :
    requestedL4 fl g x = requestedL4 fl g y := by
  rw [Device.requestedL4, Device.requestedL4, h.proto, h.l4Off, h.length]

lemma SameHeaders.cleared {x y : List UInt8} (h : SameHeaders x y) (i : ℕ) :
    Cleared fl g x i ↔ Cleared fl g y i := by
  rw [Cleared, Cleared, h.requestedL4, h.l4Off]

lemma SameHeaders.l4LenOf {x y : List UInt8} (h : SameHeaders x y) (o : Option Transport) :
    l4LenOf x o = l4LenOf y o := by
  cases o with
  | none => rfl
  | some t =>
    cases t
    · rw [Device.l4LenOf, Device.l4LenOf, h.l4Off, h.l4Len]
    · rfl

lemma Accepted.prepare_meta {x y : List UInt8} (hy : Accepted g y) (h : SameHeaders x y) :
    (enaTxOffloadPrepare fl g x).1 = (enaTxOffloadPrepare fl g y).1 := by
  have hx := h.accepted hy
  have hext : ∀ m n : TxMeta, m.olFlags = n.olFlags → m.l2Len = n.l2Len → m.l3Len = n.l3Len →
      m.l4Len = n.l4Len → m = n := by
    rintro ⟨⟩ ⟨⟩ rfl rfl rfl rfl
    rfl
  apply hext
  · rw [hx.olFlags, hy.olFlags, h.requestedL4]
  · rw [hx.lens.1, hy.lens.1]
  · rw [hx.lens.2, hy.lens.2, h.ipHdrLen]
  · rw [hx.l4Len, hy.l4Len, h.requestedL4, h.l4LenOf]

theorem prepare_idempotent (g : UInt64) (buf : List UInt8) :
    enaTxOffloadPrepare fl g (enaTxOffloadPrepare fl g buf).2 = enaTxOffloadPrepare fl g buf := by
  by_cases h : Accepted g buf
  · have hsame := @Accepted.sameHeaders fl g buf h
    apply Prod.ext
    · exact h.prepare_meta hsame
    · apply List.ext_getElem?
      intro i
      by_cases hi : Cleared fl g buf i
      · rw [(hsame.accepted h).cleared ((hsame.cleared i).mpr hi), h.cleared hi]
      · rw [(hsame.accepted h).kept fun hi' => hi ((hsame.cleared i).mp hi')]
  · rw [prepare_of_not_accepted h, prepare_of_not_accepted h]

end Again

section Whole

def ihl (buf : List UInt8) : ℕ := (buf.getD 14 0 &&& 0x0f).toNat

def IpFlag (fl : OffloadFlags) (m : TxMeta) : Prop := m.olFlags &&& fl.mbufIpCksum = fl.mbufIpCksum

def L4Flag (fl : OffloadFlags) (m : TxMeta) (t : Transport) : Prop :=
  m.olFlags &&& fl.l4Mask = t.request fl

def FlaggedField (fl : OffloadFlags) (m : TxMeta) (buf : List UInt8) (i : ℕ) : Prop :=
  (IpFlag fl m ∧ (i = 24 ∨ i = 25)) ∨
    (L4Flag fl m .tcp ∧ (i = 14 + 4 * ihl buf + 16 ∨ i = 14 + 4 * ihl buf + 17)) ∨
    (L4Flag fl m .udp ∧ (i = 14 + 4 * ihl buf + 6 ∨ i = 14 + 4 * ihl buf + 7))

variable {fl} {g : UInt64} {buf : List UInt8}

lemma l4Off_eq_ihl : l4Off buf = 14 + 4 * ihl buf := by
  rw [l4Off, ipHdrLen, ihl, Nat.mul_comm]

lemma Accepted.l4Flag_iff (hd : fl.Distinct) (h : Accepted g buf) (t : Transport) :
    L4Flag fl (enaTxOffloadPrepare fl g buf).1 t ↔ requestedL4 fl g buf = some t := by
  rw [L4Flag, h.l4Flag, hd.requestBits_eq]

lemma not_l4Flag_zero (t : Transport) : ¬ L4Flag fl .zero t :=
  fun h => request_ne t (by rw [← h]; exact UInt64.zero_and)

lemma Accepted.flaggedField_iff (hd : fl.Distinct) (h : Accepted g buf) (i : ℕ) :
    FlaggedField fl (enaTxOffloadPrepare fl g buf).1 buf i ↔ Cleared fl g buf i := by
  rw [FlaggedField, Cleared, IpFlag, h.ipFlag, h.l4Flag_iff hd, h.l4Flag_iff hd, ← l4Off_eq_ihl]
  constructor
  · rintro (hip | ⟨ht, hi⟩ | ⟨hu, hi⟩)
    · exact .inl hip
    · exact .inr ⟨.tcp, ht, hi⟩
    · exact .inr ⟨.udp, hu, hi⟩
  · rintro (hip | ⟨t, ht, hi⟩)
    · exact .inl hip
    · cases t
      · exact .inr (.inl ⟨ht, hi⟩)
      · exact .inr (.inr ⟨ht, hi⟩)

lemma not_flaggedField_zero (i : ℕ) : ¬ FlaggedField fl .zero buf i := by
  have hip : ¬ IpFlag fl .zero := fun h => fl.ipCksum_ne (by rw [← h]; exact UInt64.zero_and)
  rintro (⟨h, -⟩ | ⟨h, -⟩ | ⟨h, -⟩)
  · exact hip h
  · exact not_l4Flag_zero .tcp h
  · exact not_l4Flag_zero .udp h

lemma olFlags_ne_zero_iff (hd : fl.Distinct) :
    (enaTxOffloadPrepare fl g buf).1.olFlags ≠ 0 ↔ Accepted g buf := by
  constructor
  · intro hne
    by_contra h
    rw [prepare_of_not_accepted h] at hne
    exact hne rfl
  · intro h hzero
    rw [h.olFlags] at hzero
    have hipv4 := (UInt64.or_eq_zero_iff.mp (UInt64.or_eq_zero_iff.mp hzero).1).1
    exact hd.ipv4_ne hipv4

theorem prepare_touches_checksums_only (fl : OffloadFlags) (hd : fl.Distinct) (g : UInt64)
    (buf : List UInt8) :
    accessPrepare fl g buf = some (enaTxOffloadPrepare fl g buf) ∧
    (∀ i, FlaggedField fl (enaTxOffloadPrepare fl g buf).1 buf i →
      (enaTxOffloadPrepare fl g buf).2[i]? = some 0) ∧
    (∀ i, ¬ FlaggedField fl (enaTxOffloadPrepare fl g buf).1 buf i →
      (enaTxOffloadPrepare fl g buf).2[i]? = buf[i]?) ∧
    (∀ t, L4Flag fl (enaTxOffloadPrepare fl g buf).1 t ↔
      (enaTxOffloadPrepare fl g buf).1.olFlags ≠ 0 ∧ requestedL4 fl g buf = some t) ∧
    ((enaTxOffloadPrepare fl g buf).1.olFlags ≠ 0 →
      (enaTxOffloadPrepare fl g buf).1.olFlags =
        fl.mbufIpv4 ||| (if g &&& fl.txIpv4Cksum ≠ 0 then fl.mbufIpCksum else 0) |||
          requestBits fl (requestedL4 fl g buf) ∧
      ethertype buf = 0x0800 ∧ 5 ≤ ihl buf ∧ (enaTxOffloadPrepare fl g buf).1.l2Len = 14 ∧
      (enaTxOffloadPrepare fl g buf).1.l3Len = 4 * ihl buf ∧
      (enaTxOffloadPrepare fl g buf).1.l2Len + (enaTxOffloadPrepare fl g buf).1.l3Len ≤ buf.length) ∧
    ((enaTxOffloadPrepare fl g buf).1.olFlags = 0 → (enaTxOffloadPrepare fl g buf).1 = .zero) ∧
    enaTxOffloadPrepare fl g (enaTxOffloadPrepare fl g buf).2 = enaTxOffloadPrepare fl g buf := by
  refine ⟨accessPrepare_eq g buf, ?_, ?_, ?_, ?_, ?_, prepare_idempotent g buf⟩
  · intro i hi
    by_cases h : Accepted g buf
    · exact h.cleared ((h.flaggedField_iff hd i).mp hi)
    · rw [prepare_of_not_accepted h] at hi
      exact absurd hi (not_flaggedField_zero i)
  · intro i hi
    by_cases h : Accepted g buf
    · exact h.kept fun hc => hi ((h.flaggedField_iff hd i).mpr hc)
    · rw [prepare_of_not_accepted h]
  · intro t
    rw [olFlags_ne_zero_iff hd]
    by_cases h : Accepted g buf
    · rw [h.l4Flag_iff hd, and_iff_right h]
    · rw [prepare_of_not_accepted h]
      exact iff_of_false (not_l4Flag_zero t) fun h' => h h'.1
  · intro hne
    have h := (olFlags_ne_zero_iff hd).mp hne
    refine ⟨h.olFlags, ?_⟩
    have hihl := h.ihl
    have hfits := h.fits
    rw [h.lens.1, h.lens.2, ipHdrLen, ← ihl] at *
    exact ⟨h.ethertype, by omega, rfl, Nat.mul_comm _ _, hfits⟩
  · intro hzero
    have h : ¬ Accepted g buf := fun h => (olFlags_ne_zero_iff hd).mpr h hzero
    rw [prepare_of_not_accepted h]

def tcpFrame : List UInt8 :=
  [2, 0, 0, 0, 0, 1, 2, 0, 0, 0, 0, 7, 0x08, 0x00] ++
    [0x45, 0, 0, 40, 0, 0, 0x40, 0, 64, 6, 0, 0, 10, 0, 0, 7, 3, 5, 216, 240] ++
    [0xc3, 0x50, 1, 187, 0, 0, 0, 0, 0, 0, 0, 0, 0x50, 2, 0xff, 0xff, 0, 0, 0, 0]

theorem prepare_touches_tcpFrame :
    OffloadFlags.dpdk.Distinct ∧
      (enaTxOffloadPrepare .dpdk 0xe tcpFrame).1.olFlags ≠ 0 ∧
      enaTxOffloadPrepare .dpdk 0xe (enaTxOffloadPrepare .dpdk 0xe tcpFrame).2 =
        enaTxOffloadPrepare .dpdk 0xe tcpFrame := by
  have hd : OffloadFlags.dpdk.Distinct := ⟨by decide, by decide⟩
  obtain ⟨-, -, -, -, -, -, hagain⟩ := prepare_touches_checksums_only .dpdk hd 0xe tcpFrame
  exact ⟨hd, by decide +kernel, hagain⟩

end Whole

end SmoltcpS3.Device

import SmoltcpS3.Foundations.BigEndian
import Mathlib.Data.Fin.VecNotation
import Mathlib.Data.List.OfFn

namespace SmoltcpS3.Wire

open BigEndian

inductive Fault
  | error
  | panic
  deriving DecidableEq, Repr

abbrev Range := BitVec 32 × BitVec 32

abbrev SackRanges := Fin 3 → Option Range

def read (k : ℕ) (bytes : List UInt8) : Except Fault ℕ :=
  if k ≤ bytes.length then .ok (decode (bytes.take k)) else .error .panic

inductive TcpOption
  | endOfList
  | noOperation
  | maxSegmentSize (value : UInt16)
  | windowScale (value : UInt8)
  | sackPermitted
  | sackRange (ranges : SackRanges)
  | timeStamp (tsval tsecr : BitVec 32)
  | unknown (kind : UInt8) (data : List UInt8)
  deriving DecidableEq

namespace TcpOption

def optEnd : UInt8 := 0x00

def optNop : UInt8 := 0x01

def optMss : UInt8 := 0x02

def optWs : UInt8 := 0x03

def optSackPerm : UInt8 := 0x04

def optSackRng : UInt8 := 0x05

def optTstamp : UInt8 := 0x08

def readRange (data : List UInt8) (i : ℕ) : Except Fault (Option Range) :=
  let left := i * 8
  if left < data.length then do
    let rangeLeft ← read 4 (data.drop left)
    let rangeRight ← read 4 (data.drop (left + 4))
    .ok (some (BitVec.ofNat 32 rangeLeft, BitVec.ofNat 32 rangeRight))
  else .ok none

def readRanges (data : List UInt8) : Except Fault SackRanges := do
  let first ← readRange data 0
  let second ← readRange data 1
  let third ← readRange data 2
  .ok ![first, second, third]

def parseData (kind : UInt8) (length : ℕ) (data : List UInt8) : Except Fault TcpOption :=
  if kind = optMss then
    if length = 4 then (read 2 data).map fun v => .maxSegmentSize (UInt16.ofNat v) else .error .error
  else if kind = optWs then
    if length = 3 then (read 1 data).map fun v => .windowScale (UInt8.ofNat v) else .error .error
  else if kind = optSackPerm then
    if length = 2 then .ok .sackPermitted else .error .error
  else if kind = optSackRng then
    if length < 10 ∨ (length - 2) % 8 ≠ 0 then .error .error else (readRanges data).map .sackRange
  else if kind = optTstamp ∧ length = 10 then do
    let tsval ← read 4 data
    let tsecr ← read 4 (data.drop 4)
    .ok (.timeStamp (BitVec.ofNat 32 tsval) (BitVec.ofNat 32 tsecr))
  else .ok (.unknown kind data)

def parseSized (kind : UInt8) : List UInt8 → Except Fault (List UInt8 × TcpOption)
  | [] => .error .error
  | length :: rest =>
    if 2 ≤ length.toNat ∧ length.toNat ≤ rest.length + 2 then
      (parseData kind length.toNat (rest.take (length.toNat - 2))).map fun option =>
        (rest.drop (length.toNat - 2), option)
    else .error .error

def parse : List UInt8 → Except Fault (List UInt8 × TcpOption)
  | [] => .error .error
  | kind :: tail =>
    if kind = optEnd then .ok (tail, .endOfList)
    else if kind = optNop then .ok (tail, .noOperation)
    else parseSized kind tail

def blocks (ranges : SackRanges) : List Range := (List.ofFn ranges).filterMap id

def bufferLen : TcpOption → ℕ
  | .endOfList => 1
  | .noOperation => 1
  | .maxSegmentSize _ => 4
  | .windowScale _ => 3
  | .sackPermitted => 2
  | .sackRange ranges => (blocks ranges).length * 8 + 2
  | .timeStamp _ _ => 10
  | .unknown _ data => 2 + data.length

def rangeBytes (range : Range) : List UInt8 := encode 4 range.1.toNat ++ encode 4 range.2.toNat

def kind : TcpOption → UInt8
  | .endOfList => optEnd
  | .noOperation => optNop
  | .maxSegmentSize _ => optMss
  | .windowScale _ => optWs
  | .sackPermitted => optSackPerm
  | .sackRange _ => optSackRng
  | .timeStamp _ _ => optTstamp
  | .unknown kind _ => kind

def data : TcpOption → List UInt8
  | .maxSegmentSize value => encode 2 value.toNat
  | .windowScale value => [value]
  | .sackRange ranges => (blocks ranges).flatMap rangeBytes
  | .timeStamp tsval tsecr => encode 4 tsval.toNat ++ encode 4 tsecr.toNat
  | .unknown _ data => data
  | _ => []

def bytes : TcpOption → List UInt8
  | .endOfList => [optEnd]
  | .noOperation => [optNop]
  | o => o.kind :: UInt8.ofNat o.bufferLen :: o.data

/-- What is written at the front of the buffer, and the rest of it; `none` where the source panics. -/
def emit (o : TcpOption) (buffer : List UInt8) : Option (List UInt8 × List UInt8) :=
  match o, buffer with
  | .endOfList, [] => none
  -- The padding is cleared too.
  | .endOfList, _ :: rest => some ([optEnd], rest.map fun _ => optEnd)
  | .unknown kind data, buffer =>
    if buffer.length = (unknown kind data).bufferLen then some ((unknown kind data).bytes, []) else none
  | o, buffer => if o.bufferLen ≤ buffer.length then some (o.bytes, buffer.drop o.bufferLen) else none

section Blocks

lemma length_rangeBytes (range : Range) : (rangeBytes range).length = 8 := by
  rw [rangeBytes, List.length_append, length_encode, length_encode]

lemma length_flatMap_rangeBytes (ranges : List Range) : (ranges.flatMap rangeBytes).length = ranges.length * 8 := by
  induction ranges with
  | nil => rfl
  | cons range ranges ih =>
    rw [List.flatMap_cons, List.length_append, length_rangeBytes, ih, List.length_cons]
    omega

lemma length_blocks_le (ranges : SackRanges) : (blocks ranges).length ≤ 3 := by
  have hlen := List.length_filterMap_le id (List.ofFn ranges)
  rwa [List.length_ofFn] at hlen

lemma read_append {k : ℕ} {front : List UInt8} (h : front.length = k) (rest : List UInt8) :
    read k (front ++ rest) = .ok (decode front) := by
  rw [read, if_pos (by rw [List.length_append]; omega), List.take_left' h]

lemma read_word (x : BitVec 32) (rest : List UInt8) : read 4 (encode 4 x.toNat ++ rest) = .ok x.toNat := by
  rw [read_append (length_encode 4 _), decode_encode_of_lt x.isLt]

lemma readRange_succ (range : Range) (rest : List UInt8) (i : ℕ) :
    readRange (rangeBytes range ++ rest) (i + 1) = readRange rest i := by
  have hlen := length_rangeBytes range
  have hdrop : ∀ j, (rangeBytes range ++ rest).drop ((i + 1) * 8 + j) = rest.drop (i * 8 + j) := by
    intro j
    rw [List.drop_append, List.drop_eq_nil_of_le (by omega), List.nil_append, hlen]
    congr 1
    omega
  have hzero := hdrop 0
  simp only [Nat.add_zero] at hzero
  rw [readRange, readRange, hdrop, hzero]
  by_cases h : i * 8 < rest.length
  · rw [if_pos h, if_pos (by rw [List.length_append]; omega)]
  · rw [if_neg h, if_neg (by rw [List.length_append]; omega)]

lemma readRange_blocks (ranges : List Range) (i : ℕ) :
    readRange (ranges.flatMap rangeBytes) i = .ok ranges[i]? := by
  induction ranges generalizing i with
  | nil => rfl
  | cons range ranges ih =>
    rw [List.flatMap_cons]
    cases i with
    | zero =>
      have hright : ∀ rest, (rangeBytes range ++ rest).drop 4 = encode 4 range.2.toNat ++ rest := by
        intro rest
        rw [rangeBytes, List.append_assoc, List.drop_left' (length_encode 4 _)]
      rw [readRange, Nat.zero_mul, Nat.zero_add, List.drop_zero, hright, read_word, rangeBytes, List.append_assoc,
        read_word, if_pos (by simp)]
      simp [bind, Except.bind]
    | succ i => rw [readRange_succ, ih, List.getElem?_cons_succ]

def pack (ranges : SackRanges) : SackRanges := fun i => (blocks ranges)[i.val]?

lemma readRanges_blocks (ranges : SackRanges) : readRanges ((blocks ranges).flatMap rangeBytes) = .ok (pack ranges) := by
  rw [readRanges, readRange_blocks, readRange_blocks, readRange_blocks]
  simp only [bind, Except.bind]
  congr 1
  funext i
  match i with
  | 0 => rfl
  | 1 => rfl
  | 2 => rfl

end Blocks

section Parsing

lemma map_eq_ok {α β : Type} {f : α → β} {x : Except Fault α} {b : β} (h : x.map f = .ok b) :
    ∃ a, x = .ok a ∧ f a = b := by
  cases x with
  | error e => cases h
  | ok a => exact ⟨a, rfl, Except.ok.inj h⟩

lemma parse_cases {buffer rest : List UInt8} {o : TcpOption} (h : parse buffer = .ok (rest, o)) :
    (o = .endOfList ∨ o = .noOperation) ∧ buffer.length = rest.length + 1 ∨
    ∃ kind length data, parseData kind length data = .ok o ∧ 2 ≤ length ∧ data.length = length - 2 ∧
      buffer.length = rest.length + length := by
  cases buffer with
  | nil => cases h
  | cons kind tail =>
    rw [parse] at h
    by_cases hend : kind = optEnd
    · rw [if_pos hend] at h
      cases h
      exact .inl ⟨.inl rfl, rfl⟩
    rw [if_neg hend] at h
    by_cases hnop : kind = optNop
    · rw [if_pos hnop] at h
      cases h
      exact .inl ⟨.inr rfl, rfl⟩
    rw [if_neg hnop] at h
    cases tail with
    | nil => cases h
    | cons length tail =>
      rw [parseSized] at h
      by_cases hlen : 2 ≤ length.toNat ∧ length.toNat ≤ tail.length + 2
      · rw [if_pos hlen] at h
        obtain ⟨o', hdata, hrest⟩ := map_eq_ok h
        cases hrest
        refine .inr ⟨_, _, _, hdata, hlen.1, List.length_take_of_le (by omega), ?_⟩
        simp only [List.length_drop, List.length_cons]
        omega
      · rw [if_neg hlen] at h
        cases h

lemma parse_shrinks {buffer rest : List UInt8} {o : TcpOption} (h : parse buffer = .ok (rest, o)) :
    rest.length < buffer.length := by
  obtain ⟨_, hlen⟩ | ⟨_, length, _, _, _, _, hlen⟩ := parse_cases h <;> omega

lemma map_ne_panic {α β : Type} {f : α → β} {x : Except Fault α} (h : x ≠ .error .panic) :
    x.map f ≠ .error .panic := by
  cases x with
  | error e =>
    intro he
    cases he
    exact h rfl
  | ok a =>
    intro he
    cases he

lemma read_of_le {k : ℕ} {bytes : List UInt8} (h : k ≤ bytes.length) :
    read k bytes = .ok (decode (bytes.take k)) := if_pos h

lemma readRange_ok {data : List UInt8} (h : data.length % 8 = 0) (i : ℕ) : ∃ r, readRange data i = .ok r := by
  rw [readRange]
  by_cases hlt : i * 8 < data.length
  · rw [if_pos hlt, read_of_le (by rw [List.length_drop]; omega), read_of_le (by rw [List.length_drop]; omega)]
    exact ⟨_, rfl⟩
  · rw [if_neg hlt]
    exact ⟨_, rfl⟩

lemma readRanges_ok {data : List UInt8} (h : data.length % 8 = 0) : ∃ r, readRanges data = .ok r := by
  obtain ⟨first, h₀⟩ := readRange_ok h 0
  obtain ⟨second, h₁⟩ := readRange_ok h 1
  obtain ⟨third, h₂⟩ := readRange_ok h 2
  rw [readRanges, h₀, h₁, h₂]
  exact ⟨_, rfl⟩

lemma parseData_ne_panic {kind : UInt8} {length : ℕ} {data : List UInt8} (h : data.length = length - 2) :
    parseData kind length data ≠ .error .panic := by
  rw [parseData]
  split_ifs with _ hmss _ hws _ hperm _ hrng hts
  · exact map_ne_panic (by rw [read_of_le (by omega)]; nofun)
  · nofun
  · exact map_ne_panic (by rw [read_of_le (by omega)]; nofun)
  · nofun
  · nofun
  · nofun
  · nofun
  · obtain ⟨r, hr⟩ := readRanges_ok (show data.length % 8 = 0 by omega)
    exact map_ne_panic (by rw [hr]; nofun)
  · rw [read_of_le (by omega), read_of_le (by rw [List.length_drop]; omega)]
    nofun
  · nofun

lemma parse_ne_panic (buffer : List UInt8) : parse buffer ≠ .error .panic := by
  cases buffer with
  | nil => nofun
  | cons kind tail =>
    rw [parse]
    split_ifs
    · nofun
    · nofun
    · cases tail with
      | nil => nofun
      | cons length tail =>
        rw [parseSized]
        split_ifs with hlen
        · exact map_ne_panic (parseData_ne_panic (List.length_take_of_le (by omega)))
        · nofun

end Parsing

section RoundTrip

def normal : TcpOption → TcpOption
  | .sackRange ranges => .sackRange (pack ranges)
  | o => o

lemma readRange_spec {data : List UInt8} {i : ℕ} {r : Option Range} (h : readRange data i = .ok r) :
    r.isSome = decide (i * 8 < data.length) := by
  rw [readRange] at h
  by_cases hlt : i * 8 < data.length
  · rw [if_pos hlt] at h
    cases hl : read 4 (data.drop (i * 8)) with
    | error e => simp [hl, bind, Except.bind] at h
    | ok left =>
      cases hr : read 4 (data.drop (i * 8 + 4)) with
      | error e => simp [hl, hr, bind, Except.bind] at h
      | ok right =>
        simp only [hl, hr, bind, Except.bind] at h
        cases h
        simp [hlt]
  · rw [if_neg hlt] at h
    cases h
    simp [hlt]

lemma readRanges_spec {data : List UInt8} {ranges : SackRanges} (h : readRanges data = .ok ranges) :
    pack ranges = ranges ∧ (blocks ranges).length * 8 ≤ data.length + 7 := by
  cases h₀ : readRange data 0 with
  | error e => simp [readRanges, h₀, bind, Except.bind] at h
  | ok first =>
  cases h₁ : readRange data 1 with
  | error e => simp [readRanges, h₀, h₁, bind, Except.bind] at h
  | ok second =>
  cases h₂ : readRange data 2 with
  | error e => simp [readRanges, h₀, h₁, h₂, bind, Except.bind] at h
  | ok third =>
    simp only [readRanges, h₀, h₁, h₂, bind, Except.bind] at h
    cases h
    have hs₀ := readRange_spec h₀
    have hs₁ := readRange_spec h₁
    have hs₂ := readRange_spec h₂
    have hpack : ∀ a b c : Option Range, (b.isSome → a.isSome) → (c.isSome → b.isSome) →
        pack ![a, b, c] = ![a, b, c] ∧
          (blocks ![a, b, c]).length =
            (if a.isSome then 1 else 0) + (if b.isSome then 1 else 0) + if c.isSome then 1 else 0 := by
      intro a b c hb hc
      cases a <;> cases b <;> cases c <;>
        first
        | exact absurd (hb rfl) (by decide)
        | exact absurd (hc rfl) (by decide)
        | exact ⟨funext fun i => match i with | 0 => rfl | 1 => rfl | 2 => rfl, rfl⟩
    obtain ⟨hpacked, hlen⟩ := hpack first second third (by rw [hs₀, hs₁]; simp; omega) (by rw [hs₁, hs₂]; simp; omega)
    refine ⟨hpacked, ?_⟩
    rw [hlen, hs₀, hs₁, hs₂]
    simp only [decide_eq_true_eq]
    split_ifs <;> omega

lemma parseData_spec {kind : UInt8} {length : ℕ} {data : List UInt8} {o : TcpOption}
    (h : parseData kind length data = .ok o) (hlen : 2 ≤ length) (hdata : data.length = length - 2) :
    o.normal = o ∧ o.bufferLen ≤ length := by
  rw [parseData] at h
  split_ifs at h with _ hmss _ hws _ hperm _ hrng hts
  · obtain ⟨v, _, rfl⟩ := map_eq_ok h
    exact ⟨rfl, hmss.symm.le⟩
  · obtain ⟨v, _, rfl⟩ := map_eq_ok h
    exact ⟨rfl, hws.symm.le⟩
  · cases h
    exact ⟨rfl, hlen⟩
  · obtain ⟨ranges, hranges, rfl⟩ := map_eq_ok h
    obtain ⟨hpacked, hblocks⟩ := readRanges_spec hranges
    refine ⟨by rw [normal, hpacked], ?_⟩
    rw [bufferLen]
    omega
  · rw [read_of_le (by omega), read_of_le (by rw [List.length_drop]; omega)] at h
    cases h
    exact ⟨rfl, hts.2.symm.le⟩
  · cases h
    refine ⟨rfl, ?_⟩
    rw [bufferLen]
    omega

lemma parse_spec {buffer rest : List UInt8} {o : TcpOption} (h : parse buffer = .ok (rest, o)) :
    o.normal = o ∧ rest.length + o.bufferLen ≤ buffer.length := by
  obtain ⟨rfl | rfl, hlen⟩ | ⟨kind, length, data, hdata, htwo, hsize, hlen⟩ := parse_cases h
  · exact ⟨rfl, hlen.symm.le⟩
  · exact ⟨rfl, hlen.symm.le⟩
  · obtain ⟨hnormal, hle⟩ := parseData_spec hdata htwo hsize
    exact ⟨hnormal, by omega⟩

def Sized : TcpOption → Prop
  | .maxSegmentSize _ | .windowScale _ | .sackPermitted | .timeStamp _ _ => True
  | .sackRange ranges => blocks ranges ≠ []
  | _ => False

variable {o : TcpOption}

lemma Sized.length_data (h : o.Sized) : o.bufferLen = o.data.length + 2 := by
  cases o with
  | endOfList => cases h
  | noOperation => cases h
  | maxSegmentSize value => rw [bufferLen, data, length_encode]
  | windowScale value => rfl
  | sackPermitted => rfl
  | sackRange ranges => rw [bufferLen, data, length_flatMap_rangeBytes]
  | timeStamp tsval tsecr => rw [bufferLen, data, List.length_append, length_encode, length_encode]
  | unknown kind data => cases h

lemma Sized.bytes_eq (h : o.Sized) : o.bytes = o.kind :: UInt8.ofNat o.bufferLen :: o.data := by
  cases o <;> first | rfl | cases h

lemma Sized.bufferLen_le (h : o.Sized) : o.bufferLen ≤ 26 := by
  cases o with
  | sackRange ranges =>
    have := length_blocks_le ranges
    rw [bufferLen]
    omega
  | maxSegmentSize value => exact Nat.le_of_ble_eq_true rfl
  | windowScale value => exact Nat.le_of_ble_eq_true rfl
  | sackPermitted => exact Nat.le_of_ble_eq_true rfl
  | timeStamp tsval tsecr => exact Nat.le_of_ble_eq_true rfl
  | endOfList => cases h
  | noOperation => cases h
  | unknown kind data => cases h

lemma Sized.emit_eq (h : o.Sized) {buffer : List UInt8} (hlen : o.bufferLen ≤ buffer.length) :
    o.emit buffer = some (o.bytes, buffer.drop o.bufferLen) := by
  cases o <;> first | exact if_pos hlen | cases h

lemma Sized.kind_ne (h : o.Sized) : o.kind ≠ optEnd ∧ o.kind ≠ optNop := by
  cases o with
  | endOfList => cases h
  | noOperation => cases h
  | unknown kind data => cases h
  | _ => exact ⟨by rw [kind]; decide, by rw [kind]; decide⟩

lemma Sized.parseData_eq (h : o.Sized) : parseData o.kind o.bufferLen o.data = .ok o.normal := by
  cases o with
  | endOfList => cases h
  | noOperation => cases h
  | unknown kind data => cases h
  | maxSegmentSize value =>
    have hread := read_append (length_encode 2 value.toNat) []
    rw [List.append_nil, decode_encode_of_lt value.toNat_lt] at hread
    rw [parseData, if_pos (by rfl), if_pos (by rfl), data, hread]
    simp [Except.map, normal]
  | windowScale value =>
    rw [kind, parseData, if_neg (by decide), if_pos (by rfl), if_pos (by rfl), data, read_of_le (by rfl)]
    simp [Except.map, normal, decode]
  | sackPermitted =>
    rw [kind, parseData, if_neg (by decide), if_neg (by decide), if_pos (by rfl), if_pos (by rfl)]
    rfl
  | sackRange ranges =>
    have hpos : 0 < (blocks ranges).length := List.length_pos_iff.mpr h
    have hlen : ¬ (bufferLen (.sackRange ranges) < 10 ∨ (bufferLen (.sackRange ranges) - 2) % 8 ≠ 0) := by
      rw [bufferLen]
      omega
    rw [kind, parseData, if_neg (by decide), if_neg (by decide), if_neg (by decide), if_pos (by rfl), if_neg hlen, data,
      readRanges_blocks]
    rfl
  | timeStamp tsval tsecr =>
    have hsecond := read_word tsecr []
    rw [List.append_nil] at hsecond
    rw [kind, parseData, if_neg (by decide), if_neg (by decide), if_neg (by decide), if_neg (by decide),
      if_pos ⟨by rfl, by rfl⟩, data, read_word, List.drop_left' (length_encode 4 _), hsecond]
    simp [bind, Except.bind, normal]

theorem Sized.parse_bytes (h : o.Sized) (rest : List UInt8) : parse (o.bytes ++ rest) = .ok (rest, o.normal) := by
  have hlen := h.length_data
  have hle := h.bufferLen_le
  have hsize : (UInt8.ofNat o.bufferLen).toNat = o.bufferLen := by
    rw [UInt8.toNat_ofNat']
    omega
  have hnat : (UInt8.ofNat o.bufferLen).toNat - 2 = o.data.length := by omega
  rw [h.bytes_eq, List.cons_append, List.cons_append, parse, if_neg h.kind_ne.1, if_neg h.kind_ne.2, parseSized,
    if_pos (by rw [hsize, List.length_append]; omega), hnat, List.take_left, List.drop_left, hsize, h.parseData_eq]
  rfl

end RoundTrip

end TcpOption

end SmoltcpS3.Wire

import SmoltcpS3.Foundations.Decimal

namespace SmoltcpS3.Setup

open Decimal

section ParseIpv4

structure QuadState where
  out : Vector UInt8 4
  oct : ℕ
  acc : UInt32
  seen : Bool

def QuadState.start : QuadState := ⟨.replicate 4 0, 0, 0, false⟩

-- A fault of the evaluation, an overflow or an index out of range, is `none`.
def checkedU32 (x : ℕ) : Option UInt32 := if x < 2 ^ 32 then some (UInt32.ofNat x) else none

def storeAt (out : Vector UInt8 4) (i : ℕ) (x : UInt8) : Option (Vector UInt8 4) :=
  if h : i < 4 then some (out.set i x) else none

def unset : Vector UInt8 4 := .replicate 4 0

def parseIpv4Loop : QuadState → List UInt8 → Option (Vector UInt8 4)
  | s, [] =>
    if s.seen = false ∨ s.oct ≠ 3 then some unset else storeAt s.out 3 s.acc.toUInt8
  | s, c :: b =>
    if isDigit c then
      (checkedU32 (s.acc.toNat * 10)).bind fun x =>
        (checkedU32 (x.toNat + (c - 48).toNat)).bind fun acc =>
          if acc > 255 then some unset
          else parseIpv4Loop { s with acc := acc, seen := true } b
    else if c = 46 then
      if s.seen = false ∨ s.oct ≥ 3 then some unset
      else
        (storeAt s.out s.oct s.acc.toUInt8).bind fun out =>
          parseIpv4Loop ⟨out, s.oct + 1, 0, false⟩ b
    else some unset

def parseIpv4 : Option (List UInt8) → Option (Vector UInt8 4)
  | none => some unset
  | some b => parseIpv4Loop .start b

end ParseIpv4

section Octets

def IsOctet (run : List UInt8) (v : UInt8) : Prop :=
  run ≠ [] ∧ Digits run ∧ value run = v.toNat

inductive Octets : List UInt8 → List UInt8 → Prop
  | last {run v} (h : IsOctet run v) : Octets run [v]
  | dot {run v t vs} (h : IsOctet run v) (ht : Octets t vs) : Octets (run ++ 46 :: t) (v :: vs)

lemma octets_iff {x vs : List UInt8} :
    Octets x vs ↔ ∃ v, IsOctet (leading x) v ∧
      ((trailing x = [] ∧ vs = [v]) ∨
        ∃ t vs', trailing x = 46 :: t ∧ vs = v :: vs' ∧ Octets t vs') := by
  constructor
  · intro h
    cases h with
    | @last run v h =>
      have hl := leading_append h.2.1 []
      have ht := trailing_append h.2.1 []
      rw [List.append_nil] at hl ht
      exact ⟨v, by rwa [hl, leading, List.takeWhile_nil, List.append_nil], .inl ⟨ht, rfl⟩⟩
    | @dot run v t vs h ht =>
      rw [leading_append h.2.1, trailing_append h.2.1, leading_eq_nil (by decide),
        trailing_eq_self (by decide), List.append_nil]
      exact ⟨v, h, .inr ⟨t, vs, rfl, rfl, ht⟩⟩
  · rintro ⟨v, h, ⟨ht, rfl⟩ | ⟨t, vs', ht, rfl, hvs⟩⟩
    · rw [← leading_append_trailing x, ht, List.append_nil]
      exact .last h
    · rw [← leading_append_trailing x, ht]
      exact .dot h hvs

section

variable {r : List UInt8} (hr : Digits r)
include hr

lemma octets_digits {vs : List UInt8} : Octets r vs ↔ ∃ v, IsOctet r v ∧ vs = [v] := by
  have hl := leading_append hr []
  have ht := trailing_append hr []
  rw [List.append_nil] at hl ht
  rw [octets_iff, hl, ht]
  simp [leading, trailing]

lemma octets_dot {s vs : List UInt8} :
    Octets (r ++ 46 :: s) vs ↔ ∃ v vs', IsOctet r v ∧ vs = v :: vs' ∧ Octets s vs' := by
  rw [octets_iff, leading_append hr, trailing_append hr, leading_eq_nil (by decide),
    trailing_eq_self (by decide), List.append_nil]
  simp

lemma not_octets_letter {c : UInt8} (hc : isDigit c = false) (hdot : c ≠ 46) (s vs : List UInt8) :
    ¬ Octets (r ++ c :: s) vs := by
  rw [octets_iff, trailing_append hr, trailing_eq_self hc]
  simp [hdot]

lemma not_octets_large (h : 255 < value r) (s vs : List UInt8) : ¬ Octets (r ++ s) vs := by
  rw [octets_iff, leading_append hr]
  rintro ⟨v, ⟨-, -, hv⟩, -⟩
  have hle := value_le_append r (leading s)
  have := v.toNat_lt
  omega

end

end Octets

section Loop

structure QuadState.At (st : QuadState) (done r : List UInt8) : Prop where
  out : st.out.toList = done ++ List.replicate (4 - done.length) 0
  oct : st.oct = done.length
  room : done.length ≤ 3
  digits : Digits r
  acc : st.acc.toNat = value r
  small : value r ≤ 255
  seen : st.seen = false ↔ r = []

def Reads (done text : List UInt8) (o : Option (Vector UInt8 4)) : Prop :=
  ∃ x, o = some x ∧ ((∃ vs, Octets text vs ∧ x.toList = done ++ vs) ∨
    ((∀ vs, Octets text vs → (done ++ vs).length ≠ 4) ∧ x = unset))

lemma reads_unset {done text : List UInt8}
    (h : ∀ vs, Octets text vs → (done ++ vs).length ≠ 4) : Reads done text (some unset) :=
  ⟨unset, rfl, .inr ⟨h, rfl⟩⟩

variable {st : QuadState} {done r : List UInt8}

lemma QuadState.At.isOctet (h : st.At done r) (hne : r ≠ []) : IsOctet r st.acc.toUInt8 := by
  refine ⟨hne, h.digits, ?_⟩
  have := h.small
  rw [UInt32.toNat_toUInt8, h.acc]
  omega

lemma IsOctet.unique {v w : UInt8} (hv : IsOctet r v) (hw : IsOctet r w) : v = w :=
  UInt8.toNat_inj.mp (hv.2.2.symm.trans hw.2.2)

lemma QuadState.At.store (h : st.At done r) (x : UInt8) :
    ∃ out, storeAt st.out st.oct x = some out ∧
      out.toList = done ++ [x] ++ List.replicate (4 - (done ++ [x]).length) 0 := by
  have hlt : st.oct < 4 := by
    rw [h.oct]
    exact Nat.lt_succ_of_le h.room
  refine ⟨st.out.set st.oct x, by rw [storeAt, dif_pos hlt], ?_⟩
  have hroom : 4 - done.length = (4 - (done ++ [x]).length) + 1 := by
    have := h.room
    simp only [List.length_append, List.length_singleton]
    omega
  rw [Vector.toList_set, h.out, h.oct, hroom, List.replicate_succ, List.set_append_right _ _ le_rfl,
    Nat.sub_self, List.set_cons_zero, List.append_assoc, List.singleton_append]

lemma reads_end (h : st.At done r) : Reads done r (parseIpv4Loop st []) := by
  rw [parseIpv4Loop]
  split_ifs with hstop
  · apply reads_unset
    intro vs hvs
    obtain ⟨v, ⟨hne, -⟩, rfl⟩ := (octets_digits h.digits).mp hvs
    rcases hstop with hseen | hoct
    · exact absurd (h.seen.mp hseen) hne
    · rw [h.oct] at hoct
      simpa using hoct
  · obtain ⟨hseen, hoct⟩ := not_or.mp hstop
    rw [not_not] at hoct
    have hne : r ≠ [] := fun hr => hseen (h.seen.mpr hr)
    obtain ⟨out, hout, hlist⟩ := h.store st.acc.toUInt8
    rw [hoct] at hout
    refine ⟨out, hout, .inl ⟨[st.acc.toUInt8], .last (h.isOctet hne), ?_⟩⟩
    rw [hlist, List.length_append, ← h.oct, hoct]
    exact List.append_nil _

lemma QuadState.At.digit (h : st.At done r) {c : UInt8} (hc : isDigit c)
    (hle : value (r ++ [c]) ≤ 255) :
    QuadState.At { st with acc := UInt32.ofNat (value (r ++ [c])), seen := true } done (r ++ [c]) where
  out := h.out
  oct := h.oct
  room := h.room
  digits := digits_append.mpr ⟨h.digits, digits_cons.mpr ⟨hc, .nil⟩⟩
  acc := by
    rw [UInt32.toNat_ofNat']
    exact Nat.mod_eq_of_lt (by omega)
  small := hle
  seen := by simp

lemma parseIpv4Loop_digit (h : st.At done r) {c : UInt8} (hc : isDigit c) (s : List UInt8) :
    parseIpv4Loop st (c :: s) =
      if 255 < value (r ++ [c]) then some unset
      else parseIpv4Loop { st with acc := UInt32.ofNat (value (r ++ [c])), seen := true } s := by
  have hd := digit_lt hc
  have hsmall := h.small
  rw [digit] at hd
  have hx : checkedU32 (st.acc.toNat * 10) = some (UInt32.ofNat (value r * 10)) := by
    rw [checkedU32, h.acc, if_pos (by omega)]
  have hv : value r * 10 % 2 ^ 32 = value r * 10 := Nat.mod_eq_of_lt (by omega)
  rw [parseIpv4Loop, if_pos hc, hx, Option.bind_some, UInt32.toNat_ofNat', hv, checkedU32,
    if_pos (by omega), Option.bind_some, value_append_singleton, digit]
  have hgt : UInt32.ofNat (value r * 10 + (c - 48).toNat) > 255 ↔
      255 < value r * 10 + (c - 48).toNat := by
    rw [gt_iff_lt, UInt32.lt_iff_toNat_lt, UInt32.toNat_ofNat', Nat.mod_eq_of_lt (by omega)]
    rfl
  simp only [hgt]

lemma QuadState.At.dot (h : st.At done r) {out : Vector UInt8 4} {x : UInt8}
    (hout : out.toList = done ++ [x] ++ List.replicate (4 - (done ++ [x]).length) 0)
    (hroom : done.length < 3) : QuadState.At ⟨out, st.oct + 1, 0, false⟩ (done ++ [x]) [] where
  out := hout
  oct := by simp [h.oct]
  room := by
    rw [List.length_append]
    exact hroom
  digits := .nil
  acc := rfl
  small := by decide
  seen := by simp

lemma Octets.ne_nil {text vs : List UInt8} (h : Octets text vs) : vs ≠ [] := by
  cases h <;> simp

lemma reads_dot (h : st.At done r) {s : List UInt8}
    (next : ∀ {st' done'}, QuadState.At st' done' [] → Reads done' s (parseIpv4Loop st' s)) :
    Reads done (r ++ 46 :: s) (parseIpv4Loop st (46 :: s)) := by
  rw [parseIpv4Loop, if_neg (by decide), if_pos rfl]
  split_ifs with hstop
  · apply reads_unset
    intro vs hvs
    obtain ⟨v, vs', ⟨hne, -⟩, rfl, hvs'⟩ := (octets_dot h.digits).mp hvs
    rcases hstop with hseen | hoct
    · exact absurd (h.seen.mp hseen) hne
    · rw [h.oct] at hoct
      have := List.length_pos_iff.mpr hvs'.ne_nil
      simp only [List.length_append, List.length_cons]
      omega
  · obtain ⟨hseen, hoct⟩ := not_or.mp hstop
    have hr := h.isOctet fun hr => hseen (h.seen.mpr hr)
    obtain ⟨out, hout, hlist⟩ := h.store st.acc.toUInt8
    rw [hout, Option.bind_some]
    obtain ⟨x, hx, hread⟩ := next (h.dot hlist (by rw [← h.oct]; omega))
    refine ⟨x, hx, ?_⟩
    rcases hread with ⟨vs, hvs, hxs⟩ | ⟨hno, rfl⟩
    · refine .inl ⟨st.acc.toUInt8 :: vs, .dot hr hvs, ?_⟩
      rw [hxs, List.append_assoc, List.singleton_append]
    · refine .inr ⟨?_, rfl⟩
      intro vs hvs
      obtain ⟨v, vs', hv, rfl, hvs'⟩ := (octets_dot h.digits).mp hvs
      rw [hv.unique hr, List.append_cons]
      exact hno vs' hvs'

-- The induction is on the rest of the text; a dot moves the finished octet to `done`.
theorem reads_loop (s : List UInt8) (h : st.At done r) :
    Reads done (r ++ s) (parseIpv4Loop st s) := by
  induction s generalizing st done r with
  | nil =>
    rw [List.append_nil]
    exact reads_end h
  | cons c s ih =>
    cases hc : isDigit c with
    | true =>
      rw [parseIpv4Loop_digit h hc, List.append_cons]
      split_ifs with hlarge
      · apply reads_unset
        intro vs hvs
        have hd := digits_append.mpr ⟨h.digits, digits_cons.mpr ⟨hc, .nil⟩⟩
        exact absurd hvs (not_octets_large hd hlarge s vs)
      · exact ih (h.digit hc (not_lt.mp hlarge))
    | false =>
      by_cases hdot : c = 46
      · subst hdot
        exact reads_dot h fun h' => ih h'
      · rw [parseIpv4Loop, if_neg (by simp [hc]), if_neg hdot]
        apply reads_unset
        intro vs hvs
        exact absurd hvs (not_octets_letter h.digits hc hdot s vs)

lemma QuadState.At.start : QuadState.start.At [] [] where
  out := rfl
  oct := rfl
  room := by decide
  digits := .nil
  acc := rfl
  small := by decide
  seen := by decide

end Loop

section Quads

def DottedQuad (s : List UInt8) (x : Vector UInt8 4) : Prop :=
  ∃ p q r t, s = p ++ 46 :: (q ++ 46 :: (r ++ 46 :: t)) ∧
    IsOctet p x[0] ∧ IsOctet q x[1] ∧ IsOctet r x[2] ∧ IsOctet t x[3]

def dotted (x : Vector UInt8 4) : List UInt8 :=
  print x[0].toNat ++ (46 : UInt8) :: (print x[1].toNat ++ (46 : UInt8) ::
    (print x[2].toNat ++ (46 : UInt8) :: print x[3].toNat))

lemma toList_quad (x : Vector UInt8 4) : x.toList = [x[0], x[1], x[2], x[3]] := by
  apply List.ext_getElem
  · simp
  · intro i hi hj
    have : i < 4 := by simpa using hi
    interval_cases i <;> simp

lemma dottedQuad_iff {s : List UInt8} {x : Vector UInt8 4} :
    DottedQuad s x ↔ Octets s x.toList := by
  rw [toList_quad]
  constructor
  · rintro ⟨p, q, r, t, rfl, hp, hq, hr, ht⟩
    exact .dot hp (.dot hq (.dot hr (.last ht)))
  · intro h
    cases h with | dot hp h
    cases h with | dot hq h
    cases h with | dot hr h
    cases h with
    | last ht => exact ⟨_, _, _, _, rfl, hp, hq, hr, ht⟩
    | dot _ h => exact absurd rfl h.ne_nil

lemma isOctet_print (v : UInt8) : IsOctet (print v.toNat) v :=
  ⟨print_ne_nil _, digits_print _, value_print _⟩

lemma dottedQuad_dotted (x : Vector UInt8 4) : DottedQuad (dotted x) x :=
  ⟨_, _, _, _, rfl, isOctet_print _, isOctet_print _, isOctet_print _, isOctet_print _⟩

lemma Octets.unique {s vs ws : List UInt8} (hv : Octets s vs) (hw : Octets s ws) : vs = ws := by
  induction hv generalizing ws with
  | last h =>
    obtain ⟨w, h', rfl⟩ := (octets_digits h.2.1).mp hw
    rw [h.unique h']
  | dot h _ ih =>
    obtain ⟨w, ws', h', rfl, hws⟩ := (octets_dot h.2.1).mp hw
    rw [h.unique h', ih hws]

lemma DottedQuad.unique {s : List UInt8} {x y : Vector UInt8 4} (hx : DottedQuad s x)
    (hy : DottedQuad s y) : x = y :=
  Vector.toList_inj.mp ((dottedQuad_iff.mp hx).unique (dottedQuad_iff.mp hy))

lemma parseIpv4_spec (s : List UInt8) :
    ∃ x, parseIpv4 (some s) = some x ∧ (DottedQuad s x ∨ (¬ ∃ y, DottedQuad s y) ∧ x = unset) := by
  obtain ⟨x, hx, hread⟩ := reads_loop s .start
  refine ⟨x, hx, ?_⟩
  rw [List.nil_append] at hread
  rcases hread with ⟨vs, hvs, hxs⟩ | ⟨hno, rfl⟩
  · rw [List.nil_append] at hxs
    rw [dottedQuad_iff, hxs]
    exact .inl hvs
  · refine .inr ⟨?_, rfl⟩
    rintro ⟨y, hy⟩
    exact hno y.toList (dottedQuad_iff.mp hy) (by simp)

theorem parseIpv4_exact :
    (∀ s x, parseIpv4 (some s) = some x ↔
      DottedQuad s x ∨ (¬ ∃ y, DottedQuad s y) ∧ x = unset) ∧
    (∀ s, parseIpv4 s ≠ none) ∧
    parseIpv4 none = some unset ∧
    ∀ x, parseIpv4 (some (dotted x)) = some x := by
  have hexact : ∀ s x, parseIpv4 (some s) = some x ↔
      DottedQuad s x ∨ (¬ ∃ y, DottedQuad s y) ∧ x = unset := by
    intro s x
    obtain ⟨y, hy, hspec⟩ := parseIpv4_spec s
    rw [hy, Option.some.injEq]
    constructor
    · rintro rfl
      exact hspec
    · rintro (hx | ⟨hno, rfl⟩)
      · rcases hspec with hyq | ⟨hno, -⟩
        · exact hyq.unique hx
        · exact absurd ⟨x, hx⟩ hno
      · rcases hspec with hyq | ⟨-, hyu⟩
        · exact absurd ⟨y, hyq⟩ hno
        · exact hyu
  refine ⟨hexact, ?_, rfl, ?_⟩
  · intro s
    cases s with
    | none => simp [parseIpv4]
    | some s =>
      obtain ⟨y, hy, -⟩ := parseIpv4_spec s
      simp [hy]
  · intro x
    exact (hexact _ x).mpr (.inl (dottedQuad_dotted x))

end Quads

end SmoltcpS3.Setup

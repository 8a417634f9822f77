import SmoltcpS3.Setup.Size

/-! The object `just setup` uploads and the size the program is built with. -/

namespace SmoltcpS3.Setup

open Decimal

def objectSizeDefault : UInt64 := 10 * 1024 * 1024 * 1024

def objectSize (overflowChecks : Bool) (awsBucketSize : List UInt8) : Option UInt64 :=
  parseSize overflowChecks (some awsBucketSize) objectSizeDefault

section Numfmt

def iecSuffixes : List (List UInt8 × ℕ) :=
  [([], 1), ([letter 'K'], 1024), ([letter 'M'], 1024 ^ 2), ([letter 'G'], 1024 ^ 3),
    ([letter 'T'], 1024 ^ 4), ([letter 'P'], 1024 ^ 5), ([letter 'E'], 1024 ^ 6)]

def pointed (fraction : List UInt8) : List UInt8 :=
  if fraction = [] then [] else letter '.' :: fraction

structure IecNumber (s whole fraction : List UInt8) (unit : ℕ) : Prop where
  spelled : ∃ t, (t, unit) ∈ iecSuffixes ∧ s = whole ++ (pointed fraction ++ t)
  whole_digits : Digits whole
  fraction_digits : Digits fraction
  number : whole ++ fraction ≠ []

/-- What is documented of `numfmt --from=iec`: the texts it takes, and that it rounds up. -/
structure ReadsIec (numfmt : List UInt8 → Option ℕ) : Prop where
  only : ∀ {s b}, numfmt s = some b → ∃ whole fraction unit, IecNumber s whole fraction unit
  rounds : ∀ {s b whole fraction unit}, numfmt s = some b → IecNumber s whole fraction unit →
    b = (value (whole ++ fraction) * unit + (10 ^ fraction.length - 1)) / 10 ^ fraction.length

lemma ReadsIec.whole {numfmt : List UInt8 → Option ℕ} (hr : ReadsIec numfmt) {s ds : List UInt8}
    {b unit : ℕ} (hb : numfmt s = some b) (hs : IecNumber s ds [] unit) : b = value ds * unit := by
  have h := hr.rounds hb hs
  simpa using h

def splitFraction : List UInt8 → List UInt8 × List UInt8
  | [] => ([], [])
  | c :: r => if c = letter '.' ∧ leading r ≠ [] then (leading r, trailing r) else ([], c :: r)

def iecNumfmt (s : List UInt8) : Option ℕ :=
  let whole := leading s
  let (fraction, t) := splitFraction (trailing s)
  match iecSuffixes.find? (·.1 = t) with
  | some (_, unit) =>
    if whole ++ fraction = [] then none
    else
      some ((value (whole ++ fraction) * unit + (10 ^ fraction.length - 1)) / 10 ^ fraction.length)
  | none => none

lemma splitFraction_spec (s : List UInt8) :
    s = pointed (splitFraction s).1 ++ (splitFraction s).2 ∧ Digits (splitFraction s).1 := by
  cases s with
  | nil => exact ⟨rfl, .nil⟩
  | cons c r =>
    rw [splitFraction]
    split_ifs with h
    · refine ⟨?_, digits_leading r⟩
      rw [pointed, if_neg h.2, List.cons_append, leading_append_trailing, h.1]
    · exact ⟨rfl, .nil⟩

lemma iecSuffixes_letters : ∀ p ∈ iecSuffixes,
    leading p.1 = [] ∧ trailing p.1 = p.1 ∧ splitFraction p.1 = ([], p.1) ∧
      iecSuffixes.find? (·.1 = p.1) = some p := by
  decide

lemma splitFraction_append {fraction t : List UInt8} {unit : ℕ} (hf : Digits fraction)
    (ht : (t, unit) ∈ iecSuffixes) : splitFraction (pointed fraction ++ t) = (fraction, t) := by
  obtain ⟨hl, htr, hs, -⟩ := iecSuffixes_letters _ ht
  by_cases h : fraction = []
  · subst h
    exact hs
  · rw [pointed, if_neg h, List.cons_append, splitFraction, leading_append hf, trailing_append hf,
      hl, htr, List.append_nil, if_pos ⟨rfl, h⟩]

lemma trailing_pointed (fraction : List UInt8) {t : List UInt8} {unit : ℕ}
    (ht : (t, unit) ∈ iecSuffixes) :
    leading (pointed fraction ++ t) = [] ∧
      trailing (pointed fraction ++ t) = pointed fraction ++ t := by
  obtain ⟨hl, htr, -⟩ := iecSuffixes_letters _ ht
  by_cases h : fraction = []
  · rw [pointed, if_pos h]
    exact ⟨hl, htr⟩
  · rw [pointed, if_neg h]
    exact ⟨leading_eq_nil (by decide) _, trailing_eq_self (by decide) _⟩

lemma iecNumfmt_of_iecNumber {s whole fraction : List UInt8} {unit : ℕ}
    (h : IecNumber s whole fraction unit) :
    iecNumfmt s =
      some ((value (whole ++ fraction) * unit + (10 ^ fraction.length - 1)) /
        10 ^ fraction.length) := by
  obtain ⟨⟨t, ht, rfl⟩, hw, hf, hne⟩ := h
  obtain ⟨hl, htr⟩ := trailing_pointed fraction ht
  rw [iecNumfmt, leading_append hw, trailing_append hw, hl, htr, splitFraction_append hf ht,
    List.append_nil]
  simp only [(iecSuffixes_letters _ ht).2.2.2, if_neg hne]

lemma iecNumber_of_iecNumfmt {s : List UInt8} {b : ℕ} (h : iecNumfmt s = some b) :
    ∃ whole fraction unit, IecNumber s whole fraction unit := by
  obtain ⟨htext, hf⟩ := splitFraction_spec (trailing s)
  simp only [iecNumfmt] at h
  split at h
  · rename_i t unit hfind
    split_ifs at h with hne
    have ht : t = (splitFraction (trailing s)).2 := by
      simpa only [decide_eq_true_eq] using List.find?_some hfind
    refine ⟨_, _, unit, ⟨t, List.mem_of_find?_eq_some hfind, ?_⟩, digits_leading s, hf, hne⟩
    rw [ht, ← htext, leading_append_trailing]
  · cases h

theorem iecNumfmt_readsIec : ReadsIec iecNumfmt where
  only := iecNumber_of_iecNumfmt
  rounds := by
    intro s b whole fraction unit hb hs
    rw [iecNumfmt_of_iecNumber hs, Option.some.injEq] at hb
    exact hb.symm

end Numfmt

section Agreement

lemma iecSuffixes_read : ∀ p ∈ iecSuffixes,
    if p.2 ≤ 1024 ^ 4 then p ∈ sizeSuffixes else factorAfter p.1 = none := by
  decide

lemma IecNumber.isSize {s whole : List UInt8} {unit : ℕ} (h : IecNumber s whole [] unit)
    (hu : unit ≤ 1024 ^ 4) : IsSize s (value whole * unit) := by
  obtain ⟨⟨t, ht, rfl⟩, hw, -, hne⟩ := h
  have hread := iecSuffixes_read _ ht
  rw [if_pos hu] at hread
  rw [List.append_nil] at hne
  exact ⟨whole, t, unit, by simp [pointed], hne, hw, hread, rfl⟩

lemma IecNumber.factorAfter {s whole fraction : List UInt8} {unit : ℕ}
    (h : IecNumber s whole fraction unit) (hno : ¬ (fraction = [] ∧ unit ≤ 1024 ^ 4)) :
    factorAfter s = none := by
  obtain ⟨⟨t, ht, rfl⟩, hw, -, -⟩ := h
  rw [factorAfter_append hw]
  by_cases hf : fraction = []
  · have hread := iecSuffixes_read _ ht
    rw [if_neg fun hu => hno ⟨hf, hu⟩] at hread
    rw [pointed, if_pos hf]
    exact hread
  · rw [pointed, if_neg hf, List.cons_append, factorAfter_letter (by decide)]
    decide

lemma parseSize_of_isSize {checks : Bool} {s : List UInt8} {n : ℕ} {d v : UInt64}
    (hs : IsSize s n) (hv : parseSize checks (some s) d = some v) : v = UInt64.ofNat n := by
  obtain ⟨k, hk, rfl⟩ := hs.eq
  rw [parseSize_eq checks d hs.ne_nil, hk] at hv
  exact (arith_eq_some_iff.mp hv).2.symm

lemma parseSize_of_factorAfter_none {checks : Bool} {s : List UInt8} {d v : UInt64}
    (hs : factorAfter s = none) (hv : parseSize checks (some s) d = some v) : v = d := by
  have hne : s ≠ [] := by
    rintro rfl
    cases hs
  rw [parseSize_eq checks d hne, hs] at hv
  obtain ⟨-, -, rfl⟩ := Option.map_eq_some_iff.mp hv
  rfl

theorem objectSize_eq_uploaded_iff (numfmt : List UInt8 → Option ℕ) (hr : ReadsIec numfmt)
    (checks : Bool) (size : List UInt8) (bytes : ℕ) (v : UInt64)
    (hb : numfmt size = some bytes) (hv : objectSize checks size = some v) :
    v.toNat = bytes ↔
      ((∃ whole unit, IecNumber size whole [] unit ∧ unit ≤ 1024 ^ 4) ∧ bytes < 2 ^ 64) ∨
        bytes = 10 * 1024 ^ 3 := by
  by_cases hw : ∃ whole unit, IecNumber size whole [] unit ∧ unit ≤ 1024 ^ 4
  · obtain ⟨whole, unit, hs, hu⟩ := hw
    have hsize := hs.isSize hu
    rw [← hr.whole hb hs] at hsize
    rw [parseSize_of_isSize hsize hv, UInt64.toNat_ofNat']
    constructor
    · intro h
      exact .inl ⟨⟨whole, unit, hs, hu⟩, by omega⟩
    · rintro (⟨-, h⟩ | h) <;> omega
  · -- A fraction, a `P` or an `E`: the program falls back to its default.
    obtain ⟨whole, fraction, unit, hs⟩ := hr.only hb
    have hnone : factorAfter size = none := by
      apply hs.factorAfter
      rintro ⟨rfl, hu⟩
      exact hw ⟨whole, unit, hs, hu⟩
    rw [parseSize_of_factorAfter_none hnone hv, or_iff_right (fun h => hw h.1)]
    exact eq_comm

theorem objectSize_eq_uploaded_two_tebibytes :
    iecNumfmt (ascii "2T") = some (2 * 1024 ^ 4) ∧
      objectSize false (ascii "2T") = some (2 * 1024 ^ 4) ∧
      (2 * 1024 ^ 4 : UInt64).toNat = 2 * 1024 ^ 4 := by
  have hs : IecNumber (ascii "2T") (ascii "2") [] (1024 ^ 4) :=
    ⟨⟨ascii "T", by decide, by decide⟩, by decide +kernel, by decide +kernel, by decide⟩
  refine ⟨by decide, by decide, ?_⟩
  apply (objectSize_eq_uploaded_iff iecNumfmt iecNumfmt_readsIec false (ascii "2T") (2 * 1024 ^ 4)
    (2 * 1024 ^ 4) (by decide) (by decide)).mpr
  exact .inl ⟨⟨ascii "2", 1024 ^ 4, hs, le_rfl⟩, by decide⟩

theorem objectSize_ne_uploaded :
    ReadsIec iecNumfmt ∧ iecNumfmt (ascii "1.5G") = some 1610612736 ∧
      objectSize false (ascii "1.5G") = some 10737418240 ∧
      (10737418240 : UInt64).toNat ≠ 1610612736 :=
  ⟨iecNumfmt_readsIec, by decide, by decide, by decide⟩

end Agreement

end SmoltcpS3.Setup

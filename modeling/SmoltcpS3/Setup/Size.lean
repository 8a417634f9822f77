import SmoltcpS3.Foundations.Decimal

namespace SmoltcpS3.Setup

open Decimal

section ParseSize

def letter (c : Char) : UInt8 := c.toUInt8

def ascii (s : String) : List UInt8 := s.toList.map letter

-- A sum or product of `u64`s: it wraps, unless the build checks for overflow and stops.
def arith (overflowChecks : Bool) (x : ℕ) : Option UInt64 :=
  if overflowChecks ∧ 2 ^ 64 ≤ x then none else some (UInt64.ofNat x)

def sizeFactor (c : UInt8) : Option ℕ :=
  if c = letter 'K' ∨ c = letter 'k' then some 1024
  else if c = letter 'M' ∨ c = letter 'm' then some (1024 * 1024)
  else if c = letter 'G' ∨ c = letter 'g' then some (1024 * 1024 * 1024)
  else if c = letter 'T' ∨ c = letter 't' then some (1024 * 1024 * 1024 * 1024)
  else if c = letter 'B' ∨ c = letter 'b' ∨ c = letter 'i' ∨ c = letter 'I' then some 1
  else none

def parseSizeLoop (overflowChecks : Bool) (default : UInt64) :
    UInt64 → List UInt8 → Option UInt64
  | v, [] => some v
  | v, c :: b =>
    if isDigit c then
      (arith overflowChecks (v.toNat * 10)).bind fun w =>
        (arith overflowChecks (w.toNat + (c - 48).toNat)).bind fun v =>
          parseSizeLoop overflowChecks default v b
    else
      match sizeFactor c with
      | some mult => arith overflowChecks (v.toNat * mult)
      | none => some default

def parseSize (overflowChecks : Bool) (s : Option (List UInt8)) (default : UInt64) :
    Option UInt64 :=
  match s with
  | none => some default
  | some b => if b = [] then some default else parseSizeLoop overflowChecks default 0 b

end ParseSize

section Arith

lemma arith_wraps (n : ℕ) : arith false n = some (UInt64.ofNat n) := by simp [arith]

lemma arith_of_lt (checks : Bool) {n : ℕ} (h : n < 2 ^ 64) :
    arith checks n = some (UInt64.ofNat n) := by
  rw [arith, if_neg]
  omega

lemma arith_of_le {n : ℕ} (h : 2 ^ 64 ≤ n) : arith true n = none := by
  rw [arith, if_pos ⟨rfl, h⟩]

-- `f` is what one more operation makes of the exact number; it never makes it smaller.
lemma arith_bind (checks : Bool) (f : ℕ → ℕ) (hle : ∀ n, n ≤ f n)
    (hmod : ∀ n, f (n % 2 ^ 64) % 2 ^ 64 = f n % 2 ^ 64) (n : ℕ) :
    ((arith checks n).bind fun v => arith checks (f v.toNat)) = arith checks (f n) := by
  cases checks with
  | false =>
    rw [arith_wraps, Option.bind_some, arith_wraps, arith_wraps]
    congr 1
    apply UInt64.toNat_inj.mp
    simp only [UInt64.toNat_ofNat', hmod]
  | true =>
    by_cases h : n < 2 ^ 64
    · rw [arith_of_lt _ h, Option.bind_some, UInt64.toNat_ofNat', Nat.mod_eq_of_lt h]
    · rw [arith_of_le (not_lt.mp h), arith_of_le ((not_lt.mp h).trans (hle n)), Option.bind_none]

lemma arith_bind_digit (checks : Bool) (n k : ℕ) :
    ((arith checks n).bind fun v => (arith checks (v.toNat * 10)).bind fun w =>
      arith checks (w.toNat + k)) = arith checks (n * 10 + k) := by
  simp only [arith_bind checks (· + k) (by simp) (by simp)]
  exact arith_bind checks (· * 10 + k) (fun n => by omega) (fun n => by omega) n

lemma arith_bind_mul (checks : Bool) (n : ℕ) {k : ℕ} (hk : 0 < k) :
    ((arith checks n).bind fun v => arith checks (v.toNat * k)) = arith checks (n * k) :=
  arith_bind checks (· * k) (fun n => Nat.le_mul_of_pos_right n hk) (by simp) n

end Arith

section Outcome

def factorAfter (s : List UInt8) : Option ℕ :=
  match trailing s with
  | [] => some 1
  | c :: _ => sizeFactor c

lemma sizeFactor_pos {c : UInt8} {k : ℕ} (h : sizeFactor c = some k) : 0 < k := by
  simp only [sizeFactor] at h
  split_ifs at h <;> simp only [Option.some.injEq] at h <;> omega

lemma factorAfter_digit {c : UInt8} (hc : isDigit c) (s : List UInt8) :
    factorAfter (c :: s) = factorAfter s := by
  rw [factorAfter, trailing, List.dropWhile_cons_of_pos hc]
  rfl

lemma factorAfter_letter {c : UInt8} (hc : isDigit c = false) (s : List UInt8) :
    factorAfter (c :: s) = sizeFactor c := by
  rw [factorAfter, trailing_eq_self hc]

lemma leading_digit {c : UInt8} (hc : isDigit c) (s : List UInt8) :
    leading (c :: s) = c :: leading s := List.takeWhile_cons_of_pos hc

-- The induction is on the rest of the text; `n` is the exact number read before it.
lemma parseSizeLoop_eq (checks : Bool) (d : UInt64) (n : ℕ) (s : List UInt8) :
    ((arith checks n).bind fun v => parseSizeLoop checks d v s) =
      match factorAfter s with
      | some k => arith checks (valueFrom n (leading s) * k)
      | none => (arith checks (valueFrom n (leading s))).map fun _ => d := by
  induction s generalizing n with
  | nil => simp [parseSizeLoop, factorAfter, trailing, leading]
  | cons c s ih =>
    cases hc : isDigit c with
    | true =>
      rw [factorAfter_digit hc, leading_digit hc, valueFrom_cons, ← ih, ← arith_bind_digit]
      simp only [parseSizeLoop, hc, if_true, Option.bind_assoc, digit]
    | false =>
      rw [factorAfter_letter hc, leading_eq_nil hc, valueFrom_nil]
      cases hk : sizeFactor c with
      | some k =>
        simp only [parseSizeLoop, hc, hk, Bool.false_eq_true, if_false]
        exact arith_bind_mul checks n (sizeFactor_pos hk)
      | none =>
        simp only [parseSizeLoop, hc, hk, Bool.false_eq_true, if_false]
        cases arith checks n <;> rfl

theorem parseSize_eq (checks : Bool) (d : UInt64) {s : List UInt8} (hs : s ≠ []) :
    parseSize checks (some s) d =
      match factorAfter s with
      | some k => arith checks (value (leading s) * k)
      | none => (arith checks (value (leading s))).map fun _ => d := by
  have h := parseSizeLoop_eq checks d 0 s
  rw [arith_of_lt checks (by decide), Option.bind_some] at h
  rw [parseSize, if_neg hs]
  exact h

end Outcome

section Grammar

-- Behind a prefix letter `i` and `B` may follow; without one, `B` alone.
def sizeSuffixes : List (List UInt8 × ℕ) :=
  [([], 1), ([letter 'B'], 1), ([letter 'b'], 1)] ++ do
    let (unit, k) ← [(letter 'K', 1024), (letter 'k', 1024), (letter 'M', 1024 ^ 2), (letter 'm', 1024 ^ 2),
      (letter 'G', 1024 ^ 3), (letter 'g', 1024 ^ 3), (letter 'T', 1024 ^ 4), (letter 't', 1024 ^ 4)]
    let i ← [[], [letter 'i'], [letter 'I']]
    let b ← [[], [letter 'B'], [letter 'b']]
    [(unit :: (i ++ b), k)]

def IsSize (s : List UInt8) (n : ℕ) : Prop :=
  ∃ ds t k, s = ds ++ t ∧ ds ≠ [] ∧ Digits ds ∧ (t, k) ∈ sizeSuffixes ∧ n = value ds * k

lemma sizeSuffixes_read : ∀ p ∈ sizeSuffixes, leading p.1 = [] ∧ factorAfter p.1 = some p.2 := by
  decide

lemma factorAfter_append {ds : List UInt8} (hd : Digits ds) (t : List UInt8) :
    factorAfter (ds ++ t) = factorAfter t := by
  rw [factorAfter, trailing_append hd]
  rfl

lemma IsSize.eq {s : List UInt8} {n : ℕ} (h : IsSize s n) :
    ∃ k, factorAfter s = some k ∧ n = value (leading s) * k := by
  obtain ⟨ds, t, k, rfl, -, hd, ht, rfl⟩ := h
  obtain ⟨hl, hf⟩ := sizeSuffixes_read _ ht
  rw [factorAfter_append hd, leading_append hd, hl, List.append_nil]
  exact ⟨k, hf, rfl⟩

lemma IsSize.spelling {s : List UInt8} {n : ℕ} (h : IsSize s n) :
    leading s ≠ [] ∧ trailing s ∈ sizeSuffixes.map Prod.fst := by
  obtain ⟨ds, t, k, rfl, hne, hd, ht, -⟩ := h
  obtain ⟨hl, -⟩ := sizeSuffixes_read _ ht
  have htl : trailing t = t := by
    have := leading_append_trailing t
    rwa [hl, List.nil_append] at this
  rw [leading_append hd, trailing_append hd, hl, htl, List.append_nil]
  exact ⟨hne, List.mem_map_of_mem ht⟩

lemma IsSize.ne_nil {s : List UInt8} {n : ℕ} (h : IsSize s n) : s ≠ [] := by
  obtain ⟨ds, t, k, rfl, hne, -⟩ := h
  simp [hne]

lemma IsSize.parse {s : List UInt8} {n : ℕ} (h : IsSize s n) (hn : n < 2 ^ 64) (checks : Bool)
    (d : UInt64) : parseSize checks (some s) d = some (UInt64.ofNat n) := by
  obtain ⟨k, hk, rfl⟩ := h.eq
  rw [parseSize_eq checks d h.ne_nil, hk]
  exact arith_of_lt checks hn

lemma arith_eq_some_iff {checks : Bool} {n : ℕ} {d : UInt64} :
    arith checks n = some d ↔ (checks → n < 2 ^ 64) ∧ UInt64.ofNat n = d := by
  rw [arith]
  split_ifs with h
  · simp only [false_iff]
    intro hd
    exact absurd (hd.1 h.1) (not_lt.mpr h.2)
  · simp only [Option.some.injEq, iff_and_self]
    intro _ hc
    exact not_le.mp fun hle => h ⟨hc, hle⟩

/-- The documented grammar and nothing else: a size that fits is read, any other text is the
default. -/
def ReadsExactly (checks : Bool) (s : List UInt8) (d : UInt64) : Prop :=
  (∀ n, IsSize s n → n < 2 ^ 64 → parseSize checks (some s) d = some (UInt64.ofNat n)) ∧
    ((¬ ∃ n < 2 ^ 64, IsSize s n) → parseSize checks (some s) d = some d)

def ReadRight (checks : Bool) (s : List UInt8) : Prop :=
  (∃ n < 2 ^ 64, IsSize s n) ∨ (factorAfter s = none ∧ (checks = true → value (leading s) < 2 ^ 64))

lemma ReadRight.readsExactly {checks : Bool} {s : List UInt8} (h : ReadRight checks s) (hs : s ≠ [])
    (d : UInt64) : ReadsExactly checks s d := by
  refine ⟨fun n hn hlt => hn.parse hlt checks d, fun hno => ?_⟩
  obtain ⟨hf, hfits⟩ := h.resolve_left hno
  have hnumber := arith_eq_some_iff.mpr ⟨hfits, rfl⟩
  rw [parseSize_eq checks d hs, hf]
  dsimp only
  rw [hnumber]
  rfl

lemma misread {checks : Bool} {s : List UInt8} (h : ¬ ReadRight checks s) (hs : s ≠ []) :
    ∃ v, ∀ d, d ≠ v → ¬ ReadsExactly checks s d := by
  obtain ⟨hno, hother⟩ := not_or.mp h
  cases hf : factorAfter s with
  | some k =>
    -- The number in front of the suffix letter is read, whatever the default is.
    refine ⟨UInt64.ofNat (value (leading s) * k), fun d hne hreads => ?_⟩
    have hparse := hreads.2 hno
    rw [parseSize_eq checks d hs, hf] at hparse
    exact hne (arith_eq_some_iff.mp hparse).2.symm
  | none =>
    refine ⟨0, fun d _ hreads => hother ⟨hf, ?_⟩⟩
    have hparse := hreads.2 hno
    rw [parseSize_eq checks d hs, hf] at hparse
    obtain ⟨v, hv, _⟩ := Option.map_eq_some_iff.mp hparse
    exact (arith_eq_some_iff.mp hv).1

theorem readsExactly_iff (checks : Bool) (s : List UInt8) (hs : s ≠ []) :
    ((∀ d, ReadsExactly checks s d) ↔ ReadRight checks s) ∧
      (¬ ReadRight checks s → ∃ v, ∀ d, d ≠ v → ¬ ReadsExactly checks s d) := by
  refine ⟨⟨fun hall => ?_, fun h d => h.readsExactly hs d⟩, fun h => misread h hs⟩
  by_contra h
  obtain ⟨v, hv⟩ := misread h hs
  by_cases hzero : v = 0
  · exact hv 1 (by rw [hzero]; decide) (hall 1)
  · exact hv 0 (Ne.symm hzero) (hall 0)

theorem readsExactly_block :
    ReadsExactly false (ascii "64M") 1 ∧ ReadsExactly false (ascii "eight") 8 := by
  have hsize : ReadRight false (ascii "64M") :=
    .inl ⟨64 * 1024 ^ 2, by decide, ascii "64", ascii "M", 1024 ^ 2, by decide, by decide,
      by decide +kernel, by decide, by decide⟩
  have hother : ReadRight false (ascii "eight") := .inr ⟨by decide, fun h => absurd h (by decide)⟩
  exact ⟨(readsExactly_iff false (ascii "64M") (by decide)).1.mpr hsize 1,
    (readsExactly_iff false (ascii "eight") (by decide)).1.mpr hother 8⟩

theorem parseSize_misreads_tail :
    ¬ ReadsExactly false (ascii "10Gx") 8 ∧
      parseSize false (some (ascii "10Gx")) 8 = some (10 * 1024 ^ 3) := by
  have hread : parseSize false (some (ascii "10Gx")) 8 = some (10 * 1024 ^ 3) := by decide
  refine ⟨?_, hread⟩
  rintro ⟨-, hother⟩
  have hd : parseSize false (some (ascii "10Gx")) 8 = some 8 := by
    apply hother
    rintro ⟨n, -, hn⟩
    exact absurd hn.spelling (by decide)
  rw [hread] at hd
  exact absurd hd (by decide)

end Grammar

end SmoltcpS3.Setup

import Mathlib.Data.Set.Basic
import Mathlib.Order.Lattice
import Mathlib.Tactic.Push

/-! Sets of natural numbers as lists of pairs: the length of a gap, then the length of a run. -/

namespace SmoltcpS3.GapRuns

def Covers : List (ℕ × ℕ) → ℕ → Prop
  | [], _ => False
  | c :: cs, x => (c.1 ≤ x ∧ x < c.1 + c.2) ∨ (c.1 + c.2 ≤ x ∧ Covers cs (x - (c.1 + c.2)))

def span : List (ℕ × ℕ) → ℕ
  | [] => 0
  | c :: cs => c.1 + c.2 + span cs

instance Covers.decidable : ∀ cs x, Decidable (Covers cs x)
  | [], _ => inferInstanceAs (Decidable False)
  | c :: cs, x =>
    have := Covers.decidable cs (x - (c.1 + c.2))
    inferInstanceAs (Decidable (_ ∨ _ ∧ _))

structure Canonical (cs : List (ℕ × ℕ)) : Prop where
  run_pos : ∀ c ∈ cs, 0 < c.2
  gap_pos : ∀ c ∈ cs.tail, 0 < c.1

def closeGap (n : ℕ) : List (ℕ × ℕ) → List (ℕ × ℕ)
  | [] => []
  | c :: cs => (c.1 - n, c.2) :: cs

/-- One run from `h` on that reaches at least up to `e` and at least up to `t`, where `cs` starts,
and the rest of `cs`. -/
def absorb (h e : ℕ) : ℕ → List (ℕ × ℕ) → List (ℕ × ℕ)
  | t, [] => [(h, max t e - h)]
  | t, c :: cs =>
    if t + c.1 ≤ e then absorb h e (t + (c.1 + c.2)) cs
    else (h, max t e - h) :: (c.1 - (e - t), c.2) :: cs

def insertRange (offset size : ℕ) : List (ℕ × ℕ) → List (ℕ × ℕ)
  | [] => [(offset, size)]
  | c :: cs =>
    if c.1 + c.2 < offset then c :: insertRange (offset - (c.1 + c.2)) size cs
    else if offset + size < c.1 then (offset, size) :: (c.1 - (offset + size), c.2) :: cs
    else absorb (min c.1 offset) (offset + size) (c.1 + c.2) cs

@[simp] lemma covers_nil (x : ℕ) : ¬ Covers [] x := fun h => h

lemma covers_cons (c : ℕ × ℕ) (cs : List (ℕ × ℕ)) (x : ℕ) :
    Covers (c :: cs) x ↔ (c.1 ≤ x ∧ x < c.1 + c.2) ∨ (c.1 + c.2 ≤ x ∧ Covers cs (x - (c.1 + c.2))) :=
  Iff.rfl

namespace Canonical

variable {c : ℕ × ℕ} {cs : List (ℕ × ℕ)}

lemma nil : Canonical [] := ⟨by simp, by simp⟩

lemma tail (h : Canonical (c :: cs)) : Canonical cs :=
  ⟨fun d hd => h.run_pos d (List.mem_cons_of_mem c hd), fun d hd => h.gap_pos d (List.mem_of_mem_tail hd)⟩

lemma cons_iff : Canonical (c :: cs) ↔ 0 < c.2 ∧ Canonical cs ∧ ∀ d ∈ cs.head?, 0 < d.1 := by
  constructor
  · intro h
    refine ⟨h.run_pos c List.mem_cons_self, h.tail, fun d hd => h.gap_pos d ?_⟩
    exact List.mem_of_mem_head? hd
  · rintro ⟨hc, hcs, hd⟩
    refine ⟨?_, ?_⟩
    · rintro d (_ | ⟨_, hm⟩)
      · exact hc
      · exact hcs.run_pos d hm
    · cases cs with
      | nil => simp
      | cons d cs =>
        rintro b (_ | ⟨_, hm⟩)
        · exact hd d rfl
        · exact hcs.gap_pos b hm

lemma head_gap (h : Canonical (c :: cs)) : ∀ d ∈ cs.head?, 0 < d.1 := (cons_iff.mp h).2.2

end Canonical

lemma covers_first {c : ℕ × ℕ} {cs : List (ℕ × ℕ)} (h : 0 < c.2) : Covers (c :: cs) c.1 :=
  Or.inl ⟨le_rfl, by omega⟩

lemma le_of_covers {c : ℕ × ℕ} {cs : List (ℕ × ℕ)} {x : ℕ} (h : Covers (c :: cs) x) : c.1 ≤ x := by
  rcases h with h | h
  · exact h.1
  · omega

theorem canonical_unique {cs ds : List (ℕ × ℕ)} (hc : Canonical cs) (hd : Canonical ds)
    (h : ∀ x, Covers cs x ↔ Covers ds x) : cs = ds := by
  induction cs generalizing ds with
  | nil =>
    cases ds with
    | nil => rfl
    | cons d ds => exact absurd ((h d.1).mpr (covers_first (hd.run_pos d List.mem_cons_self))) (covers_nil _)
  | cons c cs ih =>
    cases ds with
    | nil => exact absurd ((h c.1).mp (covers_first (hc.run_pos c List.mem_cons_self))) (covers_nil _)
    | cons d ds =>
      have hcp := hc.run_pos c List.mem_cons_self
      have hdp := hd.run_pos d List.mem_cons_self
      have hgap : c.1 = d.1 :=
        le_antisymm (le_of_covers ((h d.1).mpr (covers_first hdp)))
          (le_of_covers ((h c.1).mp (covers_first hcp)))
      -- The octet right after a run is not covered, since the next gap is not empty.
      have hend : ∀ (b : ℕ × ℕ) (bs : List (ℕ × ℕ)), Canonical (b :: bs) → ¬ Covers (b :: bs) (b.1 + b.2) := by
        rintro b bs hb (hx | ⟨_, hx⟩)
        · omega
        · cases bs with
          | nil => exact hx
          | cons b' bs =>
            have hle := le_of_covers hx
            have hpos := hb.head_gap b' rfl
            omega
      have hrun : c.2 = d.2 := by
        rcases lt_trichotomy c.2 d.2 with hlt | heq | hgt
        · exact absurd ((h (c.1 + c.2)).mpr (Or.inl ⟨by omega, by omega⟩)) (hend c cs hc)
        · exact heq
        · exact absurd ((h (d.1 + d.2)).mp (Or.inl ⟨by omega, by omega⟩)) (hend d ds hd)
      have hcd : c = d := Prod.ext hgap hrun
      subst hcd
      congr 1
      apply ih hc.tail hd.tail
      intro x
      have hx := h (c.1 + c.2 + x)
      simp only [covers_cons, Nat.add_sub_cancel_left] at hx
      constructor
      · intro hcov
        rcases hx.mp (Or.inr ⟨by omega, hcov⟩) with h' | h'
        · omega
        · exact h'.2
      · intro hcov
        rcases hx.mpr (Or.inr ⟨by omega, hcov⟩) with h' | h'
        · omega
        · exact h'.2

@[simp] lemma length_closeGap (n : ℕ) (cs : List (ℕ × ℕ)) : (closeGap n cs).length = cs.length := by
  cases cs <;> rfl

@[simp] lemma closeGap_zero (cs : List (ℕ × ℕ)) : closeGap 0 cs = cs := by
  cases cs <;> rfl

lemma absorb_of_lt {h e t : ℕ} {cs : List (ℕ × ℕ)} (hlt : ∀ d ∈ cs.head?, e < t + d.1) :
    absorb h e t cs = (h, max t e - h) :: closeGap (e - t) cs := by
  cases cs with
  | nil => rfl
  | cons d cs =>
    have hd := hlt d rfl
    rw [absorb, if_neg (by omega), closeGap]

lemma length_absorb_le (h e t : ℕ) (cs : List (ℕ × ℕ)) : (absorb h e t cs).length ≤ cs.length + 1 := by
  induction cs generalizing t with
  | nil => simp [absorb]
  | cons c cs ih =>
    rw [absorb]
    split_ifs
    · exact (ih _).trans (Nat.le_succ _)
    · simp

lemma covers_absorb {h e t : ℕ} {cs : List (ℕ × ℕ)} (hht : h ≤ t) (x : ℕ) :
    Covers (absorb h e t cs) x ↔ (h ≤ x ∧ x < max t e) ∨ (t ≤ x ∧ Covers cs (x - t)) := by
  induction cs generalizing t with
  | nil =>
    simp only [absorb, covers_cons, covers_nil, and_false, or_false]
    omega
  | cons c cs ih =>
    rw [absorb]
    split_ifs with hle
    · rw [ih (by omega)]
      simp only [covers_cons, Nat.sub_sub]
      by_cases hc : Covers cs (x - (t + (c.1 + c.2))) <;> simp only [hc, and_true, and_false, or_false] <;> omega
    · simp only [covers_cons]
      have hsub : x - (h + (max t e - h)) - (c.1 - (e - t) + c.2) = x - t - (c.1 + c.2) ∨
          x < t + (c.1 + c.2) := by omega
      rcases hsub with hsub | hlt
      · rw [hsub]
        by_cases hc : Covers cs (x - t - (c.1 + c.2)) <;>
          simp only [hc, and_true, and_false, or_false] <;> omega
      · omega

lemma absorb_canonical {h e t : ℕ} {cs : List (ℕ × ℕ)} (hht : h < max t e) (hc : Canonical cs)
    (hg : ∀ d ∈ cs.head?, 0 < d.1) : Canonical (absorb h e t cs) := by
  induction cs generalizing t with
  | nil =>
    simp only [absorb, Canonical.cons_iff, List.head?_nil, Option.not_mem_none, false_imp_iff, implies_true,
      and_true]
    exact ⟨by omega, Canonical.nil⟩
  | cons c cs ih =>
    rw [absorb]
    split_ifs with hle
    · exact ih (by omega) hc.tail hc.head_gap
    · have hcs := Canonical.cons_iff.mp hc
      have hpos := hg c rfl
      refine Canonical.cons_iff.mpr ⟨by dsimp only; omega, Canonical.cons_iff.mpr hcs, ?_⟩
      rintro d ⟨⟩
      dsimp only
      omega

theorem covers_insertRange {offset size : ℕ} {cs : List (ℕ × ℕ)} (x : ℕ) :
    Covers (insertRange offset size cs) x ↔ Covers cs x ∨ (offset ≤ x ∧ x < offset + size) := by
  induction cs generalizing offset x with
  | nil => simp [insertRange, covers_cons]
  | cons c cs ih =>
    rw [insertRange]
    split_ifs with hlt hhole
    · simp only [covers_cons, ih]
      by_cases hc : Covers cs (x - (c.1 + c.2)) <;> simp only [hc, true_or, false_or, and_true, and_false, or_false] <;>
        omega
    · simp only [covers_cons]
      have hsub : x - (offset + size) - (c.1 - (offset + size) + c.2) = x - (c.1 + c.2) := by omega
      rw [hsub]
      by_cases hc : Covers cs (x - (c.1 + c.2)) <;> simp only [hc, and_true, and_false, or_false] <;> omega
    · rw [covers_absorb (by omega)]
      simp only [covers_cons]
      by_cases hc : Covers cs (x - (c.1 + c.2)) <;> simp only [hc, and_true, and_false, or_false] <;> omega

lemma insertRange_head_gap {offset size : ℕ} {cs : List (ℕ × ℕ)} (ho : 0 < offset)
    (hg : ∀ d ∈ cs.head?, 0 < d.1) : ∀ d ∈ (insertRange offset size cs).head?, 0 < d.1 := by
  have habsorb : ∀ (h e t : ℕ) (bs : List (ℕ × ℕ)), ∀ d ∈ (absorb h e t bs).head?, d.1 = h := by
    intro h e t bs
    induction bs generalizing t with
    | nil => simp [absorb]
    | cons b bs ih =>
      rw [absorb]
      split_ifs
      · exact ih _
      · simp
  cases cs with
  | nil => simpa [insertRange] using ho
  | cons c cs =>
    have hc := hg c rfl
    rw [insertRange]
    intro d hd
    split_ifs at hd
    · cases hd
      exact hc
    · cases hd
      exact ho
    · rw [habsorb _ _ _ _ d hd]
      omega

theorem insertRange_canonical {offset size : ℕ} {cs : List (ℕ × ℕ)} (hs : 0 < size) (hc : Canonical cs) :
    Canonical (insertRange offset size cs) := by
  induction cs generalizing offset with
  | nil => exact Canonical.cons_iff.mpr ⟨hs, Canonical.nil, by simp⟩
  | cons c cs ih =>
    have hcs := Canonical.cons_iff.mp hc
    rw [insertRange]
    split_ifs with hlt hhole
    · exact Canonical.cons_iff.mpr ⟨hcs.1, ih hcs.2.1, insertRange_head_gap (by omega) hcs.2.2⟩
    · refine Canonical.cons_iff.mpr ⟨hs, Canonical.cons_iff.mpr hcs, ?_⟩
      rintro d ⟨⟩
      dsimp only
      omega
    · exact absorb_canonical (by have := hcs.1; omega) hcs.2.1 hcs.2.2

lemma span_absorb {h e t : ℕ} (cs : List (ℕ × ℕ)) (hht : h ≤ t) : span (absorb h e t cs) = max (t + span cs) e := by
  induction cs generalizing t with
  | nil =>
    simp only [absorb, span]
    omega
  | cons c cs ih =>
    rw [absorb]
    split_ifs with hle
    · rw [ih (by omega), span]
      congr 1
      omega
    · simp only [span]
      omega

theorem span_insertRange (offset size : ℕ) (cs : List (ℕ × ℕ)) :
    span (insertRange offset size cs) = max (span cs) (offset + size) := by
  induction cs generalizing offset with
  | nil => simp [insertRange, span]
  | cons c cs ih =>
    rw [insertRange]
    split_ifs with hlt hhole
    · simp only [span, ih]
      omega
    · simp only [span]
      omega
    · rw [span_absorb cs (Nat.min_le_left c.1 offset |>.trans (Nat.le_add_right c.1 c.2)), span]

end SmoltcpS3.GapRuns

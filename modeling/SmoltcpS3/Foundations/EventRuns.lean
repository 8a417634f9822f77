import Mathlib.Data.List.Basic

/-! Finite runs of a system that is driven by events, and the invariant rules for them. -/

namespace SmoltcpS3.EventRuns

variable {σ ε : Type*} (step : σ → ε → σ)

def run (s : σ) (es : List ε) : σ := es.foldl step s

def Along (P : σ → ε → Prop) : σ → List ε → Prop
  | _, [] => True
  | s, e :: es => P s e ∧ Along P (step s e) es

instance Along.decidable (P : σ → ε → Prop) [∀ s e, Decidable (P s e)] :
    ∀ s es, Decidable (Along step P s es)
  | _, [] => inferInstanceAs (Decidable True)
  | s, e :: es =>
    have := Along.decidable P (step s e) es
    inferInstanceAs (Decidable (P s e ∧ Along step P (step s e) es))

@[simp] lemma run_nil (s : σ) : run step s [] = s := rfl

@[simp] lemma run_cons (s : σ) (e : ε) (es : List ε) :
    run step s (e :: es) = run step (step s e) es := rfl

lemma run_append (s : σ) (es fs : List ε) : run step s (es ++ fs) = run step (run step s es) fs := by
  simp [run]

variable {step}

lemma Along.mono {P Q : σ → ε → Prop} (hpq : ∀ s e, P s e → Q s e) {s : σ} {es : List ε}
    (h : Along step P s es) : Along step Q s es := by
  induction es generalizing s with
  | nil => trivial
  | cons e es ih => exact ⟨hpq s e h.1, ih h.2⟩

lemma along_append {P : σ → ε → Prop} {s : σ} {es fs : List ε} :
    Along step P s (es ++ fs) ↔ Along step P s es ∧ Along step P (run step s es) fs := by
  induction es generalizing s with
  | nil => simp [Along]
  | cons e es ih => simp only [List.cons_append, Along, run_cons, ih, and_assoc]

/-- An invariant kept by every event that meets `P` holds after every run of such events. -/
theorem run_invariant {P : σ → ε → Prop} {I : σ → Prop}
    (hs : ∀ s e, I s → P s e → I (step s e)) {s : σ} {es : List ε}
    (h₀ : I s) (h : Along step P s es) : I (run step s es) := by
  induction es generalizing s with
  | nil => exact h₀
  | cons e es ih => exact ih (hs s e h₀ h.1) h.2

lemma along_true (s : σ) (es : List ε) : Along step (fun _ _ => True) s es := by
  induction es generalizing s with
  | nil => trivial
  | cons e es ih => exact ⟨trivial, ih _⟩

theorem run_preserves {I : σ → Prop} (hs : ∀ s e, I s → I (step s e)) {s : σ} (es : List ε)
    (h₀ : I s) : I (run step s es) :=
  run_invariant (fun s e hi _ => hs s e hi) h₀ (along_true s es)

theorem run_congr {step' : σ → ε → σ} {P : σ → ε → Prop} {I : σ → Prop}
    (hs : ∀ s e, I s → P s e → step s e = step' s e ∧ I (step s e)) {s : σ} {es : List ε}
    (h₀ : I s) (h : Along step P s es) : run step s es = run step' s es := by
  induction es generalizing s with
  | nil => rfl
  | cons e es ih =>
    obtain ⟨heq, hi⟩ := hs s e h₀ h.1
    rw [run_cons, run_cons, ← heq]
    exact ih hi h.2

/-- A machine is refined by one whose every event is matched by some events of the first, as `C` says. -/
theorem run_simulation {σ' ε' : Type*} {step' : σ' → ε' → σ'} {R : σ → σ' → Prop} {C : σ → ε → List ε' → Prop}
    (hs : ∀ s s' e, R s s' → ∃ es', C s e es' ∧ R (step s e) (run step' s' es')) {s : σ} {s' : σ'} (h₀ : R s s')
    (es : List ε) :
    ∃ ess : List (List ε'), ess.length = es.length ∧ ∀ k ≤ es.length,
      R (run step s (es.take k)) (run step' s' (ess.take k).flatten) ∧
        ∀ e es', es[k]? = some e → ess[k]? = some es' → C (run step s (es.take k)) e es' := by
  induction es generalizing s s' with
  | nil =>
    refine ⟨[], rfl, fun k _ => ?_⟩
    rw [List.take_nil, List.take_nil]
    exact ⟨h₀, by simp⟩
  | cons e es ih =>
    obtain ⟨es₁, hc, h₁⟩ := hs s s' e h₀
    obtain ⟨ess, hlen, hrest⟩ := ih h₁
    refine ⟨es₁ :: ess, by rw [List.length_cons, List.length_cons, hlen], fun k hk => ?_⟩
    cases k with
    | zero =>
      refine ⟨h₀, fun e' es' he hes => ?_⟩
      cases he
      cases hes
      exact hc
    | succ k =>
      rw [List.take_succ_cons, List.take_succ_cons, List.flatten_cons, run_append, run_cons]
      exact hrest k (Nat.le_of_succ_le_succ hk)

theorem run_flatten {α : Type*} {step : σ → List α → σ} (hnil : ∀ s, step s [] = s)
    (happend : ∀ s xs ys, step s (xs ++ ys) = step (step s xs) ys) (s : σ) (chunks : List (List α)) :
    run step s chunks = step s chunks.flatten := by
  induction chunks generalizing s with
  | nil => exact (hnil s).symm
  | cons xs chunks ih => rw [run_cons, ih, List.flatten_cons, happend]

end SmoltcpS3.EventRuns

import SmoltcpS3.Foundations.EventRuns
import SmoltcpS3.Foundations.ListUpdates

/-! Interleaved runs of several parts that share a state, and the invariant rules for them. -/

namespace SmoltcpS3.Interleaving

open EventRuns ListUpdates

variable {σ γ ε : Type*}

structure System (σ γ : Type*) where
  parts : List σ
  shared : γ

variable (next : σ → γ → ε → σ × γ)

def step (s : System σ γ) (e : ℕ × ε) : System σ γ :=
  match s.parts[e.1]? with
  | none => s
  | some p =>
    { parts := s.parts.set e.1 (next p s.shared e.2).1
      shared := (next p s.shared e.2).2 }

def Each (I : ℕ → σ → Prop) (s : System σ γ) : Prop := ∀ k p, s.parts[k]? = some p → I k p

def LocalAlong (P : ℕ → σ → ε → Prop) : System σ γ → List (ℕ × ε) → Prop :=
  Along (step next) fun s e => ∀ p ∈ s.parts[e.1]?, P e.1 p e.2

instance (P : ℕ → σ → ε → Prop) [∀ k p e, Decidable (P k p e)] (s : System σ γ) (es : List (ℕ × ε)) :
    Decidable (LocalAlong next P s es) :=
  inferInstanceAs (Decidable (Along _ _ _ _))

variable {next}

lemma length_step (s : System σ γ) (e : ℕ × ε) : (step next s e).parts.length = s.parts.length := by
  rw [step]
  split
  · rfl
  · exact List.length_set

theorem length_run (s : System σ γ) (es : List (ℕ × ε)) :
    (run (step next) s es).parts.length = s.parts.length :=
  run_preserves (I := fun t : System σ γ => t.parts.length = s.parts.length)
    (fun t e h => (length_step t e).trans h) es rfl

lemma Each.step {I : ℕ → σ → Prop} {s : System σ γ} (h : Each I s) {e : ℕ × ε}
    (hs : ∀ p, s.parts[e.1]? = some p → I e.1 p → I e.1 (next p s.shared e.2).1) :
    Each I (Interleaving.step next s e) := by
  intro k p hp
  rw [Interleaving.step] at hp
  split at hp
  · exact h k p hp
  · rename_i q hq
    dsimp only at hp
    rw [List.getElem?_set] at hp
    split_ifs at hp with hk hlt
    · cases hp
      subst hk
      exact hs q hq (h e.1 q hq)
    · exact h k p hp

theorem Each.run {I : ℕ → σ → Prop} {P : ℕ → σ → ε → Prop}
    (hs : ∀ k p g e, I k p → P k p e → I k (next p g e).1) {s : System σ γ} {es : List (ℕ × ε)}
    (h : Each I s) (hp : LocalAlong next P s es) : Each I (EventRuns.run (Interleaving.step next) s es) :=
  run_invariant (fun _ e h hp => h.step fun p he hi => hs e.1 p _ e.2 hi (hp p he)) h hp

theorem Each.run_of_forall {I : ℕ → σ → Prop} (hs : ∀ k p g e, I k p → I k (next p g e).1)
    {s : System σ γ} (h : Each I s) (es : List (ℕ × ε)) :
    Each I (EventRuns.run (Interleaving.step next) s es) :=
  run_preserves (fun _ e h => h.step fun p _ hi => hs e.1 p _ e.2 hi) es h

lemma shared_step {S : γ → Prop} {s : System σ γ} (h : S s.shared) {e : ℕ × ε}
    (hs : ∀ p, s.parts[e.1]? = some p → S (next p s.shared e.2).2) :
    S (Interleaving.step next s e).shared := by
  rw [Interleaving.step]
  split
  · exact h
  · rename_i p hp
    exact hs p hp

theorem Each.run_shared {I : ℕ → σ → Prop} {S : γ → Prop}
    (hs : ∀ k p g e, I k p → S g → I k (next p g e).1 ∧ S (next p g e).2)
    {s : System σ γ} (h : Each I s) (hS : S s.shared) (es : List (ℕ × ε)) :
    Each I (EventRuns.run (Interleaving.step next) s es) ∧
      S (EventRuns.run (Interleaving.step next) s es).shared := by
  apply run_preserves (I := fun s : System σ γ => Each I s ∧ S s.shared) _ es ⟨h, hS⟩
  rintro s e ⟨h, hS⟩
  constructor
  · exact h.step fun p _ hp => (hs e.1 p _ e.2 hp hS).1
  · exact shared_step hS fun p hp => (hs e.1 p _ e.2 (h e.1 p hp) hS).2

section Somewhere

def Somewhere (B : σ → Prop) (s : System σ γ) : Prop := ∃ p ∈ s.parts, B p

lemma Somewhere.step {B : σ → Prop} (hstay : ∀ p g e, B p → B (next p g e).1) {s : System σ γ}
    (h : Somewhere B s) (e : ℕ × ε) : Somewhere B (Interleaving.step next s e) := by
  rw [Interleaving.step]
  cases hp : s.parts[e.1]? with
  | none => exact h
  | some q => exact exists_mem_set hp (hstay q s.shared e.2) h

/-- If an event that breaks `P` leaves its part in `B` for good, then a run that ends with no part in
`B` meets `P` all along. -/
theorem localAlong_of_not_somewhere {P : ℕ → σ → ε → Prop} {B : σ → Prop}
    (hstay : ∀ p g e, B p → B (next p g e).1) (hturn : ∀ k p g e, ¬ P k p e → B (next p g e).1)
    {s : System σ γ} {es : List (ℕ × ε)}
    (h : ¬ Somewhere B (EventRuns.run (Interleaving.step next) s es)) : LocalAlong next P s es := by
  induction es generalizing s with
  | nil => trivial
  | cons e es ih =>
    refine ⟨?_, ih h⟩
    intro p hp
    by_contra hnot
    apply h
    refine run_preserves (I := Somewhere B) (fun _ e hb => hb.step hstay e) es ?_
    rw [Interleaving.step, Option.mem_def.mp hp]
    exact ⟨_, List.mem_set (List.getElem?_eq_some_iff.mp hp).1 _, hturn e.1 p s.shared e.2 hnot⟩

end Somewhere

end SmoltcpS3.Interleaving

import SmoltcpS3.Foundations.Interleaving

namespace SmoltcpS3.Interleaving

open EventRuns

variable {σ γ ε : Type*} {next : σ → γ → ε → σ × γ} (holds : σ → Bool) (locked : γ → Bool)

def Exclusive (s : System σ γ) : Prop :=
  ∃ holder : Option ℕ, locked s.shared = holder.isSome ∧ ∀ k p, s.parts[k]? = some p → (holds p = true ↔ holder = some k)

inductive Discipline (p : σ) (g : γ) (p' : σ) (g' : γ) : Prop
  | keeps (hp : holds p' = holds p) (hg : locked g' = locked g)
  | takes (hp : holds p' = true) (hg : locked g = false) (hg' : locked g' = true)
  | gives (hp : holds p = true) (hp' : holds p' = false) (hg' : locked g' = false)

variable {holds locked}

lemma Exclusive.of_idle {s : System σ γ} (hp : ∀ p ∈ s.parts, holds p = false) (hg : locked s.shared = false) :
    Exclusive holds locked s := by
  refine ⟨none, hg, ?_⟩
  intro k p hk
  rw [hp p (List.mem_of_getElem? hk)]
  simp

lemma Exclusive.alone {s : System σ γ} (h : Exclusive holds locked s) {i j : ℕ} {p q : σ} (hp : s.parts[i]? = some p)
    (hold : holds p = true) (hq : s.parts[j]? = some q) (hij : j ≠ i) : holds q = false := by
  obtain ⟨holder, _, hiff⟩ := h
  have hi := (hiff i p hp).mp hold
  rw [← Bool.not_eq_true]
  intro hqold
  have hj := (hiff j q hq).mp hqold
  rw [hi] at hj
  exact hij (Option.some.inj hj).symm

lemma Exclusive.step (hs : ∀ p g e, Discipline holds locked p g (next p g e).1 (next p g e).2) {s : System σ γ}
    (h : Exclusive holds locked s) (e : ℕ × ε) : Exclusive holds locked (Interleaving.step next s e) := by
  rw [Interleaving.step]
  cases hp : s.parts[e.1]? with
  | none => exact h
  | some p =>
    have hlt := (List.getElem?_eq_some_iff.mp hp).1
    obtain ⟨holder, hlock, hiff⟩ := h
    dsimp only
    have hset : ∀ {new : Option ℕ}, (∀ k q, k ≠ e.1 → s.parts[k]? = some q → (holds q = true ↔ new = some k)) →
        (holds (next p s.shared e.2).1 = true ↔ new = some e.1) → ∀ k q,
        (s.parts.set e.1 (next p s.shared e.2).1)[k]? = some q → (holds q = true ↔ new = some k) := by
      intro new hothers hself k q hq
      by_cases hk : e.1 = k
      · subst hk
        rw [List.getElem?_set_self hlt, Option.some.injEq] at hq
        rw [← hq]
        exact hself
      · rw [List.getElem?_set_ne hk] at hq
        exact hothers k q (Ne.symm hk) hq
    cases hs p s.shared e.2 with
    | keeps hkeep hg =>
      refine ⟨holder, hg.trans hlock, hset (fun k q _ hq => hiff k q hq) ?_⟩
      rw [hkeep]
      exact hiff e.1 p hp
    | takes htake hfree hg =>
      have hnone : holder = none := by
        rw [hfree] at hlock
        exact Option.not_isSome_iff_eq_none.mp (by rw [← hlock]; exact Bool.false_ne_true)
      subst hnone
      refine ⟨some e.1, hg, hset (fun k q hk hq => ?_) (iff_of_true htake rfl)⟩
      rw [hiff k q hq]
      exact iff_of_false (Option.some_ne_none k).symm fun hsome => hk (Option.some.inj hsome).symm
    | gives hold hgive hg =>
      have hself := (hiff e.1 p hp).mp hold
      subst hself
      refine ⟨none, hg, hset (fun k q hk hq => ?_) (iff_of_false (by rw [hgive]; exact Bool.false_ne_true)
        (Option.some_ne_none e.1).symm)⟩
      rw [hiff k q hq]
      exact iff_of_false (fun hsome => hk (Option.some.inj hsome).symm) (Option.some_ne_none k).symm

end SmoltcpS3.Interleaving

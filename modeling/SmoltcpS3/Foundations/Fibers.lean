import Mathlib.Algebra.BigOperators.Group.Finset.Basic
import Mathlib.Data.Fintype.Card
import Mathlib.Data.Nat.Prime.Basic

namespace SmoltcpS3.Fibers

variable {α β : Type*} [Fintype α] [DecidableEq β] {f : α → β}

def fiberCard (f : α → β) (a : α) : ℕ := (Finset.univ.filter fun x => f x = f a).card

def Uniform (f : α → β) : Prop := ∀ a b, fiberCard f a = fiberCard f b

lemma Uniform.of_perm (h : ∀ a b, ∃ σ : Equiv.Perm α, ∀ x, f (σ x) = f b ↔ f x = f a) : Uniform f := by
  intro a b
  obtain ⟨σ, hσ⟩ := h a b
  apply Finset.card_bij fun x _ => σ x
  · intro x hx
    rw [Finset.mem_filter] at hx ⊢
    exact ⟨Finset.mem_univ _, (hσ x).mpr hx.2⟩
  · intro x _ y _ hxy
    exact σ.injective hxy
  · intro y hy
    rw [Finset.mem_filter] at hy
    refine ⟨σ.symm y, ?_, σ.apply_symm_apply y⟩
    rw [Finset.mem_filter, ← hσ, σ.apply_symm_apply]
    exact ⟨Finset.mem_univ _, hy.2⟩

lemma Uniform.card_filter (h : Uniform f) (a : α) (P : β → Prop) [DecidablePred P] :
    (Finset.univ.filter fun x => P (f x)).card =
      fiberCard f a * ((Finset.univ.image f).filter P).card := by
  have hmaps : ∀ x ∈ Finset.univ.filter (fun x => P (f x)), f x ∈ (Finset.univ.image f).filter P := by
    intro x hx
    rw [Finset.mem_filter] at hx ⊢
    exact ⟨Finset.mem_image_of_mem f hx.1, hx.2⟩
  have hfiber : ∀ y ∈ (Finset.univ.image f).filter P,
      ((Finset.univ.filter fun x => P (f x)).filter fun x => f x = y).card = fiberCard f a := by
    intro y hy
    rw [Finset.mem_filter, Finset.mem_image] at hy
    obtain ⟨⟨b, _, rfl⟩, hP⟩ := hy
    rw [h a b, fiberCard, Finset.filter_filter]
    congr 1
    apply Finset.filter_congr
    intro x _
    constructor
    · exact fun hx => hx.2
    · exact fun hx => ⟨hx ▸ hP, hx⟩
  rw [Finset.card_eq_sum_card_fiberwise hmaps, Finset.sum_const_nat hfiber, Nat.mul_comm]

lemma Uniform.card_eq (h : Uniform f) (a : α) :
    Fintype.card α = fiberCard f a * (Finset.univ.image f).card := by
  have hall := h.card_filter a fun _ => True
  rwa [Finset.filter_true, Finset.filter_true, Finset.card_univ] at hall

theorem Uniform.exists_fiberCard_eq_two_pow [Nonempty α] (h : Uniform f) {n e : ℕ}
    (hcard : Fintype.card α = 2 ^ n) (himage : (Finset.univ.image f).card ≤ 2 ^ e) :
    ∃ m, n ≤ m + e ∧ ∀ a, fiberCard f a = 2 ^ m := by
  have a := Classical.arbitrary α
  have heq := h.card_eq a
  rw [hcard] at heq
  obtain ⟨r, _, hr⟩ := (Nat.dvd_prime_pow Nat.prime_two).mp (Dvd.intro_left _ heq.symm)
  obtain ⟨m, _, hm⟩ := (Nat.dvd_prime_pow Nat.prime_two).mp (Dvd.intro _ heq.symm)
  refine ⟨m, ?_, fun b => (h b a).trans hm⟩
  have hle : r ≤ e := (Nat.pow_le_pow_iff_right (by decide)).mp (hr ▸ himage)
  have hn : n = m + r := by
    rw [hm, hr, ← Nat.pow_add] at heq
    exact Nat.pow_right_injective le_rfl heq
  omega

end SmoltcpS3.Fibers

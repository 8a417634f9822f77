import Mathlib.Data.Fintype.Card
import Mathlib.Data.Nat.Find
import Mathlib.Data.Nat.ModEq
import Mathlib.Logic.Function.Basic

/-! Open addressing with linear probing in a circular table. One key, `free`, marks the empty slots
and may be looked up and stored like any other. -/

namespace SmoltcpS3.LinearProbing

variable {N : ℕ} {K : Type*} [DecidableEq K] (free : K) (home : K → Fin N)

def ahead (h : Fin N) (d : ℕ) : Fin N := ⟨(h.val + d) % N, Nat.mod_lt _ h.pos⟩

def probe (t : Fin N → K) (x : K) : ℕ → Fin N → Option (Fin N)
  | 0, _ => none
  | fuel + 1, h => if t h ≠ free ∧ t h ≠ x then probe t x fuel (ahead h 1) else some h

structure Valid (t : Fin N → K) : Prop where
  once : ∀ i j, t i ≠ free → t i = t j → i = j
  reachable : ∀ j, t j ≠ free →
    ∃ d < N, ahead (home (t j)) d = j ∧ ∀ i < d, t (ahead (home (t j)) i) ≠ free

def occupied (t : Fin N → K) : ℕ := (Finset.univ.filter fun j => t j ≠ free).card

section Circle

variable (h : Fin N)

@[simp] lemma ahead_zero : ahead h 0 = h := Fin.ext (Nat.mod_eq_of_lt h.isLt)

lemma ahead_ahead (d d' : ℕ) : ahead (ahead h d) d' = ahead h (d + d') := by
  apply Fin.ext
  simp only [ahead, Nat.mod_add_mod, Nat.add_assoc]

lemma exists_ahead_eq (j : Fin N) : ∃ d < N, ahead h d = j := by
  refine ⟨(j.val + N - h.val) % N, Nat.mod_lt _ h.pos, ?_⟩
  apply Fin.ext
  have hsum : h.val + (j.val + N - h.val) = j.val + N := by omega
  simp only [ahead, Nat.add_mod_mod, hsum, Nat.add_mod_right, Nat.mod_eq_of_lt j.isLt]

variable {h}

end Circle

section Probe

variable {free} {t : Fin N → K} {x : K} {h : Fin N}

lemma probe_eq_some {d : ℕ} (hbefore : ∀ i < d, t (ahead h i) ≠ free ∧ t (ahead h i) ≠ x)
    (hstop : t (ahead h d) = free ∨ t (ahead h d) = x) {fuel : ℕ} (hfuel : d < fuel) :
    probe free t x fuel h = some (ahead h d) := by
  induction d generalizing h fuel with
  | zero =>
    obtain ⟨fuel, rfl⟩ := Nat.exists_eq_succ_of_ne_zero hfuel.ne'
    rw [ahead_zero] at hstop ⊢
    rw [probe, if_neg]
    rintro ⟨hfree, hx⟩
    exact hstop.elim hfree hx
  | succ d ih =>
    obtain ⟨fuel, rfl⟩ := Nat.exists_eq_succ_of_ne_zero (Nat.zero_lt_of_lt hfuel).ne'
    have hzero := hbefore 0 d.succ_pos
    rw [ahead_zero] at hzero
    have hnext : ∀ i, ahead (ahead h 1) i = ahead h (i + 1) := by
      intro i
      rw [ahead_ahead, Nat.add_comm]
    rw [probe, if_pos hzero, ← hnext d]
    apply ih
    · intro i hi
      rw [hnext]
      exact hbefore (i + 1) (Nat.succ_lt_succ hi)
    · rw [hnext]
      exact hstop
    · exact Nat.lt_of_succ_lt_succ hfuel

lemma exists_probe_eq (hstop : ∃ j, t j = free ∨ t j = x) (h : Fin N) :
    ∃ d < N, (∀ i < d, t (ahead h i) ≠ free ∧ t (ahead h i) ≠ x) ∧
      (t (ahead h d) = free ∨ t (ahead h d) = x) ∧
      ∀ fuel, N ≤ fuel → probe free t x fuel h = some (ahead h d) := by
  classical
  obtain ⟨j, hj⟩ := hstop
  obtain ⟨d, hd, rfl⟩ := exists_ahead_eq h j
  have hex : ∃ d, t (ahead h d) = free ∨ t (ahead h d) = x := ⟨d, hj⟩
  have hlt : Nat.find hex < N := (Nat.find_min' hex hj).trans_lt hd
  have hbefore : ∀ i < Nat.find hex, t (ahead h i) ≠ free ∧ t (ahead h i) ≠ x := by
    intro i hi
    exact not_or.mp (Nat.find_min hex hi)
  refine ⟨Nat.find hex, hlt, hbefore, Nat.find_spec hex, fun fuel hfuel => ?_⟩
  exact probe_eq_some hbefore (Nat.find_spec hex) (hlt.trans_le hfuel)

end Probe

section Store

variable {free home} {t : Fin N → K} {x : K}

lemma exists_free_of_occupied_lt (h : occupied free t < N) : ∃ j, t j = free := by
  by_contra hno
  rw [not_exists] at hno
  have hall : (Finset.univ.filter fun j => t j ≠ free) = Finset.univ :=
    Finset.filter_true_of_mem fun j _ => hno j
  rw [occupied, hall, Finset.card_univ, Fintype.card_fin] at h
  exact h.false

theorem Valid.probe_stored (hv : Valid free home t) (hx : ∃ j, t j = x) :
    ∃ j, t j = x ∧ ∀ fuel, N ≤ fuel → probe free t x fuel (home x) = some j := by
  obtain ⟨j, hj⟩ := hx
  obtain ⟨d, hd, hbefore, hstop, hprobe⟩ := exists_probe_eq ⟨j, Or.inr hj⟩ (home x)
  refine ⟨ahead (home x) d, ?_, hprobe⟩
  by_contra hne
  have hfree : t (ahead (home x) d) = free := hstop.resolve_right hne
  have hxfree : x ≠ free := fun he => hne (hfree.trans he.symm)
  obtain ⟨d', hd', hat, hpath⟩ := hv.reachable j (hj ▸ hxfree)
  rw [hj] at hat hpath
  -- The key sits at distance `d'` with no free slot before it, so the probe has not passed it.
  rcases Nat.lt_or_ge d d' with hlt | hge
  · exact hpath d hlt hfree
  · rcases hge.lt_or_eq with hlt | heq
    · exact (hbefore d' hlt).2 (hat ▸ hj)
    · rw [← heq, hat] at hne
      exact hne hj

omit [DecidableEq K] in
lemma Valid.update_free (hv : Valid free home t) {d : ℕ} (hd : d < N)
    (hbefore : ∀ i < d, t (ahead (home x) i) ≠ free ∧ t (ahead (home x) i) ≠ x)
    (hfree : t (ahead (home x) d) = free) (hnew : ∀ j, t j ≠ x) :
    Valid free home (Function.update t (ahead (home x) d) x) := by
  have hkeep : ∀ j, t j ≠ free → Function.update t (ahead (home x) d) x j = t j := by
    intro j hj
    apply Function.update_of_ne
    rintro rfl
    exact hj hfree
  constructor
  · intro i j hi hij
    by_cases hix : i = ahead (home x) d
    · by_cases hjx : j = ahead (home x) d
      · exact hix.trans hjx.symm
      · rw [hix, Function.update_self, Function.update_of_ne hjx] at hij
        exact absurd hij.symm (hnew j)
    · rw [Function.update_of_ne hix] at hi hij
      by_cases hjx : j = ahead (home x) d
      · rw [hjx, Function.update_self] at hij
        exact absurd hij (hnew i)
      · rw [Function.update_of_ne hjx] at hij
        exact hv.once i j hi hij
  · intro j hj
    by_cases hjx : j = ahead (home x) d
    · rw [hjx, Function.update_self]
      refine ⟨d, hd, rfl, fun i hi => ?_⟩
      rw [hkeep _ (hbefore i hi).1]
      exact (hbefore i hi).1
    · rw [Function.update_of_ne hjx] at hj ⊢
      obtain ⟨d', hd', hat, hpath⟩ := hv.reachable j hj
      refine ⟨d', hd', hat, fun i hi => ?_⟩
      rw [hkeep _ (hpath i hi)]
      exact hpath i hi

lemma occupied_update_le (j : Fin N) :
    occupied free (Function.update t j x) ≤ occupied free t + 1 := by
  have hsub : (Finset.univ.filter fun i => Function.update t j x i ≠ free) ⊆
      insert j (Finset.univ.filter fun i => t i ≠ free) := by
    intro i hi
    rw [Finset.mem_insert, Finset.mem_filter]
    by_cases hij : i = j
    · exact Or.inl hij
    · rw [Finset.mem_filter, Function.update_of_ne hij] at hi
      exact Or.inr hi
  exact (Finset.card_le_card hsub).trans (Finset.card_insert_le _ _)

/-- What storing a key does: the probe ends, the table stays valid, holds the key and every key it
held, and only a new key takes a slot. -/
structure Stored (free : K) (home : K → Fin N) (t : Fin N → K) (x : K) (j : Fin N) : Prop where
  probe_eq : ∀ fuel, N ≤ fuel → probe free t x fuel (home x) = some j
  valid : Valid free home (Function.update t j x)
  kept : ∀ y, y ≠ free → (∃ i, t i = y) → ∃ i, Function.update t j x i = y
  occupied_le : occupied free (Function.update t j x) ≤ occupied free t + if x = free then 0 else 1

theorem Valid.exists_stored (hv : Valid free home t) (hfree : ∃ j, t j = free) (x : K) :
    ∃ j, Stored free home t x j := by
  by_cases hx : ∃ j, t j = x
  · obtain ⟨j, hj, hprobe⟩ := hv.probe_stored hx
    have hsame : Function.update t j x = t := by
      rw [← hj, Function.update_eq_self]
    refine ⟨j, hprobe, ?_, ?_, ?_⟩
    · rw [hsame]
      exact hv
    · rw [hsame]
      exact fun y _ hy => hy
    · rw [hsame]
      exact Nat.le_add_right _ _
  · obtain ⟨j, hj⟩ := hfree
    rw [not_exists] at hx
    obtain ⟨d, hd, hbefore, hstop, hprobe⟩ := exists_probe_eq ⟨j, Or.inl hj⟩ (home x)
    have hempty : t (ahead (home x) d) = free := hstop.resolve_right (hx _)
    have hxfree : x ≠ free := fun he => hx j (hj.trans he.symm)
    refine ⟨ahead (home x) d, hprobe, hv.update_free hd hbefore hempty hx, ?_, ?_⟩
    · rintro y hy ⟨i, rfl⟩
      refine ⟨i, Function.update_of_ne ?_ _ _⟩
      rintro rfl
      exact hy hempty
    · rw [if_neg hxfree]
      exact occupied_update_le _

lemma Stored.holds {j : Fin N} (_ : Stored free home t x j) : ∃ i, Function.update t j x i = x :=
  ⟨j, Function.update_self _ _ _⟩

end Store

end SmoltcpS3.LinearProbing

import Mathlib.Algebra.BigOperators.Group.List.Basic
import Mathlib.Algebra.Order.BigOperators.Group.List
import Mathlib.Algebra.Order.Ring.Nat

namespace SmoltcpS3.ListUpdates

section Entries

variable {α β : Type*} {l : List α} {i : ℕ} {a : α}

lemma modify_of_getElem? (h : l[i]? = some a) (f : α → α) : l.modify i f = l.set i (f a) := by
  obtain ⟨hlt, rfl⟩ := List.getElem?_eq_some_iff.mp h
  apply List.ext_getElem?
  intro j
  rw [List.getElem?_modify, List.getElem?_set]
  by_cases hij : i = j
  · subst hij
    simp [hlt]
  · simp [hij]

lemma getElem?_set_cases (h : l[i]? = some a) {b x : α} {j : ℕ} (hj : (l.set i b)[j]? = some x) :
    (j = i ∧ x = b) ∨ (j ≠ i ∧ l[j]? = some x) := by
  have hlt := (List.getElem?_eq_some_iff.mp h).1
  rw [List.getElem?_set] at hj
  by_cases hij : i = j
  · subst hij
    rw [if_pos rfl, if_pos hlt, Option.some.injEq] at hj
    exact .inl ⟨rfl, hj.symm⟩
  · rw [if_neg hij] at hj
    exact .inr ⟨Ne.symm hij, hj⟩

lemma exists_mem_set {P : α → Prop} (h : l[i]? = some a) {b : α} (hb : P a → P b)
    (hex : ∃ x ∈ l, P x) : ∃ x ∈ l.set i b, P x := by
  obtain ⟨x, hx, hp⟩ := hex
  obtain ⟨j, hj⟩ := List.mem_iff_getElem?.mp hx
  by_cases hij : i = j
  · subst hij
    rw [h, Option.some.injEq] at hj
    subst hj
    exact ⟨b, List.mem_set (List.getElem?_eq_some_iff.mp h).1 b, hb hp⟩
  · refine ⟨x, List.mem_iff_getElem?.mpr ⟨j, ?_⟩, hp⟩
    rw [List.getElem?_set, if_neg hij, hj]

lemma map_set_of_getElem? {f : α → β} (h : l[i]? = some a) {b : α} (hb : f b = f a) :
    (l.set i b).map f = l.map f := by
  rw [List.map_set, hb]
  apply List.ext_getElem?
  intro j
  rw [List.getElem?_set]
  split_ifs with hij hlt
  · rw [← hij, List.getElem?_map, h]
    rfl
  · rw [← hij, List.getElem?_eq_none (not_lt.mp hlt)]
  · rfl

lemma map_modify_of_forall {f : α → β} {g : α → α} (h : ∀ a, f (g a) = f a) (l : List α) (i : ℕ) :
    (l.modify i g).map f = l.map f := by
  cases hi : l[i]? with
  | none => rw [List.modify_eq_self (List.getElem?_eq_none_iff.mp hi)]
  | some a => rw [modify_of_getElem? hi, map_set_of_getElem? hi (h a)]

end Entries

section Sums

lemma sum_set_add {l : List ℕ} {i a : ℕ} (h : l[i]? = some a) (b : ℕ) :
    (l.set i b).sum + a = l.sum + b := by
  induction l generalizing i with
  | nil => cases h
  | cons x l ih =>
    cases i with
    | zero =>
      cases h
      simp only [List.set_cons_zero, List.sum_cons]
      omega
    | succ i =>
      have := ih h
      simp only [List.set_cons_succ, List.sum_cons]
      omega

lemma eq_of_sum_eq {α : Type*} {f g : α → ℕ} {l : List α} (h : ∀ a ∈ l, f a ≤ g a)
    (hs : (l.map f).sum = (l.map g).sum) : ∀ a ∈ l, f a = g a := by
  induction l with
  | nil => simp
  | cons a l ih =>
    have hle : (l.map f).sum ≤ (l.map g).sum :=
      List.sum_le_sum fun b hb => h b (List.mem_cons_of_mem a hb)
    have ha := h a List.mem_cons_self
    rw [List.map_cons, List.sum_cons, List.map_cons, List.sum_cons] at hs
    intro b hb
    rcases List.mem_cons.mp hb with rfl | hb
    · omega
    · exact ih (fun b hb => h b (List.mem_cons_of_mem a hb)) (by omega) b hb

end Sums

end SmoltcpS3.ListUpdates

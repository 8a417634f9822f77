import Mathlib.Data.List.Infix

namespace SmoltcpS3.Delimiter

variable {α : Type*} [DecidableEq α] (d : List α)

def afterFirst : List α → Option (List α)
  | [] => if d = [] then some [] else none
  | x :: xs => if d <+: x :: xs then some ((x :: xs).drop d.length) else afterFirst xs

variable {d}

lemma afterFirst_of_prefix {xs ys : List α} (h : xs = d ++ ys) : afterFirst d xs = some ys := by
  subst h
  cases hd : d ++ ys with
  | nil =>
    rw [List.append_eq_nil_iff] at hd
    simp [afterFirst, hd]
  | cons x xs =>
    rw [afterFirst, if_pos (hd ▸ List.prefix_append d ys), ← hd]
    simp

lemma length_le_of_afterFirst {xs ys : List α} (h : afterFirst d xs = some ys) :
    d.length ≤ xs.length := by
  induction xs with
  | nil => by_cases hd : d = [] <;> simp_all [afterFirst]
  | cons x xs ih =>
    rw [afterFirst] at h
    split_ifs at h with hp
    · exact hp.length_le
    · exact (ih h).trans (by simp)

lemma afterFirst_append {xs ys : List α} (h : afterFirst d xs = some ys) (zs : List α) :
    afterFirst d (xs ++ zs) = some (ys ++ zs) := by
  induction xs with
  | nil =>
    by_cases hd : d = []
    · simp only [afterFirst, hd, if_true, Option.some.injEq] at h
      subst h
      exact afterFirst_of_prefix (by simp [hd])
    · simp [afterFirst, hd] at h
  | cons x xs ih =>
    rw [afterFirst] at h
    split_ifs at h with hp
    · obtain ⟨t, ht⟩ := hp
      rw [← ht, List.drop_left, Option.some.injEq] at h
      exact afterFirst_of_prefix (by rw [← ht, h, List.append_assoc])
    · rw [List.cons_append, afterFirst, if_neg, ih h]
      intro hq
      -- An occurrence that starts here fits into what is already there.
      apply hp
      apply List.prefix_of_prefix_length_le hq (List.prefix_append (x :: xs) zs)
      exact (length_le_of_afterFirst h).trans (by simp)

theorem afterFirst_eq_none_iff {xs : List α} : afterFirst d xs = none ↔ ¬ d <:+: xs := by
  induction xs with
  | nil => simp [afterFirst, List.infix_nil]
  | cons x xs ih =>
    rw [afterFirst, List.infix_cons_iff, not_or, ← ih]
    split_ifs with hp
    · simp [hp]
    · simp [hp]

theorem afterFirst_of_first {pre post : List α} (hd : d ≠ []) (h : ¬ d <:+: (pre ++ d).dropLast) :
    afterFirst d (pre ++ d ++ post) = some post := by
  induction pre with
  | nil => exact afterFirst_of_prefix rfl
  | cons x pre ih =>
    have hne : pre ++ d ≠ [] := by simp [hd]
    rw [List.cons_append, List.dropLast_cons_of_ne_nil hne, List.infix_cons_iff, not_or] at h
    rw [List.cons_append, List.cons_append, afterFirst, if_neg]
    · exact ih h.2
    · intro hp
      apply h.1
      rw [← List.dropLast_cons_of_ne_nil hne]
      have hpre : (x :: (pre ++ d)).dropLast <+: x :: (pre ++ d ++ post) :=
        (List.dropLast_prefix _).trans (List.prefix_append (x :: (pre ++ d)) post)
      exact List.prefix_of_prefix_length_le hp hpre (by simp)

end SmoltcpS3.Delimiter

import Mathlib.Data.List.TakeWhile
import Mathlib.Data.UInt
import Mathlib.Tactic.IntervalCases

namespace SmoltcpS3.Decimal

def isDigit (c : UInt8) : Bool := 48 ≤ c && c ≤ 57

def digit (c : UInt8) : ℕ := (c - 48).toNat

def valueFrom (acc : ℕ) (ds : List UInt8) : ℕ := ds.foldl (fun v c => v * 10 + digit c) acc

def value (ds : List UInt8) : ℕ := valueFrom 0 ds

def Digits (ds : List UInt8) : Prop := ∀ c ∈ ds, isDigit c

instance (ds : List UInt8) : Decidable (Digits ds) := inferInstanceAs (Decidable (∀ c ∈ ds, _))

def print (n : ℕ) : List UInt8 := (Nat.toDigits 10 n).map (fun c => UInt8.ofNat c.toNat)

def leading (s : List UInt8) : List UInt8 := s.takeWhile isDigit

def trailing (s : List UInt8) : List UInt8 := s.dropWhile isDigit

section Values

@[simp] lemma valueFrom_nil (acc : ℕ) : valueFrom acc [] = acc := rfl

@[simp] lemma valueFrom_cons (acc : ℕ) (c : UInt8) (ds : List UInt8) :
    valueFrom acc (c :: ds) = valueFrom (acc * 10 + digit c) ds := rfl

@[simp] lemma value_nil : value [] = 0 := rfl

lemma valueFrom_append (acc : ℕ) (ds es : List UInt8) :
    valueFrom acc (ds ++ es) = valueFrom (valueFrom acc ds) es := List.foldl_append

lemma value_append_singleton (ds : List UInt8) (c : UInt8) :
    value (ds ++ [c]) = value ds * 10 + digit c := valueFrom_append 0 ds [c]

lemma le_valueFrom (acc : ℕ) (ds : List UInt8) : acc ≤ valueFrom acc ds := by
  induction ds generalizing acc with
  | nil => exact le_rfl
  | cons c ds ih => exact le_trans (by omega) (ih (acc * 10 + digit c))

lemma value_le_append (ds es : List UInt8) : value ds ≤ value (ds ++ es) := by
  rw [value, value, valueFrom_append]
  exact le_valueFrom _ _

lemma digit_lt {c : UInt8} (h : isDigit c) : digit c < 10 := by
  simp only [isDigit, Bool.and_eq_true, decide_eq_true_eq, UInt8.le_iff_toNat_le] at h
  rw [digit, UInt8.toNat_sub_of_le _ _ h.1]
  simp at *
  omega

lemma Digits.nil : Digits [] := by simp [Digits]

@[simp] lemma digits_cons {c : UInt8} {ds : List UInt8} :
    Digits (c :: ds) ↔ isDigit c ∧ Digits ds := by simp [Digits]

@[simp] lemma digits_append {ds es : List UInt8} :
    Digits (ds ++ es) ↔ Digits ds ∧ Digits es := List.forall_mem_append

end Values

section Printing

lemma isDigit_print {d : ℕ} (h : d < 10) : isDigit (UInt8.ofNat (Nat.digitChar d).toNat) := by
  interval_cases d <;> decide

lemma digit_print {d : ℕ} (h : d < 10) : digit (UInt8.ofNat (Nat.digitChar d).toNat) = d := by
  interval_cases d <;> decide

lemma print_of_lt {n : ℕ} (h : n < 10) : print n = [UInt8.ofNat (Nat.digitChar n).toNat] := by
  rw [print, Nat.toDigits_of_lt_base h]
  rfl

lemma print_of_le {n : ℕ} (h : 10 ≤ n) :
    print n = print (n / 10) ++ [UInt8.ofNat (Nat.digitChar (n % 10)).toNat] := by
  rw [print, Nat.toDigits_of_base_le (by decide) h, List.map_append]
  rfl

lemma print_ne_nil (n : ℕ) : print n ≠ [] := by simp [print, Nat.toDigits_ne_nil]

theorem digits_print (n : ℕ) : Digits (print n) := by
  induction n using Nat.strongRecOn with
  | ind n ih =>
    by_cases h : n < 10
    · rw [print_of_lt h]
      exact digits_cons.mpr ⟨isDigit_print h, .nil⟩
    · rw [print_of_le (not_lt.mp h), digits_append]
      exact ⟨ih _ (by omega), digits_cons.mpr ⟨isDigit_print (by omega), .nil⟩⟩

theorem value_print (n : ℕ) : value (print n) = n := by
  induction n using Nat.strongRecOn with
  | ind n ih =>
    by_cases h : n < 10
    · rw [print_of_lt h]
      exact (Nat.zero_add _).trans (digit_print h)
    · rw [print_of_le (not_lt.mp h), value_append_singleton, ih _ (by omega),
        digit_print (by omega)]
      omega

lemma length_print_le {n k : ℕ} (hk : 0 < k) (h : n < 10 ^ k) : (print n).length ≤ k := by
  rw [print, List.length_map]
  exact (Nat.length_toDigits_le_iff (by decide) hk).mpr h

end Printing

section Leading

lemma leading_append_trailing (s : List UInt8) : leading s ++ trailing s = s :=
  List.takeWhile_append_dropWhile

lemma digits_leading (s : List UInt8) : Digits (leading s) := fun _ => List.mem_takeWhile_imp

lemma leading_append {ds : List UInt8} (hd : Digits ds) (t : List UInt8) :
    leading (ds ++ t) = ds ++ leading t := List.takeWhile_append_of_pos hd

lemma trailing_append {ds : List UInt8} (hd : Digits ds) (t : List UInt8) :
    trailing (ds ++ t) = trailing t := List.dropWhile_append_of_pos hd

lemma leading_eq_nil {c : UInt8} (h : isDigit c = false) (t : List UInt8) :
    leading (c :: t) = [] := List.takeWhile_cons_of_neg (by simp [h])

lemma trailing_eq_self {c : UInt8} (h : isDigit c = false) (t : List UInt8) :
    trailing (c :: t) = c :: t := List.dropWhile_cons_of_neg (by simp [h])

end Leading

end SmoltcpS3.Decimal

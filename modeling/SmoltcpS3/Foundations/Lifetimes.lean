import Mathlib.Data.List.Perm.Lattice
import Mathlib.Data.List.Nodup

/-! Logs of what happens to handles that are taken, read and freed, and the rules by which a set
of held handles accounts for a log. -/

namespace SmoltcpS3.Lifetimes

inductive Action (η : Type*)
  | taken (h : η)
  | read (h : η)
  | freed (h : η)
  deriving DecidableEq, Repr

variable {η : Type*}

def Action.handle : Action η → η
  | .taken h | .read h | .freed h => h

def takenIn (log : List (Action η)) : List η :=
  log.filterMap fun
    | .taken h => some h
    | _ => none

def freedIn (log : List (Action η)) : List η :=
  log.filterMap fun
    | .freed h => some h
    | _ => none

def Safe (log : List (Action η)) : Prop := log.Pairwise fun a b => a ≠ .freed b.handle

structure Ledger (log : List (Action η)) (held : List η) : Prop where
  nodup : (takenIn log).Nodup
  perm : (freedIn log ++ held).Perm (takenIn log)
  safe : Safe log

@[simp] lemma takenIn_append (l m : List (Action η)) : takenIn (l ++ m) = takenIn l ++ takenIn m := by
  simp [takenIn]

@[simp] lemma freedIn_append (l m : List (Action η)) : freedIn (l ++ m) = freedIn l ++ freedIn m := by
  simp [freedIn]

@[simp] lemma takenIn_nil : takenIn ([] : List (Action η)) = [] := rfl

@[simp] lemma freedIn_nil : freedIn ([] : List (Action η)) = [] := rfl

@[simp] lemma takenIn_cons_taken (h : η) (l : List (Action η)) :
    takenIn (.taken h :: l) = h :: takenIn l := rfl

@[simp] lemma takenIn_cons_read (h : η) (l : List (Action η)) : takenIn (.read h :: l) = takenIn l := rfl

@[simp] lemma takenIn_cons_freed (h : η) (l : List (Action η)) :
    takenIn (.freed h :: l) = takenIn l := rfl

@[simp] lemma freedIn_cons_taken (h : η) (l : List (Action η)) :
    freedIn (.taken h :: l) = freedIn l := rfl

@[simp] lemma freedIn_cons_read (h : η) (l : List (Action η)) : freedIn (.read h :: l) = freedIn l := rfl

@[simp] lemma freedIn_cons_freed (h : η) (l : List (Action η)) :
    freedIn (.freed h :: l) = h :: freedIn l := rfl

@[simp] lemma takenIn_map_taken (hs : List η) : takenIn (hs.map .taken) = hs := by
  simp [takenIn, List.filterMap_map]

lemma mem_freedIn {log : List (Action η)} {h : η} : h ∈ freedIn log ↔ .freed h ∈ log := by
  simp only [freedIn, List.mem_filterMap]
  constructor
  · rintro ⟨a, ha, he⟩
    cases a with
    | freed h' =>
      cases he
      exact ha
    | taken | read => cases he
  · exact fun h => ⟨_, h, rfl⟩

lemma safe_append_singleton {log : List (Action η)} {a : Action η} :
    Safe (log ++ [a]) ↔ Safe log ∧ a.handle ∉ freedIn log := by
  rw [Safe, List.pairwise_append, mem_freedIn]
  constructor
  · rintro ⟨h, _, hx⟩
    exact ⟨h, fun hm => hx _ hm a (by simp) rfl⟩
  · rintro ⟨h, hx⟩
    refine ⟨h, List.pairwise_singleton _ _, fun b hb c hc => ?_⟩
    rw [List.mem_singleton.mp hc]
    rintro rfl
    exact hx hb

lemma Safe.not_after {log log' : List (Action η)} {h : η} (hs : Safe (log ++ .freed h :: log'))
    {a : Action η} (ha : a ∈ log') : a.handle ≠ h := by
  rintro rfl
  rw [Safe, List.pairwise_append] at hs
  exact (List.rel_of_pairwise_cons hs.2.1 ha) rfl

lemma Ledger.nil : Ledger ([] : List (Action η)) [] :=
  ⟨List.nodup_nil, List.Perm.refl _, List.Pairwise.nil⟩

lemma Ledger.of_perm {log : List (Action η)} {held held' : List η} (l : Ledger log held)
    (h : held.Perm held') : Ledger log held' :=
  ⟨l.nodup, (h.symm.append_left _).trans l.perm, l.safe⟩

lemma Ledger.not_freed {log : List (Action η)} {held : List η} (l : Ledger log held) {h : η}
    (hh : h ∈ held) : h ∉ freedIn log := by
  have hn : (freedIn log ++ held).Nodup := l.perm.nodup_iff.mpr l.nodup
  exact fun hf => (List.nodup_append.mp hn).2.2 h hf h hh rfl

lemma Ledger.take {log : List (Action η)} {held : List η} (l : Ledger log held) {h : η}
    (hh : h ∉ takenIn log) : Ledger (log ++ [.taken h]) (held ++ [h]) := by
  refine ⟨?_, ?_, safe_append_singleton.mpr ⟨l.safe, ?_⟩⟩
  · rw [takenIn_append, takenIn_cons_taken, takenIn_nil, List.nodup_append]
    refine ⟨l.nodup, List.nodup_singleton _, fun a ha b hb => ?_⟩
    rw [List.mem_singleton.mp hb]
    rintro rfl
    exact hh ha
  · rw [freedIn_append, freedIn_cons_taken, freedIn_nil, List.append_nil, takenIn_append,
      takenIn_cons_taken, takenIn_nil, ← List.append_assoc]
    exact l.perm.append_right _
  · exact fun hf => hh (l.perm.subset (List.mem_append_left _ hf))

lemma Ledger.takeAll {log : List (Action η)} {held : List η} (l : Ledger log held) {hs : List η}
    (h : (takenIn log ++ hs).Nodup) : Ledger (log ++ hs.map .taken) (held ++ hs) := by
  induction hs generalizing log held with
  | nil => simpa using l
  | cons x hs ih =>
    have hx : x ∉ takenIn log := fun hm => (List.nodup_append.mp h).2.2 x hm x (by simp) rfl
    have hnext := ih (l.take hx) (by simpa using h)
    simpa using hnext

lemma Ledger.read {log : List (Action η)} {held : List η} (l : Ledger log held) {h : η}
    (hh : h ∈ held) : Ledger (log ++ [.read h]) held := by
  refine ⟨by simpa using l.nodup, by simpa using l.perm, ?_⟩
  exact safe_append_singleton.mpr ⟨l.safe, l.not_freed hh⟩

lemma Ledger.free {log : List (Action η)} {held held' : List η} {h : η}
    (l : Ledger log (held ++ h :: held')) : Ledger (log ++ [.freed h]) (held ++ held') := by
  refine ⟨by simpa using l.nodup, ?_, ?_⟩
  · have hp : (freedIn log ++ [h] ++ (held ++ held')).Perm (freedIn log ++ (held ++ h :: held')) := by
      rw [List.append_assoc, List.singleton_append]
      exact List.perm_middle.symm.append_left _
    simpa using! hp.trans l.perm
  · exact safe_append_singleton.mpr ⟨l.safe, l.not_freed (by simp [Action.handle])⟩

theorem Ledger.freed_once [DecidableEq η] {log : List (Action η)} {held : List η}
    (l : Ledger log held) {h : η} (ht : h ∈ takenIn log) (hh : h ∉ held) :
    (freedIn log).count h = 1 := by
  have hc := l.perm.count_eq h
  rw [List.count_append, List.count_eq_zero_of_not_mem hh, List.count_eq_one_of_mem l.nodup ht] at hc
  exact hc

end SmoltcpS3.Lifetimes

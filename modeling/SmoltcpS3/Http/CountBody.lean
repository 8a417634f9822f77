import SmoltcpS3.Config
import SmoltcpS3.Foundations.Delimiter
import Mathlib.Tactic

namespace SmoltcpS3.Http

open Delimiter

structure BodyCount where
  bytes : ℕ
  headersDone : Bool
  hdrState : ℕ
  status : ℕ
  statusPos : ℕ
  deriving DecidableEq, Repr

def BodyCount.zero : BodyCount := ⟨0, false, 0, 0, 0⟩

def isAsciiDigit (b : UInt8) : Bool := 48 ≤ b && b ≤ 57

def BodyCount.readStatus (c : BodyCount) (b : UInt8) : BodyCount :=
  if c.statusPos < 12 then
    { c with
      status := if 9 ≤ c.statusPos ∧ isAsciiDigit b then c.status * 10 + (b - 48).toNat else c.status
      statusPos := c.statusPos + 1 }
  else c

def hdrNext : ℕ → UInt8 → ℕ
  | 0, 13 => 1
  | 1, 10 => 2
  | 2, 13 => 3
  | 3, 10 => 4
  | _, 13 => 1
  | _, _ => 0

def countLoop (c : BodyCount) (k : Counters) : List UInt8 → BodyCount × Counters
  | [] => (c, k)
  | b :: rest =>
    let c := c.readStatus b
    let h := hdrNext c.hdrState b
    if h = 4 then
      ({ c with hdrState := h, headersDone := true, bytes := c.bytes + rest.length },
        k.noteStatus c.status)
    else countLoop { c with hdrState := h } k rest

def countBody (c : BodyCount) (k : Counters) (data : List UInt8) : BodyCount × Counters :=
  if c.headersDone then ({ c with bytes := c.bytes + data.length }, k) else countLoop c k data

def crlf2 : List UInt8 := [13, 10, 13, 10]

def bodyOf (stream : List UInt8) : List UInt8 := (afterFirst crlf2 stream).getD []

/-- `c` is the state after `stream` was fed to `count_body`. An unfinished header is remembered
as the part of `crlf2` that it ends with. -/
def Counted (c : BodyCount) (stream : List UInt8) : Prop :=
  (c.headersDone = false ∧ c.bytes = 0 ∧ c.hdrState < 4 ∧
      ∀ t, afterFirst crlf2 (stream ++ t) = afterFirst crlf2 (crlf2.take c.hdrState ++ t)) ∨
    (c.headersDone = true ∧ ∃ body, afterFirst crlf2 stream = some body ∧ c.bytes = body.length)

@[simp] lemma readStatus_bytes (c : BodyCount) (b : UInt8) : (c.readStatus b).bytes = c.bytes := by
  rw [BodyCount.readStatus]
  split <;> rfl

@[simp] lemma readStatus_headersDone (c : BodyCount) (b : UInt8) :
    (c.readStatus b).headersDone = c.headersDone := by
  rw [BodyCount.readStatus]
  split <;> rfl

@[simp] lemma readStatus_hdrState (c : BodyCount) (b : UInt8) :
    (c.readStatus b).hdrState = c.hdrState := by
  rw [BodyCount.readStatus]
  split <;> rfl

lemma hdrNext_correct {st : ℕ} (hst : st < 4) (b : UInt8) :
    hdrNext st b ≤ 4 ∧ ∀ t, afterFirst crlf2 (crlf2.take st ++ b :: t) =
      afterFirst crlf2 (crlf2.take (hdrNext st b) ++ t) := by
  by_cases hr : b = 13
  · subst hr
    interval_cases st <;> simp [hdrNext, crlf2, afterFirst]
  · by_cases hn : b = 10
    · subst hn
      interval_cases st <;> simp [hdrNext, crlf2, afterFirst]
    · have h0 : hdrNext st b = 0 := by
        simp only [hdrNext]
        split <;> simp_all
      rw [h0]
      refine ⟨by omega, fun t => ?_⟩
      interval_cases st <;> simp [crlf2, afterFirst, Ne.symm hr, Ne.symm hn]

lemma counted_zero : Counted .zero [] := Or.inl ⟨rfl, rfl, by decide, fun _ => rfl⟩

lemma countLoop_counted (c : BodyCount) (k : Counters) (data stream : List UInt8)
    (hd : c.headersDone = false) (h : Counted c stream) :
    Counted (countLoop c k data).1 (stream ++ data) := by
  induction data generalizing c stream with
  | nil => simpa [countLoop] using h
  | cons b rest ih =>
    obtain ⟨_, hb, hst, hf⟩ := h.resolve_right (by simp [hd])
    obtain ⟨hle, hnext⟩ := hdrNext_correct hst b
    simp only [countLoop, readStatus_hdrState]
    split_ifs with h4
    · refine Or.inr ⟨rfl, rest, ?_, by simp [hb]⟩
      rw [hf, hnext, h4]
      exact afterFirst_of_prefix rfl
    · have := ih { c.readStatus b with hdrState := hdrNext c.hdrState b } (stream ++ [b])
        (by simpa using hd)
        (Or.inl ⟨by simpa using hd, by simpa using hb, by dsimp only; omega, fun t => by
          rw [List.append_assoc, List.singleton_append, hf, hnext]⟩)
      simpa using this

theorem countBody_counted {c : BodyCount} {stream : List UInt8} (h : Counted c stream)
    (k : Counters) (data : List UInt8) : Counted (countBody c k data).1 (stream ++ data) := by
  rw [countBody]
  split_ifs with hd
  · obtain ⟨body, hb, hn⟩ := (h.resolve_left (by simp [hd])).2
    exact Or.inr ⟨hd, body ++ data, afterFirst_append hb data, by simp [hn]⟩
  · exact countLoop_counted c k data stream (by simpa using hd) h

lemma afterFirst_partial {st : ℕ} (h : st < 4) : afterFirst crlf2 (crlf2.take st ++ []) = none := by
  interval_cases st <;> decide

theorem Counted.bytes_eq {c : BodyCount} {stream : List UInt8} (h : Counted c stream) :
    c.bytes = (bodyOf stream).length := by
  rcases h with ⟨_, hb, hst, hf⟩ | ⟨_, body, hb, hn⟩
  · rw [bodyOf, ← List.append_nil stream, hf [], afterFirst_partial hst, hb]
    rfl
  · rw [bodyOf, hb, hn]
    rfl

end SmoltcpS3.Http

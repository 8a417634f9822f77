import SmoltcpS3.Foundations.EventRuns
import SmoltcpS3.Foundations.SerialNumbers
import SmoltcpS3.Smoltcp.Dial
import Mathlib.Data.Int.Order.Basic

namespace SmoltcpS3.Tcp

open EventRuns SerialNumbers Smoltcp

def rtteMinMargin : ℕ := 5

def rtteK : ℕ := 4

def rtteMinRto : ℕ := 20

def u32 (n : ℕ) : ℕ := n % 2 ^ 32

structure RttEstimator where
  haveMeasurement : Bool
  srtt : ℕ
  rttvar : ℕ
  rto : ℕ
  timestamp : Option (ℤ × BitVec 32)
  maxSeqSent : Option (BitVec 32)
  rtoCount : ℕ
  deriving DecidableEq, Repr

namespace RttEstimator

def default : RttEstimator := ⟨false, 0, 0, rtteInitialRto, none, none, 0⟩

def absDiff (srtt newRtt : ℕ) : ℕ := (((srtt : ℤ) - newRtt).bmod (2 ^ 32)).natAbs

def divCeil (n d : ℕ) : ℕ := if n % d = 0 then n / d else n / d + 1

def smoothed (e : RttEstimator) (newRtt : ℕ) : ℕ × ℕ :=
  if e.haveMeasurement then
    (divCeil (u32 (u32 (e.srtt * 7) + newRtt)) 8,
      divCeil (u32 (u32 (e.rttvar * 3) + absDiff e.srtt newRtt)) 4)
  else (newRtt, newRtt / 2)

def sample (newRtt : ℕ) (e : RttEstimator) : RttEstimator :=
  let (srtt, rttvar) := e.smoothed newRtt
  let margin := max rtteMinMargin (u32 (rttvar * rtteK))
  { e with
    haveMeasurement := true
    srtt := srtt
    rttvar := rttvar
    rto := min (max (u32 (srtt + margin)) rtteMinRto) rtteMaxRto
    rtoCount := 0 }

def onSend (now : ℤ) (seq : BitVec 32) (e : RttEstimator) : RttEstimator :=
  if e.maxSeqSent.all (fun sent => 0 < diff seq sent) then
    { e with maxSeqSent := some seq, timestamp := e.timestamp.or (some (now, seq)) }
  else e

def onAck (now : ℤ) (seq : BitVec 32) (e : RttEstimator) : RttEstimator :=
  match e.timestamp with
  | some (sentAt, sentSeq) =>
    if 0 ≤ diff seq sentSeq then { e.sample (u32 (now - sentAt).natAbs) with timestamp := none } else e
  | none => e

def onRetransmit (e : RttEstimator) : RttEstimator :=
  let e := { e with timestamp := none, rto := min (u32 (e.rto * 2)) rtteMaxRto, rtoCount := e.rtoCount + 1 }
  if 3 ≤ e.rtoCount then { e with rtoCount := 0, haveMeasurement := false } else e

inductive Event
  | send (now : ℤ) (seq : BitVec 32)
  | ack (now : ℤ) (seq : BitVec 32)
  | retransmit
  deriving DecidableEq, Repr

def step (e : RttEstimator) : Event → RttEstimator
  | .send now seq => e.onSend now seq
  | .ack now seq => e.onAck now seq
  | .retransmit => e.onRetransmit

def exactSmoothed (e : RttEstimator) (newRtt : ℕ) : ℕ × ℕ :=
  if e.haveMeasurement then
    (divCeil (e.srtt * 7 + newRtt) 8, divCeil (e.rttvar * 3 + ((e.srtt : ℤ) - newRtt).natAbs) 4)
  else (newRtt, newRtt / 2)

def exactSample (newRtt : ℕ) (e : RttEstimator) : RttEstimator :=
  let (srtt, rttvar) := e.exactSmoothed newRtt
  { e with
    haveMeasurement := true
    srtt := srtt
    rttvar := rttvar
    rto := min (max (srtt + max rtteMinMargin (rttvar * rtteK)) rtteMinRto) rtteMaxRto
    rtoCount := 0 }

def exactStep (e : RttEstimator) : Event → RttEstimator
  | .ack now seq =>
    match e.timestamp with
    | some (sentAt, sentSeq) =>
      if 0 ≤ diff seq sentSeq then { e.exactSample (now - sentAt).natAbs with timestamp := none } else e
    | none => e
  | ev => e.step ev

def maxRtt : ℕ := 2 ^ 29

def Measurable (e : RttEstimator) : Event → Prop
  | .ack now _ => ∀ t ∈ e.timestamp, (now - t.1).natAbs < maxRtt
  | _ => True

def RtoBounded (e : RttEstimator) : Prop := rtteMinRto ≤ e.rto ∧ e.rto ≤ rtteMaxRto

def Small (e : RttEstimator) : Prop := e.srtt < maxRtt ∧ e.rttvar < maxRtt

lemma u32_of_lt {n : ℕ} (h : n < 2 ^ 32) : u32 n = n := Nat.mod_eq_of_lt h

lemma divCeil_le {n d b : ℕ} (h : n ≤ b * d) : divCeil n d ≤ b := by
  rw [divCeil]
  split_ifs with hz
  · exact Nat.div_le_of_le_mul (by rwa [Nat.mul_comm])
  · have hdiv : n / d < b := by
      apply Nat.div_lt_of_lt_mul
      rw [Nat.mul_comm]
      apply lt_of_le_of_ne h
      rintro rfl
      exact hz (Nat.mul_mod_left b d)
    omega

lemma absDiff_of_lt {a b : ℕ} (ha : a < maxRtt) (hb : b < maxRtt) : absDiff a b = ((a : ℤ) - b).natAbs := by
  rw [maxRtt] at ha hb
  rw [absDiff, Int.bmod_eq_of_le]
  · omega
  · omega

lemma smoothed_eq {e : RttEstimator} (hs : e.Small) {newRtt : ℕ} (hr : newRtt < maxRtt) :
    e.smoothed newRtt = e.exactSmoothed newRtt ∧ (e.exactSmoothed newRtt).1 < maxRtt ∧
      (e.exactSmoothed newRtt).2 < maxRtt := by
  obtain ⟨h₁, h₂⟩ := hs
  have hdiff := absDiff_of_lt h₁ hr
  have hd : ((e.srtt : ℤ) - newRtt).natAbs < maxRtt := by omega
  rw [smoothed, exactSmoothed]
  split_ifs with hm
  · have hle₁ : divCeil (e.srtt * 7 + newRtt) 8 ≤ maxRtt - 1 := divCeil_le (by omega)
    have hle₂ : divCeil (e.rttvar * 3 + ((e.srtt : ℤ) - newRtt).natAbs) 4 ≤ maxRtt - 1 :=
      divCeil_le (by omega)
    rw [maxRtt] at *
    rw [hdiff, u32_of_lt (show e.srtt * 7 < 2 ^ 32 by omega), u32_of_lt (show e.srtt * 7 + newRtt < 2 ^ 32 by omega),
      u32_of_lt (show e.rttvar * 3 < 2 ^ 32 by omega),
      u32_of_lt (show e.rttvar * 3 + ((e.srtt : ℤ) - newRtt).natAbs < 2 ^ 32 by omega)]
    exact ⟨rfl, by omega, by omega⟩
  · exact ⟨rfl, hr, by dsimp only; omega⟩

lemma sample_eq {e : RttEstimator} (hs : e.Small) {newRtt : ℕ} (hr : newRtt < maxRtt) :
    e.sample newRtt = e.exactSample newRtt ∧ (e.exactSample newRtt).Small := by
  obtain ⟨heq, h₁, h₂⟩ := smoothed_eq hs hr
  refine ⟨?_, h₁, h₂⟩
  rw [sample, exactSample, heq]
  dsimp only
  rw [maxRtt] at h₁ h₂
  have hk : (e.exactSmoothed newRtt).2 * rtteK < 2 ^ 32 := by rw [rtteK]; omega
  rw [u32_of_lt hk, u32_of_lt]
  rw [rtteK, rtteMinMargin]
  omega

lemma step_exact {e : RttEstimator} {ev : Event} (hs : e.Small) (hm : e.Measurable ev) :
    e.step ev = e.exactStep ev ∧ (e.exactStep ev).Small := by
  cases ev with
  | send now seq =>
    refine ⟨rfl, ?_⟩
    simp only [exactStep, step, onSend]
    split_ifs
    · exact hs
    · exact hs
  | retransmit =>
    refine ⟨rfl, ?_⟩
    simp only [exactStep, step, onRetransmit]
    split_ifs
    · exact hs
    · exact hs
  | ack now seq =>
    simp only [exactStep, step, onAck]
    cases ht : e.timestamp with
    | none => exact ⟨rfl, hs⟩
    | some t =>
      obtain ⟨sentAt, sentSeq⟩ := t
      have hrtt : (now - sentAt).natAbs < maxRtt := hm _ ht
      obtain ⟨heq, hsmall⟩ := sample_eq hs hrtt
      dsimp only
      split_ifs
      · rw [u32_of_lt (hrtt.trans (by decide)), heq]
        exact ⟨rfl, hsmall⟩
      · exact ⟨rfl, hs⟩

lemma step_rtoBounded {e : RttEstimator} (h : e.RtoBounded) (ev : Event) : (e.step ev).RtoBounded := by
  have hmax : rtteMaxRto = 60000 := rfl
  have hmin : rtteMinRto = 20 := rfl
  obtain ⟨h₁, h₂⟩ := h
  cases ev with
  | send now seq =>
    simp only [step, onSend]
    split_ifs
    · exact ⟨h₁, h₂⟩
    · exact ⟨h₁, h₂⟩
  | retransmit =>
    have hu : u32 (e.rto * 2) = e.rto * 2 := u32_of_lt (by omega)
    simp only [step, onRetransmit, hu]
    split_ifs
    · constructor <;> dsimp only <;> omega
    · constructor <;> dsimp only <;> omega
  | ack now seq =>
    simp only [step, onAck]
    split
    · split_ifs
      · constructor <;> simp only [sample] <;> omega
      · exact ⟨h₁, h₂⟩
    · exact ⟨h₁, h₂⟩

theorem rto_run (es : List Event) :
    (run step default es).RtoBounded ∧
      (Along step Measurable default es → run step default es = run exactStep default es) := by
  constructor
  · apply run_preserves (I := RtoBounded) (fun _ ev h => step_rtoBounded h ev)
    exact ⟨by decide, by decide⟩
  · apply run_congr (I := Small)
    · intro e ev hs hm
      obtain ⟨heq, hsmall⟩ := step_exact hs hm
      exact ⟨heq, heq ▸ hsmall⟩
    · exact ⟨by decide, by decide⟩

end RttEstimator

end SmoltcpS3.Tcp

import SmoltcpS3.Foundations.EventRuns
import Mathlib.Data.Int.Order.Basic

namespace SmoltcpS3.Smoltcp

def rtteInitialRto : ℕ := 50

def rtteMaxRto : ℕ := 60000

inductive Timer
  | idle
  | retransmit (expiresAt : ℤ)
  deriving DecidableEq, Repr

namespace Timer

def shouldRetransmit (now : ℤ) : Timer → Bool
  | .idle => false
  | .retransmit expiresAt => expiresAt ≤ now

def isRetransmit : Timer → Bool
  | .idle => false
  | .retransmit _ => true

def setForRetransmit (now : ℤ) (delay : ℕ) (_ : Timer) : Timer := .retransmit (now + delay)

end Timer

/-- What `dispatch` reads and writes of a socket in `SynSent`. `dataInFlight` is whether
`remote_last_seq` is past the SYN, and `syns` counts the SYNs that were emitted. -/
structure Dial where
  dataInFlight : Bool
  timer : Timer
  rto : ℕ
  syns : ℕ
  deriving DecidableEq, Repr

namespace Dial

def connected : Dial := ⟨false, .idle, rtteInitialRto, 0⟩

def seqToTransmit (d : Dial) : Bool := !d.dataInFlight

def retransmit (d : Dial) : Dial :=
  { d with dataInFlight := false, timer := .idle, rto := min (d.rto * 2) rtteMaxRto }

def emitted (now : ℤ) (d : Dial) : Dial :=
  { d with
    dataInFlight := true
    timer := if d.timer.isRetransmit then d.timer else d.timer.setForRetransmit now d.rto
    syns := d.syns + 1 }

def expire (now : ℤ) (d : Dial) : Dial :=
  if d.seqToTransmit = false ∧ d.timer.shouldRetransmit now = true then d.retransmit else d

/-- `ok` is whether `emit` takes the segment. Without that the timer has still been served. -/
def dispatch (now : ℤ) (ok : Bool) (d : Dial) : Dial :=
  let d := d.expire now
  if d.seqToTransmit = true ∧ ok = true then d.emitted now else d

def sends (now : ℤ) (d : Dial) : Bool := d.seqToTransmit || d.timer.shouldRetransmit now

lemma expire_syns (now : ℤ) (d : Dial) : (d.expire now).syns = d.syns := by
  rw [expire]
  split <;> rfl

lemma seqToTransmit_expire (now : ℤ) (d : Dial) : (d.expire now).seqToTransmit = d.sends now := by
  rw [expire, sends]
  cases hs : d.seqToTransmit with
  | true => simp [hs]
  | false =>
    cases ht : d.timer.shouldRetransmit now with
    | true => rfl
    | false => simp [hs]

theorem dispatch_syns (now : ℤ) (ok : Bool) (d : Dial) :
    (d.dispatch now ok).syns = d.syns + (d.sends now && ok).toNat := by
  simp only [dispatch, seqToTransmit_expire]
  cases hs : d.sends now <;> cases ok <;> simp [emitted, expire_syns]

end Dial

end SmoltcpS3.Smoltcp

import SmoltcpS3.Foundations.EventRuns
import SmoltcpS3.Tcp.Dispatch

/-! What happens to a socket from `connect` on: segments arrive, the interface polls it, and the
program sends, receives and aborts. -/

namespace SmoltcpS3.Tcp

open EventRuns Smoltcp

inductive Event
  | segment (now : ℤ) (repr : TcpRepr)
  | dispatch (now : ℤ) (ok : Bool)
  | send (data : List UInt8)
  | recv
  | abort
  deriving DecidableEq

/-- A socket, what the program wrote to it and read from it, and the segments it tried to send. -/
structure Trace where
  socket : Socket
  written : List UInt8
  read : List UInt8
  segments : List TcpRepr
  panicked : Bool

namespace Trace

def connected (s : Socket) (seq : SeqNumber) : Trace := ⟨s.synSent seq, [], [], [], false⟩

def after (t : Trace) : Option (Socket × Option TcpRepr) → Trace
  | none => { t with panicked := true }
  | some (s, repr) => { t with socket := s, segments := t.segments ++ repr.toList }

def call (mtu : Mtu) (t : Trace) : Event → Trace
  | .segment now repr => t.after (t.socket.process now repr)
  | .dispatch now ok => t.after (t.socket.dispatch mtu now ok)
  | .send data =>
    let r := t.socket.sendSlice data
    { t with socket := r.2, written := t.written ++ data.take (r.1.getD 0) }
  | .recv =>
    let r := t.socket.recv
    { t with socket := r.2, read := t.read ++ r.1.getD [] }
  | .abort => { t with socket := t.socket.abort }

def step (mtu : Mtu) (t : Trace) (e : Event) : Trace := if t.panicked then t else t.call mtu e

lemma step_running {t : Trace} (h : t.panicked = false) (mtu : Mtu) (e : Event) : t.step mtu e = t.call mtu e := by
  rw [step, if_neg (by simp [h])]

end Trace

section Small

def smallSocket : Socket := .new (.new 16 fun _ => 0) (.new 16 fun _ => 0) (by decide) (by decide)

def fromRemote (control : Control) (seq : SeqNumber) (payload : List UInt8) : TcpRepr where
  control := control
  seqNumber := seq
  ackNumber := some 6
  windowLen := 1000
  windowScale := none
  maxSegSize := none
  sackPermitted := control == .syn
  sackRange := none
  payload := payload

def ethernet : Mtu := ⟨1500, by decide⟩

end Small

end SmoltcpS3.Tcp

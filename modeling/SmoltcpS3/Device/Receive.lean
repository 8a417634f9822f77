import SmoltcpS3.Foundations.EventRuns
import SmoltcpS3.Foundations.Lifetimes
import SmoltcpS3.Rss.RxFilter

/-! `DpdkDevice::receive` over the batched receive call of the shim, and the tokens it hands out. -/

namespace SmoltcpS3.Device

open Lifetimes Rss

structure Mbuf where
  olFlags : UInt64
  data : List UInt8
  deriving DecidableEq, Repr

structure CksumFlags where
  ipMask : UInt64
  ipBad : UInt64
  l4Mask : UInt64
  l4Bad : UInt64

def CksumFlags.rejects (k : CksumFlags) (m : Mbuf) : Bool :=
  m.olFlags &&& k.ipMask == k.ipBad || m.olFlags &&& k.l4Mask == k.l4Bad

/-- A receive queue of the NIC with everything that ever arrives on it. A handle is the position of
its mbuf in that sequence: memory that is used again after a free is a new handle. -/
structure RxQueue where
  flags : CksumFlags
  frames : ℕ → Mbuf
  ownedPorts : Option OwnedBitmap

inductive RxToken
  | mbuf (handle data len : ℕ)
  | synth (buf : List UInt8)
  deriving DecidableEq, Repr

def rxBurst : ℕ := 32

structure RxPref where
  handles : List ℕ
  data : List ℕ
  lens : List ℕ
  deriving DecidableEq, Repr

def RxPref.put (a : RxPref) (n handle len : ℕ) : RxPref :=
  ⟨a.handles.set n handle, a.data.set n handle, a.lens.set n len⟩

/-- The device and the world around it: what has arrived and is still in the ring, the tokens that
smoltcp holds, the frames handed to it, the bytes its closures were given, and the log of what
happened to each mbuf. -/
structure Receiver where
  arrived : ℕ
  ring : List ℕ
  pendingSynth : Option (List UInt8)
  rxPref : RxPref
  rxPrefPos : ℕ
  rxPrefLen : ℕ
  tokens : List RxToken
  handed : List ℕ
  seen : List (ℕ × List UInt8)
  misroutedDrops : ℕ
  log : List (Action ℕ)
  deriving DecidableEq, Repr

def Receiver.initial (pendingSynth : Option (List UInt8)) : Receiver where
  arrived := 0
  ring := []
  pendingSynth := pendingSynth
  rxPref := ⟨List.replicate rxBurst 0, List.replicate rxBurst 0, List.replicate rxBurst 0⟩
  rxPrefPos := 0
  rxPrefLen := 0
  tokens := []
  handed := []
  seen := []
  misroutedDrops := 0
  log := []

namespace Receiver

def note (a : Action ℕ) (w : Receiver) : Receiver := { w with log := w.log ++ [a] }

/-- `rte_eth_rx_burst`, where the NIC decides to return `choice` mbufs if it has and may. -/
def rteEthRxBurst (choice max : ℕ) (w : Receiver) : Receiver × List ℕ :=
  let bufs := w.ring.take (min choice max)
  ({ w with ring := w.ring.drop (min choice max), log := w.log ++ bufs.map .taken }, bufs)

def shimKeep (q : RxQueue) (st : Receiver × ℕ) (m : ℕ) : Receiver × ℕ :=
  let w := st.1.note (.read m)
  if q.flags.rejects (q.frames m) then (w.note (.freed m), st.2)
  else ({ w with rxPref := w.rxPref.put st.2 m (q.frames m).data.length }, st.2 + 1)

def shimMbufRxBurstN (q : RxQueue) (choice max : ℕ) (w : Receiver) : Receiver × ℕ :=
  let max := min max 32
  let (w, bufs) := w.rteEthRxBurst choice max
  bufs.foldl (shimKeep q) (w, 0)

def offer (q : RxQueue) (w : Receiver) : Receiver × Option RxToken :=
  let i := w.rxPrefPos
  let handle := w.rxPref.handles.getD i 0
  let data := w.rxPref.data.getD i 0
  let len := w.rxPref.lens.getD i 0
  let w := ({ w with rxPrefPos := i + 1 } : Receiver).note (.read data)
  if portFilter q.ownedPorts ((q.frames data).data.take len) = some false then
    (({ w with misroutedDrops := w.misroutedDrops + 1 } : Receiver).note (.freed handle), none)
  else
    let token := .mbuf handle data len
    ({ w with tokens := w.tokens ++ [token], handed := w.handed ++ [handle] }, some token)

/-- The loop of `receive`, cut off after `fuel` rounds; `bursts` are the choices of the NIC. -/
def receiveLoop (q : RxQueue) : ℕ → List ℕ → Receiver → Receiver × Option RxToken
  | 0, _, w => (w, none)
  | fuel + 1, bursts, w =>
    if w.rxPrefPos = w.rxPrefLen then
      let (w, got) := w.shimMbufRxBurstN q (bursts.headD 0) rxBurst
      if got = 0 then (w, none)
      else
        match offer q { w with rxPrefPos := 0, rxPrefLen := got } with
        | (w, some token) => (w, some token)
        | (w, none) => receiveLoop q fuel bursts.tail w
    else
      match offer q w with
      | (w, some token) => (w, some token)
      | (w, none) => receiveLoop q fuel bursts w

def receive (q : RxQueue) (bursts : List ℕ) (w : Receiver) : Receiver × Option RxToken :=
  match w.pendingSynth with
  | some buf =>
    ({ w with pendingSynth := none, tokens := w.tokens ++ [.synth buf] }, some (.synth buf))
  | none => receiveLoop q (w.rxPrefLen - w.rxPrefPos + w.ring.length + 1) bursts w

def consume (q : RxQueue) (token : RxToken) (w : Receiver) : Receiver :=
  match token with
  | .mbuf handle data len =>
    ({ w with seen := w.seen ++ [(handle, (q.frames data).data.take len)] } : Receiver).note (.read data)
      |>.note (.freed handle)
  | .synth _ => w

def drop (token : RxToken) (w : Receiver) : Receiver :=
  match token with
  | .mbuf handle _ _ => w.note (.freed handle)
  | .synth _ => w

end Receiver

inductive Event
  | arrive
  | receive (bursts : List ℕ)
  | consume (i : ℕ)
  | drop (i : ℕ)
  deriving DecidableEq, Repr

def Receiver.release (i : ℕ) (f : RxToken → Receiver → Receiver) (w : Receiver) : Receiver :=
  match w.tokens[i]? with
  | some token => f token { w with tokens := w.tokens.eraseIdx i }
  | none => w

def Receiver.next (q : RxQueue) (w : Receiver) : Event → Receiver
  | .arrive => { w with arrived := w.arrived + 1, ring := w.ring ++ [w.arrived] }
  | .receive bursts => (w.receive q bursts).1
  | .consume i => w.release i (Receiver.consume q)
  | .drop i => w.release i Receiver.drop

def receiverAfter (q : RxQueue) (synth : Option (List UInt8)) (es : List Event) : Receiver :=
  EventRuns.run (Receiver.next q) (.initial synth) es

def RxQueue.passes (q : RxQueue) (h : ℕ) : Bool :=
  !q.flags.rejects (q.frames h) && portFilter q.ownedPorts (q.frames h).data != some false

end SmoltcpS3.Device

import SmoltcpS3.Connection.Step
import SmoltcpS3.Foundations.Interleaving
import SmoltcpS3.Http.Request
import SmoltcpS3.Rss.Ports

/-! `worker_thread`: the connections a worker opens, its poll loop and its sums. -/

namespace SmoltcpS3.Worker

open Smoltcp Connection

/-- What `osv_app_main` knows when it spawns the workers. `serverNameOk` is whether rustls takes the
target's host name. -/
structure Startup where
  nWorkers : UInt16
  rss : Rss.RssConfig
  ourIp : Ipv4Address
  serverNameOk : Bool
  workers_ne : nWorkers ≠ 0

section Blocks

variable (cfg : Config)

def saturatingSub (a b : UInt64) : UInt64 := if a < b then 0 else a - b

def stride : UInt64 := saturatingSub cfg.objectSize cfg.blockSize + 1

def blockStart (block : UInt64) : UInt64 :=
  if stride cfg = 0 then 0 else block * cfg.blockSize % stride cfg

def blockEnd (block : UInt64) : UInt64 := blockStart cfg block + cfg.blockSize - 1

def expectedOf (block : UInt64) : UInt64 := blockEnd cfg block - blockStart cfg block + 1

end Blocks

inductive Phase
  | starting
  | connecting (i : ℕ)
  | polling
  | stepping (j : ℕ) (allDone : Bool)
  | finished
  -- A worker that meets an error before its loop returns without storing its sums.
  | returned
  deriving DecidableEq, Repr

structure Sums where
  bytesReceived : UInt64
  bytesExpected : UInt64
  connsTotal : UInt64
  connsClean : UInt64
  deriving DecidableEq, Repr

def sumsOf (ss : List Session) : Sums where
  bytesReceived := UInt64.ofNat (ss.map fun s => s.conn.body.bytes).sum
  bytesExpected := (ss.map fun s => s.conn.expected).sum
  connsTotal := UInt64.ofNat ss.length
  connsClean := UInt64.ofNat (ss.countP fun s => s.conn.closedCleanly)

structure Thread where
  queueId : UInt16
  firstBlock : UInt64
  ports : List UInt16
  phase : Phase
  sessions : List Session
  sums : Sums

/-- What can happen to a worker. Segments and misrouted frames arrive within a poll. -/
inductive Event
  | start
  | connect (accepted tlsNew : Bool) (now : ℤ)
  | segment (j : ℕ) (seg : Segment)
  | misrouted
  | polled
  | step (now : ℤ) (tls : List UnbufferedStatus)
  deriving DecidableEq, Repr

namespace Thread

def new (cfg : Config) (up : Startup) (i : ℕ) : Thread where
  queueId := UInt16.ofNat i
  firstBlock := UInt64.ofNat i * UInt64.ofNat cfg.connsPerWorker
  ports := Rss.myPorts cfg up.rss up.ourIp (UInt16.ofNat i)
  phase := .starting
  sessions := []
  sums := ⟨0, 0, 0, 0⟩

def nConns (cfg : Config) (t : Thread) : ℕ := min cfg.connsPerWorker t.ports.length

def opening (cfg : Config) (t : Thread) (i : ℕ) (now : ℤ) (k : Counters) : Opening :=
  let block := t.firstBlock + UInt64.ofNat i
  { request := Http.buildRangeRequest cfg (blockStart cfg block) (blockEnd cfg block)
    expected := expectedOf cfg block
    queueId := t.queueId
    srcPort := t.ports.getD i 0
    now := now
    rxCapacity := rxBufferSize
    txCapacity := txBufferSize
    counters := k }

def connectFrom (cfg : Config) (i : ℕ) (t : Thread) : Thread :=
  { t with phase := if i < t.nConns cfg then .connecting i else .polling }

def finish (t : Thread) : Thread := { t with phase := .finished, sums := sumsOf t.sessions }

def stepFrom (j : ℕ) (allDone : Bool) (t : Thread) : Thread :=
  if j < t.sessions.length then { t with phase := .stepping j allDone }
  else if allDone then t.finish
  else { t with phase := .polling }

def onConnect (cfg : Config) (t : Thread) (i : ℕ) (accepted tlsNew : Bool) (now : ℤ) (k : Counters) :
    Thread :=
  if accepted = false then t.connectFrom cfg (i + 1)
  else if cfg.plainHttp = false ∧ tlsNew = false then { t with phase := .returned }
  else
    ({ t with sessions := t.sessions ++ [(t.opening cfg i now k).session] } : Thread).connectFrom cfg
      (i + 1)

def stepSession (cfg : Config) (now : ℤ) (tls : List UnbufferedStatus) (k : Counters) (s : Session) :
    Session × Bool :=
  ({ s with counters := k } : Session).connStep cfg now tls

def onStep (cfg : Config) (t : Thread) (j : ℕ) (allDone : Bool) (now : ℤ) (tls : List UnbufferedStatus)
    (k : Counters) : Thread × Counters :=
  match t.sessions[j]? with
  | none => (t, k)
  | some s =>
    let (s, d) := stepSession cfg now tls k s
    (({ t with sessions := t.sessions.set j s } : Thread).stepFrom (j + 1) (allDone && d), s.counters)

def next (cfg : Config) (up : Startup) (t : Thread) (k : Counters) (e : Event) : Thread × Counters :=
  match t.phase, e with
  | .starting, .start =>
    (if up.serverNameOk then t.connectFrom cfg 0 else { t with phase := .returned }, k)
  | .connecting i, .connect accepted tlsNew now => (t.onConnect cfg i accepted tlsNew now k, k)
  | .polling, .segment j seg => ({ t with sessions := t.sessions.modify j (·.onSegment seg) }, k)
  | .polling, .misrouted => (t, { k with misroutedDrops := k.misroutedDrops + 1 })
  | .polling, .polled => (t.stepFrom 0 true, k)
  | .stepping j allDone, .step now tls => t.onStep cfg j allDone now tls k
  | _, _ => (t, k)

def Stopped (t : Thread) : Prop := t.phase = .finished ∨ t.phase = .returned

instance (t : Thread) : Decidable t.Stopped := inferInstanceAs (Decidable (_ ∨ _))

end Thread

abbrev System := Interleaving.System Thread Counters

def spawn (cfg : Config) (up : Startup) : System where
  parts := (List.range up.nWorkers.toNat).map (Thread.new cfg up)
  shared := .zero

def systemAfter (cfg : Config) (up : Startup) (es : List (ℕ × Event)) : System :=
  EventRuns.run (Interleaving.step (Thread.next cfg up)) (spawn cfg up) es

end SmoltcpS3.Worker

import SmoltcpS3.Worker.Thread

namespace SmoltcpS3.Worker

inductive Verdict
  | complete (totalB : UInt64)
  | completeStub (connsTotal : UInt64)
  | incomplete (abandoned unrequested bytes : UInt64) (isOver : Bool)
  deriving DecidableEq, Repr

def Verdict.line : Verdict → String
  | .complete totalB => "COMPLETE: " ++ toString totalB ++ " bytes, byte-exact"
  | .completeStub connsTotal =>
    "COMPLETE: all " ++ toString connsTotal ++
      " blocks fetched (set BENCH_TLS_STUB=0 for a byte-exact check)"
  | .incomplete abandoned unrequested bytes isOver =>
    "INCOMPLETE: " ++ toString abandoned ++ " connections abandoned, " ++ toString unrequested ++
      " blocks unrequested, " ++ toString bytes ++ " bytes " ++ if isOver then "over" else "short"

def totals (ts : List Thread) : Sums where
  bytesReceived := (ts.map fun t => t.sums.bytesReceived).sum
  bytesExpected := (ts.map fun t => t.sums.bytesExpected).sum
  connsTotal := (ts.map fun t => t.sums.connsTotal).sum
  connsClean := (ts.map fun t => t.sums.connsClean).sum

def rangesOk (s : Sums) : Bool := s.connsClean == s.connsTotal && 0 < s.connsTotal

def plannedConns (cfg : Config) (up : Startup) : UInt64 :=
  UInt64.ofNat up.nWorkers.toNat * UInt64.ofNat cfg.connsPerWorker

def bytesOk (cfg : Config) (s : Sums) : Bool :=
  if cfg.stubTlsAfterHandshake then s.bytesExpected ≤ s.bytesReceived
  else s.bytesReceived == s.bytesExpected

def verdict (cfg : Config) (up : Startup) (s : Sums) (misrouted : ℕ) : Verdict :=
  if rangesOk s && s.connsTotal == plannedConns cfg up && bytesOk cfg s && misrouted == 0 then
    if cfg.stubTlsAfterHandshake then .completeStub s.connsTotal else .complete s.bytesReceived
  else
    .incomplete (s.connsTotal - s.connsClean) (saturatingSub (plannedConns cfg up) s.connsTotal)
      (if s.bytesExpected < s.bytesReceived then s.bytesReceived - s.bytesExpected
        else s.bytesExpected - s.bytesReceived)
      (s.bytesExpected < s.bytesReceived)

def osvAppMain (cfg : Config) (up : Startup) (s : System) : Option Verdict :=
  if ∀ t ∈ s.parts, t.Stopped then some (verdict cfg up (totals s.parts) s.shared.misroutedDrops)
  else none

end SmoltcpS3.Worker

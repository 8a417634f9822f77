import Mathlib.Data.UInt

namespace SmoltcpS3

structure Ipv4Address where
  a : UInt8
  b : UInt8
  c : UInt8
  d : UInt8
  deriving DecidableEq, Repr

def Ipv4Address.octets (x : Ipv4Address) : List UInt8 := [x.a, x.b, x.c, x.d]

def rxBufferSize : ℕ := 4 * 1024 * 1024

def txBufferSize : ℕ := 32 * 1024

/-- The values of a run: the start-up guard of `osv_app_main` checks that the three counts are not 0. -/
structure Config where
  plainHttp : Bool
  benchTlsStub : Bool
  connsPerWorker : ℕ
  objectSize : UInt64
  blockSize : UInt64
  targetIp : Ipv4Address
  targetHost : String
  conns_pos : 0 < connsPerWorker
  object_ne : objectSize ≠ 0
  block_ne : blockSize ≠ 0
  -- Not checked, but a worker that holds all its receive buffers at once has them in one 64-bit address space.
  buffers_fit : connsPerWorker * rxBufferSize < 2 ^ 64

def Config.stubTlsAfterHandshake (cfg : Config) : Bool := cfg.benchTlsStub && !cfg.plainHttp

def Config.targetPort (cfg : Config) : UInt16 := if cfg.plainHttp then 80 else 443

def Config.small (plainHttp : Bool) : Config where
  plainHttp := plainHttp
  benchTlsStub := false
  connsPerWorker := 1
  objectSize := 1
  blockSize := 1
  targetIp := ⟨3, 5, 216, 240⟩
  targetHost := "b.s3.r.amazonaws.com"
  conns_pos := by decide
  object_ne := by decide
  block_ne := by decide
  buffers_fit := by decide

structure Counters where
  misroutedDrops : ℕ
  connsEstablished : ℕ
  connsFailed : ℕ
  synRetries : ℕ
  setupMsTotal : ℕ
  badStatus : ℕ
  firstBadStatus : ℕ
  deriving DecidableEq, Repr

def Counters.zero : Counters := ⟨0, 0, 0, 0, 0, 0, 0⟩

def Counters.noteStatus (k : Counters) (status : ℕ) : Counters :=
  if status = 206 then k
  else
    { k with
      badStatus := k.badStatus + 1
      firstBadStatus := if k.firstBadStatus = 0 then status else k.firstBadStatus }

end SmoltcpS3

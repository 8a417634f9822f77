import SmoltcpS3.Config

namespace SmoltcpS3.Http

structure BufWriter where
  capacity : ℕ
  written : List UInt8
  deriving DecidableEq, Repr

def BufWriter.new (capacity : ℕ) : BufWriter := ⟨capacity, []⟩

def bytesOf (s : String) : List UInt8 := s.toUTF8.data.toList

def BufWriter.writeStr (w : BufWriter) (s : String) : BufWriter :=
  let n := min (bytesOf s).length (w.capacity - w.written.length)
  { w with written := w.written ++ (bytesOf s).take n }

def targetPath : String := "/blob.bin"

def requestBufferSize : ℕ := 384

def rangeRequestFragments (cfg : Config) (start endInclusive : UInt64) : List String :=
  ["GET ", targetPath, " HTTP/1.1\r\nHost: ", cfg.targetHost,
    "\r\nUser-Agent: minidpdk-smoltcp/0.1\r\nRange: bytes=", toString start, "-",
    toString endInclusive, "\r\nConnection: close\r\n\r\n"]

def buildRangeRequest (cfg : Config) (start endInclusive : UInt64) : List UInt8 :=
  ((rangeRequestFragments cfg start endInclusive).foldl BufWriter.writeStr
    (.new requestBufferSize)).written

end SmoltcpS3.Http

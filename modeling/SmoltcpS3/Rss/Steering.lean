import SmoltcpS3.Config
import SmoltcpS3.Foundations.Toeplitz

namespace SmoltcpS3.Rss

structure RssConfig where
  singleQueue : Bool
  key : List UInt8
  reta : List UInt16
  deriving DecidableEq, Repr

structure Sliding where
  result : UInt32
  w : UInt32
  nextBit : ℕ

def fromBeBytes (a b c d : UInt8) : UInt32 :=
  a.toUInt32 <<< 24 ||| b.toUInt32 <<< 16 ||| c.toUInt32 <<< 8 ||| d.toUInt32

def bitAt (bytes : List UInt8) (i : ℕ) : UInt8 :=
  (bytes.getD (i / 8) 0 >>> UInt8.ofNat (7 - i % 8)) &&& 1

def toeplitzBit (key : List UInt8) (byte : UInt8) (st : Sliding) (b : ℕ) : Sliding where
  result := if (byte >>> UInt8.ofNat b) &&& 1 == 1 then st.result ^^^ st.w else st.result
  w := st.w <<< 1 ||| (if st.nextBit < key.length * 8 then bitAt key st.nextBit else 0).toUInt32
  nextBit := st.nextBit + 1

def toeplitzByte (key : List UInt8) (st : Sliding) (byte : UInt8) : Sliding :=
  (List.range 8).reverse.foldl (toeplitzBit key byte) st

def toeplitz (key data : List UInt8) : UInt32 :=
  match key with
  | k₀ :: k₁ :: k₂ :: k₃ :: _ => (data.foldl (toeplitzByte key) ⟨0, fromBeBytes k₀ k₁ k₂ k₃, 32⟩).result
  | _ => 0

def predictQueue (rss : RssConfig) (tuple : Vector UInt8 12) : UInt16 :=
  if rss.singleQueue then 0
  else if rss.key.length = 0 ∨ rss.reta.length = 0 then 0xffff
  else rss.reta.getD ((toeplitz rss.key tuple.toList).toNat &&& (rss.reta.length - 1)) 0

def inboundTuple (cfg : Config) (ourIp : Ipv4Address) (localPort : UInt16) : Vector UInt8 12 :=
  #v[cfg.targetIp.a, cfg.targetIp.b, cfg.targetIp.c, cfg.targetIp.d,
    ourIp.a, ourIp.b, ourIp.c, ourIp.d,
    (cfg.targetPort >>> 8).toUInt8, cfg.targetPort.toUInt8, (localPort >>> 8).toUInt8, localPort.toUInt8]

def queueForLocalPort (cfg : Config) (rss : RssConfig) (ourIp : Ipv4Address) (localPort : UInt16) :
    UInt16 :=
  predictQueue rss (inboundTuple cfg ourIp localPort)

def RssConfig.Loaded (rss : RssConfig) : Prop :=
  rss.singleQueue = true ∨ (rss.key ≠ [] ∧ ∃ e, rss.reta.length = 2 ^ e)

lemma predictQueue_of_single {rss : RssConfig} (h : rss.singleQueue = true) (tuple : Vector UInt8 12) :
    predictQueue rss tuple = 0 := by
  simp [predictQueue, h]

lemma predictQueue_mem {rss : RssConfig} (hs : rss.singleQueue = false) (hk : rss.key ≠ [])
    {e : ℕ} (he : rss.reta.length = 2 ^ e) (tuple : Vector UInt8 12) :
    predictQueue rss tuple ∈ rss.reta := by
  have hpos : 0 < rss.reta.length := he ▸ Nat.two_pow_pos e
  have hlt : (toeplitz rss.key tuple.toList).toNat &&& (rss.reta.length - 1) < rss.reta.length :=
    lt_of_le_of_lt Nat.and_le_right (by omega)
  have hk' : rss.key.length ≠ 0 := by simpa using hk
  simp only [predictQueue, hs, Bool.false_eq_true, hk', hpos.ne', or_self, if_false,
    List.getD_eq_getElem _ _ hlt]
  exact List.getElem_mem hlt

end SmoltcpS3.Rss

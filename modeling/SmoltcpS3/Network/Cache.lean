import SmoltcpS3.Config

namespace SmoltcpS3

def Ipv4Address.toBits (x : Ipv4Address) : BitVec 32 := x.a.toBitVec ++ x.b.toBitVec ++ x.c.toBitVec ++ x.d.toBitVec

def Ipv4Address.isBroadcast (x : Ipv4Address) : Bool := x == ⟨255, 255, 255, 255⟩

def Ipv4Address.isMulticast (x : Ipv4Address) : Bool := x.a &&& 0xf0 == 0xe0

def Ipv4Address.isUnspecified (x : Ipv4Address) : Bool := x == ⟨0, 0, 0, 0⟩

def Ipv4Address.isUnicast (x : Ipv4Address) : Bool :=
  !(x.isBroadcast || x.isMulticast || x.isUnspecified)

namespace Network

structure EthernetAddress where
  o₀ : UInt8
  o₁ : UInt8
  o₂ : UInt8
  o₃ : UInt8
  o₄ : UInt8
  o₅ : UInt8
  deriving DecidableEq, Repr

namespace EthernetAddress

def octets (x : EthernetAddress) : List UInt8 := [x.o₀, x.o₁, x.o₂, x.o₃, x.o₄, x.o₅]

def broadcast : EthernetAddress := ⟨255, 255, 255, 255, 255, 255⟩

def isMulticast (x : EthernetAddress) : Bool := x.o₀ &&& 0x01 != 0

def isUnicast (x : EthernetAddress) : Bool := !(x == broadcast || x.isMulticast)

end EthernetAddress

structure Neighbor where
  hardwareAddr : EthernetAddress
  expiresAt : ℤ
  deriving DecidableEq, Repr

inductive Answer
  | found (hardwareAddr : EthernetAddress)
  | notFound
  | rateLimited
  deriving DecidableEq, Repr

def Answer.isFound : Answer → Bool
  | .found _ => true
  | _ => false

structure Cache where
  storage : List (Ipv4Address × Neighbor)
  silentUntil : ℤ
  deriving DecidableEq, Repr

namespace Cache

def silentTime : ℤ := 1000

def entryLifetime : ℤ := 60000

def capacity : ℕ := 8

def new : Cache := ⟨[], 0⟩

def get (c : Cache) (addr : Ipv4Address) : Option Neighbor :=
  (c.storage.find? fun e => e.1 == addr).map Prod.snd

def insert (storage : List (Ipv4Address × Neighbor)) (addr : Ipv4Address) (n : Neighbor) :
    Option (List (Ipv4Address × Neighbor)) :=
  if storage.any fun e => e.1 == addr then
    some (storage.map fun e => if e.1 == addr then (addr, n) else e)
  else if storage.length < capacity then some (storage ++ [(addr, n)])
  else none

def oldest : List (Ipv4Address × Neighbor) → ℕ
  | [] | [_] => 0
  | e :: rest =>
    let i := oldest rest
    if (rest.getD i e).2.expiresAt < e.2.expiresAt then i + 1 else 0

def swapRemove (storage : List (Ipv4Address × Neighbor)) (i : ℕ) : List (Ipv4Address × Neighbor) :=
  match storage.getLast? with
  | none => storage
  | some e => (storage.set i e).dropLast

def fillWithExpiration (addr : Ipv4Address) (hardwareAddr : EthernetAddress) (expiresAt : ℤ)
    (c : Cache) : Cache :=
  match insert c.storage addr ⟨hardwareAddr, expiresAt⟩ with
  | some storage => { c with storage := storage }
  | none =>
    { c with storage := swapRemove c.storage (oldest c.storage) ++ [(addr, ⟨hardwareAddr, expiresAt⟩)] }

def fill (addr : Ipv4Address) (hardwareAddr : EthernetAddress) (timestamp : ℤ) (c : Cache) : Cache :=
  c.fillWithExpiration addr hardwareAddr (timestamp + entryLifetime)

def resetExpiryIfExisting (addr : Ipv4Address) (source : EthernetAddress) (timestamp : ℤ) (c : Cache) :
    Cache :=
  match c.get addr with
  | some n =>
    if source = n.hardwareAddr then
      { c with storage := c.storage.map fun e =>
          if e.1 == addr then (e.1, { e.2 with expiresAt := timestamp + entryLifetime }) else e }
    else c
  | none => c

def lookup (c : Cache) (addr : Ipv4Address) (timestamp : ℤ) : Answer :=
  match c.get addr with
  | some n =>
    if timestamp < n.expiresAt then .found n.hardwareAddr
    else if timestamp < c.silentUntil then .rateLimited
    else .notFound
  | none => if timestamp < c.silentUntil then .rateLimited else .notFound

def limitRate (timestamp : ℤ) (c : Cache) : Cache := { c with silentUntil := timestamp + silentTime }

def Holds (c : Cache) (addr : Ipv4Address) (n : Neighbor) : Prop := c.storage = [(addr, n)]

lemma holds_fill (addr : Ipv4Address) (hardwareAddr : EthernetAddress) (timestamp : ℤ) :
    (new.fill addr hardwareAddr timestamp).Holds addr ⟨hardwareAddr, timestamp + entryLifetime⟩ := rfl

lemma Holds.get {c : Cache} {addr : Ipv4Address} {n : Neighbor} (h : c.Holds addr n) :
    c.get addr = some n := by
  rw [Cache.get, h]
  simp

lemma Holds.lookup {c : Cache} {addr : Ipv4Address} {n : Neighbor} (h : c.Holds addr n)
    (timestamp : ℤ) :
    (timestamp < n.expiresAt ∧ c.lookup addr timestamp = .found n.hardwareAddr) ∨
      (¬ timestamp < n.expiresAt ∧ (c.lookup addr timestamp).isFound = false) := by
  rw [Cache.lookup, h.get]
  by_cases ht : timestamp < n.expiresAt
  · exact Or.inl ⟨ht, by simp [ht]⟩
  · refine Or.inr ⟨ht, ?_⟩
    simp only [ht, if_false]
    split_ifs <;> rfl

lemma Holds.resetExpiryIfExisting {c : Cache} {addr other : Ipv4Address} {n : Neighbor}
    (h : c.Holds addr n) (hne : addr ≠ other) (source : EthernetAddress) (timestamp : ℤ) :
    c.resetExpiryIfExisting other source timestamp = c := by
  have hg : c.get other = none := by
    rw [Cache.get, h]
    simp [hne]
  rw [Cache.resetExpiryIfExisting, hg]

end Cache

end Network

end SmoltcpS3

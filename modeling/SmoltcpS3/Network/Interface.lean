import SmoltcpS3.Foundations.EventRuns
import SmoltcpS3.Network.Cache

/-! The part of smoltcp's `Interface` that deals with neighbours, with the frame that seeds a
worker's cache. -/

namespace SmoltcpS3.Network

def netmask (prefixLen : ℕ) : BitVec 32 :=
  if prefixLen = 0 then 0 else (0xffffffff : BitVec 32) <<< (32 - prefixLen)

def containsAddr (ip : Ipv4Address) (prefixLen : ℕ) (addr : Ipv4Address) : Bool :=
  ip.toBits &&& netmask prefixLen == addr.toBits &&& netmask prefixLen

def subnetBroadcast (ip : Ipv4Address) (prefixLen : ℕ) : Option (BitVec 32) :=
  if prefixLen = 31 ∨ prefixLen = 32 then none
  else some ((ip.toBits &&& netmask prefixLen) ||| (0xffffffff : BitVec 32) >>> prefixLen)

/-- What a worker inherits from `learn_network`, with the target. The gateway is a host of the
subnet, the target a host outside of it. -/
structure Link where
  mac : EthernetAddress
  ip : Ipv4Address
  prefixLen : ℕ
  gatewayIp : Ipv4Address
  gatewayMac : EthernetAddress
  targetIp : Ipv4Address
  prefixLen_le : prefixLen ≤ 32
  gateway_inside : containsAddr ip prefixLen gatewayIp = true
  target_outside : containsAddr ip prefixLen targetIp = false
  gateway_unicast : gatewayIp.isUnicast = true
  gatewayMac_unicast : gatewayMac.isUnicast = true
  target_unicast : targetIp.isUnicast = true

namespace Link

variable (link : Link)

def inSameNetwork (addr : Ipv4Address) : Bool := containsAddr link.ip link.prefixLen addr

def isBroadcastV4 (addr : Ipv4Address) : Bool :=
  addr.isBroadcast || subnetBroadcast link.ip link.prefixLen == some addr.toBits

def isUnicastV4 (addr : Ipv4Address) : Bool := addr.isUnicast && !link.isBroadcastV4 addr

def route (addr : Ipv4Address) : Option Ipv4Address :=
  if link.inSameNetwork addr || addr.isBroadcast then some addr else some link.gatewayIp

end Link

def toBeBytes (x : UInt16) : List UInt8 := [(x >>> 8).toUInt8, x.toUInt8]

def arpFrame (dstMac srcMac : EthernetAddress) (op : UInt16) (senderIp : Ipv4Address)
    (targetMac : EthernetAddress) (targetIp : Ipv4Address) : List UInt8 :=
  dstMac.octets ++ srcMac.octets ++ [0x08, 0x06] ++ [0x00, 0x01] ++ [0x08, 0x00] ++ [6] ++ [4] ++
    toBeBytes op ++ srcMac.octets ++ senderIp.octets ++ targetMac.octets ++ targetIp.octets

def buildArpReply (senderMac : EthernetAddress) (senderIp : Ipv4Address) (targetMac : EthernetAddress)
    (targetIp : Ipv4Address) : List UInt8 :=
  arpFrame targetMac senderMac 2 senderIp targetMac targetIp

structure ArpRepr where
  operation : UInt16
  sourceHardwareAddr : EthernetAddress
  sourceProtocolAddr : Ipv4Address
  targetHardwareAddr : EthernetAddress
  targetProtocolAddr : Ipv4Address
  deriving DecidableEq, Repr

def readMac (bytes : List UInt8) (i : ℕ) : EthernetAddress :=
  ⟨bytes.getD i 0, bytes.getD (i + 1) 0, bytes.getD (i + 2) 0, bytes.getD (i + 3) 0,
    bytes.getD (i + 4) 0, bytes.getD (i + 5) 0⟩

def readIp (bytes : List UInt8) (i : ℕ) : Ipv4Address :=
  ⟨bytes.getD i 0, bytes.getD (i + 1) 0, bytes.getD (i + 2) 0, bytes.getD (i + 3) 0⟩

def readU16 (bytes : List UInt8) (i : ℕ) : UInt16 :=
  (bytes.getD i 0).toUInt16 <<< 8 ||| (bytes.getD (i + 1) 0).toUInt16

def parseArp (p : List UInt8) : Option ArpRepr :=
  if p.length < 8 then none
  else if p.length < 8 + 2 * ((p.getD 4 0).toNat + (p.getD 5 0).toNat) then none
  else if readU16 p 0 = 1 ∧ readU16 p 2 = 0x0800 ∧ p.getD 4 0 = 6 ∧ p.getD 5 0 = 4 then
    some ⟨readU16 p 6, readMac p 8, readIp p 14, readMac p 18, readIp p 24⟩
  else none

inductive NeighborState
  | active
  | waiting (neighbor : Ipv4Address) (silentUntil : ℤ)
  deriving DecidableEq, Repr

inductive Sent
  | segment (dst : EthernetAddress)
  | arp (repr : ArpRepr)
  deriving DecidableEq, Repr

/-- The interface of a worker with its device and the metadata of its sockets. `lookups` are the
answers that dispatched packets got from the cache, `sent` the frames transmitted. -/
structure Interface where
  now : ℤ
  cache : Cache
  pendingSynth : Option (List UInt8)
  metas : List NeighborState
  lookups : List Answer
  sent : List Sent
  deriving DecidableEq, Repr

/-- A TCP frame that passed the checks of the Ethernet and IPv4 headers; `replies` says whether the
sockets answer it at once. -/
structure TcpFrame where
  srcMac : EthernetAddress
  srcIp : Ipv4Address
  dstIp : Ipv4Address
  replies : Bool
  deriving DecidableEq, Repr

/-- One call of `Interface::poll`: its timestamp, the frames received, and for each pass over the
sockets which of them have a segment to send. -/
structure Poll where
  timestamp : ℤ
  frames : List TcpFrame
  egress : List (List Bool)
  deriving DecidableEq, Repr

def TcpFrame.accepted (link : Link) (f : TcpFrame) : Bool :=
  (link.isUnicastV4 f.srcIp || f.srcIp.isUnspecified) &&
    (f.dstIp == link.ip || f.dstIp == ⟨224, 0, 0, 1⟩ || link.isBroadcastV4 f.dstIp)

def discoverySilentTime : ℤ := 1000

namespace Interface

variable (link : Link)

def start (n : ℕ) : Interface where
  now := 0
  cache := .new
  pendingSynth := some (buildArpReply link.gatewayMac link.gatewayIp link.mac link.ip)
  metas := List.replicate n .active
  lookups := []
  sent := []

def processArp (payload : List UInt8) (s : Interface) : Interface :=
  match parseArp payload with
  | none => s
  | some r =>
    if r.targetProtocolAddr ≠ link.ip then s
    else if r.operation ≠ 1 ∧ r.operation ≠ 2 then s
    else if !r.sourceProtocolAddr.isUnicast || !r.sourceHardwareAddr.isUnicast then s
    else if !link.inSameNetwork r.sourceProtocolAddr then s
    else
      let s := { s with cache := s.cache.fill r.sourceProtocolAddr r.sourceHardwareAddr s.now }
      if r.operation = 1 then
        { s with sent := s.sent ++
            [.arp ⟨2, link.mac, link.ip, r.sourceHardwareAddr, r.sourceProtocolAddr⟩] }
      else s

def processEthernet (frame : List UInt8) (s : Interface) : Interface :=
  if frame.length < 14 then s
  else if readMac frame 0 ≠ .broadcast ∧ (readMac frame 0).isMulticast = false ∧
      readMac frame 0 ≠ link.mac then s
  else if readU16 frame 12 = 0x0806 then s.processArp link (frame.drop 14)
  else s

def hasNeighbor (addr : Ipv4Address) (s : Interface) : Bool :=
  match link.route addr with
  | some routed => (s.cache.lookup routed s.now).isFound
  | none => false

def lookupHardwareAddr (dst : Ipv4Address) (s : Interface) : Interface × Option EthernetAddress :=
  if link.isBroadcastV4 dst then (s, some .broadcast)
  else if dst.isMulticast then (s, some ⟨0x01, 0x00, 0x5e, dst.b &&& 0x7f, dst.c, dst.d⟩)
  else
    match link.route dst with
    | none => (s, none)
    | some routed =>
      let answer := s.cache.lookup routed s.now
      let s := { s with lookups := s.lookups ++ [answer] }
      match answer with
      | .found hardwareAddr => (s, some hardwareAddr)
      | .rateLimited => (s, none)
      | .notFound =>
        ({ s with
            sent := s.sent ++ [.arp ⟨1, link.mac, link.ip, .broadcast, routed⟩]
            cache := s.cache.limitRate s.now }, none)

def dispatchIp (dst : Ipv4Address) (s : Interface) : Interface × Bool :=
  match s.lookupHardwareAddr link dst with
  | (s, some hardwareAddr) => ({ s with sent := s.sent ++ [.segment hardwareAddr] }, true)
  | (s, none) => (s, false)

def processIpv4 (f : TcpFrame) (s : Interface) : Interface :=
  if f.accepted link then
    let s :=
      if link.isUnicastV4 f.dstIp then
        { s with cache := s.cache.resetExpiryIfExisting f.srcIp f.srcMac s.now }
      else s
    if f.replies then (s.dispatchIp link f.srcIp).1 else s
  else s

def egressPermitted (m : NeighborState) (s : Interface) : Bool × NeighborState :=
  match m with
  | .active => (true, .active)
  | .waiting neighbor silentUntil =>
    if s.hasNeighbor link neighbor then (true, .active)
    else (decide (silentUntil ≤ s.now), m)

/-- The `respond` of `socket_egress` for one socket, with `neighbor_missing`. The flag is the pass's
`SocketStateChanged`. -/
def respond (i : ℕ) (st : Interface × Bool) : Interface × Bool :=
  match st.1.dispatchIp link link.targetIp with
  | (s, true) => (s, true)
  | (s, false) =>
    ({ s with metas := s.metas.set i (.waiting link.targetIp (s.now + discoverySilentTime)) }, st.2)

def egressSocket (wants : List Bool) (st : Interface × Bool) (i : ℕ) : Interface × Bool :=
  match st.1.metas[i]? with
  | none => st
  | some m =>
    let (permitted, m) := st.1.egressPermitted link m
    let s := { st.1 with metas := st.1.metas.set i m }
    if permitted && wants.getD i false then respond link i (s, st.2) else (s, st.2)

def socketEgress (wants : List Bool) (s : Interface) : Interface × Bool :=
  (List.range s.metas.length).foldl (egressSocket link wants) (s, false)

def egressLoop (s : Interface) : List (List Bool) → Interface
  | [] => s
  | wants :: rest =>
    match s.socketEgress link wants with
    | (s, true) => s.egressLoop rest
    | (s, false) => s

def takeSynth (s : Interface) : Interface :=
  match s.pendingSynth with
  | some buf => ({ s with pendingSynth := none } : Interface).processEthernet link buf
  | none => s

def ingress (s : Interface) (fs : List TcpFrame) : Interface :=
  fs.foldl (fun s f => s.processIpv4 link f) s

def poll (s : Interface) (p : Poll) : Interface :=
  let s := ({ s with now := p.timestamp } : Interface).takeSynth link
  (s.ingress link p.frames).egressLoop link p.egress

end Interface

def interfaceAfter (link : Link) (n : ℕ) (ps : List Poll) : Interface :=
  EventRuns.run (Interface.poll link) (.start link n) ps

end SmoltcpS3.Network

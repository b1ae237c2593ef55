import KubeGateway.Native.SocketDiag

/-!
# Flushing connections

The first half of `gateway/pkg/manager/connections.go`: the loop of `Tuple.Run` over
the packets that are captured on an interface.  A segment of the connection puts up
a flag, one for each direction; segments are answered with resets while one of the
flags is up, and the loop ends when both are.
-/

namespace KubeGateway.Gateway

/-! ## Packets -/

structure Tuple where
  sourceIP : GoString
  sourcePort : UInt32
  destIP : GoString
  destPort : UInt32
  deriving DecidableEq, Repr

structure EthernetLayer where
  srcMAC : BitVec 48
  dstMAC : BitVec 48
  deriving DecidableEq, Repr

structure IPv4Layer where
  srcIP : BitVec 32
  dstIP : BitVec 32
  deriving DecidableEq, Repr

structure TCPLayer where
  srcPort : UInt16
  dstPort : UInt16
  ack : UInt32
  window : UInt16
  syn : Bool
  fin : Bool
  rst : Bool
  deriving DecidableEq, Repr

/-- A captured packet; a layer it does not have is `none`. -/
structure Packet where
  ethernet : Option EthernetLayer
  ipv4 : Option IPv4Layer
  tcp : Option TCPLayer
  deriving DecidableEq, Repr

/-- The layers of a packet that passes the tests of the loop: a TCP segment over IPv4
    and Ethernet with neither SYN, FIN nor RST. -/
def Packet.segment (p : Packet) : Option (EthernetLayer × IPv4Layer × TCPLayer) :=
  match p.ethernet, p.ipv4, p.tcp with
  | some eth, some ip, some tcp =>
    if tcp.syn || tcp.fin || tcp.rst then none else some (eth, ip, tcp)
  | _, _, _ => none

/-- The frame that `sendRST` writes. -/
structure RST where
  srcMAC : BitVec 48
  dstMAC : BitVec 48
  srcIP : BitVec 32
  dstIP : BitVec 32
  srcPort : UInt16
  dstPort : UInt16
  seq : UInt32
  deriving DecidableEq, Repr

/-- The `i`-th reset in reply to a segment. -/
def replyRST (eth : EthernetLayer) (ip : IPv4Layer) (tcp : TCPLayer) (i : Nat) : RST :=
  { srcMAC := eth.dstMAC
    dstMAC := eth.srcMAC
    srcIP := ip.dstIP
    dstIP := ip.srcIP
    srcPort := tcp.dstPort
    dstPort := tcp.srcPort
    seq := tcp.ack + UInt32.ofNat i * tcp.window.toUInt32 }

/-- From the source to the destination; ports are compared in 16 bits. -/
def Tuple.isIngress (t : Tuple) (ip : IPv4Layer) (tcp : TCPLayer) : Bool :=
  (dottedQuad ip.srcIP == t.sourceIP && tcp.srcPort == t.sourcePort.toUInt16) &&
    (dottedQuad ip.dstIP == t.destIP && tcp.dstPort == t.destPort.toUInt16)

/-- From the destination to the source. -/
def Tuple.isEgress (t : Tuple) (ip : IPv4Layer) (tcp : TCPLayer) : Bool :=
  (dottedQuad ip.dstIP == t.sourceIP && tcp.dstPort == t.sourcePort.toUInt16) &&
    (dottedQuad ip.srcIP == t.destIP && tcp.srcPort == t.destPort.toUInt16)

/-! ## The loop -/

/-- `IP.IsLoopback` -/
def IP.isLoopback (ip : IP) : Bool :=
  if ip.to4 ≠ [] then ip.to4.head? == some 127
  else ip == List.replicate 15 0 ++ [1]

/-- The arguments of `netlink.KillSocket`. -/
structure KillSocket where
  src : BitVec 32
  srcPort : Nat
  dst : BitVec 32
  dstPort : UInt16
  deriving DecidableEq, Repr

/-- What a round of the loop meets: a packet; whether the time is up; which reset is the
    first that cannot be sent; the sockets that `SocketsDump` finds. -/
structure Captured where
  packet : Packet
  timedOut : Bool
  writeFails : Option Nat
  socketsDump : Option (List Socket)
  deriving DecidableEq, Repr

/-- `Run`, at the top of its loop; the resets it has sent, each with the packet it replies
    to, and the sockets it has had destroyed. -/
structure Flush where
  ingress : Bool
  egress : Bool
  returned : Bool
  sent : List (Packet × RST)
  destroyed : List SocketRequest
  killed : List KillSocket
  deriving DecidableEq, Repr

def Flush.start : Flush :=
  { ingress := false
    egress := false
    returned := false
    sent := []
    destroyed := []
    killed := [] }

/-- The request to destroy a socket. -/
def Socket.destroyRequest (s : Socket) : SocketRequest :=
  { id := s.id, states := 0, family := s.family, protocol := 6, ext := 0, pad := 0 }

/-- When both sides of the communication are reset; `layerType` is gopacket's number for
    what runs on a port. -/
def Flush.finish (layerType : UInt16 → Nat) (s : Flush) (r : Captured) (ip : IPv4Layer)
    (tcp : TCPLayer) : Flush :=
  let socks := (r.socketsDump.getD []).filter fun sock => !sock.id.source.isLoopback
  { s with
    destroyed := s.destroyed ++ socks.map Socket.destroyRequest
    killed := s.killed ++ [⟨ip.srcIP, layerType tcp.srcPort, ip.dstIP, tcp.dstPort⟩]
    returned := true }

/-- The resets in reply to a segment; the first that cannot be sent is an error. -/
def Flush.reply (layerType : UInt16 → Nat) (count : Int) (s : Flush) (r : Captured)
    (eth : EthernetLayer) (ip : IPv4Layer) (tcp : TCPLayer) : Flush :=
  let rsts := (List.range count.toNat).map fun i => (r.packet, replyRST eth ip tcp i)
  let written := r.writeFails.getD count.toNat
  let s := { s with sent := s.sent ++ rsts.take written }
  if written < count.toNat then { s with returned := true }
  else if s.egress && s.ingress then s.finish layerType r ip tcp
  else s

/-- One round of the loop. -/
def Flush.step (layerType : UInt16 → Nat) (t : Tuple) (count : Int) (s : Flush) (r : Captured) :
    Flush :=
  if s.returned then s
  else if r.timedOut then { s with returned := true }
  else
    match r.packet.segment with
    | none => s
    | some (eth, ip, tcp) =>
      let s :=
        { s with
          ingress := s.ingress || t.isIngress ip tcp
          egress := s.egress || t.isEgress ip tcp }
      if s.ingress || s.egress then s.reply layerType count r eth ip tcp else s

end KubeGateway.Gateway

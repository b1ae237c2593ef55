import KubeGateway.Native.LoadEPF

/-!
# Addresses

Where `net.Dial` goes for a text, and where the gateway's own listeners accept
connections.  An IPv4 address with a port in digits is dialled as it is; a name,
an IPv6 address, or a text without a host is left to the resolver.
-/

namespace KubeGateway.Gateway

/-- An address of the network layer. -/
inductive Ip where
  | v4 (addr : BitVec 32)
  | v6 (addr : BitVec 128)
  deriving DecidableEq, Repr

structure Endpoint where
  ip : Ip
  port : Nat
  deriving DecidableEq, Repr

/-- The gateway's listeners. -/
inductive Own where
  | internal
  | external
  | tls
  deriving DecidableEq, Repr

/-- The pod's network: its addresses besides the loopback ones, whether it has IPv6,
    what the resolver makes of a text, and the port each listener has got where 0 is
    configured. -/
structure Host where
  assigned : Ip → Bool
  ipv6 : Bool
  resolve : GoString → List Endpoint
  picked : Own → Int

/-! ## Dialling -/

/-- An IPv4 address and a port, in digits. -/
def literal (text : GoString) : Option Endpoint :=
  match text.splitOn 58 with
  | [host, port] => do
    let addr ← ToInt (fun _ => none) host
    let port ← Decimal.parse port
    if port ≤ 65535 then some ⟨.v4 (BitVec.ofNat 32 addr), port⟩ else none
  | _ => none

/-- The endpoints `net.Dial("tcp", text)` tries. -/
def Host.dials (host : Host) (text : GoString) : List Endpoint :=
  match literal text with
  | some ep => [ep]
  | none => host.resolve text

/-- An IPv4 address and a port stand for themselves. -/
theorem dials_hostPort (host : Host) (addr : BitVec 32) {port : Nat} (hport : port ≤ 65535) :
    host.dials (hostPort (dottedQuad addr) port) = [⟨.v4 addr, port⟩] := by
  have hcolon : goString ":" = [58] := by decide
  have haddr : (58 : UInt8) ∉ dottedQuad addr := notMem_dottedQuad (by decide) (by decide) addr
  have hdigits : (58 : UInt8) ∉ Decimal.digits port := notMem_digits (by decide) port
  have hsplit : (hostPort (dottedQuad addr) port).splitOn 58 =
      [dottedQuad addr, Decimal.digits port] := by
    unfold hostPort
    rw [hcolon, decimal_natCast, List.append_assoc, List.singleton_append,
      List.splitOn_append_cons_self_of_not_mem haddr, List.splitOn_eq_singleton hdigits]
  have hliteral : literal (hostPort (dottedQuad addr) port) = some ⟨.v4 addr, port⟩ := by
    unfold literal
    rw [hsplit]
    simp [ToInt_dottedQuad, hport]
  unfold Host.dials
  rw [hliteral]

/-! ## Listening -/

/-- 127.0.0.1 -/
def loopback : BitVec 32 := 0x7f000001

/-- `net` takes an IPv4 address that is mapped into IPv6, ::ffff:a.b.c.d, for a.b.c.d. -/
def Ip.unmap : Ip → Ip
  | .v4 addr => .v4 addr
  | .v6 addr => if addr.extractLsb' 32 96 = 0xffff then .v4 (addr.extractLsb' 0 32) else .v6 addr

def Ip.isUnspecified : Ip → Bool
  | .v4 addr => addr = 0
  | .v6 addr => addr = 0

/-- Where a call to an address arrives: the unspecified ones mean this host. -/
def arrives (ip : Ip) : Ip :=
  match ip.unmap with
  | .v4 addr => .v4 (if addr = 0 then loopback else addr)
  | .v6 addr => .v6 (if addr = 0 then 1 else addr)

/-- An address of the pod's own: a loopback address, 127.0.0.0/8 or ::1, or one that is
    assigned. -/
def Host.isLocal (host : Host) : Ip → Bool
  | .v4 addr => addr.extractLsb' 24 8 = 127 || host.assigned (.v4 addr)
  | .v6 addr => host.ipv6 && (addr = 1 || host.assigned (.v6 addr))

/-- The address `net.Listen("tcp", text)` binds: of those that the text stands for the
    first IPv4 one, or else the first. -/
def Host.binds (host : Host) (text : GoString) : Option Ip :=
  let ips := (host.dials text).map fun ep => ep.ip.unmap
  (ips.find? fun ip => ip matches .v4 _).or ips.head?

/-- A listener with this address takes a call to the other one.  With an unspecified
    address it listens on all addresses, also on those of IPv6 if there are any. -/
def Host.takes (host : Host) (bound ip : Ip) : Bool :=
  if bound.isUnspecified then host.isLocal (arrives ip) else arrives ip = bound

/-- The port of a listener. -/
def Host.port (host : Host) (own : Own) (configured : Int) : Int :=
  if configured = 0 then host.picked own else configured

/-- The listener accepts a connection to the endpoint.  `CreateInternalListener` binds
    `Address`; the other two bind 0.0.0.0, and the TLS listener is only there with
    certificates. -/
def Config.accepts (c : Config) (host : Host) (ep : Endpoint) : Own → Bool
  | .internal =>
    ep.port = host.port .internal c.proxyPort &&
      (host.binds c.internalAddr).any fun bound => host.takes bound ep.ip
  | .external => ep.port = host.port .external c.clusterPort && host.takes (.v4 0) ep.ip
  | .tls =>
    c.certificates.isSome && ep.port = host.port .tls c.clusterTLSPort &&
      host.takes (.v4 0) ep.ip

/-- One of the gateway's listeners accepts connections to the endpoint. -/
def Config.isOwn (c : Config) (host : Host) (ep : Endpoint) : Bool :=
  c.accepts host ep .internal || c.accepts host ep .external || c.accepts host ep .tls

end KubeGateway.Gateway

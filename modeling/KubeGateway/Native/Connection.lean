import KubeGateway.Native.Mirrors

/-!
# The gateway's connection handlers

`gateway/pkg/connection` and `Setup` of `gateway/pkg/manager`: the
configuration, and what the handler of one accepted connection does between its
start and its return.

A handler is a value that says which call it makes next.  `Internal.next` and
`External.next` give the value after the call, from what the call returned: the
handler of an internal connection (redirected here from an application) and of
an external one (from another gateway).  Go strings are their bytes.
-/

namespace KubeGateway.Gateway

/-! ## Strings -/

/-- A Go string. -/
abbrev GoString := List UInt8

/-- The bytes of a string literal. -/
def goString (s : String) : GoString := s.toUTF8.data.toList

theorem goString_append (s t : String) : goString (s ++ t) = goString s ++ goString t := by
  unfold goString
  rw [String.toUTF8_eq_toByteArray, String.toByteArray_append, ByteArray.data_append,
    Array.toList_append]
  rfl

theorem goString_inj {s t : String} : goString s = goString t ↔ s = t := by
  unfold goString
  rw [Array.toList_inj, ← ByteArray.ext_iff, String.toUTF8_eq_toByteArray,
    String.toUTF8_eq_toByteArray, String.toByteArray_inj]

theorem goString_eq_nil {s : String} : goString s = [] ↔ s = "" :=
  @goString_inj s ""

/-- `%d` -/
def decimal (n : Int) : GoString := goString (toString n)

/-- `fmt.Sprintf("%s:%d", host, port)` -/
def hostPort (host : GoString) (port : Int) : GoString := host ++ goString ":" ++ decimal port

/-- The address `findTargetFromConnection` returns. -/
structure Target where
  addr : BitVec 32
  port : BitVec 16
  deriving DecidableEq, Repr

/-- `net.IPv4(a, b, c, d).String()` -/
def Target.host (dst : Target) : GoString :=
  decimal (dst.addr.extractLsb' 24 8).toNat ++ goString "." ++
  decimal (dst.addr.extractLsb' 16 8).toNat ++ goString "." ++
  decimal (dst.addr.extractLsb' 8 8).toNat ++ goString "." ++
  decimal (dst.addr.extractLsb' 0 8).toNat

/-- `targetDestination` -/
def Target.text (dst : Target) : GoString := hostPort dst.host dst.port.toNat

/-! ## Configuration -/

/-- `Certs` of `utils.go`. -/
structure Certs where
  ca : GoString
  key : GoString
  cert : GoString
  deriving DecidableEq, Repr

/-- `connection.Config`, without the maps and the AI policy. -/
structure Config where
  proxyPort : Int
  clusterPort : Int
  clusterTLSPort : Int
  address : GoString
  clusterAddress : GoString
  cgroupOverride : GoString
  podCIDR : GoString
  certificates : Option Certs
  proxyFunc : Option (GoString → GoString)
  endpoint : Bool
  tunnel : Bool
  encrypt : Bool
  ktls : Bool
  flush : Bool
  ai : Bool

/-- The address `CreateInternalListener` listens on. -/
def Config.internalAddr (c : Config) : GoString := hostPort c.address c.proxyPort

/-- The command line of the gateway after `flag.Parse`, with its defaults. -/
structure Flags where
  address : GoString := goString "127.0.0.1"
  overrideAddress : GoString := []
  cgroupPath : GoString := goString "/sys/fs/cgroup"
  proxyPort : Int := 18000
  clusterPort : Int := 18001
  clusterTLSPort : Int := 18443
  podCIDR : GoString := goString "10.244.0.0/16"
  tunnel : Bool := false
  ktls : Bool := false

/-- `Setup`, with the environment's variables and `net.ResolveIPAddr`. -/
def Setup (flags : Flags) (env : String → Option GoString)
    (resolveIPAddr : GoString → Option GoString) : Option Config :=
  let address := (env "TUNNEL_ADDRESS").getD flags.address
  match resolveIPAddr address with
  | none => none
  | some i =>
    some {
      proxyPort := flags.proxyPort
      clusterPort := flags.clusterPort
      clusterTLSPort := flags.clusterTLSPort
      address := i
      clusterAddress := (env "KUBE_NODE_NAME").getD flags.overrideAddress
      cgroupOverride := flags.cgroupPath
      podCIDR := (env "PODCIDR").getD flags.podCIDR
      -- `Start` loads the certificates later; no caller sets `ProxyFunc`
      certificates := none
      proxyFunc := none
      -- ENDPOINT sets Encrypt, and nothing sets Endpoint
      endpoint := false
      tunnel := flags.tunnel || (env "TUNNEL").isSome
      encrypt := (env "ENDPOINT").isSome || (env "ENCRYPT").isSome
      ktls := flags.ktls || (env "KTLS").isSome
      flush := (env "NETFLUSH").isSome
      ai := (env "AI").isSome }

/-! ## Internal handlers -/

/-- Whether a connection to a remote peer is TLS. -/
inductive Wire where
  | plain
  | tls
  deriving DecidableEq, Repr

/-- The handlers `StartListeners` starts for internal connections. -/
inductive InternalFn where
  | directConnect
  | internalProxy
  | internalkTLSProxy
  deriving DecidableEq, Repr

/-- The choice of `StartListeners` between its internal handlers. -/
def Config.internalFn (c : Config) : InternalFn :=
  if c.ktls then .internalkTLSProxy
  else if c.ai then .directConnect
  else .internalProxy

/-- The certificate functions of `crypto/x509` and `crypto/tls` that a handler
    calls: whether each succeeds. -/
structure Pki where
  appendCertsFromPEM : GoString → Bool
  x509KeyPair : GoString → GoString → Bool

/-- Where a proxy dials for an original destination; `none` is the panic of a
    nil `ProxyFunc`.  `port` is what it uses without an override. -/
def Config.endpointFor (c : Config) (port : Int) (destAddr : GoString) : Option GoString :=
  if c.tunnel then c.proxyFunc.map (fun f => hostPort (f destAddr) c.clusterPort)
  else if c.clusterAddress ≠ [] then some (hostPort c.clusterAddress c.clusterPort)
  else some (hostPort destAddr port)

/-- The call an internal handler makes next, with what it still needs. -/
inductive Internal where
  | findTarget (fn : InternalFn)
  | testCertificates (fn : InternalFn) (dst : Target)
  | dial (fn : InternalFn) (dst : Target) (wire : Wire) (endpoint : GoString)
  | writeDestination (fn : InternalFn) (dst : Target) (wire : Wire)
  | readAck (fn : InternalFn) (dst : Target) (wire : Wire)
  | relay (fn : InternalFn) (dst : Target) (wire : Wire)
  | returned
  /-- a panic or `log.Fatalf`: the process ends -/
  | exited
  deriving DecidableEq, Repr

/-- What a call returned: a target for `findTargetFromConnection`, the bytes of
    a `Read` (with whether it had no error), and success or failure. -/
inductive Reply where
  | target (dst : Option Target)
  | data (bytes : List UInt8) (ok : Bool)
  | done (ok : Bool)
  deriving DecidableEq, Repr

/-- `c.Certificates != nil`, then what the TLS branch does before it dials. -/
def Internal.afterTest (pki : Pki) (c : Config) (fn : InternalFn) (dst : Target) : Internal :=
  match c.certificates with
  | some certs =>
    if !pki.appendCertsFromPEM certs.ca then .exited
    else if !pki.x509KeyPair certs.cert certs.key then .exited
    else
      match c.endpointFor c.clusterTLSPort dst.host with
      | none => .exited
      | some endpoint => .dial fn dst .tls endpoint
  | none =>
    match c.endpointFor c.clusterPort dst.host with
    | none => .exited
    | some endpoint => .dial fn dst .plain endpoint

/-- A certificate test ends the process or goes on to a dial. -/
theorem Internal.afterTest_cases (pki : Pki) (c : Config) (fn : InternalFn) (dst : Target) :
    Internal.afterTest pki c fn dst = .exited ∨
      ∃ wire endpoint, Internal.afterTest pki c fn dst = .dial fn dst wire endpoint := by
  unfold Internal.afterTest
  split
  · split
    · exact Or.inl rfl
    · split
      · exact Or.inl rfl
      · split
        · exact Or.inl rfl
        · exact Or.inr ⟨_, _, rfl⟩
  · split
    · exact Or.inl rfl
    · exact Or.inr ⟨_, _, rfl⟩

/-- `directConnect`, `internalProxy` and `internalkTLSProxy`: the handler after
    a call.  A reply the call cannot give leaves it waiting. -/
def Internal.next (pki : Pki) (c : Config) : Internal → Reply → Internal
  | .findTarget _, .target none => .returned
  | .findTarget .directConnect, .target (some dst) => .dial .directConnect dst .plain dst.text
  | .findTarget fn, .target (some dst) => .testCertificates fn dst
  | .testCertificates fn dst, .done _ => Internal.afterTest pki c fn dst
  | .dial .directConnect dst wire _, .done true => .relay .directConnect dst wire
  | .dial fn dst wire _, .done true => .writeDestination fn dst wire
  -- internalProxy panics where a plain dial fails, the others return
  | .dial .internalProxy _ .plain _, .done false => .exited
  | .dial _ _ _ _, .done false => .returned
  -- the results of the write and of the read are not used
  | .writeDestination fn dst wire, .done _ => .readAck fn dst wire
  | .readAck fn dst wire, .data _ _ => .relay fn dst wire
  | .relay _ _ _, .done _ => .returned
  | h, _ => h

/-! ## External handlers -/

/-- The handlers for external connections.  They differ in the kind of
    connection they serve, and in which copy they wait for. -/
inductive ExternalFn where
  | handleExternalConnection
  | handleTLSExternalConnection
  | handlekTLSExternalConnection
  deriving DecidableEq, Repr

/-- The handler waits for the copy from its target to the peer; the two that call
    `Copy_gateway(targetConn, conn)` wait for the one from the peer. -/
def ExternalFn.waitsForTarget : ExternalFn → Bool
  | .handleExternalConnection => false
  | .handleTLSExternalConnection => true
  | .handlekTLSExternalConnection => false

/-- The call an external handler makes next. -/
inductive External where
  | readDestination
  | dial (remoteAddress : GoString)
  | writeAck (remoteAddress : GoString)
  | relay (remoteAddress : GoString)
  | returned
  deriving DecidableEq, Repr

/-- The size of the buffer both sides read into. -/
def tmpSize : Nat := 256

/-- `handleExternalConnection` and its TLS siblings: the handler after a call. -/
def External.next (c : Config) : External → Reply → External
  -- an error of the read is only logged
  | .readDestination, .data remoteAddress _ =>
    if remoteAddress = hostPort c.address c.proxyPort then .returned -- "Potential loopback"
    else .dial remoteAddress
  | .dial remoteAddress, .done true => .writeAck remoteAddress
  | .dial _, .done false => .returned
  | .writeAck remoteAddress, .done _ => .relay remoteAddress
  | .relay _, .done _ => .returned
  | h, _ => h

end KubeGateway.Gateway

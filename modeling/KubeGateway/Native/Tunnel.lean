import KubeGateway.ForStd.Pipe
import KubeGateway.Native.Connection

/-!
# A tunnelled connection

One connection of an application through two gateways: the internal handler on
the application's side (`internalProxy` or `internalkTLSProxy`), the external
handler of the peer it dials, and the three connections between the
application, the two handlers and the target server.

An event is one call of one handler, one read or write of one of the four copy
loops, or something an endpoint or the network does.  An event that is not
enabled changes nothing, so a list of events is an interleaving.
-/

namespace KubeGateway.Gateway

/-- `[]byte{'Y'}` -/
def ackByte : UInt8 := 89

/-- The tunnel.  `app` and `answer` are the two directions of the redirected
    connection, `request` and `response` of the connection between the gateways,
    `toTarget` and `fromTarget` of the one to the target.  `dst` and `dialled`
    record the original destination and what the peer dialled with success. -/
structure Tunnel where
  internal : Internal
  external : Option External
  app : Pipe UInt8
  answer : Pipe UInt8
  request : Pipe UInt8
  response : Pipe UInt8
  toTarget : Pipe UInt8
  fromTarget : Pipe UInt8
  internalUp : Pump UInt8
  internalDown : Pump UInt8
  externalUp : Pump UInt8
  externalDown : Pump UInt8
  dst : Option Target
  dialled : Option GoString

/-- What does not change: the certificate functions, the configurations of the
    two gateways, and which handlers serve the connection. -/
structure TunnelEnv where
  pki : Pki
  config : Config
  peer : Config
  kernelTls : Bool
  externalFn : ExternalFn

/-- The internal handler of a tunnel. -/
def TunnelEnv.internalFn (env : TunnelEnv) : InternalFn :=
  if env.kernelTls then .internalkTLSProxy else .internalProxy

/-- A connection that the internal handler has just been given. -/
def Tunnel.start (env : TunnelEnv) : Tunnel :=
  { internal := .findTarget env.internalFn, external := none
    app := .fresh, answer := .fresh, request := .fresh, response := .fresh
    toTarget := .fresh, fromTarget := .fresh
    internalUp := .start, internalDown := .start, externalUp := .start, externalDown := .start
    dst := none, dialled := none }

/-! ## The handlers' calls -/

/-- The internal handler's calls before it has a peer: the replies come from the
    kernel, the configuration and the dial. -/
def Tunnel.connect (env : TunnelEnv) (t : Tunnel) (r : Reply) : Tunnel :=
  match t.internal with
  | .findTarget _ =>
    { t with
      internal := Internal.next env.pki env.config t.internal r
      dst :=
        match r with
        | .target (some dst) => some dst
        | _ => t.dst }
  | .testCertificates _ _ => { t with internal := Internal.next env.pki env.config t.internal r }
  | .dial _ _ _ _ =>
    { t with
      internal := Internal.next env.pki env.config t.internal r
      -- a dial that succeeds is a connection the peer accepts
      external :=
        match r with
        | .done true => some .readDestination
        | _ => t.external }
  | _ => t

/-- `targetConn.Write([]byte(targetDestination))`, which writes `n` bytes. -/
def Tunnel.writeDestination (env : TunnelEnv) (t : Tunnel) (n : Nat) : Tunnel :=
  match t.internal with
  | .writeDestination _ dst _ =>
    { t with
      internal := Internal.next env.pki env.config t.internal (.done (decide (dst.text.length ≤ n)))
      request := t.request.write dst.text n }
  | _ => t

/-- `targetConn.Read(tmp)` -/
def Tunnel.readAck (env : TunnelEnv) (t : Tunnel) (n : Nat) : Tunnel :=
  match t.internal with
  | .readAck _ _ _ =>
    if t.response.dead then
      { t with internal := Internal.next env.pki env.config t.internal (.data [] false) }
    -- nothing to read yet: the call waits
    else if t.response.chunk (min n tmpSize) = [] then t
    else
      -- all that was read is thrown away, whatever it is
      { t with
        internal := Internal.next env.pki env.config t.internal
          (.data (t.response.chunk (min n tmpSize)) true)
        response := t.response.read (min n tmpSize) }
  | _ => t

/-- The peer's handler is now `x`; one that returns closes its connections. -/
def Tunnel.setExternal (t : Tunnel) (x : External) : Tunnel :=
  if x = .returned then
    { t with
      external := some x
      response := t.response.finish
      toTarget := t.toTarget.finish }
  else { t with external := some x }

/-- `conn.Read(tmp)` of the external handler. -/
def Tunnel.readDestination (env : TunnelEnv) (t : Tunnel) (n : Nat) : Tunnel :=
  match t.external with
  | some .readDestination =>
    if t.request.dead then
      t.setExternal (External.next env.peer .readDestination (.data [] false))
    -- nothing to read yet: the call waits
    else if t.request.chunk (min n tmpSize) = [] then t
    else
      { t with request := t.request.read (min n tmpSize) }.setExternal
        (External.next env.peer .readDestination (.data (t.request.chunk (min n tmpSize)) true))
  | _ => t

/-- `net.DialTimeout("tcp", remoteAddress, 5*time.Second)` -/
def Tunnel.dialTarget (env : TunnelEnv) (t : Tunnel) (ok : Bool) : Tunnel :=
  match t.external with
  | some (.dial remoteAddress) =>
    { t with dialled := if ok then some remoteAddress else t.dialled }.setExternal
      (External.next env.peer (.dial remoteAddress) (.done ok))
  | _ => t

/-- `conn.Write([]byte{'Y'})`, which writes `n` bytes. -/
def Tunnel.writeAck (env : TunnelEnv) (t : Tunnel) (n : Nat) : Tunnel :=
  match t.external with
  | some (.writeAck remoteAddress) =>
    { t with response := t.response.write [ackByte] n }.setExternal
      (External.next env.peer (.writeAck remoteAddress) (.done (decide (1 ≤ n))))
  | _ => t

/-! ## The copy loops -/

/-- The four copy loops: from the application or the peer upwards to the target,
    and downwards to the application. -/
inductive Loop where
  | internalUp
  | internalDown
  | externalUp
  | externalDown
  deriving DecidableEq, Repr

/-- The internal handler is in its gateway function. -/
def Internal.relays : Internal → Bool
  | .relay _ _ _ => true
  | _ => false

/-- The external handler is in its gateway function. -/
def External.relays : External → Bool
  | .relay _ => true
  | _ => false

/-- One read or write of a copy loop, while its handler relays. -/
def Tunnel.copy (t : Tunnel) (n : Nat) : Loop → Tunnel
  | .internalUp =>
    if t.internal.relays then
      -- the application's bytes follow the destination, without a frame
      let (q, src, dst) := t.internalUp.step n t.app t.request
      { t with internalUp := q, app := src, request := dst }
    else t
  | .internalDown =>
    if t.internal.relays then
      let (q, src, dst) := t.internalDown.step n t.response t.answer
      { t with internalDown := q, response := src, answer := dst }
    else t
  | .externalUp =>
    if t.external.any External.relays then
      let (q, src, dst) := t.externalUp.step n t.request t.toTarget
      { t with externalUp := q, request := src, toTarget := dst }
    else t
  | .externalDown =>
    if t.external.any External.relays then
      -- the target's bytes follow the acknowledgement, without a frame
      let (q, src, dst) := t.externalDown.step n t.fromTarget t.response
      { t with externalDown := q, fromTarget := src, response := dst }
    else t

/-- The internal handler returns when the copy to the application has ended, and
    closes both its connections. -/
def Tunnel.internalReturns (env : TunnelEnv) (t : Tunnel) : Tunnel :=
  if t.internal.relays && t.internalDown.done then
    { t with
      internal := Internal.next env.pki env.config t.internal (.done true)
      request := t.request.finish
      answer := t.answer.finish }
  else t

/-- The copy that the external handler waits for has ended. -/
def Tunnel.externalDone (env : TunnelEnv) (t : Tunnel) : Bool :=
  if env.externalFn.waitsForTarget then t.externalDown.done else t.externalUp.done

/-- The external handler returns, and closes both its connections. -/
def Tunnel.externalReturns (env : TunnelEnv) (t : Tunnel) : Tunnel :=
  match t.external with
  | some (.relay remoteAddress) =>
    if t.externalDone env then
      t.setExternal (External.next env.peer (.relay remoteAddress) (.done true))
    else t
  | _ => t

/-! ## Endpoints and the network -/

/-- The three connections. -/
inductive Link where
  | redirected
  | gateways
  | target
  deriving DecidableEq, Repr

/-- A connection breaks, in both directions. -/
def Tunnel.reset (t : Tunnel) : Link → Tunnel
  | .redirected => { t with app := t.app.reset, answer := t.answer.reset }
  | .gateways => { t with request := t.request.reset, response := t.response.reset }
  | .target => { t with toTarget := t.toTarget.reset, fromTarget := t.fromTarget.reset }

/-- A step of the tunnel. -/
inductive TunnelEvent where
  | connect (r : Reply)
  | writeDestination (n : Nat)
  | readAck (n : Nat)
  | readDestination (n : Nat)
  | dialTarget (ok : Bool)
  | writeAck (n : Nat)
  | copy (n : Nat) (loop : Loop)
  | internalReturns
  | externalReturns
  | appSends (bytes : List UInt8)
  | appReads (n : Nat)
  | appCloses
  | targetSends (bytes : List UInt8)
  | targetReads (n : Nat)
  | targetCloses
  | reset (link : Link)
  deriving DecidableEq, Repr

/-- One step.  The target can send as soon as it is dialled. -/
def Tunnel.step (env : TunnelEnv) (t : Tunnel) : TunnelEvent → Tunnel
  | .connect r => t.connect env r
  | .writeDestination n => t.writeDestination env n
  | .readAck n => t.readAck env n
  | .readDestination n => t.readDestination env n
  | .dialTarget ok => t.dialTarget env ok
  | .writeAck n => t.writeAck env n
  | .copy n loop => t.copy n loop
  | .internalReturns => t.internalReturns env
  | .externalReturns => t.externalReturns env
  | .appSends bytes => { t with app := t.app.write bytes bytes.length }
  | .appReads n => { t with answer := t.answer.read n }
  | .appCloses => { t with app := t.app.finish }
  | .targetSends bytes =>
    if t.dialled.isSome then
      { t with fromTarget := t.fromTarget.write bytes bytes.length }
    else t
  | .targetReads n => { t with toTarget := t.toTarget.read n }
  | .targetCloses => { t with fromTarget := t.fromTarget.finish }
  | .reset link => t.reset link

/-- Two gateways without certificates. -/
def plainEnv : TunnelEnv :=
  let config : Config :=
    { proxyPort := 18000, clusterPort := 18001, clusterTLSPort := 18443
      address := goString "127.0.0.1", clusterAddress := [], cgroupOverride := [], podCIDR := []
      certificates := none, proxyFunc := none, endpoint := false, tunnel := false
      encrypt := false, ktls := false, flush := false, ai := false }
  { pki := ⟨fun _ => false, fun _ _ => false⟩, config := config, peer := config
    kernelTls := false, externalFn := .handleExternalConnection }

end KubeGateway.Gateway

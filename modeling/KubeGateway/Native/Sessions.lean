import Mathlib.Logic.Function.Basic
import KubeGateway.ForStd.Pipe
import KubeGateway.Native.Connection

/-!
# All the connections of a gateway

The tunnelled connections that the goroutines of one gateway process handle at
once: those of applications, which `internalProxy` or `internalkTLSProxy` serves,
and those of peers, which one of the three external handlers serves.  Each handler
has the connection that was accepted, `conn`, and the one it has dialled,
`targetConn`.  A panic or `log.Fatalf` in one of the goroutines ends the process,
and with it all the connections.

`directConnect` dials no gateway and is left out.
-/

namespace KubeGateway.Gateway

/-! ## One connection -/

/-- The functions that handle a tunnelled connection. -/
inductive HandlerFn where
  | internal (fn : InternalFn)
  | external (fn : ExternalFn)
  deriving DecidableEq, Repr

/-- A handler before one of its calls. -/
inductive Handler where
  | internal (h : Internal)
  | external (fn : ExternalFn) (h : External)
  deriving DecidableEq, Repr

def HandlerFn.start : HandlerFn → Handler
  | .internal fn => .internal (.findTarget fn)
  | .external fn => .external fn .readDestination

/-- The handler's copy loops run. -/
def Handler.relays : Handler → Bool
  | .internal (.relay _ _ _) => true
  | .external _ (.relay _) => true
  | _ => false

def Handler.returned : Handler → Bool
  | .internal .returned => true
  | .external _ .returned => true
  | _ => false

/-- The handler waits for the copy from `targetConn` to `conn`, or for the other one. -/
def Handler.waitsForTarget : Handler → Bool
  | .internal _ => true
  | .external fn _ => fn.waitsForTarget

/-- The handler after a call; `none` is the end of the process. -/
def Handler.next (pki : Pki) (c : Config) (r : Reply) : Handler → Option Handler
  | .internal h =>
    if Internal.next pki c h r = .exited then none else some (.internal (Internal.next pki c h r))
  | .external fn h => some (.external fn (External.next c h r))

/-- A connection with its handler: what the two endpoints send from the relay on, what
    is sent to them, and the two copy loops. -/
structure Session where
  handler : Handler
  fromConn : Pipe UInt8
  toConn : Pipe UInt8
  fromTarget : Pipe UInt8
  toTarget : Pipe UInt8
  /-- from `conn` to `targetConn` -/
  up : Pump UInt8
  /-- from `targetConn` to `conn` -/
  down : Pump UInt8

def Session.start (fn : HandlerFn) : Session :=
  { handler := fn.start, fromConn := .fresh, toConn := .fresh, fromTarget := .fresh
    toTarget := .fresh, up := .start, down := .start }

/-- `defer conn.Close()` and `defer targetConn.Close()` -/
def Session.close (s : Session) : Session :=
  { s with toConn := s.toConn.finish, toTarget := s.toTarget.finish }

/-- The handler is now `h`. -/
def Session.setHandler (s : Session) (h : Handler) : Session :=
  let s := { s with handler := h }
  if h.returned then s.close else s

/-- The copy that the handler waits for has ended. -/
def Session.done (s : Session) : Bool :=
  if s.handler.waitsForTarget then s.down.done else s.up.done

/-- Something that happens to a connection that is relayed. -/
inductive RelayStep where
  /-- a read or write of the loop from `conn`, or of the other one -/
  | copyUp (n : Nat)
  | copyDown (n : Nat)
  | returns
  | connSends (bytes : List UInt8)
  | connCloses
  | connBreaks
  | targetSends (bytes : List UInt8)
  | targetCloses
  | targetBreaks

/-- One such step. -/
def Session.relay (pki : Pki) (c : Config) (s : Session) : RelayStep → Session
  | .copyUp n =>
    if s.handler.relays then
      let (q, src, dst) := s.up.step n s.fromConn s.toTarget
      { s with up := q, fromConn := src, toTarget := dst }
    else s
  | .copyDown n =>
    if s.handler.relays then
      let (q, src, dst) := s.down.step n s.fromTarget s.toConn
      { s with down := q, fromTarget := src, toConn := dst }
    else s
  | .returns =>
    if s.handler.relays && s.done then
      match s.handler.next pki c (.done true) with
      | some h => s.setHandler h
      | none => s
    else s
  | .connSends bytes => { s with fromConn := s.fromConn.write bytes bytes.length }
  | .connCloses => { s with fromConn := s.fromConn.finish }
  | .connBreaks => { s with fromConn := s.fromConn.reset, toConn := s.toConn.reset }
  | .targetSends bytes => { s with fromTarget := s.fromTarget.write bytes bytes.length }
  | .targetCloses => { s with fromTarget := s.fromTarget.finish }
  | .targetBreaks => { s with fromTarget := s.fromTarget.reset, toTarget := s.toTarget.reset }

/-! ## The process -/

/-- The gateway with its connections, by number. -/
structure Sessions where
  config : Config
  table : Nat → Option Session
  exited : Bool

def Sessions.start (c : Config) : Sessions :=
  { config := c, table := fun _ => none, exited := false }

/-- A goroutine has started a listener whose connections `fn` handles. -/
def Config.serves (c : Config) : HandlerFn → Bool
  | .internal .directConnect => false
  | .internal fn => c.internalFn = fn
  | .external .handleExternalConnection => true
  | .external .handleTLSExternalConnection => c.certificates.isSome && !c.ktls
  | .external .handlekTLSExternalConnection => c.certificates.isSome && c.ktls

def Sessions.set (g : Sessions) (i : Nat) (s : Session) : Sessions :=
  { g with table := Function.update g.table i (some s) }

@[simp] theorem Sessions.table_set_self (g : Sessions) (i : Nat) (s : Session) :
    (g.set i s).table i = some s := Function.update_self _ _ _

theorem Sessions.table_set_of_ne (g : Sessions) {i j : Nat} (hji : j ≠ i) (s : Session) :
    (g.set i s).table j = g.table j := Function.update_of_ne hji _ _

/-- The end of the process closes every connection. -/
def Sessions.exit (g : Sessions) : Sessions :=
  { g with table := fun i => (g.table i).map Session.close, exited := true }

/-- `Start` loads certificates, or none; or something happens to one connection: it is
    accepted, a call of its handler returns, or a step of its relay. -/
inductive SessionEvent where
  | loads (certs : Option Certs)
  | accept (i : Nat) (fn : HandlerFn)
  | reply (i : Nat) (r : Reply)
  | relay (i : Nat) (e : RelayStep)

/-- The connection that the event concerns. -/
def SessionEvent.session : SessionEvent → Option Nat
  | .loads _ => none
  | .accept i _ => some i
  | .reply i _ => some i
  | .relay i _ => some i

/-- One step; a process that has exited takes none. -/
def Sessions.step (pki : Pki) (g : Sessions) (e : SessionEvent) : Sessions :=
  if g.exited then g
  else
    match e with
    | .loads certs =>
      if g.config.encrypt then { g with config := { g.config with certificates := certs } } else g
    | .accept i fn =>
      match g.table i with
      | some _ => g
      | none => if g.config.serves fn then g.set i (.start fn) else g
    | .reply i r =>
      match g.table i with
      | none => g
      | some s =>
        -- the relay is a call that returns by itself
        if s.handler.relays then g
        else
          match s.handler.next pki g.config r with
          | none => g.exit
          | some h => g.set i (s.setHandler h)
    | .relay i e =>
      match g.table i with
      | none => g
      | some s => g.set i (s.relay pki g.config e)

end KubeGateway.Gateway

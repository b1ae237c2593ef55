import KubeGateway.ForStd.Resource
import KubeGateway.Native.Sessions

/-!
# The outbound connections of a gateway

All the goroutines that handle connections in one gateway process, of all six
handlers, with what they dial.  A connection that is dialled stays open until the
goroutine runs a `Close` it has deferred, the process ends, or the garbage collector
finds that nothing refers to the connection any more.
-/

namespace KubeGateway.Gateway

/-- The call is a dial, and the reply a connection. -/
def Handler.dials : Handler → Reply → Bool
  | .internal (.dial _ _ _ _), .done true => true
  | .external _ (.dial _), .done true => true
  | _, _ => false

/-- `defer targetConn.Close()` follows the dial; in `directConnect` it does not. -/
def Handler.defersClose : Handler → Bool
  | .internal (.dial .directConnect _ _ _) => false
  | _ => true

/-- The goroutine of a handler, and the connections whose `Close` it has deferred
    besides that of `conn`. -/
structure Goroutine where
  handler : Handler
  deferred : List Nat

/-- The goroutines, by the number of the connection each has been given; how many
    connections have been dialled; and which of them are open, each with the
    goroutine that has dialled it. -/
structure Outbound where
  config : Config
  table : Nat → Option Goroutine
  dialled : Nat
  owner : Nat → Option Nat
  exited : Bool

def Outbound.start (c : Config) : Outbound :=
  { config := c, table := fun _ => none, dialled := 0, owner := fun _ => none, exited := false }

/-- A goroutine has started a listener whose connections `fn` handles. -/
def Config.starts (c : Config) : HandlerFn → Bool
  | .internal fn => c.internalFn = fn
  | .external fn => c.serves (.external fn)

def Outbound.set (g : Outbound) (i : Nat) (s : Goroutine) : Outbound :=
  { g with table := Function.update g.table i (some s) }

/-- The end of the process closes every connection. -/
def Outbound.exit (g : Outbound) : Outbound := { g with owner := fun _ => none, exited := true }

/-- A dial has succeeded, and the handler goes on as `h`. -/
def Outbound.dial (g : Outbound) (i : Nat) (s : Goroutine) (h : Handler) : Outbound :=
  { g.set i ⟨h, if s.handler.defersClose then g.dialled :: s.deferred else s.deferred⟩ with
    dialled := g.dialled + 1
    owner := Resource.acquire g.owner g.dialled i }

/-- The handler returns, and what is deferred runs. -/
def Outbound.returns (g : Outbound) (i : Nat) (s : Goroutine) (h : Handler) : Outbound :=
  { g.set i ⟨h, []⟩ with owner := Resource.close g.owner s.deferred }

/-- A call of the handler has returned. -/
def Outbound.reply (pki : Pki) (g : Outbound) (i : Nat) (s : Goroutine) (r : Reply) : Outbound :=
  match s.handler.next pki g.config r with
  | none => g.exit
  | some h =>
    if s.handler.dials r then g.dial i s h
    else if h.returned then g.returns i s h
    else g.set i { s with handler := h }

/-- `Start` loads certificates, or none; a connection is accepted; a call of a handler
    returns, its gateway function or its copy loop among them; a connection whose handler
    has returned is collected; or the process ends. -/
inductive OutboundEvent where
  | loads (certs : Option Certs)
  | accept (i : Nat) (fn : HandlerFn)
  | reply (i : Nat) (r : Reply)
  | collects (targetConn : Nat)
  | exits
  deriving DecidableEq, Repr

/-- The handler of the connection runs. -/
def Outbound.running (g : Outbound) (i : Nat) : Bool :=
  (g.table i).any fun s => !s.handler.returned

/-- One step; a process that has exited takes none. -/
def Outbound.step (pki : Pki) (g : Outbound) (e : OutboundEvent) : Outbound :=
  if g.exited then g
  else
    match e with
    | .loads certs =>
      if g.config.encrypt then { g with config := { g.config with certificates := certs } } else g
    | .accept i fn =>
      match g.table i with
      | some _ => g
      | none => if g.config.starts fn then g.set i ⟨fn.start, []⟩ else g
    | .reply i r =>
      match g.table i with
      | none => g
      | some s => if s.handler.returned then g else g.reply pki i s r
    | .collects targetConn =>
      match g.owner targetConn with
      | none => g
      | some i =>
        if g.running i then g else { g with owner := Resource.close g.owner [targetConn] }
    | .exits => g.exit

end KubeGateway.Gateway

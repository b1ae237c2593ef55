import KubeGateway.Native.Sockets
import KubeGateway.Native.Tunnel

/-!
# Applications behind a gateway

The hooks, the applications' sockets and the tunnels of one gateway together.
The tunnels share nothing but the maps: an internal handler learns where its
connection was meant to go by a `getsockopt` call, which `cg_sock_opt` answers
out of the maps that every application's `connect` writes.
-/

namespace KubeGateway.Gateway

open Ebpf

/-- The maps and the sockets, and the tunnel of each accepted connection.
    `asked` records the question of a connection's handler, and the world it was
    asked in. -/
structure Redirection where
  world : World
  tunnel : Nat → Tunnel
  asked : Nat → Option (World × Query)

inductive RedirectionEvent where
  | socket (e : SocketEvent)
  | finds (i : Nat) (q : Query) (kernel : Option Target)
  | tunnel (i : Nat) (e : TunnelEvent)

/-- Before anything connects. -/
def Redirection.start (conf : Ebpf.Config)
    (pids : BoundedMap (BitVec 32) (BitVec 8) maxConnections) (env : Nat → TunnelEnv) :
    Redirection :=
  { world := World.start conf pids
    tunnel := fun i => Tunnel.start (env i)
    asked := fun _ => none }

/-- `findTargetFromConnection`, with the hook's answer, or what the call gives
    where the hook leaves it alone. -/
def findTargetFromConnection (o : ByteOrder) (w : World) (q : Query) (kernel : Option Target) :
    Option Target :=
  match cgSockOpt o w.maps (q.ctx o) with
  | some ans =>
    let dst := Ebpf.findTarget (ans.sa.inMemory o)
    some ⟨dst.1, dst.2⟩
  | none => kernel

/-- The handler of connection `i` is about to call `findTargetFromConnection`. -/
def Redirection.finding (r : Redirection) (i : Nat) : Bool :=
  match (r.tunnel i).internal with
  | .findTarget _ => true
  | _ => false

/-- A step that finds a target. -/
def TunnelEvent.finds : TunnelEvent → Bool
  | .connect (.target _) => true
  | _ => false

/-- One step.  `finds` is the call of `findTargetFromConnection`; the other steps
    of a tunnel cannot find a target. -/
def Redirection.step (o : ByteOrder) (env : Nat → TunnelEnv) (r : Redirection) :
    RedirectionEvent → Redirection
  | .socket e => { r with world := r.world.step o e }
  | .finds i q kernel =>
    if r.finding i then
      { r with
        tunnel := Function.update r.tunnel i ((r.tunnel i).step (env i)
          (.connect (.target (findTargetFromConnection o r.world q kernel))))
        asked := Function.update r.asked i (some (r.world, q)) }
    else r
  | .tunnel i e =>
    if e.finds then r
    else { r with tunnel := Function.update r.tunnel i ((r.tunnel i).step (env i) e) }

end KubeGateway.Gateway

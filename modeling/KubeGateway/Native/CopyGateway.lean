import KubeGateway.ForStd.Pipe

/-!
# Copy_gateway

`gateway/copy_gateway.go`: two copy loops between two connections, `ingress` and
`egress`.  The one from `ingress` runs in a goroutine of its own; the function
waits for the other one and returns, and its caller then closes both connections.

`internalProxy` calls it with the application as `ingress` and the peer as
`egress`.  `handleExternalConnection` and `handlekTLSExternalConnection` call it
with the target as `ingress` and the peer as `egress`.
-/

namespace KubeGateway.Gateway

/-- A call of `Copy_gateway`: both directions of both connections, the goroutine's loop
    `io.Copy(egress, ingress)`, the loop `io.Copy(ingress, egress)` of the function
    itself, and whether it has returned. -/
structure Relay where
  fromIngress : Pipe UInt8
  toIngress : Pipe UInt8
  fromEgress : Pipe UInt8
  toEgress : Pipe UInt8
  forward : Pump UInt8
  back : Pump UInt8
  returned : Bool

def Relay.start : Relay :=
  { fromIngress := .fresh, toIngress := .fresh, fromEgress := .fresh, toEgress := .fresh
    forward := .start, back := .start, returned := false }

/-- Something an endpoint does, a read or write of one of the loops, or the return. -/
inductive RelayEvent where
  | ingressSends (bytes : List UInt8)
  | ingressCloses
  | egressSends (bytes : List UInt8)
  | egressCloses
  | forward (n : Nat)
  | back (n : Nat)
  | returns
  deriving DecidableEq, Repr

/-- One step.  The reads and writes succeed while the connections are open; the
    endpoints close their sending direction only. -/
def Relay.step (s : Relay) : RelayEvent → Relay
  | .ingressSends bytes => { s with fromIngress := s.fromIngress.write bytes bytes.length }
  | .ingressCloses => { s with fromIngress := s.fromIngress.finish }
  | .egressSends bytes => { s with fromEgress := s.fromEgress.write bytes bytes.length }
  | .egressCloses => { s with fromEgress := s.fromEgress.finish }
  | .forward n =>
    -- on closed connections the goroutine's next call fails
    if s.returned then { s with forward := { s.forward with done := true } }
    else
      let (q, src, dst) := s.forward.copy n s.fromIngress s.toEgress
      { s with forward := q, fromIngress := src, toEgress := dst }
  | .back n =>
    if s.returned then s
    else
      let (q, src, dst) := s.back.copy n s.fromEgress s.toIngress
      { s with back := q, fromEgress := src, toIngress := dst }
  | .returns =>
    -- `defer conn.Close()` and `defer targetConn.Close()` of the caller
    if s.back.done then
      { s with returned := true, toIngress := s.toIngress.finish, toEgress := s.toEgress.finish }
    else s

end KubeGateway.Gateway

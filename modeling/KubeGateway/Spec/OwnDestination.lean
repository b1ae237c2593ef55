import KubeGateway.Native.Addresses
import KubeGateway.Native.Redirection
import KubeGateway.Spec.HandshakeAgreement
import KubeGateway.Spec.OriginalDestination

/-!
# Every application gets to its own destination

The hooks and the tunnels put together.  Any number of applications connect and
are established, and any number of connections are served at once, in any order
of their steps.  While the maps have room, a handler whose `getsockopt` call is
answered and is about the last redirected client of the source port carries that
client's bytes to where that client asked to connect, and nowhere else.
-/

namespace KubeGateway.Gateway

open Ebpf

/-! ## The property -/

/-- The client `c` at the other end of the queried socket was redirected on its
    way to this address and port. -/
structure AskedFor (w : World) (q : Query) (addr : BitVec 32) (port : BitVec 16) : Prop where
  client : ∃ c st, q.peer = some c ∧ w.socks.lookup c = some st ∧ st.redirected ∧
    st.lastConnect = some (addr, port)

/-- A tunnel carries its application's bytes to this address and port: its peer
    dials nothing else, and the handler relays only to a peer that has dialled it. -/
structure Reaches (host : Host) (t : Tunnel) (addr : BitVec 32) (port : BitVec 16) : Prop where
  dials : ∀ a, t.external = some (.dial a) → host.dials a = [⟨.v4 addr, port.toNat⟩]
  dialled : ∀ a, t.dialled = some a → host.dials a = [⟨.v4 addr, port.toNat⟩]
  relays : t.internal.relays = true → t.dialled ≠ none
  payload : t.toTarget.sent <+: t.app.sent

/-- Every connection whose destination the hook gave reaches what its own client
    asked for. -/
def OwnDestination (o : ByteOrder) (host : Host) (r : Redirection) : Prop :=
  ∀ i w q, r.asked i = some (w, q) → (cgSockOpt o w.maps (q.ctx o)).isSome →
    ∃ addr port, AskedFor w q addr port ∧ Reaches host (r.tunnel i) addr port

/-! ## The condition -/

/-- What a step needs: a handler that asks, and is answered, asks about the last
    redirected client of the port, and a tunnel's handshake reads are whole. -/
def Served (o : ByteOrder) (env : Nat → TunnelEnv) (r : Redirection) : RedirectionEvent → Prop
  | .socket _ => True
  | .finds i q _ => r.finding i = true → PeerIsLast o r.world (.queries q)
  | .tunnel i e => HandshakeWhole (env i) (r.tunnel i) e

/-! ## The invariant -/

/-- The destination of a tunnel, where the hook gave it, is its own client's. -/
def Redirection.Found (o : ByteOrder) (r : Redirection) (i : Nat) : Prop :=
  ∀ w q, r.asked i = some (w, q) → (cgSockOpt o w.maps (q.ctx o)).isSome →
    ∃ addr port, AskedFor w q addr port ∧ (r.tunnel i).dst = some ⟨addr, port⟩

/-- The maps agree with the ledger, and every tunnel is in order. -/
structure RedirectionInvariant (o : ByteOrder) (r : Redirection) : Prop where
  ledger : LedgerInvariant o r.world
  tunnels : ∀ i, Control (r.tunnel i) ∧ RequestInvariant (r.tunnel i)
  found : ∀ i, r.Found o i

theorem redirectionInvariant_start (o : ByteOrder) (conf : Ebpf.Config)
    (pids : BoundedMap (BitVec 32) (BitVec 8) maxConnections) (env : Nat → TunnelEnv) :
    RedirectionInvariant o (Redirection.start conf pids env) where
  ledger := ledgerInvariant_start o conf pids
  tunnels := fun i => ⟨control_start (env i), requestInvariant_start (env i)⟩
  found := nofun

/-- Only a found target sets a tunnel's destination. -/
theorem dst_step {env : TunnelEnv} {t : Tunnel} {e : TunnelEvent} (hc : Control t)
    (hnot : e.finds = false) : (t.step env e).dst = t.dst := by
  have hstep := tunnelStep_step env e hc.tunnelled
  generalize t.step env e = t' at hstep
  cases hstep with
  | targetFound fn dst _ => exact absurd hnot (show ¬ true = false by decide)
  | _ => rfl

/-- One tunnel's step leaves every tunnel in order. -/
private theorem RedirectionInvariant.tunnels_update {o : ByteOrder} {env : Nat → TunnelEnv}
    {r : Redirection} (h : RedirectionInvariant o r) (i : Nat) (e : TunnelEvent)
    (hwhole : HandshakeWhole (env i) (r.tunnel i) e) (j : Nat) :
    Control (Function.update r.tunnel i ((r.tunnel i).step (env i) e) j) ∧
      RequestInvariant (Function.update r.tunnel i ((r.tunnel i).step (env i) e) j) := by
  obtain ⟨hc, hr⟩ := h.tunnels i
  refine (Function.forall_update_iff r.tunnel
    (p := fun _ t => Control t ∧ RequestInvariant t)).mpr ⟨⟨?_, ?_⟩, fun j _ => h.tunnels j⟩ j
  · exact control_step (env i) (r.tunnel i) e hc
  · exact requestInvariant_step (env i) (r.tunnel i) e hc hr hwhole

/-- A socket's step leaves the tunnels, and what was asked, alone. -/
private theorem RedirectionInvariant.socket {o : ByteOrder} {env : Nat → TunnelEnv}
    {r : Redirection} (h : RedirectionInvariant o r) (e : SocketEvent)
    (hfew : r.world.ledger.opened.length < maxConnections) :
    RedirectionInvariant o (r.step o env (.socket e)) where
  ledger := ledgerInvariant_step e h.ledger hfew
  tunnels := h.tunnels
  found := h.found

/-- A handler that has its destination takes a step. -/
private theorem RedirectionInvariant.tunnel {o : ByteOrder} {env : Nat → TunnelEnv}
    {r : Redirection} (h : RedirectionInvariant o r) (i : Nat) (e : TunnelEvent)
    (hnot : e.finds = false) (hwhole : HandshakeWhole (env i) (r.tunnel i) e) :
    RedirectionInvariant o
      { r with tunnel := Function.update r.tunnel i ((r.tunnel i).step (env i) e) } where
  ledger := h.ledger
  tunnels := h.tunnels_update i e hwhole
  found := by
    intro j w q hasked hans
    obtain ⟨addr, port, hfor, hdst⟩ := h.found j w q hasked hans
    refine ⟨addr, port, hfor, ?_⟩
    show (Function.update r.tunnel i ((r.tunnel i).step (env i) e) j).dst = _
    by_cases hj : j = i
    · subst hj
      rw [Function.update_self, dst_step (h.tunnels j).1 hnot]
      exact hdst
    · rw [Function.update_of_ne hj]
      exact hdst

/-- The tunnel's destination is what the call found. -/
theorem dst_found {env : TunnelEnv} {r : Redirection} {i : Nat} (hfinding : r.finding i = true)
    (dst : Target) : ((r.tunnel i).step env (.connect (.target (some dst)))).dst = some dst := by
  unfold Redirection.finding at hfinding
  split at hfinding
  · rename_i fn hint
    show ((r.tunnel i).connect env (.target (some dst))).dst = some dst
    unfold Tunnel.connect
    rw [hint]
  · exact absurd hfinding Bool.false_ne_true

/-- The handler's question is answered: with its own client's destination, if the
    hook answers. -/
private theorem RedirectionInvariant.finds {o : ByteOrder} {env : Nat → TunnelEnv}
    {r : Redirection} (h : RedirectionInvariant o r) (i : Nat) (q : Query)
    (kernel : Option Target) (hfinding : r.finding i = true)
    (hlast : PeerIsLast o r.world (.queries q)) :
    RedirectionInvariant o (r.step o env (.finds i q kernel)) := by
  show RedirectionInvariant o (if r.finding i = true then _ else r)
  rw [if_pos hfinding]
  refine ⟨h.ledger, h.tunnels_update i _ ⟨nofun, rfl⟩, ?_⟩
  intro j w q' hasked hans
  by_cases hj : j = i
  · subst hj
    obtain ⟨rfl, rfl⟩ : r.world = w ∧ q = q' := by
      simpa using hasked
    obtain ⟨ans, hans⟩ := Option.isSome_iff_exists.mp hans
    -- the answer is the destination of the client at the other end
    obtain ⟨c, st, hpeer, hlook, hredir, hconn⟩ :=
      answersOwn_of_peerIsLast (.queries q) h.ledger hlast ans hans
    refine ⟨_, _, ⟨c, st, hpeer, hlook, hredir, hconn⟩, ?_⟩
    show (Function.update r.tunnel j _ j).dst = _
    rw [Function.update_self]
    unfold findTargetFromConnection
    rw [hans]
    exact dst_found hfinding _
  · have hbefore : r.asked j = some (w, q') := by
      simpa [Function.update_of_ne hj] using hasked
    obtain ⟨addr, port, hfor, hdst⟩ := h.found j w q' hbefore hans
    refine ⟨addr, port, hfor, ?_⟩
    show (Function.update r.tunnel i _ j).dst = _
    rw [Function.update_of_ne hj]
    exact hdst

/-- Every step keeps the invariant. -/
theorem redirectionInvariant_step {o : ByteOrder} {env : Nat → TunnelEnv} {r : Redirection}
    (e : RedirectionEvent) (h : RedirectionInvariant o r)
    (hfew : r.world.ledger.opened.length < maxConnections) (hserved : Served o env r e) :
    RedirectionInvariant o (r.step o env e) := by
  cases e with
  | socket e => exact h.socket e hfew
  | finds i q kernel =>
    by_cases hfinding : r.finding i = true
    · exact h.finds i q kernel hfinding (hserved hfinding)
    · show RedirectionInvariant o (if r.finding i = true then _ else r)
      rw [if_neg hfinding]
      exact h
  | tunnel i e =>
    show RedirectionInvariant o (if e.finds = true then r else _)
    split
    · exact h
    · rename_i hnot
      exact h.tunnel i e (Bool.eq_false_of_not_eq_true hnot) hserved

/-- A tunnel in order reaches the destination it was given. -/
private theorem reaches_of_dst (host : Host) {t : Tunnel} (h : RequestInvariant t)
    {addr : BitVec 32} {port : BitVec 16} (hdst : t.dst = some ⟨addr, port⟩) :
    Reaches host t addr port := by
  have hport : port.toNat ≤ 65535 := by omega
  have htext : t.text = hostPort (dottedQuad addr) port.toNat := by
    unfold Tunnel.text
    rw [hdst]
    rfl
  -- the text of the destination stands for the one endpoint
  have hone : host.dials t.text = [⟨.v4 addr, port.toNat⟩] := by
    rw [htext]
    exact dials_hostPort host addr hport
  refine ⟨fun a ha => ?_, fun a ha => ?_, fun hr => (h.relays hr).1, h.agreed.payload⟩
  · rw [h.dials a ha]
    exact hone
  · rw [h.dialled a ha]
    exact hone

theorem opened_length_step {o : ByteOrder} {env : Nat → TunnelEnv} (r : Redirection)
    (e : RedirectionEvent) :
    r.world.ledger.opened.length ≤ (r.step o env e).world.ledger.opened.length := by
  cases e with
  | socket e => exact World.opened_length_step e
  | finds i q kernel =>
    show _ ≤ (if r.finding i = true then _ else r).world.ledger.opened.length
    split <;> exact Nat.le_refl _
  | tunnel i e =>
    show _ ≤ (if e.finds = true then r else _).world.ledger.opened.length
    split <;> exact Nat.le_refl _

/-! ## Main result -/

/-- In every run of fewer than `MAX_CONNECTIONS` sockets, with any number of
    connections served at once, whose handlers' answered questions are about the last
    redirected client of the port and whose handshake reads are whole: every connection
    whose destination the hook gave carries its own client's bytes to where that
    client asked to connect, and its gateways dial nothing else. -/
theorem each_reaches_its_own (o : ByteOrder) (conf : Ebpf.Config)
    (pids : BoundedMap (BitVec 32) (BitVec 8) maxConnections) (env : Nat → TunnelEnv)
    (host : Host) (es : List RedirectionEvent)
    (hfew : (Trace.run (Redirection.step o env) (Redirection.start conf pids env)
      es).world.ledger.opened.length < maxConnections)
    (hserved : Trace.Along (Redirection.step o env) (Served o env)
      (Redirection.start conf pids env) es) :
    OwnDestination o host
      (Trace.run (Redirection.step o env) (Redirection.start conf pids env) es) := by
  have hbound : Trace.Along (Redirection.step o env)
      (fun r _ => r.world.ledger.opened.length < maxConnections)
      (Redirection.start conf pids env) es :=
    Trace.along_lt_of_run_lt (f := fun r : Redirection => r.world.ledger.opened.length)
      opened_length_step hfew
  have hinv : RedirectionInvariant o
      (Trace.run (Redirection.step o env) (Redirection.start conf pids env) es) :=
    Trace.run_of_along (I := RedirectionInvariant o)
      (fun r e h hA => redirectionInvariant_step e h hA.1 hA.2)
      (redirectionInvariant_start o conf pids env) (hbound.and hserved)
  intro i w q hasked hans
  obtain ⟨addr, port, hfor, hdst⟩ := hinv.found i w q hasked hans
  exact ⟨addr, port, hfor, reaches_of_dst host (hinv.tunnels i).2 hdst⟩

/-! ## Two applications at once -/

theorem handshakeWhole_iff {env : TunnelEnv} {t : Tunnel} {e : TunnelEvent} :
    HandshakeWhole env t e ↔
      (t.destinationData e).all (fun data => decide (data = t.text ∨
        data = hostPort env.peer.address env.peer.proxyPort)) = true ∧ t.ackFails e = false := by
  rw [Option.all_eq_true]
  constructor
  · rintro ⟨hdata, hack⟩
    exact ⟨fun data h => decide_eq_true (hdata data h), hack⟩
  · rintro ⟨hdata, hack⟩
    exact ⟨fun data h => of_decide_eq_true (hdata data h), hack⟩

instance (env : TunnelEnv) (t : Tunnel) (e : TunnelEvent) : Decidable (HandshakeWhole env t e) :=
  decidable_of_iff _ handshakeWhole_iff.symm

/-- From 127.0.0.1:40001 to the proxy. -/
def fromNextPort : Endpoints := ⟨0x7f000001, 40001, 0x7f000001, 18000⟩

/-- A pod with no address but the loopback ones. -/
def loneHost : Host :=
  { assigned := fun _ => false, ipv6 := false, resolve := fun _ => [], picked := fun _ => 1 }

/-- Two clients connect to two pods. -/
def twoConnect : List RedirectionEvent :=
  [.socket (.opens 1 0), .socket (.opens 2 0), .socket (.connects 1 Ebpf.podConnect),
    .socket (.connects 2 otherPodConnect), .socket (.establishes 1 fromLoopback),
    .socket (.establishes 2 fromNextPort), .finds 1 (proxyQuery 2 fromNextPort) none,
    .finds 0 (proxyQuery 1 fromLoopback) none]

/-- Their connections are served in turn, step by step, and each sends one byte. -/
def twoServed : List (Nat × TunnelEvent) :=
  [(0, .connect (.done true)), (1, .connect (.done true)), (0, .connect (.done true)),
    (1, .connect (.done true)), (1, .appSends [98]), (0, .appSends [97]),
    (0, .writeDestination 256), (1, .writeDestination 256), (1, .readDestination 256),
    (0, .readDestination 256), (0, .dialTarget true), (1, .dialTarget true), (0, .writeAck 1),
    (1, .writeAck 1), (1, .readAck 256), (0, .readAck 256), (0, .copy 1 .internalUp),
    (1, .copy 1 .internalUp), (0, .copy 1 .internalUp), (1, .copy 1 .internalUp),
    (0, .copy 1 .externalUp), (1, .copy 1 .externalUp), (0, .copy 1 .externalUp),
    (1, .copy 1 .externalUp)]

/-- Both at once. -/
def twoAtOnce : List RedirectionEvent :=
  twoConnect ++ twoServed.map fun e => .tunnel e.1 e.2

/-- The gateway, and the peers, after that. -/
def servedTwo : Redirection :=
  Trace.run (Redirection.step .little fun _ => plainEnv)
    (Redirection.start defaultConfig BoundedMap.empty fun _ => plainEnv) twoAtOnce

private theorem served_twoConnect :
    Trace.Along (Redirection.step .little fun _ => plainEnv) (Served .little fun _ => plainEnv)
      (Redirection.start defaultConfig BoundedMap.empty fun _ => plainEnv) twoConnect := by
  refine ⟨trivial, trivial, trivial, trivial, trivial, trivial, ?_, ?_, trivial⟩
  · intro _ _ last hlast
    have h : some (2 : BitVec 64) = some last := hlast
    rw [Option.some.injEq] at h
    subst h
    exact ⟨rfl, rfl, _, rfl, rfl, fun _ _ _ => rfl⟩
  · intro _ _ last hlast
    have h : some (1 : BitVec 64) = some last := hlast
    rw [Option.some.injEq] at h
    subst h
    exact ⟨rfl, rfl, _, rfl, rfl, fun _ _ _ => rfl⟩

/-- Both clients' bytes reach their own pods. -/
theorem each_reaches_its_own_twoAtOnce :
    OwnDestination .little loneHost servedTwo ∧ (servedTwo.tunnel 0).toTarget.sent = [97] ∧
      (servedTwo.tunnel 1).toTarget.sent = [98] := by
  refine ⟨?_, by decide +kernel, by decide +kernel⟩
  have hwhole : Trace.Along
      (fun r (e : Nat × TunnelEvent) => Redirection.step .little (fun _ => plainEnv) r
        (.tunnel e.1 e.2))
      (fun r e => HandshakeWhole plainEnv (r.tunnel e.1) e.2)
      (Trace.run (Redirection.step .little fun _ => plainEnv)
        (Redirection.start defaultConfig BoundedMap.empty fun _ => plainEnv) twoConnect)
      twoServed := by
    decide +kernel
  exact each_reaches_its_own .little defaultConfig BoundedMap.empty (fun _ => plainEnv) loneHost
    twoAtOnce (by decide +kernel)
    (Trace.along_append.mpr ⟨served_twoConnect, Trace.along_map.mpr hwhole⟩)

end KubeGateway.Gateway

import KubeGateway.Native.Sockets

/-!
# Whose destination `cg_sock_opt` answers

The proxy asks for the original destination of an accepted connection, and the
answer is found through the client's source port alone.  The ledger says which
client last established from that port and which client last wrote each cookie
key; while the maps have room they agree with it.  So the answer is the asking
connection's own whenever its client is the one the ledger names.  Two clients
on one source port, which the kernel allows from two addresses, are enough to
get the other client's destination.
-/

namespace KubeGateway.Ebpf

/-- An overridden `getsockopt` answers with the destination that the client at
    the other end of the queried socket last asked for, and that client was
    redirected. -/
def AnswersOwn (o : ByteOrder) (w : World) : SocketEvent → Prop
  | .queries q =>
    ∀ ans, cgSockOpt o w.maps (q.ctx o) = some ans →
      ∃ c st, q.peer = some c ∧ w.socks.lookup c = some st ∧ st.redirected ∧
        st.lastConnect = some (findTarget (ans.sa.inMemory o))
  | _ => True

/-- A query is not answered, or the last redirected client established from the
    queried peer port is the peer of the queried socket; its latest `connect` was
    redirected, no other socket has been redirected under its key since, and the
    object's byte order did not lose its port. -/
def PeerIsLast (o : ByteOrder) (w : World) : SocketEvent → Prop
  | .queries q =>
    (cgSockOpt o w.maps (q.ctx o)).isSome →
    ∀ last, w.ledger.lastOnPort q.endpoints.remotePort = some last →
      q.peer = some last ∧ w.ledger.owner (sockKey o last) = some last ∧
      ∃ st, w.socks.lookup last = some st ∧ st.redirected ∧
        ∀ addr port, st.lastConnect = some (addr, port) → seenPort o port = port
  | _ => True

/-- The maps agree with the ledger. -/
structure LedgerInvariant (o : ByteOrder) (w : World) : Prop where
  known : ∀ k, (w.maps.mapSocks.lookup k).isSome → k ∈ w.ledger.opened.map (sockKey o)
  records : ∀ s, (w.socks.lookup s).isSome → s ∈ w.ledger.opened
  owned : ∀ k, (w.ledger.owner k).isSome ↔ (w.maps.mapSocks.lookup k).isSome
  entry : ∀ s st, w.ledger.owner (sockKey o s) = some s → w.socks.lookup s = some st →
    st.redirected → ∃ addr port, st.lastConnect = some (addr, port) ∧
      w.maps.mapSocks.lookup (sockKey o s) = some (originalSocket addr (seenPort o port))
  ports : ∀ p c, w.maps.mapPorts.lookup p = some c → w.ledger.lastOnPort p = some c

theorem ledgerInvariant_start (o : ByteOrder) (conf : Config)
    (pids : BoundedMap (BitVec 32) (BitVec 8) maxConnections) :
    LedgerInvariant o (World.start conf pids) := by
  refine ⟨?_, nofun, ?_, nofun, ?_⟩
  · intro k hk
    simp [World.start, Maps.loaded] at hk
  · intro k
    simp [World.start, Maps.loaded]
  · intro p c h
    simp [World.start, Maps.loaded] at h

/-- With fewer sockets than places, `map_socks` always has room. -/
private theorem LedgerInvariant.hasRoom {o : ByteOrder} {w : World} (h : LedgerInvariant o w)
    (hfew : w.ledger.opened.length < maxConnections) (k : BitVec 32) :
    w.maps.mapSocks.HasRoom k := by
  -- every key of the map is the key of an opened socket
  have hsize := BoundedMap.size_le_of_keys_subset h.known
  rw [List.length_map] at hsize
  exact Or.inr (Nat.lt_of_le_of_lt hsize hfew)

/-- Records are of sockets that were opened; every step keeps that. -/
private theorem LedgerInvariant.records_step {o : ByteOrder} {w : World} (h : LedgerInvariant o w)
    (e : SocketEvent) (s : BitVec 64) (hs : ((w.step o e).socks.lookup s).isSome) :
    s ∈ (w.step o e).ledger.opened := by
  obtain ⟨st', hlook⟩ := Option.isSome_iff_exists.mp hs
  -- the record is new, or its socket had one before
  rcases World.lookup_step hlook with ⟨netns, rfl, -⟩ | ⟨args, st, -, hst, -⟩ | ⟨st, hst, -⟩
  · exact List.mem_cons_self
  · exact World.mem_opened_step e (h.records s (by rw [hst]; rfl))
  · exact World.mem_opened_step e (h.records s (by rw [hst]; rfl))

/-- A redirected `connect` writes the ledger and `map_socks` alike. -/
private theorem LedgerInvariant.connect_redirected {o : ByteOrder} {w : World}
    (h : LedgerInvariant o w) (hfew : w.ledger.opened.length < maxConnections) {s : BitVec 64}
    {st : ClientSocket} (hlook : w.socks.lookup s = some st) (args : ConnectArgs)
    (hred : Redirects o w.maps ((args.call s).ctx o)) :
    LedgerInvariant o (w.step o (.connects s args)) := by
  have hcookie : ((args.call s).ctx o).cookie = s := rfl
  have hroom := h.hasRoom hfew (sockKey o s)
  -- the hook writes the key of the socket's cookie, and so does the ledger
  rw [World.step_connects hlook, cgConnect4_of_redirects hred, hcookie, ctxSocket_ctx]
  simp only [Ledger.connect, if_pos hred]
  refine ⟨?_, ?_, ?_, ?_, h.ports⟩
  · intro k hk
    obtain ⟨sock, hsock⟩ := Option.isSome_iff_exists.mp hk
    rcases BoundedMap.lookup_update_eq_some hsock with ⟨rfl, -⟩ | hold
    · exact List.mem_map_of_mem (h.records s (by rw [hlook]; rfl))
    · exact h.known k (by rw [hold]; rfl)
  · intro s' hs'
    rw [AList.lookup_isSome, AList.mem_insert] at hs'
    rcases hs' with rfl | hs'
    · exact h.records s' (by rw [hlook]; rfl)
    · exact h.records s' (AList.lookup_isSome.mpr hs')
  · intro k
    dsimp only
    by_cases hk : k = sockKey o s
    · subst hk
      rw [if_pos rfl, BoundedMap.lookup_update_self_of_hasRoom _ hroom]
      exact iff_of_true rfl rfl
    · rw [if_neg hk, BoundedMap.lookup_update_ne _ hk]
      exact h.owned k
  · intro s' st' howner hlook' hredir
    dsimp only at howner
    by_cases hk : sockKey o s' = sockKey o s
    · -- the key's owner is now the connecting socket
      rw [if_pos hk, Option.some.injEq] at howner
      subst howner
      rw [AList.lookup_insert, Option.some.injEq] at hlook'
      subst hlook'
      exact ⟨args.addr, args.port, rfl, BoundedMap.lookup_update_self_of_hasRoom _ hroom⟩
    · have hs : s' ≠ s := fun heq => hk (by rw [heq])
      rw [if_neg hk] at howner
      rw [AList.lookup_insert_ne hs] at hlook'
      obtain ⟨addr, port, hlast, hentry⟩ := h.entry s' st' howner hlook' hredir
      exact ⟨addr, port, hlast, by rw [BoundedMap.lookup_update_ne _ hk]; exact hentry⟩

/-- The sockets after a step that redirects nothing: whoever counts as
    redirected did so before, with the same connect call. -/
private theorem redirected_before {o : ByteOrder} {w : World} {e : SocketEvent}
    (hnot : ∀ s args, e = .connects s args → ¬ Redirects o w.maps ((args.call s).ctx o))
    (s : BitVec 64) (st' : ClientSocket) (hlook : (w.step o e).socks.lookup s = some st')
    (hredir : st'.redirected) :
    ∃ st, w.socks.lookup s = some st ∧ st.redirected ∧ st'.lastConnect = st.lastConnect := by
  rcases World.lookup_step hlook with ⟨netns, -, rfl⟩ | ⟨args, st, rfl, -, rfl⟩ |
    ⟨st, hst, hsame, hlast, -⟩
  · exact nomatch hredir
  · have hred : Redirects o w.maps ((args.call s).ctx o) := by
      simpa [ClientSocket.connect] using hredir
    exact absurd hred (hnot s args rfl)
  · exact ⟨st, hst, by rw [← hsame]; exact hredir, hlast⟩

/-- A step that redirects nothing and leaves the maps and the ledger's claims
    alone keeps the invariant. -/
private theorem LedgerInvariant.frame {o : ByteOrder} {w : World} (h : LedgerInvariant o w)
    {e : SocketEvent}
    (hnot : ∀ s args, e = .connects s args → ¬ Redirects o w.maps ((args.call s).ctx o))
    (hmaps : (w.step o e).maps = w.maps) (howner : (w.step o e).ledger.owner = w.ledger.owner)
    (hports : (w.step o e).ledger.lastOnPort = w.ledger.lastOnPort) :
    LedgerInvariant o (w.step o e) := by
  refine ⟨?_, h.records_step e, ?_, ?_, ?_⟩
  · intro k hk
    rw [hmaps] at hk
    obtain ⟨s, hs, rfl⟩ := List.mem_map.mp (h.known k hk)
    exact List.mem_map_of_mem (World.mem_opened_step e hs)
  · intro k
    rw [hmaps, howner]
    exact h.owned k
  · intro s st' hown hlook hredir
    obtain ⟨st, hst, hst_redir, hlast⟩ := redirected_before hnot s st' hlook hredir
    rw [howner] at hown
    rw [hmaps, hlast]
    exact h.entry s st hown hst hst_redir
  · intro p c hp
    rw [hmaps] at hp
    rw [hports]
    exact h.ports p c hp

/-- An establishment writes the ledger's port and `map_ports` alike; where
    `map_ports` is full and does not have the port, it still has no entry for it. -/
private theorem LedgerInvariant.establish {o : ByteOrder} {w : World} (h : LedgerInvariant o w)
    {s : BitVec 64} {st : ClientSocket} (hlook : w.socks.lookup s = some st) (ep : Endpoints) :
    LedgerInvariant o (w.step o (.establishes s ep)) := by
  have hrecords := h.records_step (.establishes s ep)
  have hbefore := redirected_before (o := o) (w := w) (e := .establishes s ep) nofun
  have hstep := World.step_establishes (o := o) hlook ep
  have hown := h.owned (sockKey o s)
  rw [cgSockOps_establishedCtx] at hstep
  -- `cg_sock_ops` and the ledger both ask whether the cookie's key is known
  by_cases hkey : (w.maps.mapSocks.lookup (sockKey o s)).isSome
  · rw [if_pos hkey, Ledger.establish, if_pos (hown.mpr hkey)] at hstep
    rw [hstep] at hrecords hbefore ⊢
    refine ⟨h.known, hrecords, h.owned, ?_, ?_⟩
    · intro s' st' howner hlook' hredir
      obtain ⟨st₀, hst₀, hredir₀, hlast⟩ := hbefore s' st' hlook' hredir
      rw [hlast]
      exact h.entry s' st₀ howner hst₀ hredir₀
    · intro p c hp
      dsimp only at hp ⊢
      by_cases hpp : p = ep.localPort
      · subst hpp
        -- no room means no entry for the port, so there is none to answer with
        by_cases hroom : w.maps.mapPorts.HasRoom ep.localPort
        · rw [BoundedMap.lookup_update_self_of_hasRoom _ hroom] at hp
          rw [if_pos rfl]
          exact hp
        · rw [BoundedMap.update_of_not_hasRoom _ hroom] at hp
          exact absurd (Or.inl (by rw [hp]; rfl)) hroom
      · rw [BoundedMap.lookup_update_ne _ hpp] at hp
        rw [if_neg hpp]
        exact h.ports p c hp
  · have hno : ¬ (w.ledger.owner (sockKey o s)).isSome := fun hsome => hkey (hown.mp hsome)
    rw [if_neg hkey, Ledger.establish, if_neg hno] at hstep
    exact h.frame nofun (by rw [hstep]) (by rw [hstep]) (by rw [hstep])

/-- Every step keeps the maps in agreement with the ledger while there are fewer
    sockets than places. -/
theorem ledgerInvariant_step {o : ByteOrder} {w : World} (e : SocketEvent)
    (h : LedgerInvariant o w) (hfew : w.ledger.opened.length < maxConnections) :
    LedgerInvariant o (w.step o e) := by
  cases e with
  | opens s netns => exact h.frame (fun _ _ heq => by cases heq) rfl rfl rfl
  | connects s args =>
    cases hlook : w.socks.lookup s with
    | none => rwa [World.step_connects_of_none hlook]
    | some st =>
      -- only a redirected connect writes a map
      by_cases hred : Redirects o w.maps ((args.call s).ctx o)
      · exact h.connect_redirected hfew hlook args hred
      · have hstep := World.step_connects (o := o) hlook args
        rw [cgConnect4_of_not_redirects hred, Ledger.connect, if_neg hred] at hstep
        refine h.frame ?_ (by rw [hstep]) (by rw [hstep]) (by rw [hstep])
        intro s' args' heq
        simp only [SocketEvent.connects.injEq] at heq
        rw [← heq.1, ← heq.2]
        exact hred
  | establishes s ep =>
    cases hlook : w.socks.lookup s with
    | none => rwa [World.step_establishes_of_none hlook]
    | some st => exact h.establish hlook ep
  | queries q => exact h
  | closes s =>
    cases hlook : w.socks.lookup s with
    | none =>
      have hsame : w.step o (.closes s) = w := by simp only [World.step, hlook]
      rwa [hsame]
    | some st =>
      have hstep := World.step_closes (o := o) hlook
      exact h.frame (fun _ _ heq => by cases heq) (by rw [hstep]) (by rw [hstep]) (by rw [hstep])

/-- Where the maps agree with the ledger, a query whose peer the ledger names is
    answered with that peer's destination. -/
theorem answersOwn_of_peerIsLast {o : ByteOrder} {w : World} (e : SocketEvent)
    (h : LedgerInvariant o w) (hlast : PeerIsLast o w e) : AnswersOwn o w e := by
  cases e with
  | queries q =>
    intro ans hans
    obtain ⟨-, -, -, cookie, sock, hport, hsock, haddr, hsport⟩ := cgSockOpt_eq_some hans
    have hremote : bpfNtohs o (q.ctx o).sk.dstPort = q.endpoints.remotePort :=
      bpfNtohs_bpfHtons o _
    rw [hremote] at hport
    obtain ⟨hpeer, howner, st, hlook, hredir, hkept⟩ :=
      hlast (by rw [hans]; rfl) cookie (h.ports _ _ hport)
    obtain ⟨addr, port, hconn, hentry⟩ := h.entry cookie st howner hlook hredir
    refine ⟨cookie, st, hpeer, hlook, hredir, ?_⟩
    -- the entry found under the key is the one this client wrote
    rw [hsock, Option.some.injEq] at hentry
    rw [hentry, originalSocket] at haddr hsport
    rw [hkept addr port hconn] at hsport
    have hsa : ans.sa = ⟨ans.sa.sinFamily, bpfHtons o port, bpfHtonl o addr⟩ := by
      rw [← haddr, ← hsport]
    rw [hconn, hsa, findTarget_inMemory]
  | opens _ _ => trivial
  | connects _ _ => trivial
  | establishes _ _ => trivial
  | closes _ => trivial

/-- In every run of fewer than `MAX_CONNECTIONS` sockets in which the peer of each
    socket whose query is answered is the last redirected client of its port, every
    overridden `getsockopt` answers with the asking connection's own destination. -/
theorem answers_own_of_peer_is_last (o : ByteOrder) (conf : Config)
    (pids : BoundedMap (BitVec 32) (BitVec 8) maxConnections) (es : List SocketEvent)
    (hfew : (Trace.run (World.step o) (World.start conf pids) es).ledger.opened.length <
      maxConnections)
    (hlast : Trace.Along (World.step o) (PeerIsLast o) (World.start conf pids) es) :
    Trace.Along (World.step o) (AnswersOwn o) (World.start conf pids) es := by
  -- sockets are never forgotten, so few at the end means few all along
  have hbound : Trace.Along (World.step o)
      (fun w _ => w.ledger.opened.length < maxConnections) (World.start conf pids) es :=
    Trace.along_lt_of_run_lt (f := fun w : World => w.ledger.opened.length)
      (fun _ e => World.opened_length_step e) hfew
  exact Trace.along_of_invariant (I := LedgerInvariant o)
    (fun w e h hA => ledgerInvariant_step e h hA.1)
    (fun w e h hA => answersOwn_of_peerIsLast e h hA.2)
    (ledgerInvariant_start o conf pids) (hbound.and hlast)

/-! ## One client, and two clients on one port -/

/-- A `getsockopt` of the proxy for the connection a client made to it. -/
def proxyQuery (client : BitVec 64) (ep : Endpoints) : Query :=
  { peer := some client, endpoints := ep.mirror, optname := soOriginalDst, family := afInet,
    protocol := ipprotoTcp, optvalLen := 16 }

/-- From 127.0.0.1:40000 to the proxy. -/
def fromLoopback : Endpoints := ⟨0x7f000001, 40000, 0x7f000001, 18000⟩

/-- From 127.0.0.2:40000 to the proxy. -/
def fromSecondLoopback : Endpoints := ⟨0x7f000002, 40000, 0x7f000001, 18000⟩

/-- A TCP connect to 10.244.2.6:443. -/
def otherPodConnect : ConnectArgs := { podConnect with addr := 0x0af40206, port := 443 }

/-- One client connects through the proxy, which asks where it wanted to go. -/
def oneClient : List SocketEvent :=
  [.opens 1 0, .connects 1 podConnect, .establishes 1 fromLoopback,
    .queries (proxyQuery 1 fromLoopback)]

/-- Two clients of one namespace use source port 40000 from two addresses; the
    proxy asks about the first after the second is established. -/
def twoClients : List SocketEvent :=
  [.opens 1 0, .opens 2 0, .connects 1 podConnect, .connects 2 otherPodConnect,
    .establishes 1 fromLoopback, .establishes 2 fromSecondLoopback,
    .queries (proxyQuery 1 fromLoopback)]

/-- The single client is answered with 10.244.1.5:80. -/
theorem answers_own_oneClient :
    Trace.Along (World.step .little) (AnswersOwn .little)
      (World.start defaultConfig BoundedMap.empty) oneClient := by
  refine answers_own_of_peer_is_last .little defaultConfig BoundedMap.empty oneClient
    (by decide) ⟨trivial, trivial, trivial, ?_, trivial⟩
  intro _ last hlast
  have h : some (1 : BitVec 64) = some last := hlast
  rw [Option.some.injEq] at h
  subst h
  -- on a little-endian build the port is seen as it is
  refine ⟨rfl, rfl, _, rfl, rfl, ?_⟩
  intro addr port _
  rfl

private theorem kernelOk_twoClients :
    Trace.Along (World.step .little) KernelOk (World.start defaultConfig BoundedMap.empty)
      twoClients := by
  have hsecond : (2 : BitVec 64) ∉ [1] := by decide
  refine ⟨List.not_mem_nil, hsecond, ⟨_, rfl, rfl⟩, ⟨_, rfl, rfl⟩, ⟨_, rfl, rfl, rfl, ?_⟩,
    ⟨_, rfl, rfl, rfl, ?_⟩, ?_, trivial⟩
  · decide
  · decide
  · intro c hc
    have h : some (1 : BitVec 64) = some c := hc
    rw [Option.some.injEq] at h
    subst h
    exact ⟨_, rfl, List.mem_cons_self⟩

/-- An answer need not be the asking connection's own: the first client's
    connection is answered with the destination of the second. -/
theorem not_answers_own :
    ¬ ∀ (o : ByteOrder) (conf : Config) (pids : BoundedMap (BitVec 32) (BitVec 8) maxConnections)
        (es : List SocketEvent),
      Trace.Along (World.step o) KernelOk (World.start conf pids) es →
      (Trace.run (World.step o) (World.start conf pids) es).ledger.opened.length < maxConnections →
      Trace.Along (World.step o) (AnswersOwn o) (World.start conf pids) es := by
  intro hclaim
  have hown :=
    hclaim .little defaultConfig BoundedMap.empty twoClients kernelOk_twoClients (by decide)
  obtain ⟨-, -, -, -, -, -, hquery, -⟩ := hown
  -- the answer exists, and the peer of the queried socket is the first client
  obtain ⟨c, st, hpeer, hlook, -, hlast⟩ := hquery _ rfl
  have hc : some (1 : BitVec 64) = some c := hpeer
  rw [Option.some.injEq] at hc
  subst hc
  rw [← Option.some.inj hlook] at hlast
  exact absurd hlast (by decide)

end KubeGateway.Ebpf

import KubeGateway.Native.MirrorsRun

/-!
# Sockets under the hooks

The life of the client sockets whose system calls the hooks see.  A socket is
named by its 64-bit cookie, which the kernel never gives out twice.  A socket
opens, connects (any number of times), is established, is asked about by the
proxy through the socket accepted on the other side, and closes; each step runs
the hook the kernel runs there.

`KernelOk` is what the kernel guarantees of a step.  The `ledger` records, for
the statements only, which socket last wrote each map key; no hook reads it.
-/

namespace KubeGateway.Ebpf

/-- The two ends of an established connection, as its socket sees them. -/
structure Endpoints where
  localAddr : BitVec 32
  localPort : BitVec 16
  remoteAddr : BitVec 32
  remotePort : BitVec 16
  deriving DecidableEq

/-- The same connection seen from the other side. -/
def Endpoints.mirror (ep : Endpoints) : Endpoints :=
  ⟨ep.remoteAddr, ep.remotePort, ep.localAddr, ep.localPort⟩

/-- A client socket: the address and port of its most recent `connect` call,
    whether that call was redirected, what the kernel then connects to, the
    connection it has now, and every connection it ever had. -/
structure ClientSocket where
  netns : Nat
  isOpen : Bool
  lastConnect : Option (BitVec 32 × BitVec 16)
  redirected : Bool
  target : Option (BitVec 32 × BitVec 16)
  established : Option Endpoints
  connections : List Endpoints
  deriving DecidableEq

/-- A socket that has just been opened. -/
def ClientSocket.fresh (netns : Nat) : ClientSocket :=
  { netns := netns, isOpen := true, lastConnect := none, redirected := false, target := none,
    established := none, connections := [] }

/-- Who wrote what: every cookie handed out so far, the socket last redirected
    under each `map_socks` key, and the socket last established from each port
    while `cg_connect4` had redirected a socket with its key. -/
structure Ledger where
  opened : List (BitVec 64)
  owner : BitVec 32 → Option (BitVec 64)
  lastOnPort : BitVec 16 → Option (BitVec 64)

/-- The maps, the client sockets opened so far, and the ledger. -/
structure World where
  maps : Maps
  socks : AList (fun _ : BitVec 64 => ClientSocket)
  ledger : Ledger

/-- A `getsockopt` call on a socket: `peer` is the client socket at its other
    end, where that is one the hooks see. -/
structure Query where
  peer : Option (BitVec 64)
  endpoints : Endpoints
  optname : BitVec 32
  family : BitVec 32
  protocol : BitVec 32
  optvalLen : Nat

/-- The context the kernel hands to `cg_sock_opt`. -/
def Query.ctx (o : ByteOrder) (q : Query) : BpfSockopt :=
  { sk :=
      { family := q.family
        protocol := q.protocol
        dstPort := bpfHtons o q.endpoints.remotePort }
    optname := q.optname
    optvalLen := q.optvalLen }

/-- What a `connect` call carries besides its socket. -/
structure ConnectArgs where
  family : BitVec 32
  protocol : BitVec 32
  addr : BitVec 32
  port : BitVec 16
  pidTgid : BitVec 64
  task : Task

/-- The call of `s` with these arguments. -/
def ConnectArgs.call (args : ConnectArgs) (s : BitVec 64) : ConnectCall :=
  { family := args.family, protocol := args.protocol, addr := args.addr, port := args.port,
    cookie := s, pidTgid := args.pidTgid, task := args.task }

inductive SocketEvent where
  | opens (s : BitVec 64) (netns : Nat)
  | connects (s : BitVec 64) (args : ConnectArgs)
  | establishes (s : BitVec 64) (ep : Endpoints)
  | queries (q : Query)
  | closes (s : BitVec 64)

/-- The address and port a socket connects to after `cg_connect4`, given back in
    host order: the kernel keeps the lower 16 bits of `user_port`. -/
def connectTarget (o : ByteOrder) (ctx : BpfSockAddr) : BitVec 32 × BitVec 16 :=
  (bpfNtohl o ctx.userIp4, bpfNtohs o (ctx.userPort.setWidth 16))

/-- The client socket once its connection is established. -/
def ClientSocket.establish (st : ClientSocket) (ep : Endpoints) : ClientSocket :=
  { st with established := some ep, connections := ep :: st.connections }

/-- The client socket after a `connect` call. -/
def ClientSocket.connect (o : ByteOrder) (m : Maps) (st : ClientSocket) (call : ConnectCall) :
    ClientSocket :=
  { st with
    lastConnect := some (call.addr, call.port)
    redirected := decide (Redirects o m (call.ctx o))
    target := some (connectTarget o (cgConnect4 o m (call.ctx o)).2)
    established := none }

/-- A redirected call makes its socket the owner of its key. -/
def Ledger.connect (o : ByteOrder) (m : Maps) (l : Ledger) (s : BitVec 64) (call : ConnectCall) :
    Ledger :=
  if Redirects o m (call.ctx o) then
    { l with owner := fun k => if k = sockKey o s then some s else l.owner k }
  else l

/-- A socket whose key has an owner takes its local port over. -/
def Ledger.establish (o : ByteOrder) (l : Ledger) (s : BitVec 64) (port : BitVec 16) : Ledger :=
  if (l.owner (sockKey o s)).isSome then
    { l with lastOnPort := fun p => if p = port then some s else l.lastOnPort p }
  else l

/-- The context the kernel hands to `cg_sock_ops` when `s` is established. -/
def establishedCtx (s : BitVec 64) (ep : Endpoints) : BpfSockOps :=
  { op := sockOpsActiveEstablished
    family := afInet
    localPort := ep.localPort.setWidth 32
    cookie := s }

/-- One event.  Events of a socket that was never opened change nothing. -/
def World.step (o : ByteOrder) (w : World) : SocketEvent → World
  | .opens s netns =>
    { w with
      socks := w.socks.insert s (ClientSocket.fresh netns)
      ledger := { w.ledger with opened := s :: w.ledger.opened } }
  | .connects s args =>
    match w.socks.lookup s with
    | none => w
    | some st =>
      { maps := (cgConnect4 o w.maps ((args.call s).ctx o)).1
        socks := w.socks.insert s (st.connect o w.maps (args.call s))
        ledger := w.ledger.connect o w.maps s (args.call s) }
  | .establishes s ep =>
    match w.socks.lookup s with
    | none => w
    | some st =>
      { maps := cgSockOps o w.maps (establishedCtx s ep)
        socks := w.socks.insert s (st.establish ep)
        ledger := w.ledger.establish o s ep.localPort }
  | .queries _ => w
  | .closes s =>
    match w.socks.lookup s with
    | none => w
    | some st =>
      { w with socks := w.socks.insert s { st with isOpen := false, established := none } }

/-- Before any socket opens, with the maps as `LoadEPF` leaves them. -/
def World.start (conf : Config) (pids : BoundedMap (BitVec 32) (BitVec 8) maxConnections) : World :=
  { maps := Maps.loaded conf pids
    socks := ∅
    ledger := { opened := [], owner := fun _ => none, lastOnPort := fun _ => none } }

/-- What the kernel guarantees of a step: cookies are handed out once; only open
    sockets connect; a socket is established to where its `connect` went, and no
    two connections of one network namespace share the whole 4-tuple; the peer
    of a queried socket is the client that made its connection. -/
def KernelOk (w : World) : SocketEvent → Prop
  | .opens s _ => s ∉ w.ledger.opened
  | .connects s _ => ∃ st, w.socks.lookup s = some st ∧ st.isOpen
  | .establishes s ep =>
    ∃ st, w.socks.lookup s = some st ∧ st.isOpen ∧
      st.target = some (ep.remoteAddr, ep.remotePort) ∧
      ∀ other ∈ w.socks.entries, other.1 ≠ s → other.2.netns = st.netns →
        other.2.established ≠ some ep
  | .queries q =>
    ∀ c, q.peer = some c →
      ∃ st, w.socks.lookup c = some st ∧ q.endpoints.mirror ∈ st.connections
  | .closes s => ∃ st, w.socks.lookup s = some st ∧ st.isOpen

/-- The number of sockets open now. -/
def World.openCount (w : World) : Nat := (w.socks.entries.filter (fun e => e.2.isOpen)).length

/-! ## The step, case by case -/

variable {o : ByteOrder} {w : World}

theorem World.step_connects {s : BitVec 64} {st : ClientSocket} (h : w.socks.lookup s = some st)
    (args : ConnectArgs) :
    w.step o (.connects s args) =
      { maps := (cgConnect4 o w.maps ((args.call s).ctx o)).1
        socks := w.socks.insert s (st.connect o w.maps (args.call s))
        ledger := w.ledger.connect o w.maps s (args.call s) } := by
  simp only [World.step, h]

theorem World.step_establishes {s : BitVec 64} {st : ClientSocket}
    (h : w.socks.lookup s = some st) (ep : Endpoints) :
    w.step o (.establishes s ep) =
      { maps := cgSockOps o w.maps (establishedCtx s ep)
        socks := w.socks.insert s (st.establish ep)
        ledger := w.ledger.establish o s ep.localPort } := by
  simp only [World.step, h]

theorem World.step_closes {s : BitVec 64} {st : ClientSocket} (h : w.socks.lookup s = some st) :
    w.step o (.closes s) =
      { w with socks := w.socks.insert s { st with isOpen := false, established := none } } := by
  simp only [World.step, h]

theorem World.step_connects_of_none {s : BitVec 64} (h : w.socks.lookup s = none)
    (args : ConnectArgs) : w.step o (.connects s args) = w := by
  simp only [World.step, h]

theorem World.step_establishes_of_none {s : BitVec 64} (h : w.socks.lookup s = none)
    (ep : Endpoints) : w.step o (.establishes s ep) = w := by
  simp only [World.step, h]

/-- The establishment hook, on the context of an established client: it stores
    the cookie under the local port if `map_socks` has the key. -/
theorem cgSockOps_establishedCtx (o : ByteOrder) (m : Maps) (s : BitVec 64) (ep : Endpoints) :
    cgSockOps o m (establishedCtx s ep) =
      if (m.mapSocks.lookup (sockKey o s)).isSome then
        { m with mapPorts := m.mapPorts.update ep.localPort s }
      else m := by
  -- the context has the port as 32 bits, and the map's key is 16 bits of it
  have hport : (ep.localPort.setWidth 32).setWidth 16 = ep.localPort := by
    simp
  simp only [cgSockOps, establishedCtx, ne_eq, not_true_eq_false, ↓reduceIte, hport]
  cases m.mapSocks.lookup (sockKey o s) <;> simp

/-- Where a record comes from: a fresh socket, the socket's own `connect`, or an
    earlier record of it with the same connect call. -/
theorem World.lookup_step {e : SocketEvent} {s : BitVec 64} {st' : ClientSocket}
    (h : (w.step o e).socks.lookup s = some st') :
    (∃ netns, e = .opens s netns ∧ st' = .fresh netns) ∨
    (∃ args st, e = .connects s args ∧ w.socks.lookup s = some st ∧
      st' = st.connect o w.maps (args.call s)) ∨
    (∃ st, w.socks.lookup s = some st ∧ st'.redirected = st.redirected ∧
      st'.lastConnect = st.lastConnect ∧ ∀ args, e ≠ .connects s args) := by
  cases e with
  | opens s' netns =>
    by_cases hs : s = s'
    · subst hs
      simp only [World.step, AList.lookup_insert, Option.some.injEq] at h
      exact Or.inl ⟨netns, rfl, h.symm⟩
    · simp only [World.step, AList.lookup_insert_ne hs] at h
      exact Or.inr (Or.inr ⟨st', h, rfl, rfl, nofun⟩)
  | connects s' args =>
    cases hlook : w.socks.lookup s' with
    | none =>
      rw [World.step_connects_of_none hlook] at h
      -- a socket without a record cannot be the one that connects
      refine Or.inr (Or.inr ⟨st', h, rfl, rfl, fun args' heq => ?_⟩)
      simp only [SocketEvent.connects.injEq] at heq
      rw [heq.1, h] at hlook
      exact nomatch hlook
    | some st =>
      rw [World.step_connects hlook] at h
      by_cases hs : s = s'
      · subst hs
        simp only [AList.lookup_insert, Option.some.injEq] at h
        exact Or.inr (Or.inl ⟨args, st, rfl, hlook, h.symm⟩)
      · simp only [AList.lookup_insert_ne hs] at h
        refine Or.inr (Or.inr ⟨st', h, rfl, rfl, fun args' heq => ?_⟩)
        simp only [SocketEvent.connects.injEq] at heq
        exact hs heq.1.symm
  | establishes s' ep =>
    cases hlook : w.socks.lookup s' with
    | none =>
      rw [World.step_establishes_of_none hlook] at h
      exact Or.inr (Or.inr ⟨st', h, rfl, rfl, nofun⟩)
    | some st =>
      rw [World.step_establishes hlook] at h
      by_cases hs : s = s'
      · subst hs
        simp only [AList.lookup_insert, Option.some.injEq] at h
        exact Or.inr (Or.inr ⟨st, hlook, by rw [← h]; rfl, by rw [← h]; rfl, nofun⟩)
      · simp only [AList.lookup_insert_ne hs] at h
        exact Or.inr (Or.inr ⟨st', h, rfl, rfl, nofun⟩)
  | queries q => exact Or.inr (Or.inr ⟨st', h, rfl, rfl, nofun⟩)
  | closes s' =>
    cases hlook : w.socks.lookup s' with
    | none =>
      simp only [World.step, hlook] at h
      exact Or.inr (Or.inr ⟨st', h, rfl, rfl, nofun⟩)
    | some st =>
      rw [World.step_closes hlook] at h
      by_cases hs : s = s'
      · subst hs
        simp only [AList.lookup_insert, Option.some.injEq] at h
        exact Or.inr (Or.inr ⟨st, hlook, by rw [← h], by rw [← h], nofun⟩)
      · simp only [AList.lookup_insert_ne hs] at h
        exact Or.inr (Or.inr ⟨st', h, rfl, rfl, nofun⟩)

/-- What a step can do to the maps: nothing, record a redirected `connect`, or
    store the cookie of an established socket whose key is known. -/
theorem World.maps_step (o : ByteOrder) (w : World) (e : SocketEvent) :
    (w.step o e).maps = w.maps ∨
    (∃ s args, e = .connects s args ∧ Redirects o w.maps ((args.call s).ctx o) ∧
      (w.step o e).maps = { w.maps with
        mapSocks := w.maps.mapSocks.update (sockKey o s)
          (originalSocket args.addr (seenPort o args.port)) }) ∨
    (∃ s ep, e = .establishes s ep ∧ (w.maps.mapSocks.lookup (sockKey o s)).isSome ∧
      (w.step o e).maps = { w.maps with
        mapPorts := w.maps.mapPorts.update ep.localPort s }) := by
  cases e with
  | opens s netns => exact Or.inl rfl
  | connects s args =>
    cases hlook : w.socks.lookup s with
    | none => exact Or.inl (by rw [World.step_connects_of_none hlook])
    | some st =>
      rw [World.step_connects hlook]
      by_cases hred : Redirects o w.maps ((args.call s).ctx o)
      · refine Or.inr (Or.inl ⟨s, args, rfl, hred, ?_⟩)
        rw [cgConnect4_of_redirects hred, ctxSocket_ctx]
        rfl
      · exact Or.inl (by rw [cgConnect4_of_not_redirects hred])
  | establishes s ep =>
    cases hlook : w.socks.lookup s with
    | none => exact Or.inl (by rw [World.step_establishes_of_none hlook])
    | some st =>
      rw [World.step_establishes hlook, cgSockOps_establishedCtx]
      by_cases hkey : (w.maps.mapSocks.lookup (sockKey o s)).isSome
      · exact Or.inr (Or.inr ⟨s, ep, rfl, hkey, if_pos hkey⟩)
      · exact Or.inl (if_neg hkey)
  | queries q => exact Or.inl rfl
  | closes s =>
    cases hlook : w.socks.lookup s with
    | none => exact Or.inl (by simp only [World.step, hlook])
    | some st => exact Or.inl (by rw [World.step_closes hlook])

/-- No step ever takes a key out of `map_socks`. -/
theorem World.isSome_mapSocks_step (e : SocketEvent) {k : BitVec 32}
    (h : (w.maps.mapSocks.lookup k).isSome) :
    ((w.step o e).maps.mapSocks.lookup k).isSome := by
  cases e with
  | opens s netns => exact h
  | connects s args =>
    cases hlook : w.socks.lookup s with
    | none => rwa [World.step_connects_of_none hlook]
    | some st =>
      rw [World.step_connects hlook]
      -- an update adds a key or keeps the keys there are
      by_cases hred : Redirects o w.maps ((args.call s).ctx o)
      · simp only [cgConnect4_of_redirects hred]
        exact BoundedMap.isSome_lookup_update _ h
      · simpa only [cgConnect4_of_not_redirects hred] using h
  | establishes s ep =>
    cases hlook : w.socks.lookup s with
    | none => rwa [World.step_establishes_of_none hlook]
    | some st => rwa [World.step_establishes hlook, cgSockOps_mapSocks]
  | queries q => exact h
  | closes s =>
    cases hlook : w.socks.lookup s with
    | none => simpa only [World.step, hlook] using h
    | some st => rwa [World.step_closes hlook]

/-- The cookies handed out only grow, by the cookie of an `opens` event. -/
theorem World.opened_step (e : SocketEvent) :
    (w.step o e).ledger.opened = w.ledger.opened ∨
      ∃ s netns, e = .opens s netns ∧ (w.step o e).ledger.opened = s :: w.ledger.opened := by
  cases e with
  | opens s netns => exact Or.inr ⟨s, netns, rfl, rfl⟩
  | connects s args =>
    cases hlook : w.socks.lookup s with
    | none => exact Or.inl (by rw [World.step_connects_of_none hlook])
    | some st =>
      rw [World.step_connects hlook]
      simp only [Ledger.connect]
      split <;> exact Or.inl rfl
  | establishes s ep =>
    cases hlook : w.socks.lookup s with
    | none => exact Or.inl (by rw [World.step_establishes_of_none hlook])
    | some st =>
      rw [World.step_establishes hlook]
      simp only [Ledger.establish]
      split <;> exact Or.inl rfl
  | queries q => exact Or.inl rfl
  | closes s =>
    cases hlook : w.socks.lookup s with
    | none => exact Or.inl (by simp only [World.step, hlook])
    | some st => exact Or.inl (by rw [World.step_closes hlook])

theorem World.opened_length_step (e : SocketEvent) :
    w.ledger.opened.length ≤ (w.step o e).ledger.opened.length := by
  rcases World.opened_step (o := o) (w := w) e with h | ⟨s, netns, -, h⟩
  · rw [h]
  · rw [h, List.length_cons]
    omega

theorem World.mem_opened_step (e : SocketEvent) {s : BitVec 64} (h : s ∈ w.ledger.opened) :
    s ∈ (w.step o e).ledger.opened := by
  rcases World.opened_step (o := o) (w := w) e with hsame | ⟨s', netns, -, hnew⟩
  · rwa [hsame]
  · rw [hnew]
    exact List.mem_cons_of_mem _ h

/-! ## A default gateway -/

/-- The default flags of the gateway, in tunnel mode, with pid 1. -/
def defaultConfig : Config :=
  { proxyAddr := 0x7f000001, proxyPort := 18000, proxyPid := 1, podCidr := 0x0af40000,
    svcCidr := 0, podPrefixLength := 16, svcPrefixLength := 0, cidrs := 1, debug := 0, tunnel := 1 }

/-- A TCP connect to 10.244.1.5:80 by process 7. -/
def podConnect : ConnectArgs :=
  { family := afInet, protocol := ipprotoTcp, addr := 0x0af40105, port := 80,
    pidTgid := 0x0000000700000007,
    task := { ids := ⟨0, fun _ => 7⟩, realParent := ⟨0, fun _ => 1⟩, inum := 0 } }

/-- The default gateway redirects that call, whichever socket makes it. -/
theorem redirects_podConnect {m : Maps} (h : m.mapConfig = defaultConfig) (s : BitVec 64) :
    Redirects .little m ((podConnect.call s).ctx .little) := by
  have hpid : decide ((0x0000000700000007 : BitVec 64) >>> 32 = 1) = false := by decide
  have hcidr : bpfHtonl .little (bpfHtonl .little 0x0af40105) &&& podMask defaultConfig =
      defaultConfig.podCidr := by decide
  have hport : (bpfNtohl .little ((bpfHtons .little 80).setWidth 32) >>> 16).setWidth 16 ∉
      exemptPorts := by decide
  refine ⟨rfl, rfl, ?_, ?_, hport⟩
  · rw [h]
    exact hcidr
  · simp only [skipsProcess, h, if_pos (show defaultConfig.tunnel = 1 from rfl)]
    exact hpid

end KubeGateway.Ebpf

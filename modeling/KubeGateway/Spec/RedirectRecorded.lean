import KubeGateway.Native.Sockets

/-!
# When a redirect is recorded

`cg_connect4` ignores the result of the map update and redirects regardless;
nothing is ever deleted.  A redirect is recorded exactly while the maps have
room: an induction over the run shows that each redirected `connect` finds its
destination in `map_socks`, and each establishment its cookie in `map_ports`,
if and only if every one of these steps met a map with the key or with a free
place.  Once `MAX_CONNECTIONS` keys have been used, a socket that is the only
one open is redirected without a record.
-/

namespace KubeGateway.Ebpf

/-- What a step should leave behind: the original destination of a redirected
    `connect` under its socket's key, and the cookie of an established
    redirected socket under its local port. -/
def RecordsRedirect (o : ByteOrder) (w : World) : SocketEvent → Prop
  | .connects s args =>
    ∀ st, w.socks.lookup s = some st → Redirects o w.maps ((args.call s).ctx o) →
      (w.step o (.connects s args)).maps.mapSocks.lookup (sockKey o s) =
        some (originalSocket args.addr args.port)
  | .establishes s ep =>
    ∀ st, w.socks.lookup s = some st → st.redirected →
      (w.step o (.establishes s ep)).maps.mapPorts.lookup ep.localPort = some s
  | _ => True

/-- The step meets maps with room for what it has to record, and the object's
    byte order does not lose the port. -/
def RoomToRecord (o : ByteOrder) (w : World) : SocketEvent → Prop
  | .connects s args =>
    ∀ st, w.socks.lookup s = some st → Redirects o w.maps ((args.call s).ctx o) →
      w.maps.mapSocks.HasRoom (sockKey o s) ∧ seenPort o args.port = args.port
  | .establishes s ep =>
    ∀ st, w.socks.lookup s = some st → st.redirected → w.maps.mapPorts.HasRoom ep.localPort
  | _ => True

/-- The key of every redirected socket is in `map_socks`. -/
def RedirectedKnown (o : ByteOrder) (w : World) : Prop :=
  ∀ s st, w.socks.lookup s = some st → st.redirected →
    (w.maps.mapSocks.lookup (sockKey o s)).isSome

theorem originalSocket_inj {a a' : BitVec 32} {p p' : BitVec 16} :
    originalSocket a p = originalSocket a' p' ↔ a = a' ∧ p = p' := by
  simp [originalSocket]

/-- A redirected `connect` finds its destination recorded exactly if there was room. -/
private theorem recorded_connect_iff {o : ByteOrder} {w : World} {s : BitVec 64}
    {args : ConnectArgs} {st : ClientSocket} (hlook : w.socks.lookup s = some st)
    (hred : Redirects o w.maps ((args.call s).ctx o)) :
    (w.step o (.connects s args)).maps.mapSocks.lookup (sockKey o s) =
        some (originalSocket args.addr args.port) ↔
      w.maps.mapSocks.HasRoom (sockKey o s) ∧ seenPort o args.port = args.port := by
  have hcookie : ((args.call s).ctx o).cookie = s := rfl
  rw [World.step_connects hlook, cgConnect4_of_redirects hred, hcookie, ctxSocket_ctx]
  constructor
  · intro h
    by_cases hroom : w.maps.mapSocks.HasRoom (sockKey o s)
    · rw [BoundedMap.lookup_update_self_of_hasRoom _ hroom, Option.some.injEq,
        originalSocket_inj] at h
      exact ⟨hroom, h.2⟩
    · -- without room the map is as before, and holding any value means room
      rw [BoundedMap.update_of_not_hasRoom _ hroom] at h
      exact absurd (Or.inl (by rw [h]; rfl)) hroom
  · rintro ⟨hroom, hport⟩
    have hport' : seenPort o (args.call s).port = args.port := hport
    rw [BoundedMap.lookup_update_self_of_hasRoom _ hroom, hport']
    rfl

/-- An established socket with a known key finds its cookie stored exactly if
    there was room. -/
private theorem recorded_establish_iff {o : ByteOrder} {w : World} {s : BitVec 64}
    {ep : Endpoints} {st : ClientSocket} (hlook : w.socks.lookup s = some st)
    (hkey : (w.maps.mapSocks.lookup (sockKey o s)).isSome) :
    (w.step o (.establishes s ep)).maps.mapPorts.lookup ep.localPort = some s ↔
      w.maps.mapPorts.HasRoom ep.localPort := by
  rw [World.step_establishes hlook, cgSockOps_establishedCtx, if_pos hkey]
  exact BoundedMap.lookup_update_self_eq_some

/-- A step that records its redirect keeps every redirected socket known. -/
private theorem redirectedKnown_step {o : ByteOrder} {w : World} (e : SocketEvent)
    (h : RedirectedKnown o w) (hrec : RecordsRedirect o w e) : RedirectedKnown o (w.step o e) := by
  intro s st' hlook hredir
  rcases World.lookup_step hlook with ⟨netns, -, rfl⟩ | ⟨args, st, rfl, hst, rfl⟩ |
    ⟨st, hst, hsame, -, -⟩
  · exact nomatch hredir
  · -- the socket's own connect: it was redirected, so this step recorded it
    have hred : Redirects o w.maps ((args.call s).ctx o) := by
      simpa [ClientSocket.connect] using hredir
    rw [hrec st hst hred]
    rfl
  · rw [hsame] at hredir
    exact World.isSome_mapSocks_step e (h s st hst hredir)

/-- In every run, every redirect is recorded if and only if every step that had
    something to record met room for it. -/
theorem redirect_recorded_iff_room (o : ByteOrder) (conf : Config)
    (pids : BoundedMap (BitVec 32) (BitVec 8) maxConnections) (es : List SocketEvent) :
    Trace.Along (World.step o) (RecordsRedirect o) (World.start conf pids) es ↔
      Trace.Along (World.step o) (RoomToRecord o) (World.start conf pids) es := by
  -- the invariant makes the two properties agree at an establishment: the key a
  -- redirected socket needs is there, so only room in `map_ports` is left to ask
  have hstart : RedirectedKnown o (World.start conf pids) := by
    intro s st h
    exact nomatch h
  refine Trace.along_iff_of_invariant (I := RedirectedKnown o)
    (fun w e h hrec => redirectedKnown_step e h hrec) ?_ hstart
  intro w e hknown
  cases e with
  | connects s args =>
    exact forall_congr' fun st => imp_congr_right fun hlook => imp_congr_right fun hred =>
      recorded_connect_iff hlook hred
  | establishes s ep =>
    exact forall_congr' fun st => imp_congr_right fun hlook => imp_congr_right fun hredir =>
      recorded_establish_iff hlook (hknown s st hlook hredir)
  | opens _ _ => exact Iff.rfl
  | queries _ => exact Iff.rfl
  | closes _ => exact Iff.rfl

/-! ## A full map

One socket at a time opens, connects and closes, each with the next cookie.
After `MAX_CONNECTIONS` of them `map_socks` is full, and the next one, alone on
the node, is redirected without a record. -/

/-- The `n`-th socket opens, connects to the pod and closes. -/
def oneSocket (n : Nat) : List SocketEvent :=
  [.opens (BitVec.ofNat 64 n) 0, .connects (BitVec.ofNat 64 n) podConnect,
    .closes (BitVec.ofNat 64 n)]

/-- The first `n` sockets, one after the other. -/
def socketsInTurn (n : Nat) : List SocketEvent := (List.range n).flatMap oneSocket

/-- The world after the first `n` sockets: all closed, each with its own key. -/
structure Filled (n : Nat) (w : World) : Prop where
  config : w.maps.mapConfig = defaultConfig
  size : w.maps.mapSocks.size = n
  keys : ∀ k, (w.maps.mapSocks.lookup k).isSome → k.toNat < n
  cookies : ∀ s ∈ w.ledger.opened, s.toNat < n
  closed : ∀ s st, w.socks.lookup s = some st → st.isOpen = false

/-- With every record closed, nothing is open. -/
private theorem openCount_eq_zero {w : World}
    (h : ∀ s st, w.socks.lookup s = some st → st.isOpen = false) : w.openCount = 0 := by
  rw [World.openCount, List.length_eq_zero_iff, List.filter_eq_nil_iff]
  intro e he
  rw [h e.1 e.2 (AList.mem_lookup_iff.mpr he)]
  exact Bool.false_ne_true

/-- Writing one record opens at most one socket more. -/
private theorem openCount_insert_le (w : World) (s : BitVec 64) (st : ClientSocket) :
    ((w.socks.insert s st).entries.filter (fun e => e.2.isOpen)).length ≤ w.openCount + 1 := by
  rw [AList.entries_insert, List.filter_cons]
  have hsub := ((List.kerase_sublist s w.socks.entries).filter (fun e => e.2.isOpen)).length_le
  split
  · rw [List.length_cons]
    exact Nat.succ_le_succ hsub
  · exact Nat.le_succ_of_le hsub

private theorem sockKey_ofNat {n : Nat} (h : n ≤ maxConnections) :
    (sockKey .little (BitVec.ofNat 64 n)).toNat = n := by
  have hn : n ≤ 20000 := h
  simp only [sockKey, BitVec.extractLsb'_toNat, BitVec.toNat_ofNat, Nat.shiftRight_zero]
  omega

/-- After the first `n` sockets the next key is new. -/
theorem Filled.lookup_next {n : Nat} {w : World} (h : Filled n w) (hn : n ≤ maxConnections) :
    w.maps.mapSocks.lookup (sockKey .little (BitVec.ofNat 64 n)) = none := by
  rw [← Option.not_isSome_iff_eq_none]
  intro hsome
  have := h.keys _ hsome
  rw [sockKey_ofNat hn] at this
  exact Nat.lt_irrefl n this

/-- The world once the `n`-th socket has opened. -/
private def opened (w : World) (n : Nat) : World := w.step .little (.opens (BitVec.ofNat 64 n) 0)

/-- The world once the `n`-th socket has connected. -/
private def connected (w : World) (n : Nat) : World :=
  (opened w n).step .little (.connects (BitVec.ofNat 64 n) podConnect)

private theorem lookup_opened (w : World) (n : Nat) :
    (opened w n).socks.lookup (BitVec.ofNat 64 n) = some (ClientSocket.fresh 0) :=
  AList.lookup_insert _

private theorem connected_mapSocks {w : World} (h : w.maps.mapConfig = defaultConfig) (n : Nat) :
    (connected w n).maps.mapSocks =
      w.maps.mapSocks.update (sockKey .little (BitVec.ofNat 64 n))
        (originalSocket podConnect.addr podConnect.port) := by
  have hred : Redirects .little (opened w n).maps
      ((podConnect.call (BitVec.ofNat 64 n)).ctx .little) := redirects_podConnect h _
  rw [connected, World.step_connects (lookup_opened w n), cgConnect4_of_redirects hred,
    ctxSocket_ctx]
  rfl

private theorem lookup_connected (w : World) (n : Nat) :
    (connected w n).socks.lookup (BitVec.ofNat 64 n) =
      some ((ClientSocket.fresh 0).connect .little w.maps
        (podConnect.call (BitVec.ofNat 64 n))) := by
  rw [connected, World.step_connects (lookup_opened w n)]
  exact AList.lookup_insert _

/-- One more socket fills one more place. -/
private theorem Filled.step {n : Nat} {w : World} (h : Filled n w) (hn : n < maxConnections) :
    Filled (n + 1) (Trace.run (World.step .little) w (oneSocket n)) := by
  have hmaps : (connected w n).maps.mapSocks = _ := connected_mapSocks h.config n
  have hopened : (connected w n).ledger.opened = BitVec.ofNat 64 n :: w.ledger.opened := by
    rw [connected, World.step_connects (lookup_opened w n)]
    simp only [Ledger.connect]
    split <;> rfl
  simp only [oneSocket, Trace.run_cons, Trace.run_nil]
  change Filled (n + 1) ((connected w n).step .little (.closes (BitVec.ofNat 64 n)))
  rw [World.step_closes (lookup_connected w n)]
  refine ⟨?_, ?_, ?_, ?_, ?_⟩
  · simp only [connected, World.step_connects (lookup_opened w n), cgConnect4_mapConfig]
    exact h.config
  · simp only [hmaps]
    -- a new key in a map with room: one entry more
    rw [BoundedMap.size_update_of_hasRoom _ (h.lookup_next (Nat.le_of_lt hn))
        (by rw [h.size]; exact hn),
      h.size]
  · intro k hk
    simp only [hmaps] at hk
    obtain ⟨sock, hsock⟩ := Option.isSome_iff_exists.mp hk
    rcases BoundedMap.lookup_update_eq_some hsock with ⟨rfl, -⟩ | hold
    · rw [sockKey_ofNat (Nat.le_of_lt hn)]
      exact Nat.lt_succ_self n
    · exact Nat.lt_succ_of_lt (h.keys k (by rw [hold]; rfl))
  · intro s hs
    simp only [hopened, List.mem_cons] at hs
    rcases hs with rfl | hs
    · rw [BitVec.toNat_ofNat]
      omega
    · exact Nat.lt_succ_of_lt (h.cookies s hs)
  · intro s st hst
    by_cases hs : s = BitVec.ofNat 64 n
    · subst hs
      simp only [AList.lookup_insert, Option.some.injEq] at hst
      rw [← hst]
    · simp only [AList.lookup_insert_ne hs, connected,
        World.step_connects (lookup_opened w n)] at hst
      simp only [opened, World.step, AList.lookup_insert_ne hs] at hst
      exact h.closed s st hst

/-- The kernel allows the next socket, and it is the only one open. -/
private theorem Filled.allowed {n : Nat} {w : World} (h : Filled n w) (hn : n ≤ maxConnections) :
    Trace.Along (World.step .little)
      (fun w e => KernelOk w e ∧ (w.step .little e).openCount ≤ maxConnections) w
      (oneSocket n) := by
  -- a crude count is enough: each of the three writes opens at most one socket
  have hzero := openCount_eq_zero h.closed
  have hfresh : (BitVec.ofNat 64 n) ∉ w.ledger.opened := by
    intro hmem
    have hlt := h.cookies _ hmem
    have hsmall : n ≤ 20000 := hn
    rw [BitVec.toNat_ofNat] at hlt
    omega
  have hone : (opened w n).openCount ≤ 1 := by
    have := openCount_insert_le w (BitVec.ofNat 64 n) (ClientSocket.fresh 0)
    rwa [hzero] at this
  have htwo : (connected w n).openCount ≤ 2 := by
    rw [connected, World.step_connects (lookup_opened w n)]
    exact Nat.le_trans (openCount_insert_le (opened w n) _ _) (Nat.succ_le_succ hone)
  have hthree : ((connected w n).step .little (.closes (BitVec.ofNat 64 n))).openCount ≤ 3 := by
    rw [World.step_closes (lookup_connected w n)]
    exact Nat.le_trans (openCount_insert_le (connected w n) _ _) (Nat.succ_le_succ htwo)
  refine ⟨⟨hfresh, Nat.le_trans hone (by decide)⟩,
    ⟨⟨_, lookup_opened w n, rfl⟩, Nat.le_trans htwo (by decide)⟩,
    ⟨⟨_, lookup_connected w n, rfl⟩, Nat.le_trans hthree (by decide)⟩, trivial⟩

/-- After the first `n ≤ MAX_CONNECTIONS` sockets, `n` places are filled. -/
theorem filled_socketsInTurn (pids : BoundedMap (BitVec 32) (BitVec 8) maxConnections)
    (n : Nat) (hn : n ≤ maxConnections) :
    Filled n (Trace.run (World.step .little) (World.start defaultConfig pids) (socketsInTurn n)) ∧
      Trace.Along (World.step .little)
        (fun w e => KernelOk w e ∧ (w.step .little e).openCount ≤ maxConnections)
        (World.start defaultConfig pids) (socketsInTurn n) := by
  induction n with
  | zero =>
    refine ⟨⟨rfl, BoundedMap.size_empty, ?_, nofun, nofun⟩, trivial⟩
    intro k hk
    simp [socketsInTurn, World.start, Maps.loaded] at hk
  | succ n ih =>
    obtain ⟨hfilled, halong⟩ := ih (Nat.le_of_succ_le hn)
    have hsplit : socketsInTurn (n + 1) = socketsInTurn n ++ oneSocket n := by
      simp only [socketsInTurn, List.range_succ, List.flatMap_append, List.flatMap_cons,
        List.flatMap_nil, List.append_nil]
    rw [hsplit, Trace.run_append, Trace.along_append]
    exact ⟨hfilled.step hn, halong, hfilled.allowed (Nat.le_of_succ_le hn)⟩

/-- With the map full, the next redirect leaves no record. -/
private theorem Filled.not_recorded {n : Nat} {w : World} (h : Filled n w)
    (hn : n = maxConnections) :
    ¬ Trace.Along (World.step .little) (RecordsRedirect .little) w (oneSocket n) := by
  rintro ⟨-, hrec, -⟩
  have hlook := hrec _ (lookup_opened w n)
    (redirects_podConnect (m := (opened w n).maps) h.config _)
  -- the key is new and all `MAX_CONNECTIONS` places are taken
  have hroom : ¬ w.maps.mapSocks.HasRoom (sockKey .little (BitVec.ofNat 64 n)) := by
    rintro (hkey | hsize)
    · rw [h.lookup_next (Nat.le_of_eq hn)] at hkey
      exact nomatch hkey
    · rw [h.size, hn] at hsize
      exact Nat.lt_irrefl _ hsize
  have hmaps : ((opened w n).step .little
      (.connects (BitVec.ofNat 64 n) podConnect)).maps.mapSocks = _ := connected_mapSocks h.config n
  rw [opened] at hmaps
  rw [hmaps, BoundedMap.update_of_not_hasRoom _ hroom, h.lookup_next (Nat.le_of_eq hn)] at hlook
  exact nomatch hlook

/-- A redirect is not always recorded: with never more than `MAX_CONNECTIONS`
    sockets open (here one at a time), socket number `MAX_CONNECTIONS + 1` is
    redirected and leaves no record. -/
theorem not_redirect_always_recorded :
    ¬ ∀ (o : ByteOrder) (conf : Config) (pids : BoundedMap (BitVec 32) (BitVec 8) maxConnections)
        (es : List SocketEvent),
      Trace.Along (World.step o) KernelOk (World.start conf pids) es →
      Trace.Along (World.step o) (fun w e => (w.step o e).openCount ≤ maxConnections)
        (World.start conf pids) es →
      Trace.Along (World.step o) (RecordsRedirect o) (World.start conf pids) es := by
  intro hclaim
  -- kept as a variable, so that nothing evaluates a run of this length
  obtain ⟨n, hn⟩ : ∃ n, n = maxConnections := ⟨_, rfl⟩
  obtain ⟨hfilled, halong⟩ := filled_socketsInTurn BoundedMap.empty n (Nat.le_of_eq hn)
  have hall := Trace.along_append.mpr ⟨halong, hfilled.allowed (Nat.le_of_eq hn)⟩
  have hrec := hclaim .little defaultConfig BoundedMap.empty _
    (hall.mono fun _ _ h => h.1) (hall.mono fun _ _ h => h.2)
  exact hfilled.not_recorded hn (Trace.along_append.mp hrec).2

end KubeGateway.Ebpf

import KubeGateway.Spec.RedirectRecorded

/-!
# Full maps stay full

Nothing ever leaves `map_socks`, so the node comes to a point from which there
is no way back: once `MAX_CONNECTIONS` keys are taken, the keys are the same
for ever.  `cg_connect4` does not notice and redirects every socket as it did
on empty maps.  A socket whose key is not among them leaves no trace in the
maps, whatever it does from then on, and whatever `cg_sock_opt` answers about
its port is where some other socket wanted to go.
-/

namespace KubeGateway.Ebpf

/-! ## What a run keeps -/

/-- `map_socks` is full, with the keys of `known`. -/
structure Saturated (known : BitVec 32 → Prop) (w : World) : Prop where
  full : w.maps.mapSocks.size = maxConnections
  keys : ∀ k, (w.maps.mapSocks.lookup k).isSome ↔ known k

theorem Saturated.step {o : ByteOrder} {known : BitVec 32 → Prop} {w : World}
    (h : Saturated known w) (e : SocketEvent) : Saturated known (w.step o e) := by
  rcases World.maps_step o w e with hmaps | ⟨s, args, -, -, hmaps⟩ | ⟨s, ep, -, -, hmaps⟩
  · exact ⟨by rw [hmaps]; exact h.full, by rw [hmaps]; exact h.keys⟩
  · -- a full map takes the new value only under a key it has
    refine ⟨?_, fun k => ?_⟩
    · rw [hmaps]
      exact BoundedMap.size_update_of_full _ _ h.full
    · rw [hmaps]
      exact (BoundedMap.isSome_lookup_update_of_full _ h.full).trans (h.keys k)
  · exact ⟨by rw [hmaps]; exact h.full, by rw [hmaps]; exact h.keys⟩

/-- What the maps say of the run so far: configuration and processes are as
    loaded, and every entry is the destination of a `connect` under its key. -/
structure Recorded (o : ByteOrder) (loaded : Maps) (history : List SocketEvent) (w : World) :
    Prop where
  config : w.maps.mapConfig = loaded.mapConfig
  pids : w.maps.mapPids = loaded.mapPids
  entry : ∀ key sock, w.maps.mapSocks.lookup key = some sock →
    ∃ s args, .connects s args ∈ history ∧ sockKey o s = key ∧
      sock = originalSocket args.addr (seenPort o args.port)

theorem Recorded.step {o : ByteOrder} {loaded : Maps} {history : List SocketEvent} {w : World}
    (h : Recorded o loaded history w) (e : SocketEvent) :
    Recorded o loaded (history ++ [e]) (w.step o e) := by
  have hkeep : ∀ key sock, w.maps.mapSocks.lookup key = some sock →
      ∃ s args, .connects s args ∈ history ++ [e] ∧ sockKey o s = key ∧
        sock = originalSocket args.addr (seenPort o args.port) := by
    intro key sock hsock
    obtain ⟨s, args, hmem, hkey, hval⟩ := h.entry key sock hsock
    exact ⟨s, args, List.mem_append_left _ hmem, hkey, hval⟩
  rcases World.maps_step o w e with hmaps | ⟨s, args, rfl, -, hmaps⟩ | ⟨s, ep, -, -, hmaps⟩
  · exact ⟨by rw [hmaps]; exact h.config, by rw [hmaps]; exact h.pids, by rw [hmaps]; exact hkeep⟩
  · refine ⟨by rw [hmaps]; exact h.config, by rw [hmaps]; exact h.pids, ?_⟩
    intro key sock hsock
    rw [hmaps] at hsock
    rcases BoundedMap.lookup_update_eq_some hsock with ⟨hkey, hval⟩ | hold
    · exact ⟨s, args, List.mem_append_right _ (List.mem_singleton.mpr rfl), hkey.symm, hval⟩
    · exact hkeep key sock hold
  · exact ⟨by rw [hmaps]; exact h.config, by rw [hmaps]; exact h.pids, by rw [hmaps]; exact hkeep⟩

theorem recorded_run (o : ByteOrder) (conf : Config)
    (pids : BoundedMap (BitVec 32) (BitVec 8) maxConnections) (es : List SocketEvent) :
    Recorded o (Maps.loaded conf pids) es
      (Trace.run (World.step o) (World.start conf pids) es) := by
  refine Trace.run_history_invariant ?_ (fun history e h => h.step e) es
  refine ⟨rfl, rfl, ?_⟩
  intro key sock hsock
  simp [World.start, Maps.loaded] at hsock

/-! ## The hooks on full maps -/

/-- Which calls are redirected depends on the configuration and the processes only. -/
theorem Redirects.congr {o : ByteOrder} {m m' : Maps} (hconf : m.mapConfig = m'.mapConfig)
    (hpids : m.mapPids = m'.mapPids) (ctx : BpfSockAddr) :
    Redirects o m ctx ↔ Redirects o m' ctx := by
  simp only [redirects_iff, skipsProcess, hconf, hpids]

/-- So does what the call becomes. -/
theorem cgConnect4_ctx_congr {o : ByteOrder} {m m' : Maps} (hconf : m.mapConfig = m'.mapConfig)
    (hpids : m.mapPids = m'.mapPids) (ctx : BpfSockAddr) :
    (cgConnect4 o m ctx).2 = (cgConnect4 o m' ctx).2 := by
  have hiff := Redirects.congr (o := o) hconf hpids ctx
  by_cases h : Redirects o m ctx
  · rw [cgConnect4_of_redirects h, cgConnect4_of_redirects (hiff.mp h), hconf]
  · rw [cgConnect4_of_not_redirects h, cgConnect4_of_not_redirects (fun h' => h (hiff.mpr h'))]

/-- A socket with a new key writes nothing into a full map. -/
theorem Saturated.maps_step_new {o : ByteOrder} {known : BitVec 32 → Prop} {w : World}
    (h : Saturated known w) {s : BitVec 64} (hnew : ¬ known (sockKey o s)) :
    (∀ args, (w.step o (.connects s args)).maps = w.maps) ∧
      ∀ ep, (w.step o (.establishes s ep)).maps = w.maps := by
  have hkey : ¬ (w.maps.mapSocks.lookup (sockKey o s)).isSome := fun hsome =>
    hnew ((h.keys _).mp hsome)
  refine ⟨fun args => ?_, fun ep => ?_⟩
  · rcases World.maps_step o w (.connects s args) with hmaps | ⟨s', args', heq, -, hmaps⟩ |
      ⟨s', ep', heq, -⟩
    · exact hmaps
    · simp only [SocketEvent.connects.injEq] at heq
      obtain ⟨rfl, rfl⟩ := heq
      rw [hmaps, BoundedMap.update_of_not_hasRoom _
        (mt (BoundedMap.hasRoom_iff_of_full h.full).mp hkey)]
    · cases heq
  · rcases World.maps_step o w (.establishes s ep) with hmaps | ⟨s', args', heq, -⟩ |
      ⟨s', ep', heq, hsome, -⟩
    · exact hmaps
    · cases heq
    · simp only [SocketEvent.establishes.injEq] at heq
      obtain ⟨rfl, rfl⟩ := heq
      exact absurd hsome hkey

/-- An answer names the destination of a `connect` whose key is known. -/
theorem Recorded.answer {o : ByteOrder} {loaded : Maps} {history : List SocketEvent} {w : World}
    (h : Recorded o loaded history w) {ctx : BpfSockopt} {ans : SockoptAnswer}
    (hans : cgSockOpt o w.maps ctx = some ans) :
    ∃ s args, .connects s args ∈ history ∧
      (w.maps.mapSocks.lookup (sockKey o s)).isSome ∧
      findTarget (ans.sa.inMemory o) = (args.addr, seenPort o args.port) := by
  obtain ⟨-, -, -, cookie, sock, -, hsock, haddr, hport⟩ := cgSockOpt_eq_some hans
  obtain ⟨s, args, hmem, hkey, hval⟩ := h.entry _ _ hsock
  refine ⟨s, args, hmem, by rw [hkey, hsock]; rfl, ?_⟩
  -- the answer is the entry in network byte order, which `findTarget` turns back
  have hsa : ans.sa = ⟨ans.sa.sinFamily, bpfHtons o sock.dstPort, bpfHtonl o sock.dstAddr⟩ := by
    rw [← haddr, ← hport]
  rw [hsa, findTarget_inMemory, hval]
  rfl

/-! ## For good -/

/-- Once a run has filled `map_socks`, every socket whose key it does not have
    is lost for the rest of the node's life, whatever the sockets do after that:
    `cg_connect4` treats every call as it does on the maps as loaded, the maps
    stay as they are when that socket connects or is established, and no answer
    is made from a `connect` of a socket with its key. -/
theorem saturated_for_good (o : ByteOrder) (conf : Config)
    (pids : BoundedMap (BitVec 32) (BitVec 8) maxConnections) (es es' : List SocketEvent)
    (s : BitVec 64)
    (hfull : (Trace.run (World.step o) (World.start conf pids) es).maps.mapSocks.size =
      maxConnections)
    (hnew : (Trace.run (World.step o) (World.start conf pids) es).maps.mapSocks.lookup
      (sockKey o s) = none) :
    let w := Trace.run (World.step o) (World.start conf pids) (es ++ es')
    (∀ ctx, (cgConnect4 o w.maps ctx).2 = (cgConnect4 o (Maps.loaded conf pids) ctx).2) ∧
    (∀ args, (w.step o (.connects s args)).maps = w.maps) ∧
    (∀ ep, (w.step o (.establishes s ep)).maps = w.maps) ∧
    (∀ ctx ans, cgSockOpt o w.maps ctx = some ans →
      ∃ s' args, .connects s' args ∈ es ++ es' ∧ sockKey o s' ≠ sockKey o s ∧
        findTarget (ans.sa.inMemory o) = (args.addr, seenPort o args.port)) := by
  intro w
  have hrec : Recorded o (Maps.loaded conf pids) (es ++ es') w := recorded_run o conf pids _
  -- the keys there are when the map fills up are the keys there will ever be
  have hsat : Saturated (fun k => ((Trace.run (World.step o) (World.start conf pids)
      es).maps.mapSocks.lookup k).isSome) w := by
    rw [show w = Trace.run (World.step o)
      (Trace.run (World.step o) (World.start conf pids) es) es' from Trace.run_append ..]
    exact Trace.run_invariant (fun w e h => h.step e) ⟨hfull, fun k => Iff.rfl⟩
  obtain ⟨hconnects, hestablishes⟩ := hsat.maps_step_new (s := s) (o := o) (by rw [hnew]; simp)
  refine ⟨cgConnect4_ctx_congr hrec.config hrec.pids, hconnects, hestablishes, ?_⟩
  intro ctx ans hans
  obtain ⟨s', args, hmem, hsome, htarget⟩ := hrec.answer hans
  refine ⟨s', args, hmem, fun hkey => ?_, htarget⟩
  rw [hsat.keys, hkey, hnew] at hsome
  exact Bool.false_ne_true hsome

/-- After `MAX_CONNECTIONS` short connections, one at a time, the next socket is
    redirected and leaves no trace. -/
theorem saturated_for_good_socketsInTurn :
    ∃ n, n = maxConnections ∧ ∀ pids,
      let w := Trace.run (World.step .little) (World.start defaultConfig pids) (socketsInTurn n)
      Redirects .little w.maps ((podConnect.call (BitVec.ofNat 64 n)).ctx .little) ∧
        (w.step .little (.connects (BitVec.ofNat 64 n) podConnect)).maps = w.maps := by
  -- kept as a variable, so that nothing evaluates a run of this length
  obtain ⟨n, hn⟩ : ∃ n, n = maxConnections := ⟨_, rfl⟩
  refine ⟨n, hn, fun pids => ?_⟩
  obtain ⟨hfilled, -⟩ := filled_socketsInTurn pids n (Nat.le_of_eq hn)
  have hgood := saturated_for_good .little defaultConfig pids (socketsInTurn n) []
    (BitVec.ofNat 64 n) (hfilled.size.trans hn) (hfilled.lookup_next (Nat.le_of_eq hn))
  rw [List.append_nil] at hgood
  exact ⟨redirects_podConnect hfilled.config _, hgood.2.1 podConnect⟩

end KubeGateway.Ebpf

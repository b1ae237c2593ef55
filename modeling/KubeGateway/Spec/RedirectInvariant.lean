import KubeGateway.Native.MirrorsRun

/-!
# The redirect maps invariant

`map_socks` and `map_ports` are written by different hooks.  Two facts tie them
together over every run of the hooks: a cookie in `map_ports` always has its
key in `map_socks`, and a `map_socks` entry is always the destination of some
earlier redirected call.  Neither depends on cookies being distinct, on ports
not being reused, or on the maps having room: nothing is ever removed, and an
update that fails leaves both facts as they were.
-/

namespace KubeGateway.Ebpf

/-- `sock` is the destination of a call of the history that was redirected. -/
structure RecordedFrom (start : Maps) (history : List HookEvent) (sock : Socket) : Prop where
  srcAddr : sock.srcAddr = 0
  srcPort : sock.srcPort = 0
  inCidr : sock.dstAddr &&& podMask start.mapConfig = start.mapConfig.podCidr
  port : sock.dstPort ∉ exemptPorts
  call : ∃ pre call post, history = pre ++ .connect4 call :: post ∧
    Redirects .little (Trace.run (Maps.step .little) start pre) (call.ctx .little) ∧
    call.addr = sock.dstAddr ∧ call.port = sock.dstPort

/-- A longer history keeps what was recorded. -/
private theorem RecordedFrom.snoc {start : Maps} {history : List HookEvent} {sock : Socket}
    (h : RecordedFrom start history sock) (e : HookEvent) :
    RecordedFrom start (history ++ [e]) sock := by
  obtain ⟨pre, call, post, hhist, hred, haddr, hport⟩ := h.call
  exact ⟨h.srcAddr, h.srcPort, h.inCidr, h.port,
    pre, call, post ++ [e], by rw [hhist, List.append_assoc, List.cons_append], hred, haddr, hport⟩

/-- The invariant of a run of the hooks. -/
structure MapsInvariant (start : Maps) (history : List HookEvent) (m : Maps) : Prop where
  config : m.mapConfig = start.mapConfig
  pids : m.mapPids = start.mapPids
  tracked : ∀ port cookie, m.mapPorts.lookup port = some cookie →
    (m.mapSocks.lookup (sockKey .little cookie)).isSome
  recorded : ∀ key sock, m.mapSocks.lookup key = some sock → RecordedFrom start history sock

/-- A redirected call records a destination inside the CIDR, on a port that is
    not exempt. -/
private theorem recordedFrom_connect {start : Maps} {history : List HookEvent} {call : ConnectCall}
    (hconf : (Trace.run (Maps.step .little) start history).mapConfig = start.mapConfig)
    (hred : Redirects .little (Trace.run (Maps.step .little) start history) (call.ctx .little)) :
    RecordedFrom start (history ++ [.connect4 call]) (originalSocket call.addr call.port) := by
  -- the hook tests network byte order; the two conversions undo each other
  have hcidr := hred.inCidr
  have hport := hred.port
  simp only [ConnectCall.ctx, bpfHtonl_bpfHtonl, hconf] at hcidr
  simp only [ConnectCall.ctx, bpfNtohl_zeroExtend_bpfHtons] at hport
  exact ⟨rfl, rfl, hcidr, hport, history, call, [], rfl, hred, rfl, rfl⟩

/-- `cg_connect4` keeps the invariant: `map_socks` only gains keys, and the new
    entry is the call's own destination. -/
private theorem mapsInvariant_connect4 {start : Maps} {history : List HookEvent}
    (h : MapsInvariant start history (Trace.run (Maps.step .little) start history))
    (call : ConnectCall) :
    MapsInvariant start (history ++ [.connect4 call])
      (Maps.step .little (Trace.run (Maps.step .little) start history) (.connect4 call)) := by
  simp only [Maps.step]
  by_cases hred : Redirects .little (Trace.run (Maps.step .little) start history)
      (call.ctx .little)
  · rw [cgConnect4_of_redirects hred, ctxSocket_ctx]
    refine ⟨h.config, h.pids, ?_, ?_⟩
    · intro port cookie hport
      exact BoundedMap.isSome_lookup_update _ (h.tracked port cookie hport)
    · intro key sock hsock
      -- an entry is the call's own, under whatever key it collides with, or an old one
      rcases BoundedMap.lookup_update_eq_some hsock with ⟨-, rfl⟩ | hold
      · exact recordedFrom_connect h.config hred
      · exact (h.recorded key sock hold).snoc _
  · rw [cgConnect4_of_not_redirects hred]
    exact ⟨h.config, h.pids, h.tracked, fun key sock hsock => (h.recorded key sock hsock).snoc _⟩

/-- `cg_sock_ops` keeps the invariant: it stores a cookie only after finding its key. -/
private theorem mapsInvariant_sockOps {start : Maps} {history : List HookEvent}
    (h : MapsInvariant start history (Trace.run (Maps.step .little) start history))
    (ctx : BpfSockOps) :
    MapsInvariant start (history ++ [.sockOps ctx])
      (Maps.step .little (Trace.run (Maps.step .little) start history) (.sockOps ctx)) := by
  simp only [Maps.step]
  rcases cgSockOps_cases .little (Trace.run (Maps.step .little) start history) ctx with
    hsame | ⟨-, -, hkey, hupd⟩
  · rw [hsame]
    exact ⟨h.config, h.pids, h.tracked, fun key sock hsock => (h.recorded key sock hsock).snoc _⟩
  · rw [hupd]
    refine ⟨h.config, h.pids, ?_, fun key sock hsock => (h.recorded key sock hsock).snoc _⟩
    intro port cookie hport
    -- the stored cookie is the one whose key was just found
    rcases BoundedMap.lookup_update_eq_some hport with ⟨-, rfl⟩ | hold
    · exact hkey
    · exact h.tracked port cookie hold

/-- Every run from the loaded maps keeps the invariant. -/
theorem mapsInvariant_run (conf : Config)
    (pids : BoundedMap (BitVec 32) (BitVec 8) maxConnections) (es : List HookEvent) :
    MapsInvariant (Maps.loaded conf pids) es
      (Trace.run (Maps.step .little) (Maps.loaded conf pids) es) := by
  refine Trace.run_history_invariant ?_ ?_ es
  · refine ⟨rfl, rfl, ?_, ?_⟩ <;> intro _ _ h <;> simp [Maps.loaded] at h
  · intro history e h
    cases e with
    | connect4 call => exact mapsInvariant_connect4 h call
    | sockOps ctx => exact mapsInvariant_sockOps h ctx
    | sockOpt ctx =>
      exact ⟨h.config, h.pids, h.tracked, fun key sock hsock => (h.recorded key sock hsock).snoc _⟩

/-- Under the invariant an answer is the address and port of a recorded entry. -/
private theorem answer_of_mapsInvariant {start m : Maps} {history : List HookEvent}
    (h : MapsInvariant start history m) {ctx : BpfSockopt} {ans : SockoptAnswer}
    (hans : cgSockOpt .little m ctx = some ans) :
    ∃ sock, RecordedFrom start history sock ∧
      findTarget (ans.sa.inMemory .little) = (sock.dstAddr, sock.dstPort) := by
  obtain ⟨-, -, -, cookie, sock, -, hsock, haddr, hport⟩ := cgSockOpt_eq_some hans
  refine ⟨sock, h.recorded _ _ hsock, ?_⟩
  -- the answer is the entry in network byte order, which `findTarget` turns back
  have hsa : ans.sa =
      ⟨ans.sa.sinFamily, bpfHtons .little sock.dstPort, bpfHtonl .little sock.dstAddr⟩ := by
    rw [← haddr, ← hport]
  rw [hsa]
  exact findTarget_inMemory .little _ _ _

/-- After every sequence of hook calls on a little-endian build, from empty maps
    with the configuration written once: (a) the second lookup of `cg_sock_opt`
    never misses; (b) every `map_socks` entry is the destination of an earlier
    redirected call, inside the configured CIDR and on a port that is not
    exempt; hence no answer sends the proxy anywhere else. -/
theorem redirect_maps_invariant (conf : Config)
    (pids : BoundedMap (BitVec 32) (BitVec 8) maxConnections) (es : List HookEvent) :
    let m := Trace.run (Maps.step .little) (Maps.loaded conf pids) es
    (∀ port cookie, m.mapPorts.lookup port = some cookie →
      ∃ sock, m.mapSocks.lookup (sockKey .little cookie) = some sock) ∧
    (∀ key sock, m.mapSocks.lookup key = some sock →
      RecordedFrom (Maps.loaded conf pids) es sock) ∧
    (∀ ctx ans, cgSockOpt .little m ctx = some ans →
      (findTarget (ans.sa.inMemory .little)).1 &&& podMask conf = conf.podCidr ∧
      (findTarget (ans.sa.inMemory .little)).2 ∉ exemptPorts) := by
  intro m
  have hinv := mapsInvariant_run conf pids es
  refine ⟨fun port cookie h => Option.isSome_iff_exists.mp (hinv.tracked port cookie h),
    hinv.recorded, ?_⟩
  intro ctx ans hans
  obtain ⟨sock, hrec, htarget⟩ := answer_of_mapsInvariant hinv hans
  rw [htarget]
  exact ⟨hrec.inCidr, hrec.port⟩

end KubeGateway.Ebpf

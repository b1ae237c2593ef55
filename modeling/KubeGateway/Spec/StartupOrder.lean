import KubeGateway.Native.Startup
import KubeGateway.Spec.RedirectTarget

/-!
# The redirect while the gateway starts

`LoadEPF` attaches `cg_connect4` before the two hooks that record and answer where
a connection was meant to go, and before anything listens where it redirects to.
A call that is made in between goes to a port that nobody listens on, or its
destination is lost.
-/

namespace KubeGateway.Gateway

open Ebpf

/-! ## The property -/

/-- The other two programs are attached, and the internal listener listens where
    `cg_connect4` sends the call. -/
structure ReadyFor (o : ByteOrder) (s : Startup) (call : ConnectCall) : Prop where
  sockOps : s.sockOps = true
  sockOpt : s.sockOpt = true
  listening : s.listening = some (Target.text
    ⟨(connectTarget o (cgConnect4 o s.maps (call.ctx o)).2).1,
      (connectTarget o (cgConnect4 o s.maps (call.ctx o)).2).2⟩)

/-- `cg_connect4` is attached and redirects the call. -/
def RedirectsNow (o : ByteOrder) (s : Startup) (call : ConnectCall) : Prop :=
  s.connect4 = true ∧ Redirects o s.maps (call.ctx o)

/-- A call is redirected only when the gateway is ready for it. -/
def RedirectsReady (o : ByteOrder) (s : Startup) : StartupEvent → Prop
  | .hook (.connect4 call) => RedirectsNow o s call → ReadyFor o s call
  | _ => True

/-! ## The condition -/

/-- No call that passes the checks of `cg_connect4` is made while it is attached and
    `main` has not created the internal listener, or has exited; and the listener's
    address is the one in `map_config`. -/
def CallsWait (o : ByteOrder) (s : Startup) : StartupEvent → Prop
  | .hook (.connect4 call) => RedirectsNow o s call →
      s.pc = .serving ∧ s.listening = some (Target.text
        ⟨s.maps.mapConfig.proxyAddr, seenPort o s.maps.mapConfig.proxyPort⟩)
  | _ => True

/-! ## The invariant -/

/-- How far `main` has come says what is attached, and whether anything listens. -/
def InOrder (s : Startup) : Prop :=
  match s.pc with
  | .loadMaps | .attachConnect4 =>
    s.connect4 = false ∧ s.sockOps = false ∧ s.sockOpt = false ∧ s.listening = none
  | .attachSockOps => s.sockOps = false ∧ s.sockOpt = false ∧ s.listening = none
  | .attachSockOpt => s.sockOps = true ∧ s.sockOpt = false ∧ s.listening = none
  | .createInternalListener => s.sockOps = true ∧ s.sockOpt = true ∧ s.listening = none
  | .serving => s.sockOps = true ∧ s.sockOpt = true
  | .exited => s.listening = none

theorem inOrder_initial (m : Maps) : InOrder (.initial m) := ⟨rfl, rfl, rfl, rfl⟩

/-- `InOrder` does not look at the maps. -/
theorem inOrder_setMaps {s : Startup} (hI : InOrder s) (m : Maps) :
    InOrder { s with maps := m } := hI

private theorem inOrder_mainNext {env : LoadEnv} {links : Bool} {c : Config}
    {pids : List (BitVec 32)} {s : Startup} (hI : InOrder s) (r : MainReply) :
    InOrder (s.mainNext env links c pids r) := by
  obtain ⟨pc, maps, connect4, sockOps, sockOpt, listening⟩ := s
  cases pc with
  | loadMaps =>
    unfold Startup.mainNext
    dsimp only
    split
    · exact hI
    · exact rfl
  | exited => exact hI
  | attachConnect4 =>
    unfold Startup.mainNext
    dsimp only
    split
    · exact hI.2
    · exact rfl
  | attachSockOps =>
    unfold Startup.mainNext
    dsimp only
    split
    · exact ⟨rfl, hI.2⟩
    · exact rfl
  | attachSockOpt =>
    unfold Startup.mainNext
    dsimp only
    split
    · exact ⟨hI.1, rfl, hI.2.2⟩
    · exact rfl
  | createInternalListener =>
    unfold Startup.mainNext
    dsimp only
    split
    · exact ⟨hI.1, hI.2.1⟩
    · exact rfl
  | serving =>
    unfold Startup.mainNext
    dsimp only
    split
    · exact hI
    · exact rfl

theorem inOrder_step {o : ByteOrder} {env : LoadEnv} {links : Bool} {c : Config}
    {pids : List (BitVec 32)} {s : Startup} (hI : InOrder s) (e : StartupEvent) :
    InOrder (s.step o env links c pids e) := by
  cases e with
  | main r => exact inOrder_mainNext hI r
  | hook e =>
    unfold Startup.step
    dsimp only
    split
    · exact inOrder_setMaps hI _
    · exact hI

/-- The gateway is ready for a call that is redirected exactly if `main` has got
    to serving, with its listener at the address in `map_config`. -/
theorem readyFor_iff {o : ByteOrder} {s : Startup} {call : ConnectCall} (hI : InOrder s)
    (hnow : RedirectsNow o s call) :
    ReadyFor o s call ↔ s.pc = .serving ∧ s.listening = some (Target.text
      ⟨s.maps.mapConfig.proxyAddr, seenPort o s.maps.mapConfig.proxyPort⟩) := by
  obtain ⟨hattached, hredirects⟩ := hnow
  have htarget := connectTarget_of_redirects hredirects
  constructor
  · rintro ⟨hops, hopt, hlistening⟩
    rw [htarget] at hlistening
    refine ⟨?_, hlistening⟩
    -- in every other place something is missing
    cases hpc : s.pc with
    | serving => rfl
    | loadMaps | attachConnect4 =>
      simp only [InOrder, hpc] at hI
      exact nomatch hattached.symm.trans hI.1
    | attachSockOps =>
      simp only [InOrder, hpc] at hI
      exact nomatch hops.symm.trans hI.1
    | attachSockOpt =>
      simp only [InOrder, hpc] at hI
      exact nomatch hopt.symm.trans hI.2.1
    | createInternalListener =>
      simp only [InOrder, hpc] at hI
      exact nomatch hlistening.symm.trans hI.2.2
    | exited =>
      simp only [InOrder, hpc] at hI
      exact nomatch hlistening.symm.trans hI
  · rintro ⟨hpc, hlistening⟩
    unfold InOrder at hI
    rw [hpc] at hI
    refine ⟨hI.1, hI.2, ?_⟩
    rw [htarget]
    exact hlistening

/-! ## The listener's address -/

/-- Once the maps are loaded their configuration stays, and once `main` serves the
    listener has the configured address. -/
private def KeepsConfig (c : Config) (conf : Ebpf.Config) (s : Startup) : Prop :=
  (s.pc ≠ .loadMaps → s.pc ≠ .exited → s.maps.mapConfig = conf) ∧
    (s.pc = .serving → s.listening = some c.internalAddr)

private theorem keepsConfig_step {o : ByteOrder} {env : LoadEnv} {links : Bool} {c : Config}
    {pids : List (BitVec 32)} {m : Maps} (hload : LoadEPF { env with attaches := true } c pids =
      .loaded m) (hport : 1 ≤ c.proxyPort) (s : Startup) (e : StartupEvent)
    (hI : KeepsConfig c m.mapConfig s) :
    KeepsConfig c m.mapConfig (s.step o env links c pids e) := by
  obtain ⟨pc, maps, connect4, sockOps, sockOpt, listening⟩ := s
  cases e with
  | main r =>
    have hnone : KeepsConfig c m.mapConfig
        (Startup.exit links ⟨pc, maps, connect4, sockOps, sockOpt, listening⟩) :=
      ⟨fun _ hexited => absurd rfl hexited, nofun⟩
    unfold Startup.step Startup.mainNext
    cases pc with
    | loadMaps =>
      dsimp only
      rw [hload]
      exact ⟨fun _ _ => rfl, nofun⟩
    | exited => exact hI
    | createInternalListener =>
      dsimp only
      split
      · refine ⟨fun _ _ => hI.1 nofun nofun, fun _ => ?_⟩
        rw [if_neg (by omega)]
        rfl
      · exact hnone
    | serving =>
      dsimp only
      split
      · exact hI
      · exact hnone
    | _ =>
      dsimp only
      split
      · exact ⟨fun _ _ => hI.1 nofun nofun, nofun⟩
      · exact hnone
  | hook e =>
    have hconf : (maps.step o e).mapConfig = maps.mapConfig := by
      cases e with
      | connect4 call => exact cgConnect4_mapConfig o maps _
      | sockOps ctx =>
        obtain hsame | ⟨-, -, -, hports⟩ := cgSockOps_cases o maps ctx
        · simp only [Maps.step, hsame]
        · simp only [Maps.step, hports]
      | sockOpt ctx => rfl
    unfold Startup.step
    dsimp only
    split
    · exact ⟨fun hpc hexited => hconf.trans (hI.1 hpc hexited), hI.2⟩
    · exact hI

/-- For an IPv4 address and a port, the listener is where the little-endian object
    redirects to, in every run. -/
theorem listens_where_redirected {o : ByteOrder} {env : LoadEnv} {links : Bool} {c : Config}
    {pids : List (BitVec 32)} {m m₀ : Maps} {addr : BitVec 32}
    (haddress : c.address = dottedQuad addr) (hport : 1 ≤ c.proxyPort ∧ c.proxyPort ≤ 65535)
    (hload : LoadEPF { env with attaches := true } c pids = .loaded m) (es : List StartupEvent) :
    Trace.Along (Startup.step o env links c pids)
      (fun s _ => s.pc = .serving → (s.listening = some (Target.text
        ⟨s.maps.mapConfig.proxyAddr, seenPort o s.maps.mapConfig.proxyPort⟩) ↔ o = .little))
      (.initial m₀) es := by
  apply Trace.along_of_invariant (I := KeepsConfig c m.mapConfig) (A := fun _ _ => True)
  · intro s e hI _
    exact keepsConfig_step hload hport.1 s e hI
  · intro s e hI _ hpc
    have htext := text_eq_internalAddr haddress hport hload o
    rw [hI.2 hpc, hI.1 (by rw [hpc]; nofun) (by rw [hpc]; nofun), Option.some.injEq, ← htext]
    exact eq_comm
  · exact ⟨fun hpc => absurd rfl hpc, nofun⟩
  · exact Trace.along_of_forall fun _ _ => trivial

/-! ## Main results -/

/-- In every interleaving of `main`'s start with the calls of applications and the
    other hooks, a call is redirected only when the gateway is ready for it, exactly
    when the calls that pass the checks wait until `main` serves. -/
theorem redirects_ready_iff (o : ByteOrder) (env : LoadEnv) (links : Bool) (c : Config)
    (pids : List (BitVec 32)) (m : Maps) (es : List StartupEvent) :
    Trace.Along (Startup.step o env links c pids) (RedirectsReady o) (.initial m) es ↔
      Trace.Along (Startup.step o env links c pids) (CallsWait o) (.initial m) es := by
  apply Trace.along_iff_of_invariant (I := InOrder)
  · intro s e hI _
    exact inOrder_step hI e
  · intro s e hI
    cases e with
    | main r => exact Iff.rfl
    | hook e =>
      cases e with
      | connect4 call => exact forall_congr' fun hnow => readyFor_iff hI hnow
      | sockOps ctx => exact Iff.rfl
      | sockOpt ctx => exact Iff.rfl
  · exact inOrder_initial m

/-! ## A call that comes too soon -/

/-- `LoadEPF` has attached `cg_connect4`, and the container's process connects. -/
def connectsTooSoon : List StartupEvent :=
  [.main ⟨true, 0⟩, .main ⟨true, 0⟩, .hook (.connect4 oneCall)]

/-- A call can be redirected before anything listens where it goes. -/
theorem not_redirects_ready :
    ¬ ∀ (o : ByteOrder) (env : LoadEnv) (links : Bool) (c : Config) (pids : List (BitVec 32))
      (m : Maps) (es : List StartupEvent),
      Trace.Along (Startup.step o env links c pids) (RedirectsReady o) (.initial m) es := by
  intro hclaim
  obtain ⟨-, -, hready, -⟩ := hclaim .little (sidecarEnv 12) true (sidecarConfig podRange) [7]
    (oneMaps 7) connectsTooSoon
  have hloaded : Startup.step .little (sidecarEnv 12) true (sidecarConfig podRange) [7]
      (.initial (oneMaps 7)) (.main ⟨true, 0⟩) =
        { Startup.initial (oneMaps 7) with pc := .attachConnect4 } := by
    have henv : { sidecarEnv 12 with attaches := true } = sidecarEnv 12 := rfl
    unfold Startup.step Startup.mainNext Startup.initial
    dsimp only
    rw [henv, LoadEPF_one]
  rw [hloaded] at hready
  have hsoon := hready ⟨rfl, redirects_oneCall .little⟩
  exact absurd hsoon.sockOps (by decide)

end KubeGateway.Gateway

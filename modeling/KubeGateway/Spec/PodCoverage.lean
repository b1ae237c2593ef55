import KubeGateway.Native.Processes
import KubeGateway.Spec.PodRange
import KubeGateway.Spec.RedirectTarget

/-!
# Which of the pod's processes are redirected

`main` lists the processes of the pod once, before `LoadEPF`; nothing is ever
added to `map_pids` afterwards.  Processes come and go all the time.  Whether a
process is redirected is decided by its number being on that list, so one that was
created later goes around the gateway, unless it has got a number that was
listed.
-/

namespace KubeGateway.Gateway

open Ebpf

/-! ## The history of a pod -/

/-- The pod: the pids of its processes other than the gateway, in its pid namespace;
    `Config.Pids` once `main` has listed the processes; the maps once they are
    loaded. -/
structure Pod where
  live : List (BitVec 32)
  pids : Option (List (BitVec 32))
  maps : Option Maps

/-- Before the first process, and before `main`. -/
def Pod.start : Pod := { live := [], pids := none, maps := none }

/-- What stays as it is: the object's byte order, the gateway's configuration, its pid
    namespace, and what it meets when it loads the programs. -/
structure PodEnv where
  order : ByteOrder
  config : Config
  ns : Nat
  load : LoadEnv

inductive PodHistory where
  /-- a new process has this pid -/
  | creates (pid : BitVec 32)
  | exits (pid : BitVec 32)
  /-- `process.Processes()` -/
  | lists
  /-- `LoadEPF` -/
  | loads
  | hook (e : PodEvent)

/-- The gateway's own pid. -/
def PodEnv.gatewayPid (env : PodEnv) : BitVec 32 := BitVec.ofNat 32 env.load.getpid

/-- One step.  A pid in use is not given out again; `main` lists and loads once, and
    where the load fails the gateway ends without hooks. -/
def Pod.step (env : PodEnv) (s : Pod) : PodHistory → Pod
  | .creates pid =>
    if pid ∈ s.live ∨ pid = env.gatewayPid then s else { s with live := pid :: s.live }
  | .exits pid => { s with live := s.live.filter (· ≠ pid) }
  | .lists =>
    match s.pids with
    | none => { s with pids := some (env.gatewayPid :: s.live) }
    | some _ => s
  | .loads =>
    match s.pids, s.maps with
    | some pids, none =>
      match LoadEPF env.load env.config pids with
      | .loaded m => { s with maps := some m }
      | _ => s
    | _, _ => s
  | .hook e => { s with maps := s.maps.map fun m => stepBy env.order m e }

/-! ## Coverage -/

/-- A process of the pod other than the gateway connects over TCP to the pod range and a
    port that is not exempt. -/
structure Concerned (env : PodEnv) (r : Cidr) (s : Pod) (p : Proc) (args : ConnectArgs) : Prop where
  namespace_ : p.own.ns = env.ns
  live : p.own.nr ∈ s.live
  inet : args.family = afInet
  tcp : args.protocol = ipprotoTcp
  range : r.Contains args.addr
  port : args.port ∉ exemptPorts

/-- Once the programs are loaded, such a call is redirected, and goes to the proxy. -/
def Covered (env : PodEnv) (r : Cidr) (s : Pod) : PodHistory → Prop
  | .hook (.connects p sk args) => ∀ m, s.maps = some m → Concerned env r s p args →
      Redirects env.order m ((p.call sk args).ctx env.order) ∧
        connectTarget env.order (cgConnect4 env.order m ((p.call sk args).ctx env.order)).2 =
          (m.mapConfig.proxyAddr, m.mapConfig.proxyPort)
  | _ => True

/-- The process is seen under a number that was listed and is not the gateway's; the
    configured network has no host bits; and the object is the little-endian one, or
    the proxy's port is 0 to it. -/
structure Caught (env : PodEnv) (r : Cidr) (s : Pod) (p : Proc) : Prop where
  listed : ∃ pids, s.pids = some pids ∧ p.seenPid ∈ pids
  other : p.seenPid.signExtend 64 ≠ BitVec.ofNat 64 env.load.getpid
  canonical : r.Canonical
  order : env.order = .little ∨ BitVec.ofInt 16 env.config.proxyPort = 0

/-- Every such call comes from a process that is caught. -/
def ListedInTime (env : PodEnv) (r : Cidr) (s : Pod) : PodHistory → Prop
  | .hook (.connects p _ args) => s.maps.isSome → Concerned env r s p args → Caught env r s p
  | _ => True

/-- The maps are those that were loaded for the listed pids, as far as the hooks leave
    them alone. -/
def PodInvariant (env : PodEnv) (s : Pod) : Prop :=
  ∀ m, s.maps = some m → ∃ pids, s.pids = some pids ∧ Loaded env.load env.config pids m

private theorem podInvariant_step {env : PodEnv} {s : Pod} (h : PodInvariant env s)
    (e : PodHistory) :
    PodInvariant env (s.step env e) := by
  cases e with
  | creates pid =>
    simp only [Pod.step]
    split <;> exact h
  | exits pid => exact h
  | lists =>
    simp only [Pod.step]
    cases hpids : s.pids with
    | none =>
      -- nothing is loaded before the processes are listed
      intro m hm
      obtain ⟨pids, hsome, -⟩ := h m hm
      rw [hpids] at hsome
      exact nomatch hsome
    | some pids => exact h
  | loads =>
    intro m hm
    simp only [Pod.step] at hm ⊢
    cases hpids : s.pids with
    | none =>
      simp only [hpids] at hm ⊢
      exact hpids ▸ h m hm
    | some pids =>
      cases hmaps : s.maps with
      | some m' =>
        simp only [hpids, hmaps] at hm ⊢
        exact hpids ▸ h m (hmaps ▸ hm)
      | none =>
        simp only [hpids, hmaps] at hm ⊢
        cases hload : LoadEPF env.load env.config pids with
        | loaded m' =>
          simp only [hload, Option.some.injEq] at hm ⊢
          subst hm
          exact ⟨pids, rfl, loaded_of_LoadEPF hload⟩
        | err | panics =>
          simp only [hload, hmaps] at hm
          exact nomatch hm
  | hook e =>
    intro m hm
    simp only [Pod.step, Option.map_eq_some_iff] at hm ⊢
    obtain ⟨m₀, hm₀, rfl⟩ := hm
    obtain ⟨pids, hpids, hloaded⟩ := h m₀ hm₀
    exact ⟨pids, hpids, hloaded.step env.order e.hook⟩

/-- One call, under the loaded maps. -/
private theorem redirected_iff_caught {env : PodEnv} {r : Cidr} {s : Pod} {m : Maps}
    (htunnel : env.config.tunnel = false) (hcidr : env.config.podCIDR = r.text)
    (h : PodInvariant env s)
    (hm : s.maps = some m) {p : Proc} {args : ConnectArgs} (hc : Concerned env r s p args)
    (sk : BitVec 64) :
    (Redirects env.order m ((p.call sk args).ctx env.order) ∧
        connectTarget env.order (cgConnect4 env.order m ((p.call sk args).ctx env.order)).2 =
          (m.mapConfig.proxyAddr, m.mapConfig.proxyPort)) ↔ Caught env r s p := by
  obtain ⟨pids, hpids, hloaded⟩ := h m hm
  obtain ⟨hbits, hnetwork⟩ := hloaded.range r hcidr
  have hiff := @redirects_call_iff env.order m p sk args (hloaded.tunnel htunnel)
  rw [hloaded.pids, hloaded.proxyPid] at hiff
  have hcidr' := passesRange_iff (o := env.order) hbits hnetwork args.addr
  have hlisted : (∃ pids, s.pids = some pids ∧ p.seenPid ∈ pids) ↔ p.seenPid ∈ pids := by
    rw [hpids]
    simp
  -- the hook sees the port, or no port at all
  have hport : seenPort env.order args.port ∉ exemptPorts := by
    cases env.order with
    | little => exact hc.port
    | big =>
      show (0 : BitVec 16) ∉ exemptPorts
      decide
  have htarget : seenPort env.order m.mapConfig.proxyPort = m.mapConfig.proxyPort ↔
      env.order = .little ∨ BitVec.ofInt 16 env.config.proxyPort = 0 := by
    rw [hloaded.proxyPort]
    cases env.order with
    | little => exact ⟨fun _ => Or.inl rfl, fun _ => rfl⟩
    | big => exact ⟨fun h => Or.inr h.symm, fun h => (h.resolve_left nofun).symm⟩
  constructor
  · rintro ⟨hredirects, hproxy⟩
    rw [connectTarget_of_redirects hredirects, Prod.mk.injEq] at hproxy
    obtain ⟨heligible, hseen, hother⟩ := hiff.mp hredirects
    exact ⟨hlisted.mpr hseen, hother, (hcidr'.mp heligible.inCidr).2, htarget.mp hproxy.2⟩
  · rintro ⟨hseen, hother, hcanonical, horder⟩
    have heligible : Eligible env.order m.mapConfig args :=
      ⟨hc.inet, hc.tcp, hcidr'.mpr ⟨hc.range, hcanonical⟩, hport⟩
    have hredirects := hiff.mpr ⟨heligible, hlisted.mp hseen, hother⟩
    refine ⟨hredirects, ?_⟩
    rw [connectTarget_of_redirects hredirects, htarget.mpr horder]

/-- In a sidecar, for every history of processes that are created and exit before and
    after the load: at every later moment each TCP connect of a process of the pod to the
    pod range and a port that is not exempt is redirected to the proxy, if and only if
    each comes from a process whose number was listed, and the range was written without
    host bits (and the object is the little-endian one). -/
theorem covered_iff_listed_in_time {env : PodEnv} {r : Cidr} (htunnel : env.config.tunnel = false)
    (hcidr : env.config.podCIDR = r.text) (history : List PodHistory) :
    Trace.Along (Pod.step env) (Covered env r) .start history ↔
      Trace.Along (Pod.step env) (ListedInTime env r) .start history := by
  refine Trace.along_iff_of_invariant (I := PodInvariant env)
    (fun s e hs _ => podInvariant_step hs e)
    (fun s e hs => ?_) nofun
  cases e with
  | hook e =>
    cases e with
    | connects p sk args =>
      simp only [Covered, ListedInTime]
      constructor
      · intro hcovered hsome hc
        obtain ⟨m, hm⟩ := Option.isSome_iff_exists.mp hsome
        exact (redirected_iff_caught htunnel hcidr hs hm hc sk).mp (hcovered m hm hc)
      · intro hcaught m hm hc
        exact (redirected_iff_caught htunnel hcidr hs hm hc sk).mpr (hcaught (by rw [hm]; rfl) hc)
    | sockOps ctx => exact Iff.rfl
    | sockOpt ctx => exact Iff.rfl
  | creates pid | exits pid | lists | loads => exact Iff.rfl

/-! ## A process that comes later -/

/-- A sidecar whose pid is 12. -/
def sidecarPod : PodEnv :=
  { order := .little, config := sidecarConfig podRange, ns := 1, load := sidecarEnv 12 }

/-- A process with pid 7 is there when the processes are listed. -/
theorem covered_early :
    Trace.Along (Pod.step sidecarPod) (Covered sidecarPod podRange) .start
        [.creates 7, .lists, .loads, .hook (.connects (containerProc 1 4007 7) 100 podConnect)] ↔
      Trace.Along (Pod.step sidecarPod) (ListedInTime sidecarPod podRange) .start
        [.creates 7, .lists, .loads, .hook (.connects (containerProc 1 4007 7) 100 podConnect)] :=
  covered_iff_listed_in_time rfl rfl _

/-- A process with pid 7 is created after the programs were loaded. -/
theorem not_covered :
    ¬ ∀ (env : PodEnv) (r : Cidr) (history : List PodHistory), env.config.tunnel = false →
      env.config.podCIDR = r.text → Trace.Along (Pod.step env) (Covered env r) .start history := by
  intro h
  have hbad := h sidecarPod podRange
    [.lists, .loads, .creates 7, .hook (.connects (containerProc 1 4007 7) 100 podConnect)] rfl rfl
  obtain ⟨-, -, -, hcovered, -⟩ := hbad
  -- only the gateway itself was listed
  have hlists :
      Pod.start.step sidecarPod .lists = { live := [], pids := some [12], maps := none } :=
    rfl
  have hloads : Pod.step sidecarPod { live := [], pids := some [12], maps := none } .loads =
      { live := [], pids := some [12], maps := some (oneMaps 12) } := by
    have hload : LoadEPF sidecarPod.load sidecarPod.config [12] = .loaded (oneMaps 12) :=
      LoadEPF_one 12
    simp only [Pod.step, hload]
  have hcreates : Pod.step sidecarPod { live := [], pids := some [12], maps := some (oneMaps 12) }
      (.creates 7) = { live := [7], pids := some [12], maps := some (oneMaps 12) } := by
    have hfree : ¬ ((7 : BitVec 32) ∈ ([] : List (BitVec 32)) ∨ 7 = sidecarPod.gatewayPid) := by
      decide
    simp only [Pod.step, if_neg hfree]
  rw [hlists, hloads, hcreates] at hcovered
  have hc : Concerned sidecarPod podRange
      { live := [7], pids := some [12], maps := some (oneMaps 12) } (containerProc 1 4007 7)
      podConnect :=
    ⟨rfl, by decide, rfl, rfl, by decide, by decide⟩
  have hnot : ¬ Redirects .little (oneMaps 12)
      (((containerProc 1 4007 7).call 100 podConnect).ctx .little) := by
    decide
  exact hnot (hcovered _ rfl hc).1

end KubeGateway.Gateway

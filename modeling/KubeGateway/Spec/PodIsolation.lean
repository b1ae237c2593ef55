import KubeGateway.Native.Processes

/-!
# Whose connections are redirected

The programs are attached to a cgroup, so they see the processes of other pods as
well.  `map_pids` is keyed by the pid number alone; `ns_pid_ppid` reads the number
of a process inside its own namespace, and its namespace, which is then not
used.  A process of another pod that has one of the listed numbers there passes
for a process of this pod.
-/

namespace KubeGateway.Gateway

open Ebpf

/-- The process is in the gateway's pid namespace `ns`, and listed. -/
def OfThisPod (ns : Nat) (pids : List (BitVec 32)) (p : Proc) : Prop :=
  p.own.ns = ns ∧ p.own.nr ∈ pids

/-- A call that is redirected is one of this pod's. -/
def RedirectsOwn (o : ByteOrder) (ns : Nat) (pids : List (BitVec 32)) (m : Maps) : PodEvent → Prop
  | .connects p s args => Redirects o m ((p.call s args).ctx o) → OfThisPod ns pids p
  | _ => True

/-- A process that is not of this pod, and connects to the pod range and a port that is
    not exempt, is seen under a number that is not listed, or under the gateway's. -/
def StrangersUnlisted (o : ByteOrder) (env : LoadEnv) (ns : Nat) (pids : List (BitVec 32))
    (m : Maps) :
    PodEvent → Prop
  | .connects p _ args => Eligible o m.mapConfig args → ¬ OfThisPod ns pids p →
      p.seenPid ∉ pids ∨ p.seenPid.signExtend 64 = BitVec.ofNat 64 env.getpid
  | _ => True

/-- One call, under the maps of a sidecar. -/
private theorem redirectsOwn_iff {env : LoadEnv} {c : Config} {pids : List (BitVec 32)} {m : Maps}
    (hloaded : Loaded env c pids m) (htunnel : c.tunnel = false) (o : ByteOrder) (ns : Nat)
    (e : PodEvent) :
    RedirectsOwn o ns pids m e ↔ StrangersUnlisted o env ns pids m e := by
  cases e with
  | connects p s args =>
    have hiff := @redirects_call_iff o m p s args (hloaded.tunnel htunnel)
    rw [hloaded.pids, hloaded.proxyPid] at hiff
    simp only [RedirectsOwn, StrangersUnlisted, hiff]
    constructor
    · intro howns heligible hstranger
      by_contra hlisted
      rw [not_or, not_not] at hlisted
      exact hstranger (howns ⟨heligible, hlisted.1, hlisted.2⟩)
    · rintro hstrangers ⟨heligible, hlisted, hother⟩
      by_contra hstranger
      rcases hstrangers heligible hstranger with h | h
      · exact h hlisted
      · exact hother h
  | sockOps ctx => exact Iff.rfl
  | sockOpt ctx => exact Iff.rfl

/-- In a sidecar, for all processes in any pid namespaces and whatever they connect to,
    in every run of the hooks: only processes of the gateway's namespace `ns` that are
    listed are redirected, if and only if every other process that connects to the pod
    range is seen under a number that is not listed. -/
theorem redirects_own_iff_strangers_unlisted {env : LoadEnv} {c : Config} {pids : List (BitVec 32)}
    {m : Maps} (htunnel : c.tunnel = false) (hload : LoadEPF env c pids = .loaded m) (o : ByteOrder)
    (ns : Nat) (events : List PodEvent) :
    Trace.Along (stepBy o) (RedirectsOwn o ns pids) m events ↔
      Trace.Along (stepBy o) (StrangersUnlisted o env ns pids) m events := by
  -- the hooks change neither the configuration nor the pids
  exact Trace.along_iff_of_invariant (I := Loaded env c pids)
    (fun m e hm _ => hm.step o e.hook)
    (fun m e hm => redirectsOwn_iff hm htunnel o ns e)
    (loaded_of_LoadEPF hload)

/-! ## Two pods -/

/-- A pod's process connects, and so does one of another pod with another pid. -/
theorem redirects_own_twoPods :
    ∃ m, LoadEPF (sidecarEnv 12) (sidecarConfig podRange) [7] = .loaded m ∧
      let events := [PodEvent.connects (containerProc 1 4007 7) 100 podConnect,
        .connects (containerProc 2 5008 8) 101 podConnect]
      (Trace.Along (stepBy .little) (RedirectsOwn .little 1 [7]) m events ↔
        Trace.Along (stepBy .little) (StrangersUnlisted .little (sidecarEnv 12) 1 [7]) m events) :=
  ⟨_, LoadEPF_one 7, redirects_own_iff_strangers_unlisted rfl (LoadEPF_one 7) .little 1 _⟩

/-- A process of another pod that has the listed pid 7 in its own namespace. -/
theorem not_redirects_own :
    ¬ ∀ (env : LoadEnv) (c : Config) (pids : List (BitVec 32)) (m : Maps) (o : ByteOrder) (ns : Nat)
      (events : List PodEvent), c.tunnel = false → LoadEPF env c pids = .loaded m →
      Trace.Along (stepBy o) (RedirectsOwn o ns pids) m events := by
  intro h
  have hbad := h _ _ _ _ .little 1 [.connects (containerProc 2 5007 7) 100 podConnect] rfl
    (LoadEPF_one 7)
  have hredirects : Redirects .little (oneMaps 7)
      (((containerProc 2 5007 7).call 100 podConnect).ctx .little) := by
    decide
  exact absurd (hbad.1 hredirects).1 (by decide)

end KubeGateway.Gateway

import KubeGateway.Native.LoadEPF
import KubeGateway.Native.Sockets

/-!
# The processes that connect

What `cg_connect4` finds out about the process whose `connect` it sees, in sidecar
mode: `ns_pid_ppid` walks from the task to a pid number, and `map_pids` holds the
numbers of `Config.Pids`, which `LoadEPF` wrote.  A process has a number in its own
pid namespace and in each one around it.
-/

namespace KubeGateway.Ebpf

/-- `struct upid`: a pid number, and the namespace in which it is one. -/
structure Upid where
  nr : BitVec 32
  ns : Nat
  deriving DecidableEq, Repr

/-- A process: its numbers in the namespaces around its own, outermost first, and in
    its own; the level and the inode number of the namespace of its children, which
    is its own until it unshares it; what lies in memory behind its numbers; and
    what is read of its parent. -/
structure Proc where
  outer : List Upid
  own : Upid
  childLevel : Nat
  childInum : BitVec 32
  beyond : Nat → BitVec 32
  realParent : TaskIds

namespace Proc

/-- `numbers` of the process's `struct pid`, by level. -/
def numbers (p : Proc) : List Upid := p.outer ++ [p.own]

/-- The task of the process. -/
def task (p : Proc) : Task :=
  { ids :=
      { level := p.childLevel
        numbers := fun level =>
          match p.numbers[level]? with
          | some upid => upid.nr
          | none => p.beyond level }
    realParent := p.realParent
    inum := p.childInum }

/-- The number `ns_pid_ppid` reads. -/
def seenPid (p : Proc) : BitVec 32 := (nsPidPpid p.task).1

end Proc

/-- The `connect` of a process on a socket. -/
def Proc.call (p : Proc) (s : BitVec 64) (args : ConnectArgs) : ConnectCall :=
  { args with task := p.task }.call s

/-- All that `cg_connect4` asks of a call besides who makes it. -/
structure Eligible (o : ByteOrder) (conf : Config) (args : ConnectArgs) : Prop where
  inet : args.family = afInet
  tcp : args.protocol = ipprotoTcp
  inCidr : PassesRange o conf (bpfHtonl o args.addr)
  port : seenPort o args.port ∉ exemptPorts

/-- The process checks of a sidecar. -/
theorem skipsProcess_eq_false {m : Maps} {ctx : BpfSockAddr} (h : m.mapConfig.tunnel ≠ 1) :
    skipsProcess m ctx = false ↔
      (m.mapPids.lookup (nsPidPpid ctx.task).1).isSome ∧
        (nsPidPpid ctx.task).1.signExtend 64 ≠ m.mapConfig.proxyPid := by
  unfold skipsProcess
  rw [if_neg h]
  dsimp only
  cases m.mapPids.lookup (nsPidPpid ctx.task).1 with
  | none => simp
  | some v => simp

/-- A sidecar redirects the eligible calls of the processes it sees in `map_pids`,
    except its own. -/
theorem redirects_call_iff {o : ByteOrder} {m : Maps} {p : Proc} {s : BitVec 64}
    {args : ConnectArgs}
    (h : m.mapConfig.tunnel ≠ 1) :
    Redirects o m ((p.call s args).ctx o) ↔
      Eligible o m.mapConfig args ∧ (m.mapPids.lookup p.seenPid).isSome ∧
        p.seenPid.signExtend 64 ≠ m.mapConfig.proxyPid := by
  have hsocket := ctxSocket_ctx o (p.call s args)
  have hport : (bpfNtohl o ((p.call s args).ctx o).userPort >>> 16).setWidth 16 =
      seenPort o args.port := congrArg Socket.dstPort hsocket
  have hprocess : skipsProcess m ((p.call s args).ctx o) = false ↔ _ := skipsProcess_eq_false h
  constructor
  · rintro ⟨hinet, htcp, hcidr, hskips, hexempt⟩
    rw [hport] at hexempt
    exact ⟨⟨hinet, htcp, hcidr, hexempt⟩, hprocess.mp hskips⟩
  · rintro ⟨⟨hinet, htcp, hcidr, hexempt⟩, hpid⟩
    rw [← hport] at hexempt
    exact ⟨hinet, htcp, hcidr, hprocess.mpr hpid, hexempt⟩

end KubeGateway.Ebpf

namespace KubeGateway.Gateway

open Ebpf

/-- A call of a hook; a `connect` with the process that makes it. -/
inductive PodEvent where
  | connects (p : Proc) (s : BitVec 64) (args : ConnectArgs)
  | sockOps (ctx : BpfSockOps)
  | sockOpt (ctx : BpfSockopt)

def PodEvent.hook : PodEvent → HookEvent
  | .connects p s args => .connect4 (p.call s args)
  | .sockOps ctx => .sockOps ctx
  | .sockOpt ctx => .sockOpt ctx

/-- The maps after one call. -/
def stepBy (o : ByteOrder) (m : Maps) (e : PodEvent) : Maps := m.step o e.hook

/-- What the hooks keep of a load: nothing changes the configuration and the pids. -/
structure Loaded (env : LoadEnv) (c : Config) (pids : List (BitVec 32)) (m : Maps) : Prop where
  tunnel : c.tunnel = false → m.mapConfig.tunnel ≠ 1
  proxyPid : m.mapConfig.proxyPid = BitVec.ofNat 64 env.getpid
  proxyPort : m.mapConfig.proxyPort = BitVec.ofInt 16 c.proxyPort
  range : ∀ r : Cidr, c.podCIDR = r.text →
    m.mapConfig.podPrefixLength.toNat = r.bits ∧ m.mapConfig.podCidr = r.network
  pids : ∀ pid, (m.mapPids.lookup pid).isSome ↔ pid ∈ pids

theorem loaded_of_LoadEPF {env : LoadEnv} {c : Config} {pids : List (BitVec 32)} {m : Maps}
    (h : LoadEPF env c pids = .loaded m) : Loaded env c pids m := by
  have hmem := LoadEPF_mem_mapPids h
  have hrange := fun r hr => LoadEPF_range (r := r) hr h
  obtain ⟨_, _, _, _, _, _, _, _, _, _, _, _, rfl⟩ := LoadEPF_eq_loaded h
  refine ⟨fun htunnel => ?_, rfl, rfl, hrange, hmem⟩
  simp [Maps.loaded, mirrorsConfig, htunnel]

theorem Loaded.congr {env : LoadEnv} {c : Config} {pids : List (BitVec 32)} {m m' : Maps}
    (h : Loaded env c pids m) (hconf : m'.mapConfig = m.mapConfig)
    (hpids : m'.mapPids = m.mapPids) :
    Loaded env c pids m' := by
  constructor
  · rw [hconf]; exact h.tunnel
  · rw [hconf]; exact h.proxyPid
  · rw [hconf]; exact h.proxyPort
  · rw [hconf]; exact h.range
  · rw [hpids]; exact h.pids

/-- No hook writes the configuration or the pids. -/
theorem Loaded.step {env : LoadEnv} {c : Config} {pids : List (BitVec 32)} {m : Maps}
    (h : Loaded env c pids m) (o : ByteOrder) (e : HookEvent) : Loaded env c pids (m.step o e) := by
  cases e with
  | connect4 call =>
    refine h.congr (cgConnect4_mapConfig o m _) ?_
    by_cases hredirects : Redirects o m (call.ctx o)
    · simp only [Maps.step, cgConnect4_of_redirects hredirects]
    · simp only [Maps.step, cgConnect4_of_not_redirects hredirects]
  | sockOps ctx =>
    rcases cgSockOps_cases o m ctx with hsame | ⟨-, -, -, hports⟩
    · exact h.congr (by simp only [Maps.step, hsame]) (by simp only [Maps.step, hsame])
    · exact h.congr (by simp only [Maps.step, hports]) (by simp only [Maps.step, hports])
  | sockOpt ctx => exact h

/-! ## A container with one process -/

/-- A process of a container, with its own pid namespace in the node's. -/
def containerProc (ns : Nat) (hostPid pid : BitVec 32) : Proc :=
  { outer := [⟨hostPid, 0⟩], own := ⟨pid, ns⟩, childLevel := 1, childInum := 0
    beyond := fun _ => 0, realParent := ⟨0, fun _ => 1⟩ }

/-- A `connect` to 10.244.1.5:80. -/
def podConnect : ConnectArgs :=
  { family := afInet, protocol := ipprotoTcp, addr := 0x0af40105, port := 80, pidTgid := 0
    task := (containerProc 0 0 0).task }

theorem updatePids_singleton (pid : BitVec 32) :
    updatePids .empty [pid] = some (BoundedMap.empty.update pid 1) := by
  have hroom : (BoundedMap.empty : BoundedMap (BitVec 32) (BitVec 8) maxConnections).HasRoom pid :=
    Or.inr (by simp)
  simp only [updatePids, if_pos hroom]

/-- The maps of a sidecar that has listed one pid. -/
def oneMaps (pid : BitVec 32) : Maps :=
  .loaded (mirrorsConfig (sidecarEnv 12) (sidecarConfig podRange) 0x7f000001
    podRange.network.toNat podRange.bits) (BoundedMap.empty.update pid 1)

theorem LoadEPF_one (pid : BitVec 32) :
    LoadEPF (sidecarEnv 12) (sidecarConfig podRange) [pid] = .loaded (oneMaps pid) :=
  LoadEPF_sidecar 12 podRange (updatePids_singleton pid)

end KubeGateway.Gateway

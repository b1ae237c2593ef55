import KubeGateway.Native.LoadEPF

/-!
# Starting up

The gateway's way from `main` to its first listener: `LoadEPF` writes the maps and
attaches the three programs one after the other, and only then does `Start` create
the internal listener.  The applications of the cgroup make their calls meanwhile,
and a hook runs as soon as it is attached.
-/

namespace KubeGateway.Gateway

open Ebpf

/-- What `main` does next. -/
inductive MainPc where
  /-- `LoadEPF` as far as `map_config` -/
  | loadMaps
  | attachConnect4
  | attachSockOps
  | attachSockOpt
  /-- the first call of `Start` -/
  | createInternalListener
  /-- the rest of `Start` -/
  | serving
  | exited
  deriving DecidableEq, Repr

/-- How a call of `main` turns out; `port` is what the kernel picks for port 0. -/
structure MainReply where
  ok : Bool
  port : Nat

/-- The gateway while it starts: the programs that are attached, and the address the
    internal listener listens on. -/
structure Startup where
  pc : MainPc
  maps : Maps
  connect4 : Bool
  sockOps : Bool
  sockOpt : Bool
  listening : Option GoString

/-- The process ends, and its files are closed.  A program that is attached through
    a link goes with it; a kernel without links keeps the programs. -/
def Startup.exit (links : Bool) (s : Startup) : Startup :=
  { s with
    pc := .exited
    connect4 := s.connect4 && !links
    sockOps := s.sockOps && !links
    sockOpt := s.sockOpt && !links
    listening := none }

/-- One call of `main`.  It panics on every error. -/
def Startup.mainNext (env : LoadEnv) (links : Bool) (c : Config) (pids : List (BitVec 32))
    (s : Startup) (r : MainReply) : Startup :=
  match s.pc with
  | .loadMaps =>
    match LoadEPF { env with attaches := true } c pids with
    | .loaded m => { s with pc := .attachConnect4, maps := m }
    | _ => s.exit links
  | .attachConnect4 =>
    if r.ok then { s with pc := .attachSockOps, connect4 := true } else s.exit links
  | .attachSockOps =>
    if r.ok then { s with pc := .attachSockOpt, sockOps := true } else s.exit links
  | .attachSockOpt =>
    if r.ok then { s with pc := .createInternalListener, sockOpt := true } else s.exit links
  | .createInternalListener =>
    if r.ok then
      { s with
        pc := .serving
        listening := some (hostPort c.address (if c.proxyPort = 0 then r.port else c.proxyPort)) }
    else s.exit links
  | .serving => if r.ok then s else s.exit links
  | .exited => s

/-- A call of `main`, or a call that a hook is for. -/
inductive StartupEvent where
  | main (r : MainReply)
  | hook (e : HookEvent)

/-- The hook of the event is attached. -/
def Startup.attached (s : Startup) : HookEvent → Bool
  | .connect4 _ => s.connect4
  | .sockOps _ => s.sockOps
  | .sockOpt _ => s.sockOpt

def Startup.step (o : ByteOrder) (env : LoadEnv) (links : Bool) (c : Config)
    (pids : List (BitVec 32)) (s : Startup) : StartupEvent → Startup
  | .main r => s.mainNext env links c pids r
  | .hook e => if s.attached e then { s with maps := s.maps.step o e } else s

/-- `main` before `LoadEPF`: no program is there, and what the maps hold is not read. -/
def Startup.initial (m : Maps) : Startup :=
  { pc := .loadMaps, maps := m, connect4 := false, sockOps := false, sockOpt := false
    listening := none }

end KubeGateway.Gateway

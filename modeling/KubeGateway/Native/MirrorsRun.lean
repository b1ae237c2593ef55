import KubeGateway.ForStd.Trace
import KubeGateway.Native.Mirrors

/-!
# Runs of the hooks

The kernel calls the hooks of `mirrors.c` in any order, for any sockets.  A
`HookEvent` is one call; `Maps.step` is what it does to the maps.  `LoadEPF`
writes `map_config` and `map_pids` once, before it attaches the programs, and
starts from empty `map_socks` and `map_ports`.
-/

namespace KubeGateway.Ebpf

/-- One `connect` call, as the process makes it: address and port in host order. -/
structure ConnectCall where
  family : BitVec 32
  protocol : BitVec 32
  addr : BitVec 32
  port : BitVec 16
  cookie : BitVec 64
  pidTgid : BitVec 64
  task : Task

/-- The context the kernel hands to `cg_connect4`: `user_ip4` in network order,
    and the 16-bit network-order port field read as 32 bits. -/
def ConnectCall.ctx (o : ByteOrder) (call : ConnectCall) : BpfSockAddr :=
  { userFamily := call.family
    userIp4 := bpfHtonl o call.addr
    userPort := (bpfHtons o call.port).setWidth 32
    protocol := call.protocol
    cookie := call.cookie
    pidTgid := call.pidTgid
    task := call.task }

/-- The port `cg_connect4` sees: the shift is right for the little-endian
    object; on the big-endian one it drops the whole 16-bit field. -/
def seenPort : ByteOrder → BitVec 16 → BitVec 16
  | .little, port => port
  | .big, _ => 0

/-- `cg_connect4` records the call's own address, and its port as seen. -/
theorem ctxSocket_ctx (o : ByteOrder) (call : ConnectCall) :
    ctxSocket o (call.ctx o) = originalSocket call.addr (seenPort o call.port) := by
  cases o with
  | little =>
    simp only [ctxSocket, ConnectCall.ctx, bpfNtohl_bpfHtonl, bpfNtohl_zeroExtend_bpfHtons,
      seenPort]
  | big =>
    -- the 16-bit field is in the lower half, and the shift drops it
    have hport : (BitVec.setWidth 32 call.port >>> 16).setWidth 16 = 0 := by
      ext i hi
      simp only [BitVec.getElem_setWidth, BitVec.getLsbD_ushiftRight, BitVec.getLsbD_setWidth]
      rw [BitVec.getLsbD_of_ge _ _ (by omega), Bool.and_false]
      simp
    simp only [ctxSocket, ConnectCall.ctx, bpfNtohl, bpfHtonl, bpfHtons, seenPort, hport]

/-- One call of a hook. -/
inductive HookEvent where
  | connect4 (call : ConnectCall)
  | sockOps (ctx : BpfSockOps)
  | sockOpt (ctx : BpfSockopt)

/-- The maps after one hook. -/
def Maps.step (o : ByteOrder) (m : Maps) : HookEvent → Maps
  | .connect4 call => (cgConnect4 o m (call.ctx o)).1
  | .sockOps ctx => cgSockOps o m ctx
  | .sockOpt _ => m

/-- The maps when `LoadEPF` has written the configuration and the pids. -/
def Maps.loaded (conf : Config) (pids : BoundedMap (BitVec 32) (BitVec 8) maxConnections) : Maps :=
  { mapConfig := conf, mapSocks := BoundedMap.empty, mapPorts := BoundedMap.empty, mapPids := pids }

/-! ## Frame: the hooks write `map_socks` and `map_ports` only -/

@[simp] theorem cgConnect4_mapConfig (o : ByteOrder) (m : Maps) (ctx : BpfSockAddr) :
    (cgConnect4 o m ctx).1.mapConfig = m.mapConfig := by
  by_cases h : Redirects o m ctx
  · rw [cgConnect4_of_redirects h]
  · rw [cgConnect4_of_not_redirects h]

@[simp] theorem cgSockOps_mapSocks (o : ByteOrder) (m : Maps) (ctx : BpfSockOps) :
    (cgSockOps o m ctx).mapSocks = m.mapSocks := by
  rcases cgSockOps_cases o m ctx with h | ⟨-, -, -, h⟩ <;> rw [h]

end KubeGateway.Ebpf

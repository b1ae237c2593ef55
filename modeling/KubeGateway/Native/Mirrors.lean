import KubeGateway.ForStd.BoundedMap
import KubeGateway.Native.ByteOrder

/-!
# The eBPF programs

`ebpf/mirrors.c` and `ebpf/mirrors.h`: three hooks that share two hash maps.
`cg_connect4` rewrites a `connect` to the proxy and stores the original
destination in `map_socks` under the socket's cookie; `cg_sock_ops` stores the
cookie in `map_ports` under the client's source port once the connection is
established; `cg_sock_opt` answers `SO_ORIGINAL_DST` by going back through both.

The hooks are modelled by what they do to the maps and to their context.  Every
path of `cg_connect4` and `cg_sock_opt` returns 1 and every path of
`cg_sock_ops` returns 0, so the return codes carry no information here.  A
helper that reads kernel state (`bpf_get_socket_cookie`, the current task)
appears as a field of the context that holds what it returns for this call.
-/

namespace KubeGateway.Ebpf

/-! ## mirrors.h -/

/-- `MAX_CONNECTIONS` -/
abbrev maxConnections : Nat := 20000

/-- `AF_INET` -/
abbrev afInet : BitVec 32 := 2

/-- `IPPROTO_TCP` -/
abbrev ipprotoTcp : BitVec 32 := 6

/-- `BPF_SOCK_OPS_ACTIVE_ESTABLISHED_CB` -/
abbrev sockOpsActiveEstablished : BitVec 32 := 4

/-- `SO_ORIGINAL_DST` -/
abbrev soOriginalDst : BitVec 32 := 80

/-- `struct Config` -/
structure Config where
  proxyAddr : BitVec 32
  proxyPort : BitVec 16
  proxyPid : BitVec 64
  podCidr : BitVec 32
  svcCidr : BitVec 32
  podPrefixLength : BitVec 8
  svcPrefixLength : BitVec 8
  cidrs : BitVec 8
  debug : BitVec 8
  tunnel : BitVec 8
  deriving DecidableEq

/-- `struct Socket` -/
structure Socket where
  srcAddr : BitVec 32
  dstAddr : BitVec 32
  srcPort : BitVec 16
  dstPort : BitVec 16
  deriving DecidableEq

/-- The maps of `mirrors.h`.  `map_config` is an array of one element, so the
    lookup of key 0 always succeeds. -/
structure Maps where
  mapConfig : Config
  mapSocks : BoundedMap (BitVec 32) Socket maxConnections
  mapPorts : BoundedMap (BitVec 16) (BitVec 64) maxConnections
  mapPids : BoundedMap (BitVec 32) (BitVec 8) maxConnections

/-- What `ns_pid_ppid` reads of one task: the level of the namespace its
    children are created in, and the pid numbers of its group leader by level. -/
structure TaskIds where
  level : Nat
  numbers : Nat → BitVec 32

/-- What `ns_pid_ppid` reads of `struct task_struct`. -/
structure Task where
  ids : TaskIds
  realParent : TaskIds
  inum : BitVec 32

/-- `ns_pid_ppid`: the pid and parent pid inside their namespaces, and the
    namespace's inode number. -/
def nsPidPpid (task : Task) : BitVec 32 × BitVec 32 × BitVec 32 :=
  (task.ids.numbers task.ids.level, task.realParent.numbers task.realParent.level, task.inum)

/-- `map_socks` has 4-byte keys, so a lookup with a pointer to a 64-bit cookie
    reads the half of the cookie at the lower address. -/
def sockKey : ByteOrder → BitVec 64 → BitVec 32
  | .little, cookie => cookie.extractLsb' 0 32
  | .big, cookie => cookie.extractLsb' 32 32

/-! ## cg_connect4 -/

/-- `struct bpf_sock_addr`, with what the helpers return in this call. -/
structure BpfSockAddr where
  userFamily : BitVec 32
  userIp4 : BitVec 32
  userPort : BitVec 32
  protocol : BitVec 32
  cookie : BitVec 64
  pidTgid : BitVec 64
  task : Task

/-- `(-1) << (32 - conf->pod_prefix_length)`.  C leaves amounts outside 0..31
    undefined; the object files shift a 64-bit register by the unsigned 32-bit
    difference and keep the lower half. -/
def podMask (conf : Config) : BitVec 32 :=
  let amount : BitVec 32 := 32 - conf.podPrefixLength.setWidth 32
  ((-1 : BitVec 64) <<< (amount.toNat % 64)).setWidth 32

/-- The amount of that shift, as the source computes it. -/
def podShift (conf : Config) : Int := 32 - conf.podPrefixLength.toNat

/-- The range check of `cg_connect4`: the destination is masked and compared. -/
def PassesRange (o : ByteOrder) (conf : Config) (userIp4 : BitVec 32) : Prop :=
  bpfHtonl o userIp4 &&& podMask conf = conf.podCidr

instance (o : ByteOrder) (conf : Config) (userIp4 : BitVec 32) :
    Decidable (PassesRange o conf userIp4) :=
  inferInstanceAs (Decidable (_ = _))

/-- The process checks of `cg_connect4`: true if it leaves this process alone. -/
def skipsProcess (m : Maps) (ctx : BpfSockAddr) : Bool :=
  if m.mapConfig.tunnel = 1 then
    -- In tunnel mode we use the internal pid
    let pid := ctx.pidTgid >>> 32
    pid = m.mapConfig.proxyPid
  else
    let (nsPid, _, _) := nsPidPpid ctx.task
    match m.mapPids.lookup nsPid with
    | none => true -- isn't in this pod
    | some _ => nsPid.signExtend 64 = m.mapConfig.proxyPid

/-- The original destination as `cg_connect4` stores it: source fields zero. -/
def originalSocket (dstAddr : BitVec 32) (dstPort : BitVec 16) : Socket :=
  { srcAddr := 0, dstAddr := dstAddr, srcPort := 0, dstPort := dstPort }

/-- `cg_connect4`: the maps and the context after the hook. -/
def cgConnect4 (o : ByteOrder) (m : Maps) (ctx : BpfSockAddr) : Maps × BpfSockAddr :=
  -- Only forward IPv4 TCP connections
  if ctx.userFamily ≠ afInet then (m, ctx)
  else if ctx.protocol ≠ ipprotoTcp then (m, ctx)
  else
    let conf := m.mapConfig
    let dstAddr := bpfNtohl o ctx.userIp4
    -- If this packet is not part of the podCIDR range then return
    if (bpfHtonl o ctx.userIp4 &&& podMask conf) ≠ conf.podCidr then (m, ctx)
    else
      let dstPort : BitVec 16 := (bpfNtohl o ctx.userPort >>> 16).setWidth 16
      -- This prevents the proxy from proxying itself
      if skipsProcess m ctx then (m, ctx)
      -- kubelet readiness probes
      else if dstPort = 8080 ∨ dstPort = 8181 then (m, ctx)
      -- Ignoring cluster to cluster
      else if dstPort = 18000 ∨ dstPort = 18001 then (m, ctx)
      else
        -- Store destination socket under cookie key; the result is not checked
        let m' := { m with
          mapSocks := m.mapSocks.update (sockKey o ctx.cookie) (originalSocket dstAddr dstPort) }
        -- Redirect the connection to the proxy
        (m', { ctx with
          userIp4 := bpfHtonl o conf.proxyAddr
          userPort := bpfHtonl o (conf.proxyPort.setWidth 32 <<< 16) })

/-! ## cg_sock_ops -/

/-- `struct bpf_sock_ops`, with the cookie of its socket. -/
structure BpfSockOps where
  op : BitVec 32
  family : BitVec 32
  localPort : BitVec 32
  cookie : BitVec 64

/-- `cg_sock_ops`: record the source port of a socket that `map_socks` knows. -/
def cgSockOps (o : ByteOrder) (m : Maps) (ctx : BpfSockOps) : Maps :=
  if ctx.family ≠ afInet then m
  else if ctx.op ≠ sockOpsActiveEstablished then m
  else
    match m.mapSocks.lookup (sockKey o ctx.cookie) with
    | none => m
    | some _ => { m with mapPorts := m.mapPorts.update (ctx.localPort.setWidth 16) ctx.cookie }

/-! ## cg_sock_opt -/

/-- `struct bpf_sock`: `dst_port` is in network byte order. -/
structure BpfSock where
  family : BitVec 32
  protocol : BitVec 32
  dstPort : BitVec 16

/-- `struct bpf_sockopt`; `optvalLen` is `optval_end - optval`. -/
structure BpfSockopt where
  sk : BpfSock
  optname : BitVec 32
  optvalLen : Nat

/-- `struct sockaddr_in` as the hook fills it in. -/
structure SockaddrIn where
  sinFamily : BitVec 16
  sinPort : BitVec 16
  sAddr : BitVec 32
  deriving DecidableEq

/-- What the hook puts in place of the kernel's answer. -/
structure SockoptAnswer where
  optlen : Nat
  retval : Int
  sa : SockaddrIn
  deriving DecidableEq

/-- `cg_sock_opt`: the overriding answer, or `none` where the kernel's own
    answer stands.  The hook reads the maps and changes neither. -/
def cgSockOpt (o : ByteOrder) (m : Maps) (ctx : BpfSockopt) : Option SockoptAnswer :=
  if ctx.optname ≠ soOriginalDst then none
  else if ctx.sk.family ≠ afInet then none
  else if ctx.sk.protocol ≠ ipprotoTcp then none
  else
    -- The destination port of the accepted socket is the client's source port
    let srcPort := bpfNtohs o ctx.sk.dstPort
    match m.mapPorts.lookup srcPort with
    | none => none
    | some cookie =>
      match m.mapSocks.lookup (sockKey o cookie) with
      | none => none
      | some sock =>
        if 16 > ctx.optvalLen then none
        else
          some
            { optlen := 16
              retval := 0
              sa :=
                { sinFamily := ctx.sk.family.setWidth 16
                  sAddr := bpfHtonl o sock.dstAddr
                  sinPort := bpfHtons o sock.dstPort } }

/-! ## The Go side of the answer -/

/-- `SockAddrIn` of `utils.go`: the bytes of a `sockaddr_in`. -/
structure SockAddrIn where
  sinPort : BitVec 8 × BitVec 8
  sinAddr : BitVec 8 × BitVec 8 × BitVec 8 × BitVec 8

/-- The answer's `sockaddr_in` as it lies in memory. -/
def SockaddrIn.inMemory (o : ByteOrder) (sa : SockaddrIn) : SockAddrIn :=
  { sinPort := storeShort o sa.sinPort, sinAddr := storeLong o sa.sAddr }

/-- The address and port `findTargetFromConnection` reads out of the bytes. -/
def findTarget (dst : SockAddrIn) : BitVec 32 × BitVec 16 :=
  (dst.sinAddr.1 ++ dst.sinAddr.2.1 ++ dst.sinAddr.2.2.1 ++ dst.sinAddr.2.2.2,
    dst.sinPort.1.setWidth 16 <<< 8 ||| dst.sinPort.2.setWidth 16)

/-! ## What each hook can do -/

/-- The ports `cg_connect4` never redirects: kubelet probes and gateway to gateway. -/
def exemptPorts : List (BitVec 16) := [8080, 8181, 18000, 18001]

/-- `cg_connect4` redirects this call: it passes every check of the hook. -/
structure Redirects (o : ByteOrder) (m : Maps) (ctx : BpfSockAddr) : Prop where
  inet : ctx.userFamily = afInet
  tcp : ctx.protocol = ipprotoTcp
  inCidr : bpfHtonl o ctx.userIp4 &&& podMask m.mapConfig = m.mapConfig.podCidr
  process : skipsProcess m ctx = false
  port : (bpfNtohl o ctx.userPort >>> 16).setWidth 16 ∉ exemptPorts

theorem redirects_iff {o : ByteOrder} {m : Maps} {ctx : BpfSockAddr} :
    Redirects o m ctx ↔
      ctx.userFamily = afInet ∧ ctx.protocol = ipprotoTcp ∧
      bpfHtonl o ctx.userIp4 &&& podMask m.mapConfig = m.mapConfig.podCidr ∧
      skipsProcess m ctx = false ∧
      (bpfNtohl o ctx.userPort >>> 16).setWidth 16 ∉ exemptPorts :=
  ⟨fun h => ⟨h.inet, h.tcp, h.inCidr, h.process, h.port⟩,
    fun ⟨h₁, h₂, h₃, h₄, h₅⟩ => ⟨h₁, h₂, h₃, h₄, h₅⟩⟩

instance (o : ByteOrder) (m : Maps) (ctx : BpfSockAddr) : Decidable (Redirects o m ctx) :=
  decidable_of_iff' _ redirects_iff

/-- The original destination that `cg_connect4` takes from its context. -/
def ctxSocket (o : ByteOrder) (ctx : BpfSockAddr) : Socket :=
  originalSocket (bpfNtohl o ctx.userIp4) ((bpfNtohl o ctx.userPort >>> 16).setWidth 16)

/-- A call that passes every check is recorded, if there is room, and rewritten. -/
theorem cgConnect4_of_redirects {o : ByteOrder} {m : Maps} {ctx : BpfSockAddr}
    (h : Redirects o m ctx) :
    cgConnect4 o m ctx =
      ({ m with mapSocks := m.mapSocks.update (sockKey o ctx.cookie) (ctxSocket o ctx) },
        { ctx with
          userIp4 := bpfHtonl o m.mapConfig.proxyAddr
          userPort := bpfHtonl o (m.mapConfig.proxyPort.setWidth 32 <<< 16) }) := by
  have hport := h.port
  simp only [exemptPorts, List.mem_cons, List.not_mem_nil, or_false, not_or] at hport
  obtain ⟨h₁, h₂, h₃, h₄⟩ := hport
  unfold cgConnect4
  rw [if_neg (not_not.mpr h.inet), if_neg (not_not.mpr h.tcp)]
  dsimp only
  rw [if_neg (not_not.mpr h.inCidr), h.process, if_neg Bool.false_ne_true,
    if_neg (not_or.mpr ⟨h₁, h₂⟩), if_neg (not_or.mpr ⟨h₃, h₄⟩)]
  rfl

/-- Any other call is left as it is, and so are the maps. -/
theorem cgConnect4_of_not_redirects {o : ByteOrder} {m : Maps} {ctx : BpfSockAddr}
    (h : ¬ Redirects o m ctx) : cgConnect4 o m ctx = (m, ctx) := by
  unfold cgConnect4
  dsimp only
  split_ifs with hfam hproto hcidr hproc hprobe hcluster
  case neg =>
    -- every check passed, so the call redirects
    refine absurd (redirects_iff.mpr ⟨not_not.mp hfam, not_not.mp hproto, not_not.mp hcidr,
      by simpa using hproc, ?_⟩) h
    simp only [exemptPorts, List.mem_cons, List.not_mem_nil, or_false, not_or] at hprobe hcluster ⊢
    exact ⟨hprobe.1, hprobe.2, hcluster⟩
  all_goals rfl

/-- `cg_sock_ops` only ever adds to `map_ports`, and only for a socket whose
    key `map_socks` holds. -/
theorem cgSockOps_cases (o : ByteOrder) (m : Maps) (ctx : BpfSockOps) :
    cgSockOps o m ctx = m ∨
      (ctx.family = afInet ∧ ctx.op = sockOpsActiveEstablished ∧
        (m.mapSocks.lookup (sockKey o ctx.cookie)).isSome ∧
        cgSockOps o m ctx =
          { m with mapPorts := m.mapPorts.update (ctx.localPort.setWidth 16) ctx.cookie }) := by
  unfold cgSockOps
  split_ifs with hfam hop
  · exact Or.inl rfl
  · exact Or.inl rfl
  · cases hsock : m.mapSocks.lookup (sockKey o ctx.cookie) with
    | none => exact Or.inl rfl
    | some sock => exact Or.inr ⟨not_not.mp hfam, not_not.mp hop, rfl, rfl⟩

/-- An answer of `cg_sock_opt` is a `map_socks` entry, reached through the
    `map_ports` entry of the queried socket's peer port. -/
theorem cgSockOpt_eq_some {o : ByteOrder} {m : Maps} {ctx : BpfSockopt} {ans : SockoptAnswer}
    (h : cgSockOpt o m ctx = some ans) :
    ctx.optname = soOriginalDst ∧ ctx.sk.family = afInet ∧ ctx.sk.protocol = ipprotoTcp ∧
      ∃ cookie sock,
        m.mapPorts.lookup (bpfNtohs o ctx.sk.dstPort) = some cookie ∧
        m.mapSocks.lookup (sockKey o cookie) = some sock ∧
        ans.sa.sAddr = bpfHtonl o sock.dstAddr ∧ ans.sa.sinPort = bpfHtons o sock.dstPort := by
  unfold cgSockOpt at h
  split at h
  · exact nomatch h
  · rename_i hopt
    split at h
    · exact nomatch h
    · rename_i hfam
      split at h
      · exact nomatch h
      · rename_i hproto
        -- the three tests have passed; the two lookups are left, and the size of the buffer
        refine ⟨not_not.mp hopt, not_not.mp hfam, not_not.mp hproto, ?_⟩
        dsimp only at h
        cases hport : m.mapPorts.lookup (bpfNtohs o ctx.sk.dstPort) with
        | none => simp only [hport] at h; exact nomatch h
        | some cookie =>
          simp only [hport] at h
          cases hsock : m.mapSocks.lookup (sockKey o cookie) with
          | none => simp only [hsock] at h; exact nomatch h
          | some sock =>
            simp only [hsock] at h
            split at h
            · exact nomatch h
            · rw [Option.some.injEq] at h
              subst h
              exact ⟨cookie, sock, rfl, hsock, rfl, rfl⟩

/-- The Go side reads the stored address and port back out of the answer, on
    either byte order. -/
theorem findTarget_inMemory (o : ByteOrder) (family : BitVec 16) (addr : BitVec 32)
    (port : BitVec 16) :
    findTarget (SockaddrIn.inMemory o
      { sinFamily := family, sAddr := bpfHtonl o addr, sinPort := bpfHtons o port }) =
      (addr, port) := by
  simp only [findTarget, SockaddrIn.inMemory, Prod.mk.injEq]
  cases o with
  | little =>
    -- the conversion and the store reverse the bytes, so network order lies in memory
    simp only [bpfHtonl, bpfHtons, storeLong, storeShort, swapLong, swapShort]
    constructor
    · ext i hi
      simp only [BitVec.getElem_append, BitVec.getElem_extractLsb', BitVec.getLsbD_append,
        BitVec.getLsbD_extractLsb']
      interval_cases i <;> rfl
    · ext i hi
      simp only [BitVec.getElem_or, BitVec.getElem_shiftLeft, BitVec.getElem_setWidth,
        BitVec.getLsbD_append, BitVec.getLsbD_extractLsb']
      interval_cases i <;> simp
  | big =>
    simp only [bpfHtonl, bpfHtons, storeLong, storeShort]
    constructor
    · ext i hi
      simp only [BitVec.getElem_append, BitVec.getElem_extractLsb']
      interval_cases i <;> rfl
    · ext i hi
      simp only [BitVec.getElem_or, BitVec.getElem_shiftLeft, BitVec.getElem_setWidth,
        BitVec.getLsbD_extractLsb']
      interval_cases i <;> simp

end KubeGateway.Ebpf

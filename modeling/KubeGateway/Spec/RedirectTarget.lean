import KubeGateway.Native.Processes

/-!
# The redirect under both byte orders

Where a redirected connection goes, and what the proxy is told about where it was
meant to go.  On the little-endian object the conversions of `cg_connect4` cancel,
for every address and port.  On the big-endian object the shifts by 16 move the
port out of the half that is read: the socket goes to port 0, and the original
port is recorded as 0.
-/

namespace KubeGateway.Gateway

open Ebpf

/-! ## The rewritten socket -/

/-- The port a socket goes to when `cg_connect4` writes the proxy's. -/
private theorem port_redirected (o : ByteOrder) (port : BitVec 16) :
    bpfNtohs o ((bpfHtonl o (port.setWidth 32 <<< 16)).setWidth 16) = seenPort o port := by
  cases o with
  | little =>
    simp only [bpfNtohs, bpfHtonl, swapLong, swapShort, seenPort]
    ext i hi
    simp only [BitVec.getElem_append, BitVec.getElem_extractLsb', BitVec.getLsbD_append,
      BitVec.getLsbD_extractLsb', BitVec.getLsbD_setWidth, BitVec.getLsbD_shiftLeft]
    interval_cases i <;> simp
  | big =>
    -- the port is in the upper half, and the kernel keeps the lower one
    have hlow : (port.setWidth 32 <<< 16).setWidth 16 = 0#16 := by
      apply BitVec.eq_of_getLsbD_eq
      intro i hi
      simp only [BitVec.getLsbD_setWidth, BitVec.getLsbD_shiftLeft]
      simp [hi]
    simp only [bpfNtohs, bpfHtonl, seenPort, hlow]
    rfl

/-- Where a redirected call goes. -/
theorem connectTarget_of_redirects {o : ByteOrder} {m : Maps} {ctx : BpfSockAddr}
    (h : Redirects o m ctx) :
    connectTarget o (cgConnect4 o m ctx).2 =
      (m.mapConfig.proxyAddr, seenPort o m.mapConfig.proxyPort) := by
  rw [cgConnect4_of_redirects h]
  simp only [connectTarget, bpfNtohl_bpfHtonl, port_redirected]

/-- Two `host:port` texts with one host are equal only for one port. -/
private theorem hostPort_right_inj {host : GoString} {m n : Nat}
    (h : hostPort host m = hostPort host n) : m = n := by
  unfold hostPort at h
  have hdigits := List.append_cancel_left h
  rw [decimal_natCast, decimal_natCast] at hdigits
  exact Decimal.digits_injective hdigits

theorem Target.text_eq (addr : BitVec 32) (port : BitVec 16) :
    Target.text ⟨addr, port⟩ = hostPort (dottedQuad addr) port.toNat := rfl

/-- The socket goes where the internal listener is, if its port is what it should be. -/
theorem text_eq_internalAddr {env : LoadEnv} {c : Config} {pids : List (BitVec 32)} {m : Maps}
    {addr : BitVec 32} (haddress : c.address = dottedQuad addr)
    (hport : 1 ≤ c.proxyPort ∧ c.proxyPort ≤ 65535) (hload : LoadEPF env c pids = .loaded m)
    (o : ByteOrder) :
    Target.text ⟨m.mapConfig.proxyAddr, seenPort o m.mapConfig.proxyPort⟩ = c.internalAddr ↔
      o = .little := by
  obtain ⟨_, _, _, _, proxyAddr, _, _, _, _, hproxy, _, _, rfl⟩ := LoadEPF_eq_loaded hload
  obtain ⟨port, hp⟩ : ∃ port : Nat, c.proxyPort = port := ⟨c.proxyPort.toNat, by omega⟩
  rw [haddress, ToInt_dottedQuad, Option.some.injEq] at hproxy
  have haddr : BitVec.ofNat 32 proxyAddr = addr := by
    simp [← hproxy]
  have hwidth : (BitVec.ofInt 16 (port : Int)).toNat = port := by
    rw [BitVec.ofInt_natCast, BitVec.toNat_ofNat]
    omega
  simp only [Maps.loaded, mirrorsConfig, haddr, Target.text_eq, Config.internalAddr, haddress, hp]
  cases o with
  | little => simp only [seenPort, hwidth]
  | big =>
    -- port 0, where the listener has another one
    refine iff_of_false (fun heq => ?_) (by simp)
    have hzero : 0 = port := hostPort_right_inj heq
    omega

/-! ## The answer -/

/-- The query the proxy makes on the connection it accepted from `ep`. -/
def targetQuery (ep : Endpoints) : Query :=
  { peer := none, endpoints := ep.mirror, optname := soOriginalDst, family := afInet
    protocol := ipprotoTcp, optvalLen := 16 }

/-- The maps lead from the source port to this destination. -/
def Leads (o : ByteOrder) (m : Maps) (port : BitVec 16) (dst : BitVec 32 × BitVec 16) : Prop :=
  ∃ cookie sock, m.mapPorts.lookup port = some cookie ∧
    m.mapSocks.lookup (sockKey o cookie) = some sock ∧ (sock.dstAddr, sock.dstPort) = dst

/-- The proxy is told the destination its maps lead to. -/
private theorem answer_iff_leads (o : ByteOrder) (m : Maps) (ep : Endpoints)
    (dst : BitVec 32 × BitVec 16) :
    (∃ ans, cgSockOpt o m ((targetQuery ep).ctx o) = some ans ∧
      findTarget (ans.sa.inMemory o) = dst) ↔ Leads o m ep.localPort dst := by
  have hport : bpfNtohs o ((targetQuery ep).ctx o).sk.dstPort = ep.localPort :=
    bpfNtohs_bpfHtons o _
  constructor
  · rintro ⟨ans, hans, htarget⟩
    obtain ⟨-, -, -, cookie, sock, hcookie, hsock, haddr, hsport⟩ := cgSockOpt_eq_some hans
    rw [hport] at hcookie
    refine ⟨cookie, sock, hcookie, hsock, ?_⟩
    rw [← htarget, show ans.sa = ⟨ans.sa.sinFamily, ans.sa.sinPort, ans.sa.sAddr⟩ from rfl, haddr,
      hsport]
    exact (findTarget_inMemory o _ _ _).symm
  · rintro ⟨cookie, sock, hcookie, hsock, hdst⟩
    -- no test of the hook fails on the proxy's query
    have hans : cgSockOpt o m ((targetQuery ep).ctx o) = some
        { optlen := 16, retval := 0
          sa :=
            { sinFamily := afInet.setWidth 16, sAddr := bpfHtonl o sock.dstAddr
              sinPort := bpfHtons o sock.dstPort } } := by
      unfold cgSockOpt
      dsimp only
      rw [hport, hcookie]
      simp only [hsock]
      rfl
    refine ⟨_, hans, ?_⟩
    rw [findTarget_inMemory, hdst]

/-! ## Both -/

/-- The socket of a call goes to the gateway's internal listener; and once it is
    established with the ends `ep`, the proxy is told where the call was meant to
    go. -/
structure RedirectsExactly (o : ByteOrder) (c : Config) (m : Maps) (call : ConnectCall)
    (ep : Endpoints) : Prop where
  listener : Target.text ⟨(connectTarget o (cgConnect4 o m (call.ctx o)).2).1,
    (connectTarget o (cgConnect4 o m (call.ctx o)).2).2⟩ = c.internalAddr
  original : ∃ ans,
    cgSockOpt o (cgSockOps o (cgConnect4 o m (call.ctx o)).1 (establishedCtx call.cookie ep))
      ((targetQuery ep).ctx o) = some ans ∧
    findTarget (ans.sa.inMemory o) = (call.addr, call.port)

/-- There is room for the call's record and for its source port; or there is none for
    the record, and the maps lead to the same destination already. -/
def RoomFor (o : ByteOrder) (m : Maps) (call : ConnectCall) (port : BitVec 16) : Prop :=
  if m.mapSocks.HasRoom (sockKey o call.cookie) then m.mapPorts.HasRoom port
  else Leads o m port (call.addr, call.port)

/-- After a redirected call is established, the maps lead from its port to where it
    was meant to go if there was room for it. -/
private theorem leads_iff_roomFor {m : Maps} {call : ConnectCall} (ep : Endpoints)
    (h : Redirects .little m (call.ctx .little)) :
    Leads .little
        (cgSockOps .little (cgConnect4 .little m (call.ctx .little)).1
          (establishedCtx call.cookie ep))
        ep.localPort (call.addr, call.port) ↔
      RoomFor .little m call ep.localPort := by
  have hcookie : (call.ctx .little).cookie = call.cookie := rfl
  rw [cgConnect4_of_redirects h, cgSockOps_establishedCtx, hcookie, ctxSocket_ctx]
  unfold RoomFor
  by_cases hsocks : m.mapSocks.HasRoom (sockKey .little call.cookie)
  · have hrecord := BoundedMap.lookup_update_self_of_hasRoom
      (originalSocket call.addr (seenPort .little call.port)) hsocks
    rw [if_pos hsocks]
    simp only [hrecord, Option.isSome_some, if_true]
    by_cases hports : m.mapPorts.HasRoom ep.localPort
    · -- the port leads to the cookie, and the cookie to the record
      have hfound : Leads .little
          { m with
            mapSocks := m.mapSocks.update (sockKey .little call.cookie)
              (originalSocket call.addr (seenPort .little call.port))
            mapPorts := m.mapPorts.update ep.localPort call.cookie }
          ep.localPort (call.addr, call.port) :=
        ⟨call.cookie, _, BoundedMap.lookup_update_self_of_hasRoom _ hports, hrecord, rfl⟩
      exact iff_of_true hfound hports
    · -- the port is not in the map, and does not get in
      have hnone : m.mapPorts.lookup ep.localPort = none := by
        rw [← Option.not_isSome_iff_eq_none]
        exact fun hsome => hports (Or.inl hsome)
      refine iff_of_false ?_ hports
      rintro ⟨cookie, sock, hlookup, -, -⟩
      simp only [BoundedMap.update_of_not_hasRoom _ hports, hnone] at hlookup
      cases hlookup
  · -- nothing is recorded, so nothing is established either
    have hnone : (m.mapSocks.lookup (sockKey .little call.cookie)).isSome = false := by
      cases hlookup : m.mapSocks.lookup (sockKey .little call.cookie) with
      | none => rfl
      | some sock => exact absurd (Or.inl (by rw [hlookup]; rfl)) hsocks
    rw [if_neg hsocks]
    simp only [BoundedMap.update_of_not_hasRoom _ hsocks, hnone, Bool.false_eq_true, if_false]

/-- For both objects, every proxy address and port, every state of the maps under the
    loaded configuration, and every call that is redirected: the socket goes to the
    internal listener and the proxy is told the original destination if and only if
    the object is the little-endian one and the maps have room. -/
theorem redirects_exactly_iff_little {env : LoadEnv} {c : Config} {pids : List (BitVec 32)}
    {m₀ m : Maps} {addr : BitVec 32} (haddress : c.address = dottedQuad addr)
    (hport : 1 ≤ c.proxyPort ∧ c.proxyPort ≤ 65535) (hload : LoadEPF env c pids = .loaded m₀)
    (hconf : m.mapConfig = m₀.mapConfig) {o : ByteOrder} {call : ConnectCall}
    (hredirects : Redirects o m (call.ctx o)) (ep : Endpoints) :
    RedirectsExactly o c m call ep ↔ o = .little ∧ RoomFor o m call ep.localPort := by
  have htarget := connectTarget_of_redirects hredirects
  have htext := text_eq_internalAddr haddress hport hload o
  rw [← hconf] at htext
  constructor
  · rintro ⟨hlistener, horiginal⟩
    rw [htarget] at hlistener
    obtain rfl := htext.mp hlistener
    rw [answer_iff_leads] at horiginal
    exact ⟨rfl, (leads_iff_roomFor ep hredirects).mp horiginal⟩
  · rintro ⟨rfl, hroom⟩
    refine ⟨?_, ?_⟩
    · rw [htarget]
      exact htext.mpr rfl
    · rw [answer_iff_leads]
      exact (leads_iff_roomFor ep hredirects).mpr hroom

/-! ## One connection -/

/-- The `connect` of that process to 10.244.1.5:80. -/
def oneCall : ConnectCall := (containerProc 1 4007 7).call 100 podConnect

/-- The ends of its connection to the listener. -/
def oneEndpoints : Endpoints := ⟨0x7f000001, 40000, 0x7f000001, 18000⟩

theorem redirects_oneCall (o : ByteOrder) : Redirects o (oneMaps 7) (oneCall.ctx o) := by
  cases o <;> decide

theorem redirects_exactly_oneCall :
    RedirectsExactly .little (sidecarConfig podRange) (oneMaps 7) oneCall oneEndpoints ↔
      ByteOrder.little = .little ∧ RoomFor .little (oneMaps 7) oneCall oneEndpoints.localPort := by
  have haddress : (sidecarConfig podRange).address = dottedQuad 0x7f000001#32 := rfl
  exact redirects_exactly_iff_little haddress (by decide) (LoadEPF_one 7) rfl
    (redirects_oneCall .little) oneEndpoints

/-- On the big-endian object the socket goes to port 0. -/
theorem not_redirects_exactly :
    ¬ ∀ (env : LoadEnv) (c : Config) (pids : List (BitVec 32)) (m : Maps) (addr : BitVec 32)
      (o : ByteOrder) (call : ConnectCall) (ep : Endpoints), c.address = dottedQuad addr →
      1 ≤ c.proxyPort ∧ c.proxyPort ≤ 65535 → LoadEPF env c pids = .loaded m →
      Redirects o m (call.ctx o) → RedirectsExactly o c m call ep := by
  intro h
  have haddress : (sidecarConfig podRange).address = dottedQuad 0x7f000001#32 := rfl
  have hbad := h _ _ _ _ _ .big oneCall oneEndpoints haddress (by decide) (LoadEPF_one 7)
    (redirects_oneCall .big)
  have hlistener := hbad.listener
  rw [connectTarget_of_redirects (redirects_oneCall .big)] at hlistener
  exact nomatch (text_eq_internalAddr haddress (by decide) (LoadEPF_one 7) .big).mp hlistener

end KubeGateway.Gateway

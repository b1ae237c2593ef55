import KubeGateway.Native.LoadEPF

/-!
# What the hooks are configured with

The configuration of the hooks is read out of two texts.  It stands for what they
say exactly when both say something `LoadEPF` can hold: the address an IPv4
address, the pod range an IPv4 address, a slash, and a number of at most 32.
`LoadEPF` tests none of this.  Only a prefix length that is no number is an
error; without a slash there is no second part to index, `ToInt` indexes into a
nil address, and every other number is cut down to its low eight bits.
-/

namespace KubeGateway.Gateway

/-! ## What the texts say -/

/-- The text is this IPv4 address. -/
def WritesIPv4 (text : GoString) (addr : BitVec 32) : Prop := parseIPv4 text = some (octets addr)

/-- The text is this range: its network, a slash, and its prefix length. -/
def Cidr.WrittenAs (r : Cidr) (text : GoString) : Prop :=
  ∃ network length, text.splitOn 47 = [network, length] ∧ WritesIPv4 network r.network ∧
    atoi length = some (r.bits : Int)

/-- A text is one address at most. -/
theorem WritesIPv4.unique {text : GoString} {addr addr' : BitVec 32} (h : WritesIPv4 text addr)
    (h' : WritesIPv4 text addr') : addr' = addr := by
  have hint := ToInt_of_parseIPv4 (fun _ => none) h
  rw [ToInt_of_parseIPv4 (fun _ => none) h', Option.some.injEq] at hint
  exact BitVec.eq_of_toNat_eq hint

/-- A text is one range at most. -/
theorem Cidr.WrittenAs.unique {r r' : Cidr} {text : GoString} (h : r.WrittenAs text)
    (h' : r'.WrittenAs text) : r' = r := by
  obtain ⟨network, length, hsplit, hnetwork, hlength⟩ := h
  obtain ⟨network', length', hsplit', hnetwork', hlength'⟩ := h'
  rw [hsplit] at hsplit'
  obtain ⟨rfl, rfl⟩ : network = network' ∧ length = length' := by simpa using hsplit'
  have hbits : r'.bits = r.bits := by
    rw [hlength, Option.some.injEq] at hlength'
    omega
  have haddr := hnetwork.unique hnetwork'
  cases r
  cases r'
  simp_all

theorem writesIPv4_dottedQuad (addr : BitVec 32) : WritesIPv4 (dottedQuad addr) addr :=
  parseIPv4_dottedQuad addr

theorem Cidr.writtenAs_text (r : Cidr) : r.WrittenAs r.text := by
  have hle := r.bits_le
  exact ⟨dottedQuad r.network, decimal r.bits, splitOn_text r, writesIPv4_dottedQuad r.network,
    atoi_decimal (by omega)⟩

/-- The hooks' configuration holds the address and the range of the gateway's. -/
structure Config.HeldBy (c : Config) (conf : Ebpf.Config) : Prop where
  proxyAddr : WritesIPv4 c.address conf.proxyAddr
  podRange : ∃ r : Cidr, r.WrittenAs c.podCIDR ∧ conf.podCidr = r.network ∧
    conf.podPrefixLength.toNat = r.bits

/-- An error, or the configuration that was meant. -/
def LoadOutcome.Exact (c : Config) : LoadOutcome → Prop
  | .err => True
  | .panics => False
  | .loaded m => c.HeldBy m.mapConfig

/-- Whatever the kernel does, and whichever pids are listed: if they fit into their
    map, `LoadEPF` makes an error of the configuration or holds it exactly. -/
def LoadsExactly (parseIPv6 : GoString → Option (List UInt8)) (c : Config) : Prop :=
  ∀ env pids mapPids, env.parseIPv6 = parseIPv6 → updatePids .empty pids = some mapPids →
    (LoadEPF env c pids).Exact c

/-- There is a slash, and behind it something that is no number, or else both texts
    say something the hooks' configuration can hold. -/
def Config.Representable (c : Config) : Prop :=
  ∃ network length more, c.podCIDR.splitOn 47 = network :: length :: more ∧
    (atoi length = none ∨
      (∃ addr, WritesIPv4 c.address addr) ∧ ∃ r : Cidr, r.WrittenAs c.podCIDR)

theorem representable_of_text {c : Config} {addr : BitVec 32} {r : Cidr}
    (haddress : c.address = dottedQuad addr) (hcidr : c.podCIDR = r.text) : c.Representable := by
  refine ⟨dottedQuad r.network, decimal r.bits, [], ?_, Or.inr ⟨⟨addr, ?_⟩, r, ?_⟩⟩
  · rw [hcidr, splitOn_text]
  · rw [haddress]
    exact writesIPv4_dottedQuad addr
  · rw [hcidr]
    exact r.writtenAs_text

example : (sidecarConfig podRange).Representable := representable_of_text rfl rfl

/-! ## Loading -/

/-- A prefix length that is no number is the one error the text can make. -/
theorem LoadEPF_of_atoi_eq_none {c : Config} {network length : GoString} {more : List GoString}
    (hsplit : c.podCIDR.splitOn 47 = network :: length :: more) (hatoi : atoi length = none)
    (env : LoadEnv) (pids : List (BitVec 32)) : LoadEPF env c pids = .err := by
  unfold LoadEPF
  simp only [hsplit, hatoi, ite_self]

/-- The configuration of two texts that can be represented. -/
theorem heldBy_mirrorsConfig {c : Config} {addr : BitVec 32} {r : Cidr}
    (haddress : WritesIPv4 c.address addr) (hcidr : r.WrittenAs c.podCIDR) (env : LoadEnv) :
    c.HeldBy (mirrorsConfig env c addr.toNat r.network.toNat r.bits) := by
  have hproxy : (mirrorsConfig env c addr.toNat r.network.toNat r.bits).proxyAddr = addr := by
    simp [mirrorsConfig]
  have hnetwork : (mirrorsConfig env c addr.toNat r.network.toNat r.bits).podCidr = r.network := by
    simp [mirrorsConfig]
  refine ⟨?_, r, hcidr, hnetwork, podPrefixLength_mirrorsConfig env c _ _ r⟩
  rw [hproxy]
  exact haddress

/-- What the texts write is loaded, if anything is. -/
theorem LoadEPF_exact_of_written {env : LoadEnv} {c : Config} {pids : List (BitVec 32)}
    {mapPids : BoundedMap (BitVec 32) (BitVec 8) Ebpf.maxConnections} {addr : BitVec 32} {r : Cidr}
    (haddress : WritesIPv4 c.address addr) (hcidr : r.WrittenAs c.podCIDR)
    (hpids : updatePids .empty pids = some mapPids) : (LoadEPF env c pids).Exact c := by
  have hheld := heldBy_mirrorsConfig haddress hcidr env
  obtain ⟨network, length, hsplit, hnetwork, hatoi⟩ := hcidr
  have hproxyAddr := ToInt_of_parseIPv4 env.parseIPv6 haddress
  have hpodCidr := ToInt_of_parseIPv4 env.parseIPv6 hnetwork
  unfold LoadEPF
  simp only [hsplit, hatoi, hproxyAddr, hpodCidr, hpids]
  split
  · trivial
  · split
    · exact hheld
    · trivial

/-- A kernel that takes everything. -/
def takingEnv (parseIPv6 : GoString → Option (List UInt8)) : LoadEnv :=
  { parseIPv6 := parseIPv6, loads := true, getpid := 0, attaches := true }

/-- There, only a prefix length that is no number is an error. -/
theorem LoadEPF_eq_err {parseIPv6 : GoString → Option (List UInt8)} {c : Config}
    (h : LoadEPF (takingEnv parseIPv6) c [] = .err) :
    ∃ network length more, c.podCIDR.splitOn 47 = network :: length :: more ∧
      atoi length = none := by
  unfold LoadEPF at h
  simp only [takingEnv, updatePids, Bool.not_true, Bool.false_eq_true, if_false, if_true] at h
  split at h
  · rename_i network length more hsplit
    split at h
    · rename_i hatoi
      exact ⟨network, length, more, hsplit, hatoi⟩
    · split at h <;> cases h
  · cases h

/-- For every address, every pod range and every parser of IPv6 addresses: `LoadEPF`
    answers with an error or configures the hooks with exactly what the texts say,
    in every environment, if and only if they can be represented. -/
theorem loadsExactly_iff (parseIPv6 : GoString → Option (List UInt8)) (c : Config) :
    LoadsExactly parseIPv6 c ↔ c.Representable := by
  constructor
  · intro hexact
    have h := hexact (takingEnv parseIPv6) [] .empty rfl rfl
    cases hload : LoadEPF (takingEnv parseIPv6) c [] with
    | err =>
      obtain ⟨network, length, more, hsplit, hatoi⟩ := LoadEPF_eq_err hload
      exact ⟨network, length, more, hsplit, Or.inl hatoi⟩
    | panics =>
      rw [hload] at h
      exact h.elim
    | loaded m =>
      rw [hload] at h
      obtain ⟨network, length, more, _, _, _, _, hsplit, -⟩ := LoadEPF_eq_loaded hload
      obtain ⟨haddress, r, hcidr, -⟩ := h
      exact ⟨network, length, more, hsplit, Or.inr ⟨⟨_, haddress⟩, r, hcidr⟩⟩
  · rintro ⟨network, length, more, hsplit, hatoi | ⟨⟨addr, haddress⟩, r, hcidr⟩⟩
    · intro env pids mapPids _ _
      rw [LoadEPF_of_atoi_eq_none hsplit hatoi]
      trivial
    · intro env pids mapPids _ hpids
      exact LoadEPF_exact_of_written haddress hcidr hpids

/-! ## Texts that are not rejected -/

/-- 127.0.0.1 and 10.244.0.0 -/
def slashless : Config := { sidecarConfig podRange with podCIDR := dottedQuad podRange.network }

/-- Nothing is rejected here: the text has one part, and the second is indexed. -/
theorem not_loadsExactly_slashless :
    LoadEPF (sidecarEnv 7) slashless [] = .panics ∧
      ¬ LoadsExactly (fun _ => none) slashless := by
  have hsplit : slashless.podCIDR.splitOn 47 = [dottedQuad podRange.network] :=
    List.splitOn_eq_singleton (notMem_dottedQuad (by decide) (by decide) podRange.network)
  have hload : LoadEPF (sidecarEnv 7) slashless [] = .panics := by
    unfold LoadEPF
    simp only [hsplit, sidecarEnv, Bool.not_true, Bool.false_eq_true, if_false]
  refine ⟨hload, fun hexact => ?_⟩
  have h := hexact (sidecarEnv 7) [] .empty rfl rfl
  rw [hload] at h
  exact h

-- a number that is too large is held as its low eight bits
example : ∃ m, LoadEPF (sidecarEnv 7)
    { sidecarConfig podRange with podCIDR := goString "10.244.0.0/272" } [] = .loaded m ∧
      m.mapConfig.podPrefixLength = 16 := ⟨_, rfl, rfl⟩

end KubeGateway.Gateway

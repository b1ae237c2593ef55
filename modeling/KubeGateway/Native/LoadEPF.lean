import KubeGateway.ForStd.Decimal
import KubeGateway.Native.Connection
import KubeGateway.Native.MirrorsRun

/-!
# Loading the eBPF programs

`LoadEPF` of `gateway/pkg/manager` and `ToInt` of `gateway/pkg/connection`: how
the configuration of the hooks is read out of the gateway's own, which holds
addresses and the pod range as text.  The text is taken apart with
`strings.Split`, `strconv.Atoi` and `net.ParseIP`.
-/

namespace KubeGateway.Gateway

/-! ## Numbers and addresses in text -/

/-- `strconv.Atoi`: a sign or none, digits, and a value that fits into 64 bits. -/
def atoi (s : GoString) : Option Int :=
  match s with
  | 45 :: ds => (Decimal.parse ds).bind fun n => if n ≤ 2 ^ 63 then some (-(n : Int)) else none
  | 43 :: ds => (Decimal.parse ds).bind fun n => if n < 2 ^ 63 then some (n : Int) else none
  | ds => (Decimal.parse ds).bind fun n => if n < 2 ^ 63 then some (n : Int) else none

/-- A field of an IPv4 address: at most 255, without leading zeros. -/
def parseOctet (field : GoString) : Option UInt8 :=
  match Decimal.parse field with
  | none => none
  | some n =>
    if n ≤ 255 ∧ (field.head? = some 48 → field.length = 1) then some (UInt8.ofNat n) else none

/-- `netip.parseIPv4` -/
def parseIPv4 (s : GoString) : Option (List UInt8) :=
  match (s.splitOn 46).mapM parseOctet with
  | some [a, b, c, d] => some [a, b, c, d]
  | _ => none

/-- The bytes in front of an IPv4 address of 16 bytes. -/
def v4InV6Prefix : List UInt8 := [0, 0, 0, 0, 0, 0, 0, 0, 0, 0, 255, 255]

/-- `net.ParseIP`, nil for a text that is no address.  The first of `.`, `:` and `%`
    decides; `parseIPv6` parses the addresses with a colon. -/
def ParseIP (parseIPv6 : GoString → Option (List UInt8)) (s : GoString) : List UInt8 :=
  match s.find? (fun b => b == 46 || b == 58 || b == 37) with
  | some 46 => ((parseIPv4 s).map fun ip => v4InV6Prefix ++ ip).getD []
  | some 58 => (parseIPv6 s).getD []
  | _ => []

/-- `ToInt`; `none` is the panic of an index that is out of range. -/
def ToInt (parseIPv6 : GoString → Option (List UInt8)) (address : GoString) : Option Nat := do
  let ip := ParseIP parseIPv6 address
  let a ← ip[12]?
  let b ← ip[13]?
  let c ← ip[14]?
  let d ← ip[15]?
  return a.toNat * 16777216 + b.toNat * 65536 + c.toNat * 256 + d.toNat

/-! ## LoadEPF -/

/-- What `LoadEPF` meets: the parser of IPv6 addresses; whether the kernel takes the
    objects; `os.Getpid()`; whether the programs can be attached. -/
structure LoadEnv where
  parseIPv6 : GoString → Option (List UInt8)
  loads : Bool
  getpid : Nat
  attaches : Bool

inductive LoadOutcome where
  /-- an error is returned, on which `main` panics -/
  | err
  | panics
  | loaded (m : Ebpf.Maps)

/-- The `mirrorsConfig` that is written to `map_config`; the fields that are not named
    are zero. -/
def mirrorsConfig (env : LoadEnv) (c : Config) (proxyAddr podCidr : Nat) (prefixLength : Int) :
    Ebpf.Config :=
  { proxyAddr := BitVec.ofNat 32 proxyAddr
    proxyPort := BitVec.ofInt 16 c.proxyPort
    proxyPid := BitVec.ofNat 64 env.getpid
    podCidr := BitVec.ofNat 32 podCidr
    svcCidr := 0
    podPrefixLength := BitVec.ofInt 8 prefixLength
    svcPrefixLength := 0
    cidrs := 1
    debug := 0
    tunnel := if c.tunnel then 1 else 0 }

/-- The map of the pids; `none` is the panic of an update that fails. -/
def updatePids (m : BoundedMap (BitVec 32) (BitVec 8) Ebpf.maxConnections) :
    List (BitVec 32) → Option (BoundedMap (BitVec 32) (BitVec 8) Ebpf.maxConnections)
  | [] => some m
  | pid :: pids => if m.HasRoom pid then updatePids (m.update pid 1) pids else none

/-- `LoadEPF`, with `Config.Pids`. -/
def LoadEPF (env : LoadEnv) (c : Config) (pids : List (BitVec 32)) : LoadOutcome :=
  if !env.loads then .err
  else
    -- Split the cidr between the network and the prefix length
    match c.podCIDR.splitOn 47 with
    | network :: length :: _ =>
      match atoi length with
      | none => .err
      | some prefixLength =>
        match ToInt env.parseIPv6 c.address, ToInt env.parseIPv6 network with
        | some proxyAddr, some podCidr =>
          match updatePids .empty pids with
          | none => .panics
          | some mapPids =>
            if env.attaches then
              .loaded (.loaded (mirrorsConfig env c proxyAddr podCidr prefixLength) mapPids)
            else .err
        | _, _ => .panics
    | _ => .panics -- no cidr[1]

/-- What a load that succeeds has read, and what it leaves. -/
theorem LoadEPF_eq_loaded {env : LoadEnv} {c : Config} {pids : List (BitVec 32)} {m : Ebpf.Maps}
    (h : LoadEPF env c pids = .loaded m) :
    ∃ network length more prefixLength proxyAddr podCidr mapPids,
      c.podCIDR.splitOn 47 = network :: length :: more ∧ atoi length = some prefixLength ∧
      ToInt env.parseIPv6 c.address = some proxyAddr ∧ ToInt env.parseIPv6 network = some podCidr ∧
      updatePids .empty pids = some mapPids ∧
      m = .loaded (mirrorsConfig env c proxyAddr podCidr prefixLength) mapPids := by
  unfold LoadEPF at h
  split at h
  · exact nomatch h
  · split at h
    · rename_i network length more hsplit
      split at h
      · exact nomatch h
      · rename_i prefixLength hatoi
        split at h
        · rename_i proxyAddr podCidr hproxy hnetwork
          split at h
          · exact nomatch h
          · rename_i mapPids hpids
            split at h
            · rw [LoadOutcome.loaded.injEq] at h
              exact ⟨network, length, more, prefixLength, proxyAddr, podCidr, mapPids, hsplit,
                hatoi, hproxy, hnetwork, hpids, h.symm⟩
            · exact nomatch h
        · exact nomatch h
    · exact nomatch h

/-- Exactly the listed pids are in the map, if all of them could be written. -/
theorem isSome_lookup_updatePids {pids : List (BitVec 32)}
    {m m' : BoundedMap (BitVec 32) (BitVec 8) Ebpf.maxConnections}
    (h : updatePids m pids = some m') (pid : BitVec 32) :
    (m'.lookup pid).isSome ↔ (m.lookup pid).isSome ∨ pid ∈ pids := by
  induction pids generalizing m with
  | nil =>
    rw [updatePids, Option.some.injEq] at h
    simp [h]
  | cons p pids ih =>
    rw [updatePids] at h
    split at h
    · rename_i hroom
      rw [ih h, List.mem_cons]
      by_cases hp : pid = p
      · subst hp
        rw [BoundedMap.lookup_update_self_of_hasRoom 1 hroom]
        simp
      · rw [BoundedMap.lookup_update_ne 1 hp]
        simp [hp]
    · cases h

theorem LoadEPF_mem_mapPids {env : LoadEnv} {c : Config} {pids : List (BitVec 32)} {m : Ebpf.Maps}
    (h : LoadEPF env c pids = .loaded m) (pid : BitVec 32) :
    (m.mapPids.lookup pid).isSome ↔ pid ∈ pids := by
  obtain ⟨_, _, _, _, _, _, mapPids, _, _, _, _, hpids, rfl⟩ := LoadEPF_eq_loaded h
  have hmem := isSome_lookup_updatePids hpids pid
  rw [BoundedMap.lookup_empty] at hmem
  simpa [Ebpf.Maps.loaded] using hmem

/-! ## IPv4 addresses -/

theorem isDigit_of_parseOctet {field : GoString} {octet : UInt8}
    (h : parseOctet field = some octet) : field.all Decimal.isDigit = true := by
  unfold parseOctet at h
  split at h
  · exact nomatch h
  · rename_i n hparse
    unfold Decimal.parse at hparse
    split at hparse
    · rename_i hdigits
      exact hdigits.2
    · exact nomatch hparse

private theorem mapM_cons_eq_some {α β : Type} {f : α → Option β} {x : α} {xs : List α} {y : β}
    {ys : List β} (h : (x :: xs).mapM f = some (y :: ys)) : f x = some y ∧ xs.mapM f = some ys := by
  rw [List.mapM_cons] at h
  obtain ⟨a, ha, h⟩ := Option.bind_eq_some_iff.mp h
  obtain ⟨b, hb, h⟩ := Option.bind_eq_some_iff.mp h
  obtain ⟨rfl, rfl⟩ : a = y ∧ b = ys := by simpa using h
  exact ⟨ha, hb⟩

/-- An IPv4 address has four bytes; its text starts with digits and a dot. -/
theorem parseIPv4_eq_some {s : GoString} {ip : List UInt8} (h : parseIPv4 s = some ip) :
    ∃ field rest a b c d, s = field ++ 46 :: rest ∧ field.all Decimal.isDigit = true ∧
      ip = [a, b, c, d] := by
  have hs : [46].intercalate (s.splitOn 46) = s := List.intercalate_splitOn 46
  unfold parseIPv4 at h
  split at h
  · rename_i a b c d hfields
    rw [Option.some.injEq] at h
    cases hsplit : s.splitOn 46 with
    | nil => exact absurd hsplit (List.splitOn_ne_nil 46 s)
    | cons field fields =>
      rw [hsplit] at hfields hs
      obtain ⟨hfield, htail⟩ := mapM_cons_eq_some hfields
      cases fields with
      | nil => simp at htail
      | cons second fields =>
        refine ⟨field, [46].intercalate (second :: fields), a, b, c, d, ?_,
          isDigit_of_parseOctet hfield, h.symm⟩
        rw [← hs]
        simp [List.intercalate, List.intersperse]
  · exact nomatch h

/-- The first byte that could tell the kind of an address is the dot behind its digits. -/
private theorem find?_append_dot {field : GoString} (hdigits : field.all Decimal.isDigit = true)
    (rest : GoString) :
    (field ++ 46 :: rest).find? (fun b => b == 46 || b == 58 || b == 37) = some 46 := by
  have hnone : field.find? (fun b => b == 46 || b == 58 || b == 37) = none := by
    rw [List.find?_eq_none]
    intro b hb hkind
    have hdigit := List.all_eq_true.mp hdigits b hb
    simp only [Bool.or_eq_true, beq_iff_eq] at hkind
    rcases hkind with (rfl | rfl) | rfl <;> exact absurd hdigit (by decide)
  rw [List.find?_append, hnone]
  rfl

/-- `net.ParseIP` puts an IPv4 address behind its prefix. -/
theorem ParseIP_of_parseIPv4 (parseIPv6 : GoString → Option (List UInt8)) {s : GoString}
    {ip : List UInt8} (h : parseIPv4 s = some ip) : ParseIP parseIPv6 s = v4InV6Prefix ++ ip := by
  obtain ⟨field, rest, a, b, c, d, hs, hdigits, -⟩ := parseIPv4_eq_some h
  have hkind := find?_append_dot hdigits rest
  rw [← hs] at hkind
  unfold ParseIP
  rw [hkind, h]
  rfl

/-- The bytes of an address, in the order of its text. -/
def octets (addr : BitVec 32) : List UInt8 :=
  [UInt8.ofNat (addr.extractLsb' 24 8).toNat, UInt8.ofNat (addr.extractLsb' 16 8).toNat,
    UInt8.ofNat (addr.extractLsb' 8 8).toNat, UInt8.ofNat (addr.extractLsb' 0 8).toNat]

/-- The bytes of an address make it up again. -/
private theorem toNat_of_bytes (addr : BitVec 32) :
    (addr.extractLsb' 24 8).toNat * 16777216 + (addr.extractLsb' 16 8).toNat * 65536 +
      (addr.extractLsb' 8 8).toNat * 256 + (addr.extractLsb' 0 8).toNat = addr.toNat := by
  have hlt := addr.isLt
  simp only [BitVec.extractLsb'_toNat, Nat.shiftRight_eq_div_pow]
  omega

/-- `ToInt` reads an IPv4 address as its number. -/
theorem ToInt_of_parseIPv4 (parseIPv6 : GoString → Option (List UInt8)) {s : GoString}
    {addr : BitVec 32} (h : parseIPv4 s = some (octets addr)) :
    ToInt parseIPv6 s = some addr.toNat := by
  unfold ToInt
  rw [ParseIP_of_parseIPv4 parseIPv6 h, ← toNat_of_bytes addr]
  simp [v4InV6Prefix, octets]

/-! ## Addresses and ranges as text -/

/-- The bytes of a text in ASCII. -/
private theorem goString_ofList {cs : List Char} (h : ∀ c ∈ cs, c.isDigit = true) :
    goString (String.ofList cs) = cs.map fun c => UInt8.ofNat c.toNat := by
  unfold goString
  rw [String.toUTF8_eq_toByteArray, String.toByteArray_ofList]
  induction cs with
  | nil => simp
  | cons c cs ih =>
    rw [List.forall_mem_cons] at h
    -- a digit is encoded by one byte
    have hsize : c.utf8Size = 1 := by
      rw [Char.utf8Size_eq_one_iff]
      have := h.1
      simp only [Char.isDigit, Bool.and_eq_true, decide_eq_true_eq,
        UInt32.le_iff_toNat_le] at this ⊢
      exact Nat.le_trans this.2 (by decide)
    rw [List.utf8Encode_cons, ByteArray.data_append, Array.toList_append, ih h.2,
      List.utf8Encode_singleton, String.utf8EncodeChar_eq_singleton hsize]
    simp
    rfl

/-- `%d` of a number that is not negative prints its digits. -/
theorem decimal_natCast (n : Nat) : decimal n = Decimal.digits n := by
  have hrepr : toString (n : Int) = Nat.repr n := rfl
  unfold decimal Decimal.digits
  rw [hrepr, Nat.repr_eq_ofList_toDigits]
  apply goString_ofList
  intro c hc
  exact Nat.isDigit_of_mem_toDigits (by decide) (by decide) hc

/-- `a.b.c.d` -/
def dottedQuad (addr : BitVec 32) : GoString :=
  decimal (addr.extractLsb' 24 8).toNat ++ goString "." ++
  decimal (addr.extractLsb' 16 8).toNat ++ goString "." ++
  decimal (addr.extractLsb' 8 8).toNat ++ goString "." ++
  decimal (addr.extractLsb' 0 8).toNat

/-- A range of IPv4 addresses as a user writes it; host bits may be set. -/
structure Cidr where
  network : BitVec 32
  bits : Nat
  bits_le : bits ≤ 32

/-- `a.b.c.d/n` -/
def Cidr.text (r : Cidr) : GoString := dottedQuad r.network ++ goString "/" ++ decimal r.bits

private theorem parseOctet_digits {n : Nat} (h : n < 256) :
    parseOctet (Decimal.digits n) = some (UInt8.ofNat n) := by
  have hzero : (Decimal.digits n).head? = some 48 → (Decimal.digits n).length = 1 := by
    intro hhead
    rcases Nat.eq_zero_or_pos n with rfl | hpos
    · rfl
    · exact absurd hhead (Decimal.head_digits_ne_zero hpos)
  unfold parseOctet
  simp only [Decimal.parse_digits]
  rw [if_pos ⟨by omega, hzero⟩]

theorem notMem_digits {b : UInt8} (h : Decimal.isDigit b = false) (n : Nat) :
    b ∉ Decimal.digits n := by
  intro hmem
  rw [Decimal.isDigit_of_mem_digits hmem] at h
  exact nomatch h

theorem goString_dot : goString "." = [46] := by decide

private theorem goString_slash : goString "/" = [47] := by decide

/-- An address is digits and dots. -/
theorem notMem_dottedQuad {b : UInt8} (hdigit : Decimal.isDigit b = false) (hdot : b ≠ 46)
    (addr : BitVec 32) : b ∉ dottedQuad addr := by
  have hdigits : ∀ n, b ∉ Decimal.digits n := notMem_digits hdigit
  unfold dottedQuad
  simp only [decimal_natCast, goString_dot, List.mem_append, List.mem_singleton, not_or]
  exact ⟨⟨⟨⟨⟨⟨hdigits _, hdot⟩, hdigits _⟩, hdot⟩, hdigits _⟩, hdot⟩, hdigits _⟩

/-- The fields of an address, cut at the dots. -/
private theorem splitOn_dottedQuad (addr : BitVec 32) :
    (dottedQuad addr).splitOn 46 =
      [Decimal.digits (addr.extractLsb' 24 8).toNat, Decimal.digits (addr.extractLsb' 16 8).toNat,
        Decimal.digits (addr.extractLsb' 8 8).toNat,
        Decimal.digits (addr.extractLsb' 0 8).toNat] := by
  have hdot : ∀ n, (46 : UInt8) ∉ Decimal.digits n := notMem_digits (by decide)
  unfold dottedQuad
  simp only [decimal_natCast, goString_dot, List.append_assoc, List.cons_append, List.nil_append]
  rw [List.splitOn_append_cons_self_of_not_mem (hdot _),
    List.splitOn_append_cons_self_of_not_mem (hdot _),
    List.splitOn_append_cons_self_of_not_mem (hdot _), List.splitOn_eq_singleton (hdot _)]

theorem parseIPv4_dottedQuad (addr : BitVec 32) :
    parseIPv4 (dottedQuad addr) = some (octets addr) := by
  have hoctet : ∀ x : BitVec 8, parseOctet (Decimal.digits x.toNat) = some (UInt8.ofNat x.toNat) :=
    fun x => parseOctet_digits x.isLt
  unfold parseIPv4
  rw [splitOn_dottedQuad]
  simp only [List.mapM_cons, List.mapM_nil, hoctet]
  rfl

/-- `ToInt` reads the text of an address back. -/
theorem ToInt_dottedQuad (parseIPv6 : GoString → Option (List UInt8)) (addr : BitVec 32) :
    ToInt parseIPv6 (dottedQuad addr) = some addr.toNat :=
  ToInt_of_parseIPv4 parseIPv6 (parseIPv4_dottedQuad addr)

/-- The text of a range is cut into its address and its prefix length. -/
theorem splitOn_text (r : Cidr) : r.text.splitOn 47 = [dottedQuad r.network, decimal r.bits] := by
  have hslash : ∀ n, (47 : UInt8) ∉ Decimal.digits n := notMem_digits (by decide)
  have hnetwork : (47 : UInt8) ∉ dottedQuad r.network :=
    notMem_dottedQuad (by decide) (by decide) r.network
  unfold Cidr.text
  rw [goString_slash, List.append_assoc, List.singleton_append,
    List.splitOn_append_cons_self_of_not_mem hnetwork, decimal_natCast,
    List.splitOn_eq_singleton (hslash _)]

theorem atoi_decimal {n : Nat} (h : n < 2 ^ 63) : atoi (decimal n) = some (n : Int) := by
  have hsign : ∀ b, (Decimal.digits n).head? = some b → b ≠ 45 ∧ b ≠ 43 := by
    intro b hb
    have hdigit := Decimal.isDigit_of_mem_digits (List.mem_of_mem_head? hb)
    constructor <;> rintro rfl <;> exact absurd hdigit (by decide)
  rw [decimal_natCast]
  unfold atoi
  split
  · rename_i ds hds
    exact absurd rfl (hsign 45 (by rw [hds]; rfl)).1
  · rename_i ds hds
    exact absurd rfl (hsign 43 (by rw [hds]; rfl)).2
  · rw [Decimal.parse_digits, Option.bind_some, if_pos h]

/-- The configuration `LoadEPF` makes of a range. -/
theorem LoadEPF_mapConfig {env : LoadEnv} {c : Config} {pids : List (BitVec 32)} {m : Ebpf.Maps}
    {r : Cidr} (hcidr : c.podCIDR = r.text) (h : LoadEPF env c pids = .loaded m) :
    ∃ proxyAddr, ToInt env.parseIPv6 c.address = some proxyAddr ∧
      m.mapConfig = mirrorsConfig env c proxyAddr r.network.toNat r.bits := by
  obtain ⟨network, length, more, prefixLength, proxyAddr, podCidr, mapPids, hsplit, hatoi, hproxy,
    hnetwork, -, rfl⟩ := LoadEPF_eq_loaded h
  rw [hcidr, splitOn_text] at hsplit
  injection hsplit with h₁ h₂
  injection h₂ with h₃ h₄
  subst h₁ h₃
  have hle := r.bits_le
  rw [atoi_decimal (by omega), Option.some.injEq] at hatoi
  rw [ToInt_dottedQuad, Option.some.injEq] at hnetwork
  subst hatoi hnetwork
  exact ⟨proxyAddr, hproxy, rfl⟩

/-- A prefix length of at most 32 keeps its value in eight bits. -/
theorem podPrefixLength_mirrorsConfig (env : LoadEnv) (c : Config) (proxyAddr podCidr : Nat)
    (r : Cidr) :
    (mirrorsConfig env c proxyAddr podCidr r.bits).podPrefixLength.toNat = r.bits := by
  have hle := r.bits_le
  simp only [mirrorsConfig, BitVec.ofInt_natCast, BitVec.toNat_ofNat]
  omega

/-- The configuration that is loaded holds the prefix length and the network as
    they were written. -/
theorem LoadEPF_range {env : LoadEnv} {c : Config} {pids : List (BitVec 32)} {m : Ebpf.Maps}
    {r : Cidr} (hcidr : c.podCIDR = r.text) (h : LoadEPF env c pids = .loaded m) :
    m.mapConfig.podPrefixLength.toNat = r.bits ∧ m.mapConfig.podCidr = r.network := by
  obtain ⟨proxyAddr, -, hconf⟩ := LoadEPF_mapConfig hcidr h
  rw [hconf]
  constructor
  · exact podPrefixLength_mirrorsConfig env c proxyAddr r.network.toNat r
  · simp [mirrorsConfig]

/-- With an IPv4 address and a range in text, loading only depends on the kernel. -/
theorem LoadEPF_of_text {env : LoadEnv} {c : Config} {pids : List (BitVec 32)}
    {mapPids : BoundedMap (BitVec 32) (BitVec 8) Ebpf.maxConnections} {addr : BitVec 32} {r : Cidr}
    (hloads : env.loads = true) (hattaches : env.attaches = true)
    (haddress : c.address = dottedQuad addr) (hcidr : c.podCIDR = r.text)
    (hpids : updatePids .empty pids = some mapPids) :
    LoadEPF env c pids =
      .loaded (.loaded (mirrorsConfig env c addr.toNat r.network.toNat r.bits) mapPids) := by
  have hle := r.bits_le
  unfold LoadEPF
  simp only [hloads, hattaches, haddress, hcidr, hpids, splitOn_text, ToInt_dottedQuad,
    atoi_decimal (show r.bits < 2 ^ 63 by omega), Bool.not_true, Bool.false_eq_true, if_false,
    if_true]

/-! ## A sidecar -/

/-- The default configuration, with another pod range. -/
def sidecarConfig (r : Cidr) : Config :=
  { proxyPort := 18000, clusterPort := 18001, clusterTLSPort := 18443
    address := dottedQuad 0x7f000001#32, clusterAddress := []
    cgroupOverride := goString "/sys/fs/cgroup", podCIDR := r.text, certificates := none
    proxyFunc := none, endpoint := false, tunnel := false, encrypt := false, ktls := false
    flush := false, ai := false }

/-- 10.244.0.0/16 -/
def podRange : Cidr := ⟨0x0af40000#32, 16, by decide⟩

/-- A kernel that takes the programs of a gateway with this pid. -/
def sidecarEnv (getpid : Nat) : LoadEnv :=
  { parseIPv6 := fun _ => none, loads := true, getpid := getpid, attaches := true }

theorem LoadEPF_sidecar (getpid : Nat) (r : Cidr) {pids : List (BitVec 32)}
    {mapPids : BoundedMap (BitVec 32) (BitVec 8) Ebpf.maxConnections}
    (hpids : updatePids .empty pids = some mapPids) :
    LoadEPF (sidecarEnv getpid) (sidecarConfig r) pids =
      .loaded (.loaded (mirrorsConfig (sidecarEnv getpid) (sidecarConfig r) 0x7f000001
        r.network.toNat r.bits) mapPids) := by
  have haddress : (sidecarConfig r).address = dottedQuad 0x7f000001#32 := rfl
  exact LoadEPF_of_text rfl rfl haddress rfl hpids

end KubeGateway.Gateway

import KubeGateway.Native.Handshake
import KubeGateway.Spec.SecretsOwned

/-!
# The trust domain of a watcher

A watcher mints one pair for each encrypted pod and hands the pairs out through
secrets, which outlive updates, deletions that fail, other pods' certificates and the
watcher itself: it can be started again, also with another authority.  All the same
the certificate of a gateway is signed by the one authority that the gateway trusts.
So of all gateways that were ever started, those accept one another over `crypto/tls`
that were given the same authority, and only at the addresses their certificates were
minted for (`gateways_accept_same_authority`).
-/

namespace KubeGateway.Watcher

open Gateway (GoString goString dottedQuad Target PemCerts TlsConfig Leaf X509 handshake ParseIP
  ParseIP_of_parseIPv4 parseIPv4_dottedQuad)

/-! ## Watchers that are started again -/

/-- An event of the informer, or the start of a new process in the place of the old
    one, which has panicked or was deleted. -/
inductive Life where
  | event (e : Event)
  | restart (cacert cakey : Pem)

/-- A watcher that is started again has the authority of its environment and nothing
    else; the API objects stay, and the keys it generates are still new. -/
def State.restart (s : State) (cacert cakey : Pem) : State :=
  let fresh := State.start cacert cakey s.cluster
  { fresh with generated := max s.generated fresh.generated, log := s.log }

def State.live (h : Handler) (s : State) : Life → State
  | .event e => s.step h e
  | .restart cacert cakey => s.restart cacert cakey

/-! ## The properties -/

/-- The certificate `createCertificate` makes for a pod. -/
def leafFor (pod : PodId) (key ca : KeyId) : Leaf :=
  { dnsNames := [pod.name], ipAddresses := [pod.ip], publicKey := key, issuer := ca }

/-- The watcher has minted the certificate, for a pod. -/
def State.Minted (s : State) (ca : KeyId) (leaf : Leaf) : Prop :=
  ∃ pod key, .mint pod key ∈ s.log ∧ leaf = leafFor pod key ca

/-- A pod's own secret. -/
def State.podSecret (s : State) (key : String × String) : Option SecretData :=
  s.cluster.secrets.lookup (key.1, podSecretName key.2)

/-- The configuration of a gateway whose container has the variables of a pod's secret,
    as the API server has it now. -/
def State.GatewayConfig (s : State) (config : TlsConfig) : Prop :=
  ∃ key data certs, s.podSecret key = some data ∧ PemCerts.ofSecret data = some certs ∧
    certs.tlsConfig = some config

/-- A gateway that was started at some time of a run keeps the configuration that its
    pod's secret gave it then. -/
def StartedIn (h : Handler) (s : State) (ls : List Life) (config : TlsConfig) : Prop :=
  ∃ before, before <+: ls ∧ (Trace.run (State.live h) s before).GatewayConfig config

/-! ## The invariant -/

/-- The pair is nothing, or was minted for a pod and signed by the authority. -/
def State.PairMinted (s : State) (cacert cert key : Pem) : Prop :=
  (cert = .empty ∧ key = .empty) ∨
    ∃ pod priv ca, (∃ dnsNames ipAddresses issuer,
        cacert = .certificate dnsNames ipAddresses ca issuer) ∧
      .mint pod priv ∈ s.log ∧ cert = .certificate [pod.name] [pod.ip] priv ca ∧
      key = .rsaPrivateKey priv

/-- A secret of a pod has an authority's certificate and such a pair. -/
def State.SecretMinted (s : State) (data : SecretData) : Prop :=
  ∃ cacert cert key, data.smeshCa = some cacert ∧ data.smeshCert = some cert ∧
    data.smeshKey = some key ∧ s.PairMinted cacert cert key

/-- The shared pair and the secrets of the pods are such. -/
structure TrustInvariant (s : State) : Prop where
  shared : s.PairMinted s.certs.cacert s.certs.cert s.certs.key
  secrets : ∀ key data, s.podSecret key = some data → s.SecretMinted data

theorem State.PairMinted.mono {s s' : State} (hlog : ∀ e ∈ s.log, e ∈ s'.log)
    {cacert cert key : Pem} (hpair : s.PairMinted cacert cert key) :
    s'.PairMinted cacert cert key := by
  obtain hnone | ⟨pod, priv, ca, hca, hmint, hpem⟩ := hpair
  · exact Or.inl hnone
  · exact Or.inr ⟨pod, priv, ca, hca, hlog _ hmint, hpem⟩

theorem State.SecretMinted.mono {s s' : State} (hlog : ∀ e ∈ s.log, e ∈ s'.log)
    {data : SecretData} (hdata : s.SecretMinted data) : s'.SecretMinted data := by
  obtain ⟨cacert, cert, key, hca, hcert, hkey, hpair⟩ := hdata
  exact ⟨cacert, cert, key, hca, hcert, hkey, hpair.mono hlog⟩

/-- The pair that is shared with the pods is the one of the authority. -/
theorem caKeyPair_eq_some {c : Certs} {ca : KeyId} (h : c.caKeyPair = some ca) :
    ∃ dnsNames ipAddresses issuer, c.cacert = .certificate dnsNames ipAddresses ca issuer := by
  unfold Certs.caKeyPair at h
  split at h
  · rename_i hpublic hprivate
    split at h
    · rename_i heq
      obtain rfl := Option.some.inj h
      rw [heq] at hpublic
      exact ⟨_, _, _, hpublic⟩
    · cases h
  · cases h

/-- A step that touches no certificate and writes no secret of a pod. -/
private theorem TrustInvariant.congr {s s' : State} (hI : TrustInvariant s)
    (hlog : ∀ e ∈ s.log, e ∈ s'.log) (hcacert : s'.certs.cacert = s.certs.cacert)
    (hcert : s'.certs.cert = s.certs.cert) (hkey : s'.certs.key = s.certs.key)
    (hsecrets : ∀ key data, s'.podSecret key = some data → s.podSecret key = some data) :
    TrustInvariant s' where
  shared := by
    rw [hcacert, hcert, hkey]
    exact hI.shared.mono hlog
  secrets := fun key data hlookup => (hI.secrets key data (hsecrets key data hlookup)).mono hlog

private theorem TrustInvariant.checked {s : State} (hI : TrustInvariant s) (pod : Pod)
    (check : CheckOutcome) : TrustInvariant (s.checked pod check) := by
  refine hI.congr (fun _ => id) rfl rfl rfl fun key data hlookup => ?_
  rw [← hlookup]
  exact (lookup_checkSecretExists (podSecretName_ne key.2)).symm

/-- A mint replaces the shared pair by one that the authority has signed. -/
private theorem TrustInvariant.createCertificate {s s' : State} (hI : TrustInvariant s) {pod : Pod}
    (hmint : s.createCertificate pod = some s') : TrustInvariant s' := by
  obtain ⟨certs, hcreate, rfl⟩ := Option.map_eq_some_iff.mp hmint
  obtain ⟨ca, hca, hcert, hkey, hcacert, -, -⟩ := createCertificate_eq_some hcreate
  constructor
  · refine Or.inr ⟨pod.id, s.generated, ca, ?_, List.mem_cons_self, hcert, hkey⟩
    show ∃ dnsNames ipAddresses issuer, certs.cacert = _
    rw [hcacert]
    exact caKeyPair_eq_some hca
  · intro key data hlookup
    exact (hI.secrets key data hlookup).mono fun _ => List.mem_cons_of_mem _

/-- The pod's secret gets the shared pair, unless it is there already. -/
private theorem TrustInvariant.loadSecret {s : State} (hI : TrustInvariant s) (fails : Bool)
    (pod : Pod) : TrustInvariant (s.loadSecret fails pod) := by
  have hlog : ∀ e ∈ s.log, e ∈ (s.loadSecret fails pod).log := fun _ => List.mem_cons_of_mem _
  refine ⟨hI.shared.mono hlog, fun key data hlookup => State.SecretMinted.mono hlog ?_⟩
  obtain hold | ⟨-, rfl⟩ := lookup_createSecret_eq_some hlookup
  · exact hI.secrets key data hold
  · exact ⟨_, _, _, rfl, rfl, rfl, hI.shared⟩

private theorem TrustInvariant.onUpdate {h : Handler} {s : State} (hI : TrustInvariant s)
    (pod : Pod) (out : UpdateOutcome) : TrustInvariant (s.onUpdate h pod out) := by
  cases hwants : pod.wantsGateway with
  | false =>
    rw [onUpdate_of_not_wants hwants]
    exact hI
  | true =>
    have hinjected : TrustInvariant (withProxyContainer h s pod out).1 := by
      obtain heq | heq | heq | ⟨minted, hmint, heq⟩ := state_withProxyContainer h s pod out
      · rw [heq]
        exact hI
      · rw [heq]
        exact hI.checked pod out.check
      · rw [heq]
        exact (hI.checked pod out.check).loadSecret out.loadFails pod
      · rw [heq]
        exact ((hI.checked pod out.check).createCertificate hmint).loadSecret out.loadFails pod
    obtain ⟨later, crashed, hstate⟩ := @state_onUpdate h s pod out hwants
    rw [hstate]
    exact hinjected.congr (fun _ => List.mem_append_right _) rfl rfl rfl fun _ _ => id

private theorem TrustInvariant.onDelete {s : State} (hI : TrustInvariant s) (pod : Pod)
    (fails : Bool) : TrustInvariant (s.onDelete pod fails) :=
  hI.congr (fun _ => id) rfl rfl rfl fun _ _ hlookup => lookup_of_deleteSecret hlookup

theorem trustInvariant_live (h : Handler) (s : State) (l : Life) (hI : TrustInvariant s) :
    TrustInvariant (s.live h l) := by
  cases l with
  | restart cacert cakey =>
    -- the new process has no pair to share yet
    exact ⟨Or.inl ⟨rfl, rfl⟩, hI.secrets⟩
  | event e =>
    unfold State.live State.step
    dsimp only
    split
    · exact hI
    · cases e with
      | update pod out => exact hI.onUpdate pod out
      | delete pod fails => exact hI.onDelete pod fails

/-! ## The log -/

/-- Nothing that was logged is taken back. -/
theorem log_subset_live (h : Handler) (s : State) (l : Life) {x : Effect} (hx : x ∈ s.log) :
    x ∈ (s.live h l).log := by
  cases l with
  | restart cacert cakey => exact hx
  | event e =>
    unfold State.live State.step
    dsimp only
    split
    · exact hx
    · cases e with
      | delete pod fails => exact hx
      | update pod out =>
        dsimp only
        cases hwants : pod.wantsGateway with
        | false =>
          rw [onUpdate_of_not_wants hwants]
          exact hx
        | true =>
          obtain ⟨later, hlater, -⟩ := @log_onUpdate h s pod out hwants
          rw [hlater]
          refine List.mem_append_right _ ?_
          obtain heq | ⟨data, created, heq⟩ | ⟨data, created, heq⟩ :=
            log_withProxyContainer h s pod out
          · rw [heq]
            exact hx
          · rw [heq]
            exact List.mem_cons_of_mem _ hx
          · rw [heq]
            exact List.mem_cons_of_mem _ (List.mem_cons_of_mem _ hx)

theorem minted_run (h : Handler) {s : State} (ls : List Life) {ca : KeyId} {leaf : Leaf}
    (hminted : s.Minted ca leaf) : (Trace.run (State.live h) s ls).Minted ca leaf := by
  have hstep : ∀ (s' : State) (l : Life), s'.Minted ca leaf → (s'.live h l).Minted ca leaf := by
    intro s' l hm
    obtain ⟨pod, key, hmint, hleaf⟩ := hm
    exact ⟨pod, key, log_subset_live h s' l hmint, hleaf⟩
  exact Trace.run_invariant (I := fun s : State => s.Minted ca leaf) hstep hminted

/-! ## Gateways -/

/-- The certificate of a gateway was minted by the watcher, and signed by the authority
    that the gateway trusts. -/
theorem TrustInvariant.gatewayConfig {s : State} (hI : TrustInvariant s) {config : TlsConfig}
    (hconfig : s.GatewayConfig config) : s.Minted config.authority config.certificate := by
  obtain ⟨key, data, certs, hlookup, hcerts, htls⟩ := hconfig
  obtain ⟨hca, hcert, -⟩ := Gateway.ofSecret_eq_some hcerts
  obtain ⟨⟨dnsNames, ipAddresses, issuer, hauthority⟩, hleaf, -⟩ :=
    Gateway.tlsConfig_eq_some htls
  obtain ⟨cacert, cert, priv, hca', hcert', -, hpair⟩ := hI.secrets key data hlookup
  obtain rfl : certs.ca = cacert := Option.some.inj (hca.symm.trans hca')
  obtain rfl : certs.cert = cert := Option.some.inj (hcert.symm.trans hcert')
  obtain ⟨hempty, -⟩ | ⟨pod, minted, ca, ⟨_, _, _, hsigner⟩, hmint, hmintedCert, -⟩ := hpair
  · -- the empty pair makes no configuration
    rw [hempty] at hleaf
    cases hleaf
  · have hsame : config.authority = ca :=
      (Pem.certificate.inj (hauthority.symm.trans hsigner)).2.2.1
    obtain ⟨hdns, hips, hpublic, hissuer⟩ := Pem.certificate.inj (hleaf.symm.trans hmintedCert)
    refine ⟨pod, minted, hmint, ?_⟩
    unfold leafFor
    rw [hsame, ← hdns, ← hips, ← hpublic, ← hissuer]

/-- What a minted certificate names, where the address of a destination is dialled. -/
theorem verifyHostname_leafFor (x : X509) (pod : PodId) (key ca : KeyId) (dst : Target) :
    (leafFor pod key ca).verifyHostname x dst.host = true ↔
      ParseIP x.parseIPv6 dst.host = ParseIP x.parseIPv6 (goString pod.ip) := by
  have hhost : ParseIP x.parseIPv6 dst.host ≠ [] := by
    have hquad : dst.host = dottedQuad dst.addr := rfl
    rw [hquad, ParseIP_of_parseIPv4 _ (parseIPv4_dottedQuad dst.addr)]
    exact List.cons_ne_nil _ _
  unfold Leaf.verifyHostname leafFor
  rw [if_pos hhost]
  simp

/-! ## Main results -/

theorem trustInvariant_run (h : Handler) (cacert cakey : Pem) (cluster : Cluster)
    (ls : List Life) (hnone : ∀ key, ¬ HasSecret cluster key) :
    TrustInvariant (Trace.run (State.live h) (.start cacert cakey cluster) ls) := by
  refine Trace.run_invariant (trustInvariant_live h)
    ⟨Or.inl ⟨rfl, rfl⟩, fun key data hlookup => absurd ?_ (hnone key)⟩
  unfold HasSecret
  change cluster.secrets.lookup _ = some data at hlookup
  rw [hlookup]
  rfl

theorem minted_of_startedIn {h : Handler} {cacert cakey : Pem} {cluster : Cluster}
    {ls : List Life} (hnone : ∀ key, ¬ HasSecret cluster key) {config : TlsConfig}
    (hstarted : StartedIn h (.start cacert cakey cluster) ls config) :
    (Trace.run (State.live h) (.start cacert cakey cluster) ls).Minted config.authority
      config.certificate := by
  obtain ⟨before, ⟨later, rfl⟩, hconfig⟩ := hstarted
  rw [Trace.run_append]
  exact minted_run h later
    ((trustInvariant_run h cacert cakey cluster before hnone).gatewayConfig hconfig)

/-- Of any two gateways that were ever started with secrets of the watcher, which found
    no pod's secret when it was first started, whatever failed, however often it was
    started again and with whatever authority: a handshake succeeds exactly if both were
    given the same authority and the server's certificate is that of a pod with the
    address that is dialled, whether or not the client shows its own. -/
theorem gateways_accept_same_authority (x : X509) (h : Handler) (cacert cakey : Pem)
    (cluster : Cluster) (ls : List Life) (hnone : ∀ key, ¬ HasSecret cluster key)
    (client server : TlsConfig) (dst : Target) (offers : Bool)
    (hclient : StartedIn h (.start cacert cakey cluster) ls client)
    (hserver : StartedIn h (.start cacert cakey cluster) ls server) :
    handshake x client server dst.host offers = true ↔
      client.authority = server.authority ∧
      ∃ pod key, .mint pod key ∈ (Trace.run (State.live h) (.start cacert cakey cluster) ls).log ∧
        server.certificate = leafFor pod key server.authority ∧
        ParseIP x.parseIPv6 dst.host = ParseIP x.parseIPv6 (goString pod.ip) := by
  obtain ⟨podC, keyC, -, hleafC⟩ := minted_of_startedIn hnone hclient
  obtain ⟨pod, key, hmint, hleaf⟩ := minted_of_startedIn hnone hserver
  -- each certificate is signed by its own gateway's authority
  have hissuer : server.certificate.issuer = server.authority := by
    rw [hleaf]
    rfl
  have hissuerC : client.certificate.issuer = client.authority := by
    rw [hleafC]
    rfl
  unfold handshake
  rw [hissuer, hissuerC]
  simp only [Bool.and_eq_true, beq_iff_eq, Bool.or_eq_true]
  constructor
  · rintro ⟨⟨hsame, hnames⟩, -⟩
    refine ⟨hsame.symm, pod, key, hmint, hleaf, ?_⟩
    rw [hleaf] at hnames
    exact (verifyHostname_leafFor x pod key server.authority dst).mp hnames
  · rintro ⟨hsame, other, otherKey, -, hother, heq⟩
    refine ⟨⟨hsame.symm, ?_⟩, Or.inr hsame⟩
    rw [hother]
    exact (verifyHostname_leafFor x other otherKey server.authority dst).mpr heq

/-! ## A watcher that is started again -/

/-- Two encrypted pods are injected, the second by a new process with the same
    authority. -/
def restartedBetween : List Life :=
  let first := annotatedPod "a" "10.0.0.1" encryptGateway
  let second := annotatedPod "b" "10.0.0.2" encryptGateway
  [.event (.update first (allSucceed first)), .restart (.certificate [] [] 0 0) (.rsaPrivateKey 0),
    .event (.update second (allSucceed second))]

/-- The gateway of the first pod, and that of the second. -/
def gatewayA : TlsConfig := ⟨0, leafFor ⟨"default", "a", "10.0.0.1"⟩ 1 0⟩
def gatewayB : TlsConfig := ⟨0, leafFor ⟨"default", "b", "10.0.0.2"⟩ 2 0⟩

/-- Comparing IPv4 addresses only. -/
def ipv4Only : X509 := ⟨fun _ => none, fun _ _ => false⟩

/-- The first gateway, which was started before the new process, can dial the second. -/
theorem gateways_accept_same_authority_restarted :
    handshake ipv4Only gatewayA gatewayB (Target.host ⟨0x0a000002, 8080⟩) true = true :=
  (gateways_accept_same_authority ipv4Only ⟨"image", false, "10.0.0.0/16"⟩
    (.certificate [] [] 0 0) (.rsaPrivateKey 0) ⟨∅, [], ∅⟩ restartedBetween
    (fun _ hsecret => by cases hsecret) gatewayA gatewayB ⟨0x0a000002, 8080⟩ true
    ⟨restartedBetween.take 1, List.take_prefix _ _, ("default", "a"), _,
      ⟨.certificate [] [] 0 0, .rsaPrivateKey 1, .certificate ["a"] ["10.0.0.1"] 1 0⟩,
      rfl, rfl, rfl⟩
    ⟨restartedBetween, ⟨[], rfl⟩, ("default", "b"), _,
      ⟨.certificate [] [] 0 0, .rsaPrivateKey 2, .certificate ["b"] ["10.0.0.2"] 2 0⟩,
      rfl, rfl, rfl⟩).mpr
    ⟨rfl, ⟨"default", "b", "10.0.0.2"⟩, 2,
      List.mem_cons_of_mem _ (List.mem_cons_of_mem _ (List.mem_cons_of_mem _ List.mem_cons_self)),
      rfl, by decide⟩

end KubeGateway.Watcher

import KubeGateway.Native.Handshake
import KubeGateway.Native.Processes
import KubeGateway.Native.Start
import KubeGateway.Spec.CertificateDemand
import KubeGateway.Spec.PodRange

/-!
# A gateway is configured as its pod is annotated

What a user writes on a pod goes through four programs: the watcher turns the
annotations into variables of the gateway's container, `Setup` turns those into
a configuration, `LoadEPF` puts it into the maps, and `cg_connect4` tests each
connect call against them.  For every pod that the watcher patches, after any
history, the two ends agree.

## Key results

- `isSome_environment_gateway_iff`: which variables the container has
- `asAnnotated_of_setup`: what `Setup` makes of them
- `configured_as_annotated`: every patch of every run
-/

namespace KubeGateway.Watcher

open Gateway (GoString goString Setup Flags GetEnvCerts LoadEnv LoadEPF Cidr PemCerts)

/-! ## The property -/

/-- The range of pod addresses for this pod, as text. -/
def Pod.cidrText (h : Handler) (pod : Pod) : String :=
  if pod.annotationValue podcidr ≠ "" then pod.annotationValue podcidr else h.podCIDR

/-- The configuration is the one that the pod's annotations ask for. -/
structure AsAnnotated (h : Handler) (pod : Pod) (c : Gateway.Config) : Prop where
  encrypt : c.encrypt = true ↔
    pod.annotationValue endpoint ≠ "" ∨ pod.annotationValue encryptGateway ≠ ""
  ktls : c.ktls = true ↔
    pod.annotationValue encryptGateway ≠ "" ∧ pod.annotationValue enableKTLS ≠ ""
  ai : c.ai = true ↔ pod.annotationValue aiGateway ≠ ""
  flush : c.flush = true ↔ pod.annotationValue netflush ≠ ""
  podCIDR : c.podCIDR = goString (pod.cidrText h)
  sidecar : c.tunnel = false ∧ c.clusterAddress = []

/-- The hook of the little-endian object, with this configuration loaded, redirects
    exactly the TCP calls of the listed processes other than the gateway to addresses
    of the pod's range, on ports that are not exempt. -/
def RedirectsAnnotatedRange (h : Handler) (pod : Pod) (c : Gateway.Config) : Prop :=
  ∀ (r : Cidr) (env : LoadEnv) (pids : List (BitVec 32)) (m : Ebpf.Maps),
    goString (pod.cidrText h) = r.text → r.Canonical →
    LoadEPF env c pids = .loaded m →
    ∀ (p : Ebpf.Proc) (s : BitVec 64) (args : Ebpf.ConnectArgs),
      Ebpf.Redirects .little m ((p.call s args).ctx .little) ↔
        (args.family = Ebpf.afInet ∧ args.protocol = Ebpf.ipprotoTcp ∧ r.Contains args.addr ∧
          args.port ∉ Ebpf.exemptPorts) ∧
        p.seenPid ∈ pids ∧ p.seenPid.signExtend 64 ≠ BitVec.ofNat 64 env.getpid

/-- The certificates of the container are those of its pod's own secret. -/
def CertificatesOfSecret (pem : Pem → GoString) (cluster : Cluster) (pod : Pod)
    (environment : String → Option GoString) : Prop :=
  GetEnvCerts environment =
    ((cluster.secrets.lookup (pod.namespace_, podSecretName pod.name)).bind
      PemCerts.ofSecret).map fun c => { ca := pem c.ca, key := pem c.key, cert := pem c.cert }

/-- The gateway that starts in the pod's newest container is configured as the pod
    is annotated, whatever has become of the pod's secret. -/
def SelfConsistent (h : Handler) (pod : Pod) : Prop :=
  ∃ ec, pod.ephemeralContainers.getLast? = some ec ∧
    ∀ (pem : Pem → GoString) (cluster : Cluster),
      CertificatesOfSecret pem cluster pod (ec.environment pem cluster pod) ∧
      ∀ resolve c, Setup {} (ec.environment pem cluster pod) resolve = some c →
        AsAnnotated h pod c ∧ RedirectsAnnotatedRange h pod c

/-! ## The variables -/

theorem mem_gatewayEnv_iff {h : Handler} {pod : Pod} {v : EnvVar} :
    v ∈ gatewayEnv h pod ↔
      (v = .value "ENCRYPT" "TRUE" ∧ pod.annotationValue encryptGateway ≠ "") ∨
      (v = .value "KTLS" "TRUE" ∧ pod.annotationValue encryptGateway ≠ "" ∧
        pod.annotationValue enableKTLS ≠ "") ∨
      (v = .value "ENDPOINT" "TRUE" ∧ pod.annotationValue endpoint ≠ "") ∨
      (v = .value "AI" "TRUE" ∧ pod.annotationValue aiGateway ≠ "") ∨
      (v = .value "MODEL" (pod.annotationValue aiModel) ∧ pod.annotationValue aiGateway ≠ "" ∧
        pod.annotationValue aiModel ≠ "") ∨
      v = .value "PODCIDR" (pod.cidrText h) ∨
      (v = .value "DEBUG" "TRUE" ∧ pod.annotationValue debug ≠ "") ∨
      (v = .value "NETFLUSH" "TRUE" ∧ pod.annotationValue netflush ≠ "") ∨
      v = .fieldRef "POD_NAME" "metadata.name" ∨
      v = .fieldRef "POD_NAMESPACE" "metadata.namespace" := by
  unfold gatewayEnv Pod.cidrText
  simp only [List.mem_append, List.mem_ite_nil_right, List.mem_cons, List.not_mem_nil, or_false]
  grind

/-- The variables that `withProxyContainer` sets, for each with its annotations. -/
def Pod.Sets (pod : Pod) (name : String) : Prop :=
  (name = "ENCRYPT" ∧ pod.annotationValue encryptGateway ≠ "") ∨
  (name = "KTLS" ∧ pod.annotationValue encryptGateway ≠ "" ∧
    pod.annotationValue enableKTLS ≠ "") ∨
  (name = "ENDPOINT" ∧ pod.annotationValue endpoint ≠ "") ∨
  (name = "AI" ∧ pod.annotationValue aiGateway ≠ "") ∨
  (name = "MODEL" ∧ pod.annotationValue aiGateway ≠ "" ∧ pod.annotationValue aiModel ≠ "") ∨
  name = "PODCIDR" ∨
  (name = "DEBUG" ∧ pod.annotationValue debug ≠ "") ∨
  (name = "NETFLUSH" ∧ pod.annotationValue netflush ≠ "") ∨
  name = "POD_NAME" ∨ name = "POD_NAMESPACE"

theorem exists_gatewayEnv_iff (h : Handler) (pod : Pod) (name : String) :
    (∃ v ∈ gatewayEnv h pod, v.name = name) ↔ pod.Sets name := by
  simp only [mem_gatewayEnv_iff, or_and_right, and_assoc, exists_or, exists_eq_left, EnvVar.name,
    Pod.Sets]
  grind

/-- The container has the variables that `withProxyContainer` sets, next to those of
    the secret. -/
theorem isSome_environment_gateway_iff {pem : Pem → GoString} {cluster : Cluster}
    {pod copied : Pod} {h : Handler} {target name : String}
    (hsecret : ∀ data : SecretData, data.env pem name = none) :
    ((gatewayContainer h pod target).environment pem cluster copied name).isSome = true ↔
      pod.Sets name := by
  rw [isSome_environment_iff hsecret, ← exists_gatewayEnv_iff h]
  rfl

/-- A variable with one value among the container's own has that value. -/
theorem environment_of_mem {pem : Pem → GoString} {cluster : Cluster} {pod : Pod}
    {ec : EphemeralContainer} {v : EnvVar} (hv : v ∈ ec.env)
    (hone : ∀ u ∈ ec.env, u.name = v.name → u = v) :
    ec.environment pem cluster pod v.name = some (v.valueIn pod) := by
  unfold EphemeralContainer.environment
  cases hfind : ec.env.reverse.find? (fun u => u.name = v.name) with
  | none =>
    have hnot := List.find?_eq_none.mp hfind v (List.mem_reverse.mpr hv)
    exact absurd (decide_eq_true rfl) hnot
  | some u =>
    have hmem := List.mem_reverse.mp (List.mem_of_find?_eq_some hfind)
    have hname : u.name = v.name := by simpa using List.find?_some hfind
    rw [hone u hmem hname]

/-- `gatewayEnv` gives PODCIDR one value. -/
theorem gatewayEnv_podCIDR {h : Handler} {pod : Pod} {u : EnvVar} (hu : u ∈ gatewayEnv h pod)
    (hname : u.name = "PODCIDR") : u = .value "PODCIDR" (pod.cidrText h) := by
  rcases mem_gatewayEnv_iff.mp hu with ⟨rfl, -⟩ | ⟨rfl, -⟩ | ⟨rfl, -⟩ | ⟨rfl, -⟩ | ⟨rfl, -⟩ |
    rfl | ⟨rfl, -⟩ | ⟨rfl, -⟩ | rfl | rfl
  all_goals first | rfl | exact absurd hname (by simp [EnvVar.name])

/-- The range the container is told. -/
theorem environment_podCIDR (pem : Pem → GoString) (cluster : Cluster) (h : Handler)
    (pod copied : Pod) (target : String) :
    (gatewayContainer h pod target).environment pem cluster copied "PODCIDR" =
      some (goString (pod.cidrText h)) := by
  have hmem : EnvVar.value "PODCIDR" (pod.cidrText h) ∈ gatewayEnv h pod := by
    rw [mem_gatewayEnv_iff]
    simp
  exact environment_of_mem (v := .value "PODCIDR" (pod.cidrText h)) hmem
    fun u hu hname => gatewayEnv_podCIDR hu hname

/-- A variable that `withProxyContainer` does not set comes from the secret. -/
theorem environment_of_not_sets {pem : Pem → GoString} {cluster : Cluster} {h : Handler}
    {pod copied : Pod} {target name : String} (hnot : ¬ pod.Sets name) :
    (gatewayContainer h pod target).environment pem cluster copied name =
      (cluster.secrets.lookup (copied.namespace_, podSecretName pod.name)).bind
        fun data => data.env pem name := by
  have hnone : (gatewayContainer h pod target).env.reverse.find? (fun v => v.name = name) =
      none := by
    rw [List.find?_eq_none]
    intro v hv hname
    exact hnot ((exists_gatewayEnv_iff h pod name).mp
      ⟨v, List.mem_reverse.mp hv, of_decide_eq_true hname⟩)
  unfold EphemeralContainer.environment
  rw [hnone]
  show List.findSome? _ [podSecretName pod.name] = _
  rw [List.findSome?_singleton]

/-! ## The configuration -/

/-- `Setup` makes of the variables what the annotations ask for. -/
theorem asAnnotated_of_setup {pem : Pem → GoString} {cluster : Cluster} {h : Handler}
    {pod copied : Pod} {target : String} {resolve : GoString → Option GoString}
    {c : Gateway.Config}
    (hsetup : Setup {} ((gatewayContainer h pod target).environment pem cluster copied) resolve =
      some c) : AsAnnotated h pod c := by
  have hsome : ∀ name, (∀ data : SecretData, data.env pem name = none) →
      (((gatewayContainer h pod target).environment pem cluster copied name).isSome = true ↔
        pod.Sets name) := fun name hsecret => isSome_environment_gateway_iff hsecret
  have hencrypt := hsome "ENCRYPT" (fun _ => rfl)
  have hendpoint := hsome "ENDPOINT" (fun _ => rfl)
  have hktls := hsome "KTLS" (fun _ => rfl)
  have hai := hsome "AI" (fun _ => rfl)
  have hflush := hsome "NETFLUSH" (fun _ => rfl)
  have htunnel := hsome "TUNNEL" (fun _ => rfl)
  have hnode := hsome "KUBE_NODE_NAME" (fun _ => rfl)
  unfold Setup at hsetup
  dsimp only at hsetup
  split at hsetup
  · exact absurd hsetup.symm (Option.some_ne_none c)
  · obtain rfl := Option.some.inj hsetup
    constructor
    · dsimp only
      rw [Bool.or_eq_true, hendpoint, hencrypt]
      simp [Pod.Sets]
    · dsimp only
      rw [Bool.false_or, hktls]
      simp [Pod.Sets]
    · dsimp only
      rw [hai]
      simp [Pod.Sets]
    · dsimp only
      rw [hflush]
      simp [Pod.Sets]
    · dsimp only
      rw [environment_podCIDR]
      rfl
    · constructor
      · dsimp only
        rw [Bool.false_or, ← Bool.not_eq_true, htunnel]
        simp [Pod.Sets]
      · dsimp only
        have hnone : (gatewayContainer h pod target).environment pem cluster copied
            "KUBE_NODE_NAME" = none := by
          rw [← Option.not_isSome_iff_eq_none, hnode]
          simp [Pod.Sets]
        rw [hnone]
        rfl

/-- What is loaded from such a configuration redirects the pod's range. -/
theorem redirectsAnnotatedRange_of_asAnnotated {h : Handler} {pod : Pod} {c : Gateway.Config}
    (hconf : AsAnnotated h pod c) : RedirectsAnnotatedRange h pod c := by
  intro r env pids m htext hcanonical hload p s args
  have hloaded := Gateway.loaded_of_LoadEPF hload
  obtain ⟨hbits, hnetwork⟩ := hloaded.range r (hconf.podCIDR.trans htext)
  have hrange : Ebpf.PassesRange .little m.mapConfig (Ebpf.bpfHtonl .little args.addr) ↔
      r.Contains args.addr := by
    rw [Gateway.passesRange_iff hbits hnetwork]
    exact and_iff_left hcanonical
  rw [Ebpf.redirects_call_iff (hloaded.tunnel hconf.sidecar.1), hloaded.pids, hloaded.proxyPid]
  refine and_congr_left fun _ => ?_
  constructor
  · rintro ⟨hinet, htcp, hin, hport⟩
    exact ⟨hinet, htcp, hrange.mp hin, hport⟩
  · rintro ⟨hinet, htcp, hin, hport⟩
    exact ⟨hinet, htcp, hrange.mpr hin, hport⟩

/-- The certificates come from the secret alone. -/
theorem certificatesOfSecret_gateway (pem : Pem → GoString) (cluster : Cluster) (h : Handler)
    {pod copied : Pod} (target : String) (hname : copied.name = pod.name) :
    CertificatesOfSecret pem cluster copied
      ((gatewayContainer h pod target).environment pem cluster copied) := by
  unfold CertificatesOfSecret GetEnvCerts
  rw [hname]
  simp only [environment_of_not_sets (show ¬ pod.Sets "SMESH-CA" by simp [Pod.Sets]),
    environment_of_not_sets (show ¬ pod.Sets "SMESH-CERT" by simp [Pod.Sets]),
    environment_of_not_sets (show ¬ pod.Sets "SMESH-KEY" by simp [Pod.Sets])]
  cases cluster.secrets.lookup (copied.namespace_, podSecretName pod.name) with
  | none => rfl
  | some data =>
    obtain ⟨ca, cert, key, token⟩ := data
    cases ca <;> cases cert <;> cases key <;> rfl

/-! ## The patches -/

/-- The mark that an injection sets is none of the gateway's annotations. -/
theorem annotationValue_of_marked {pod marked : Pod}
    (hmark : pod.annotate enabled "true" = some marked) {key : String} (hkey : key ≠ enabled) :
    marked.annotationValue key = pod.annotationValue key := by
  rw [annotationValue_annotate hmark, if_neg hkey]

/-- An injection leaves a pod that is consistent. -/
theorem selfConsistent_of_injected {h : Handler} {s s' : State} {pod sent copied : Pod}
    {out : UpdateOutcome} (hinj : withProxyContainer h s pod out = (s', some (sent, copied))) :
    SelfConsistent h copied := by
  obtain ⟨target, s₁, -, -, -, hmark, rfl⟩ := withProxyContainer_eq_some hinj
  have hid : sent.name = pod.name := congrArg PodId.name (id_annotate hmark)
  -- the container was made from the pod before it was marked
  have hvalue : ∀ key, key ≠ enabled → sent.annotationValue key = pod.annotationValue key :=
    fun key hkey => annotationValue_of_marked hmark hkey
  refine ⟨gatewayContainer h pod target, by rw [List.getLast?_concat], ?_⟩
  intro pem cluster
  refine ⟨certificatesOfSecret_gateway pem cluster h target hid, ?_⟩
  intro resolve c hsetup
  have hpod : AsAnnotated h pod c := asAnnotated_of_setup hsetup
  have hsame : AsAnnotated h { sent with
      ephemeralContainers := sent.ephemeralContainers ++ [gatewayContainer h pod target]
      shareProcessNamespace := true } c := by
    have hcidr : sent.cidrText h = pod.cidrText h := by
      unfold Pod.cidrText
      rw [hvalue podcidr (by decide)]
    constructor
    · show _ ↔ sent.annotationValue endpoint ≠ "" ∨ sent.annotationValue encryptGateway ≠ ""
      rw [hvalue endpoint (by decide), hvalue encryptGateway (by decide)]
      exact hpod.encrypt
    · show _ ↔ sent.annotationValue encryptGateway ≠ "" ∧ sent.annotationValue enableKTLS ≠ ""
      rw [hvalue encryptGateway (by decide), hvalue enableKTLS (by decide)]
      exact hpod.ktls
    · show _ ↔ sent.annotationValue aiGateway ≠ ""
      rw [hvalue aiGateway (by decide)]
      exact hpod.ai
    · show _ ↔ sent.annotationValue netflush ≠ ""
      rw [hvalue netflush (by decide)]
      exact hpod.flush
    · show _ = goString (sent.cidrText h)
      rw [hcidr]
      exact hpod.podCIDR
    · exact hpod.sidecar
  exact ⟨hsame, redirectsAnnotatedRange_of_asAnnotated hsame⟩

/-- Every pod that the watcher has patched in is consistent. -/
def PatchesConsistent (h : Handler) (s : State) : Prop :=
  ∀ sent copied, .patch sent copied ∈ s.log → SelfConsistent h copied

/-- Up to the containers nothing is patched. -/
private theorem patch_mem_withProxyContainer {h : Handler} {s : State} {pod sent copied : Pod}
    {out : UpdateOutcome} (hmem : .patch sent copied ∈ (withProxyContainer h s pod out).1.log) :
    .patch sent copied ∈ s.log := by
  rcases log_withProxyContainer h s pod out with
    hlog | ⟨data, created, hlog⟩ | ⟨data, created, hlog⟩
  · rwa [hlog] at hmem
  · rw [hlog, List.mem_cons] at hmem
    exact hmem.resolve_left Effect.noConfusion
  · rw [hlog, List.mem_cons, List.mem_cons] at hmem
    exact (hmem.resolve_left Effect.noConfusion).resolve_left Effect.noConfusion

/-- A patch is of an injection, or was there before. -/
theorem patch_mem_onUpdate {h : Handler} {s : State} {pod sent copied : Pod} {out : UpdateOutcome}
    (hmem : .patch sent copied ∈ (s.onUpdate h pod out).log) :
    .patch sent copied ∈ s.log ∨
      ∃ s', withProxyContainer h s pod out = (s', some (sent, copied)) := by
  unfold State.onUpdate at hmem
  split at hmem
  · have hbefore : ∀ x y, .patch x y ∈ (withProxyContainer h s pod out).1.log →
        .patch x y ∈ s.log := fun x y => patch_mem_withProxyContainer
    generalize hinj : withProxyContainer h s pod out = result at hmem hbefore
    obtain ⟨s', _ | ⟨sent', copied'⟩⟩ := result
    · exact Or.inl (hbefore sent copied hmem)
    · dsimp only at hmem
      -- the newest patch is that of this injection
      have hpatch : .patch sent copied ∈ Effect.patch sent' copied' :: s'.log := by
        cases hmark : (out.patched.getD Pod.zero).annotate enabled "true" with
        | none => rwa [hmark] at hmem
        | some marked =>
          rw [hmark] at hmem
          exact (List.mem_cons.mp hmem).resolve_left Effect.noConfusion
      obtain heq | hold := List.mem_cons.mp hpatch
      · obtain ⟨rfl, rfl⟩ := Effect.patch.inj heq
        exact Or.inr ⟨s', rfl⟩
      · exact Or.inl (hbefore sent copied hold)
  · exact Or.inl hmem

/-- Every step of the watcher leaves only consistent patches. -/
theorem patchesConsistent_step (h : Handler) (s : State) (e : Event)
    (hs : PatchesConsistent h s) : PatchesConsistent h (s.step h e) := by
  cases hcrash : s.crashed with
  | true =>
    rw [step_of_crashed hcrash]
    exact hs
  | false =>
    intro sent copied hmem
    cases e with
    | update pod out =>
      rw [step_update hcrash] at hmem
      obtain hold | ⟨s', hinj⟩ := patch_mem_onUpdate hmem
      · exact hs sent copied hold
      · exact selfConsistent_of_injected hinj
    | delete pod fails =>
      rw [step_delete hcrash] at hmem
      exact hs sent copied hmem

/-! ## Main result -/

/-- After any history of the watcher, every pod it has patched holds a gateway
    container whose environment, whatever the secrets of the cluster are when it
    starts, makes `Setup` build the configuration that the pod's annotations ask
    for; whose certificates are those of the pod's own secret; and whose hooks
    redirect exactly the range that the pod's annotation, or else the watcher's
    flag, names. -/
theorem configured_as_annotated (h : Handler) (cacert cakey : Pem) (cluster : Cluster)
    (es : List Event) (sent copied : Pod)
    (hpatch : .patch sent copied ∈
      (Trace.run (State.step h) (State.start cacert cakey cluster) es).log) :
    SelfConsistent h copied := by
  have hall : PatchesConsistent h
      (Trace.run (State.step h) (State.start cacert cakey cluster) es) :=
    Trace.run_invariant (fun s e => patchesConsistent_step h s e) nofun
  exact hall sent copied hpatch

/-- The pods of a patch, the old and the new. -/
def Effect.patched : Effect → Option (Pod × Pod)
  | .patch sent copied => some (sent, copied)
  | .mint _ _ => none
  | .load _ _ _ => none
  | .update _ => none

private theorem exists_patch {log : List Effect}
    (h : (log.findSome? Effect.patched).isSome = true) :
    ∃ sent copied, .patch sent copied ∈ log := by
  obtain ⟨⟨sent, copied⟩, hfind⟩ := Option.isSome_iff_exists.mp h
  obtain ⟨e, hmem, he⟩ := List.exists_of_findSome?_eq_some hfind
  cases e with
  | patch old new =>
    obtain ⟨rfl, rfl⟩ := Prod.mk.inj (Option.some.inj he)
    exact ⟨old, new, hmem⟩
  | _ => cases he

/-- An encrypted pod that the watcher patches. -/
theorem configured_as_annotated_encrypted :
    let pod := annotatedPod "a" "10.0.0.1" encryptGateway
    let h : Handler := ⟨"image", false, "10.0.0.0/16"⟩
    let s := Trace.run (State.step h)
      (State.start (.certificate [] [] 0 0) (.rsaPrivateKey 0) ⟨∅, [], ∅⟩)
      [.update pod (allSucceed pod)]
    ∃ sent copied, .patch sent copied ∈ s.log ∧ SelfConsistent h copied := by
  intro pod h s
  obtain ⟨sent, copied, hpatch⟩ : ∃ sent copied, .patch sent copied ∈ s.log :=
    exists_patch (by decide)
  exact ⟨sent, copied, hpatch, configured_as_annotated h (.certificate [] [] 0 0)
    (.rsaPrivateKey 0) ⟨∅, [], ∅⟩ [.update pod (allSucceed pod)] sent copied hpatch⟩

end KubeGateway.Watcher

import KubeGateway.Native.Connection
import KubeGateway.Spec.Injection

/-!
# Who needs a certificate

Two programs decide it.  The watcher mints a certificate for a pod with the
encrypt annotation; the gateway looks for one when `Setup` has set
`Config.Encrypt`, which the environment of its container decides.

## Key results

- `setsEncrypt_iff`: the annotations for which the gateway wants a certificate
- `encrypt_agrees_iff`: the injections after which it has its own
-/

namespace KubeGateway.Watcher

open Gateway (GoString goString Setup Flags)

/-! ## The environment of a container -/

def EnvVar.name : EnvVar → String
  | .value n _ => n
  | .fieldRef n _ => n

/-- The value of a variable in a container of `pod`. -/
def EnvVar.valueIn (pod : Pod) : EnvVar → GoString
  | .value _ text => goString text
  | .fieldRef _ fieldPath =>
    if fieldPath = "metadata.name" then goString pod.name
    else if fieldPath = "metadata.namespace" then goString pod.namespace_
    else []

/-- The variables a container takes from a secret, one for each key of its data.
    `pem` is the text of a PEM block. -/
def SecretData.env (pem : Pem → GoString) (data : SecretData) (name : String) : Option GoString :=
  if name = "SMESH-CA" then data.smeshCa.map pem
  else if name = "SMESH-CERT" then data.smeshCert.map pem
  else if name = "SMESH-KEY" then data.smeshKey.map pem
  else if name = "KUBE-GATEWAY-TOKEN" then data.token.map goString
  else none

/-- The environment of a container of `pod`: a variable in `env` goes before one
    from a secret, and a later one before an earlier one. -/
def EphemeralContainer.environment (pem : Pem → GoString) (cluster : Cluster) (pod : Pod)
    (ec : EphemeralContainer) (name : String) : Option GoString :=
  match ec.env.reverse.find? (fun v => v.name = name) with
  | some v => some (v.valueIn pod)
  | none => ec.envFrom.reverse.findSome? fun secret =>
    (cluster.secrets.lookup (pod.namespace_, secret)).bind (fun data => data.env pem name)

/-- A variable that is no key of a secret is set by `env` alone. -/
theorem isSome_environment_iff {pem : Pem → GoString} {cluster : Cluster} {pod : Pod}
    {ec : EphemeralContainer} {name : String}
    (hsecret : ∀ data : SecretData, data.env pem name = none) :
    (ec.environment pem cluster pod name).isSome = true ↔ ∃ v ∈ ec.env, v.name = name := by
  unfold EphemeralContainer.environment
  cases hfind : ec.env.reverse.find? (fun v => v.name = name) with
  | some v =>
    have hmem := List.mem_of_find?_eq_some hfind
    have hname := List.find?_some hfind
    simp only [Option.isSome_some, true_iff]
    exact ⟨v, List.mem_reverse.mp hmem, of_decide_eq_true hname⟩
  | none =>
    have hnone : ∀ secret, (cluster.secrets.lookup (pod.namespace_, secret)).bind
        (fun data => data.env pem name) = none := by
      intro secret
      simp only [hsecret, Option.bind_fun_none]
    simp only [hnone, List.findSome?_eq_none_iff.mpr (fun _ _ => rfl), Option.isSome_none,
      Bool.false_eq_true, false_iff]
    rintro ⟨v, hv, hname⟩
    have hnot := List.find?_eq_none.mp hfind v (List.mem_reverse.mpr hv)
    exact hnot (decide_eq_true hname)

/-- `gatewayEnv` names ENDPOINT for the endpoint annotation only. -/
theorem exists_gatewayEnv_endpoint (h : Handler) (pod : Pod) :
    (∃ v ∈ gatewayEnv h pod, v.name = "ENDPOINT") ↔ pod.annotationValue endpoint ≠ "" := by
  simp [gatewayEnv, or_and_right, and_assoc, exists_or, EnvVar.name]

/-- `gatewayEnv` names ENCRYPT for the encrypt annotation only. -/
theorem exists_gatewayEnv_encrypt (h : Handler) (pod : Pod) :
    (∃ v ∈ gatewayEnv h pod, v.name = "ENCRYPT") ↔ pod.annotationValue encryptGateway ≠ "" := by
  simp [gatewayEnv, or_and_right, and_assoc, exists_or, EnvVar.name]

/-! ## The gateway's side -/

/-- `Setup` sets `Config.Encrypt` in the container. -/
def SetsEncrypt (pem : Pem → GoString) (cluster : Cluster) (pod : Pod)
    (ec : EphemeralContainer) : Prop :=
  ∃ flags resolve c, Setup flags (ec.environment pem cluster pod) resolve = some c ∧
    c.encrypt = true

theorem setsEncrypt_iff_isSome {pem : Pem → GoString} {cluster : Cluster} {pod : Pod}
    {ec : EphemeralContainer} :
    SetsEncrypt pem cluster pod ec ↔
      (ec.environment pem cluster pod "ENDPOINT").isSome = true ∨
        (ec.environment pem cluster pod "ENCRYPT").isSome = true := by
  rw [← Bool.or_eq_true]
  constructor
  · rintro ⟨flags, resolve, c, hsetup, hencrypt⟩
    unfold Setup at hsetup
    dsimp only at hsetup
    split at hsetup
    · exact nomatch hsetup
    · obtain rfl := Option.some.inj hsetup
      exact hencrypt
  · intro hsome
    -- an address that resolves
    exact ⟨{}, fun _ => some [], _, rfl, hsome⟩

/-- The gateway wants a certificate for either of two annotations. -/
theorem setsEncrypt_iff {pem : Pem → GoString} {cluster : Cluster} {pod copied : Pod}
    {h : Handler} {target : String} :
    SetsEncrypt pem cluster copied (gatewayContainer h pod target) ↔
      pod.annotationValue endpoint ≠ "" ∨ pod.annotationValue encryptGateway ≠ "" := by
  rw [setsEncrypt_iff_isSome, isSome_environment_iff (fun _ => rfl),
    isSome_environment_iff (fun _ => rfl), ← exists_gatewayEnv_endpoint h,
    ← exists_gatewayEnv_encrypt h]
  rfl

/-! ## The watcher's side -/

/-- The injection of `pod` from `s` to `s'` has minted a certificate for it, and
    the one secret the container takes its environment from is built from it. -/
def OwnCertificateAttached (s s' : State) (pod : Pod) (ec : EphemeralContainer) : Prop :=
  ∃ key data cert priv secret,
    s'.log = .load pod.id data true :: .mint pod.id key :: s.log ∧
    PairOf pod.id key cert priv ∧ data.smeshCert = some cert ∧ data.smeshKey = some priv ∧
    ec.envFrom = [secret] ∧ s'.cluster.secrets.lookup (pod.namespace_, secret) = some data

/-- The gateway that is injected has its certificate if it wants one. -/
def Agrees (pem : Pem → GoString) (s s' : State) (pod copied : Pod) : Prop :=
  ∀ ec, copied.ephemeralContainers.getLast? = some ec →
    SetsEncrypt pem s'.cluster copied ec → OwnCertificateAttached s s' pod ec

theorem agrees_iff {h : Handler} {pem : Pem → GoString} {s s' : State} {pod copied : Pod}
    {before : List EphemeralContainer} {target : String}
    (hcopied : copied.ephemeralContainers = before ++ [gatewayContainer h pod target]) :
    Agrees pem s s' pod copied ↔
      (pod.annotationValue endpoint ≠ "" ∨ pod.annotationValue encryptGateway ≠ "" →
        OwnCertificateAttached s s' pod (gatewayContainer h pod target)) := by
  unfold Agrees
  rw [hcopied]
  simp only [List.getLast?_concat, Option.some.injEq, forall_eq', setsEncrypt_iff]

/-- A pod with the encrypt annotation has its certificate minted in its own
    injection, and in its secret exactly when that is created. -/
theorem ownCertificateAttached_iff {h : Handler} {s s₁ : State} {pod : Pod} {target : String}
    {out : UpdateOutcome} (hprep : Prepared s s₁ pod out.check)
    (henc : pod.annotationValue encryptGateway ≠ "") :
    OwnCertificateAttached s (s₁.loadSecret out.loadFails pod) pod (gatewayContainer h pod target) ↔
      out.loadFails = false ∧
        s.cluster.secrets.lookup (pod.namespace_, podSecretName pod.name) = none := by
  obtain ⟨hlog, hpair⟩ := hprep.minted henc
  rw [← hprep.lookup, ← @createSecret_fst _ _ _ _ s₁.certs.secretMap]
  constructor
  · rintro ⟨key, data, cert, priv, secret, hload, -⟩
    obtain ⟨-, -, hcreated⟩ := Effect.load.inj (List.cons.inj hload).1
    exact hcreated
  · intro hcreated
    obtain ⟨hfails, hfree⟩ := createSecret_fst.mp hcreated
    refine ⟨s.generated, s₁.certs.secretMap, s₁.certs.cert, s₁.certs.key, podSecretName pod.name,
      ?_, hpair, rfl, rfl, rfl, ?_⟩
    · unfold State.loadSecret
      dsimp only
      rw [hcreated, hlog]
    · rw [hfails]
      exact lookup_createSecret_of_free hfree

/-! ## Main results -/

/-- After any history of the watcher, a gateway that is injected has a certificate
    of its own if it wants one, exactly when a pod with the encrypt annotation can
    have its secret created, and one without it has no endpoint annotation. -/
theorem encrypt_agrees_iff (h : Handler) (cacert cakey : Pem) (cluster : Cluster)
    (es : List Event) (pem : Pem → GoString) (pod : Pod) (out : UpdateOutcome) (s' : State)
    (marked copied : Pod)
    (hinj : withProxyContainer h
      (Trace.run (State.step h) (State.start cacert cakey cluster) es) pod out =
        (s', some (marked, copied))) :
    Agrees pem (Trace.run (State.step h) (State.start cacert cakey cluster) es) s' pod copied ↔
      if pod.annotationValue encryptGateway ≠ "" then
        out.loadFails = false ∧
          (Trace.run (State.step h) (State.start cacert cakey cluster) es).cluster.secrets.lookup
            (pod.namespace_, podSecretName pod.name) = none
      else pod.annotationValue endpoint = "" := by
  -- the history matters only through the state it leads to
  generalize Trace.run (State.step h) (State.start cacert cakey cluster) es = s at hinj ⊢
  obtain ⟨target, s₁, -, hprep, rfl, -, rfl⟩ := withProxyContainer_eq_some hinj
  rw [agrees_iff rfl]
  split
  · rename_i henc
    rw [ownCertificateAttached_iff hprep henc]
    exact ⟨fun himp => himp (Or.inr henc), fun hcreated _ => hcreated⟩
  · rename_i henc
    rw [not_not] at henc
    constructor
    · intro himp
      by_contra hend
      obtain ⟨key, data, cert, priv, secret, hload, -⟩ := himp (Or.inl hend)
      -- nothing was minted
      have htail := (List.cons.inj hload).2
      rw [(hprep.shared henc).1] at htail
      exact absurd (congrArg List.length htail) (by simp)
    · rintro hend (hne | hne)
      · exact absurd hend hne
      · exact absurd henc hne

/-- `encrypt_agrees_iff` for an encrypted pod, the first the watcher sees. -/
theorem encrypt_agrees_iff_encrypted :
    let pod := annotatedPod "a" "10.0.0.1" encryptGateway
    let s := State.start (.certificate [] [] 0 0) (.rsaPrivateKey 0) ⟨∅, [], ∅⟩
    ∃ s' marked copied,
      withProxyContainer ⟨"image", false, "10.0.0.0/16"⟩ s pod (allSucceed pod) =
        (s', some (marked, copied)) ∧
      Agrees (fun _ => []) s s' pod copied := by
  intro pod s
  have hsome : (withProxyContainer ⟨"image", false, "10.0.0.0/16"⟩ s pod
      (allSucceed pod)).2.isSome = true := by decide
  obtain ⟨⟨marked, copied⟩, hpods⟩ := Option.isSome_iff_exists.mp hsome
  refine ⟨_, marked, copied, Prod.ext rfl hpods, ?_⟩
  apply (encrypt_agrees_iff _ _ _ _ [] _ _ _ _ marked copied (Prod.ext rfl hpods)).mpr
  rw [if_pos (by decide)]
  exact ⟨rfl, rfl⟩

/-! ## An endpoint without a certificate -/

/-- A gateway can want a certificate that the watcher has not minted: `Setup`
    reads ENDPOINT as a wish for encryption, and `withProxyContainer` does not. -/
theorem not_encrypt_agrees :
    ¬ ∀ (h : Handler) (cacert cakey : Pem) (cluster : Cluster) (es : List Event)
      (pem : Pem → GoString) (pod : Pod) (out : UpdateOutcome) (s' : State) (marked copied : Pod),
      pod.wantsGateway = true →
      withProxyContainer h (Trace.run (State.step h) (State.start cacert cakey cluster) es) pod
        out = (s', some (marked, copied)) →
      Agrees pem (Trace.run (State.step h) (State.start cacert cakey cluster) es) s' pod
        copied := by
  intro hclaim
  have hagrees := hclaim ⟨"image", false, "10.0.0.0/16"⟩ (.certificate [] [] 0 0)
    (.rsaPrivateKey 0) ⟨∅, [], ∅⟩ [] (fun _ => [])
    (annotatedPod "e" "10.0.0.9" endpoint) (allSucceed (annotatedPod "e" "10.0.0.9" endpoint))
    _ _ _ (by decide) rfl
  rw [agrees_iff rfl] at hagrees
  obtain ⟨key, data, cert, priv, secret, hload, -⟩ := hagrees (Or.inl (by decide))
  -- the injection only handed a secret to the API server
  exact absurd (congrArg List.length (List.cons.inj hload).2) (by simp)

end KubeGateway.Watcher

import KubeGateway.Native.PolicyClient
import KubeGateway.Spec.AccountsAuthorised
import KubeGateway.Spec.ConfiguredAsAnnotated
import KubeGateway.Spec.PolicyHistory
import KubeGateway.Spec.TokenStored
import KubeGateway.Spec.TrustDomain

/-!
# Every gateway asks for its own policy

The watcher has one token for all pods, as it has one certificate.  But it sets
the token anew for each pod, from the secret of the pod's namespace, before it
hands out the pod's secret.  So whatever fails, and however often the watcher is
started again, a token never leaves its namespace, and the gateway that starts
with it asks for the ConfigMap of its own pod and no other.

Whether the account may see it is another matter: the binding of the role has one
name in the whole cluster, so one namespace has the right, and has it for good.

## Key results

- `TokenInvariant`: which tokens the secrets hold
- `policy_watched_as_own`: what a gateway that starts at any time asks for
- `authorised_for_good`: whose accounts may see ConfigMaps
-/

namespace KubeGateway.Watcher

open Gateway (GoString goString goString_append goString_inj goString_eq_nil ClientEnv
  WatchRequest startPolicyWatch startPolicyWatch_eq_ok serviceAccountFile ConfigMap)

/-! ## The property -/

/-- The handler of this event gets as far as `CreateToken`: it does not find a secret
    of the pod's namespace. -/
structure State.CreatesToken (s : State) (pod : Pod) (out : UpdateOutcome) : Prop where
  running : s.crashed = false
  wants : pod.wantsGateway = true
  containers : pod.containers ≠ []
  absent : out.check.getFails = true ∨ s.cluster.gatewaySecret pod.namespace_ = none

/-- The token was in the namespace's secret before the first watcher, or the event of
    a pod of the namespace has had it from `CreateToken`. -/
def Issued (h : Handler) (start : State) (ls : List Life) (namespace_ token : String) : Prop :=
  (∃ data, start.cluster.gatewaySecret namespace_ = some data ∧ data.token = some token) ∨
    ∃ before after pod out, ls = before ++ .event (.update pod out) :: after ∧
      (Trace.run (State.live h) start before).CreatesToken pod out ∧
      pod.namespace_ = namespace_ ∧ out.check.token = some token

/-- The token in the pod's own secret, empty where there is none. -/
def State.podToken (s : State) (pod : Pod) : String :=
  ((s.podSecret pod.key).bind SecretData.token).getD ""

/-- The environment of the gateway's process: the variables of its container and,
    behind them, those of the service of the API server. -/
def EphemeralContainer.processEnv (pem : Pem → GoString) (cluster : Cluster) (pod : Pod)
    (host port : GoString) (ec : EphemeralContainer) (name : String) : Option GoString :=
  match ec.environment pem cluster pod name with
  | some v => some v
  | none =>
    if name = "KUBERNETES_SERVICE_HOST" then some host
    else if name = "KUBERNETES_SERVICE_PORT" then some port
    else none

/-- The ConfigMap is among those a watch is of. -/
def Selects (request : WatchRequest) (m : ConfigMap) : Prop :=
  request.fieldName = "metadata.name" ∧ request.fieldValue = goString m.name ∧
    request.namespace_ = goString m.namespace_

/-- The gateway that starts in the pod's newest container, while the cluster is as it
    is, asks for the ConfigMap of its pod only, and with a token of the pod's
    namespace; without one, with the token of the account its pod runs as. -/
def State.AsksForOwn (issued : String → Prop) (s : State) (pod : Pod) : Prop :=
  ∃ ec, pod.ephemeralContainers.getLast? = some ec ∧
    ∀ (pem : Pem → GoString) (host port : GoString) (env : ClientEnv),
      env.getenv = ec.processEnv pem s.cluster pod host port →
      ∀ c pids request, startPolicyWatch c pids env = some (.ok request) →
        (∀ m : ConfigMap, Selects request m ↔ m.For pod.name pod.namespace_) ∧
        (s.podToken pod ≠ "" → issued (s.podToken pod) ∧
          request.config.bearerToken = goString (s.podToken pod)) ∧
        (s.podToken pod = "" → ∃ pid, pids.head? = some pid ∧
          env.readFile (serviceAccountFile pid.toNat "token") = .ok request.config.bearerToken)

/-! ## The tokens of the secrets -/

/-- A token in the data is one of these. -/
def SecretData.HoldsOnly (data : SecretData) (issued : String → Prop) : Prop :=
  data.token.getD "" ≠ "" → issued (data.token.getD "")

/-- The secrets of the namespaces, and those of the pods, hold tokens of their own
    namespace only. -/
structure TokenInvariant (issued : String → String → Prop) (s : State) : Prop where
  accounts : ∀ namespace_ data, s.cluster.gatewaySecret namespace_ = some data →
    data.HoldsOnly (issued namespace_)
  pods : ∀ key data, s.podSecret key = some data → data.HoldsOnly (issued key.1)

theorem TokenInvariant.mono {issued issued' : String → String → Prop} {s : State}
    (hI : TokenInvariant issued s) (hmono : ∀ ns token, issued ns token → issued' ns token) :
    TokenInvariant issued' s where
  accounts := fun ns data hfound hne => hmono _ _ (hI.accounts ns data hfound hne)
  pods := fun key data hfound hne => hmono _ _ (hI.pods key data hfound hne)

theorem TokenInvariant.podToken {issued : String → String → Prop} {s : State} {pod : Pod}
    (hI : TokenInvariant issued s) (hne : s.podToken pod ≠ "") :
    issued pod.namespace_ (s.podToken pod) := by
  unfold State.podToken at hne ⊢
  cases hsecret : s.podSecret pod.key with
  | none =>
    rw [hsecret] at hne
    exact absurd rfl hne
  | some data =>
    rw [hsecret] at hne
    exact hI.pods pod.key data hsecret hne

/-- A step that creates no secret. -/
theorem TokenInvariant.congr {issued : String → String → Prop} {s s' : State}
    (hI : TokenInvariant issued s)
    (hsecrets : ∀ key data, s'.cluster.secrets.lookup key = some data →
      s.cluster.secrets.lookup key = some data) : TokenInvariant issued s' where
  accounts := fun ns data hfound => hI.accounts ns data (hsecrets _ _ hfound)
  pods := fun key data hfound => hI.pods key data (hsecrets _ _ hfound)

/-- The check of a namespace's secret keeps the invariant, and the token that is
    shared after it is one of the namespace. -/
theorem TokenInvariant.checked {issued : String → String → Prop} {s : State}
    (hI : TokenInvariant issued s) (pod : Pod) (check : CheckOutcome)
    (hcheck : check.getFails = true ∨ s.cluster.gatewaySecret pod.namespace_ = none →
      ∀ token, check.token = some token → issued pod.namespace_ token) :
    TokenInvariant issued (s.checked pod check) ∧
      ((s.checked pod check).certs.token ≠ "" →
        issued pod.namespace_ (s.checked pod check).certs.token) := by
  have hpods : ∀ key data, (s.checked pod check).podSecret key = some data →
      data.HoldsOnly (issued key.1) := by
    intro key data hfound
    refine hI.pods key data ?_
    rw [← hfound]
    exact (lookup_checkSecretExists (podSecretName_ne key.2)).symm
  by_cases habsent : check.getFails = true ∨ s.cluster.gatewaySecret pod.namespace_ = none
  · -- the call goes on to create the secret, with the token it is given
    have hfresh : check.token.getD "" ≠ "" → issued pod.namespace_ (check.token.getD "") := by
      cases htoken : check.token with
      | none => exact fun hne => absurd rfl hne
      | some token => exact fun _ => hcheck habsent token htoken
    obtain ⟨cl, hsecrets, heq⟩ := checkSecretExists_of_absent check s.cluster pod.namespace_ habsent
    refine ⟨⟨fun ns data hfound => ?_, hpods⟩, ?_⟩
    · change (checkSecretExists check s.cluster pod.namespace_).2.gatewaySecret ns =
        some data at hfound
      rw [heq] at hfound
      obtain hold | ⟨hkey, rfl⟩ := lookup_createSecret_eq_some hfound
      · rw [hsecrets] at hold
        exact hI.accounts ns data hold
      · rw [(Prod.mk.inj hkey).1]
        exact hfresh
    · change (checkSecretExists check s.cluster pod.namespace_).1 ≠ "" →
        issued pod.namespace_ (checkSecretExists check s.cluster pod.namespace_).1
      rw [heq]
      dsimp only
      split
      · exact hfresh
      · exact fun hne => absurd rfl hne
  · -- the read has found the secret
    rw [not_or, Bool.not_eq_true] at habsent
    obtain ⟨data, hdata⟩ := Option.ne_none_iff_exists'.mp habsent.2
    have heq : checkSecretExists check s.cluster pod.namespace_ =
        (data.token.getD "", s.cluster) := by
      unfold checkSecretExists
      rw [habsent.1, if_neg Bool.false_ne_true,
        show s.cluster.secrets.lookup (pod.namespace_, "kube-gateway") = some data from hdata]
    refine ⟨⟨fun ns found hfound => hI.accounts ns found ?_, hpods⟩, ?_⟩
    · change (checkSecretExists check s.cluster pod.namespace_).2.gatewaySecret ns =
        some found at hfound
      rwa [heq] at hfound
    · change (checkSecretExists check s.cluster pod.namespace_).1 ≠ "" →
        issued pod.namespace_ (checkSecretExists check s.cluster pod.namespace_).1
      rw [heq]
      exact hI.accounts _ data hdata

/-- The pod's secret gets the shared token. -/
theorem TokenInvariant.loadSecret {issued : String → String → Prop} {s : State}
    (hI : TokenInvariant issued s) (fails : Bool) (pod : Pod)
    (hshared : s.certs.token ≠ "" → issued pod.namespace_ s.certs.token) :
    TokenInvariant issued (s.loadSecret fails pod) := by
  constructor
  · intro ns data hfound
    refine hI.accounts ns data ?_
    -- a pod's secret is no namespace's
    rw [← hfound]
    exact (lookup_createSecret_of_ne fun hkey =>
      podSecretName_ne pod.name (Prod.mk.inj hkey).2.symm).symm
  · intro key data hfound
    obtain hold | ⟨hkey, rfl⟩ := lookup_createSecret_eq_some hfound
    · exact hI.pods key data hold
    · rw [(Prod.mk.inj hkey).1]
      exact hshared

theorem TokenInvariant.onUpdate {issued : String → String → Prop} {h : Handler} {s : State}
    (hI : TokenInvariant issued s) (pod : Pod) (out : UpdateOutcome)
    (hcheck : pod.wantsGateway = true → pod.containers ≠ [] →
      (out.check.getFails = true ∨ s.cluster.gatewaySecret pod.namespace_ = none) →
      ∀ token, out.check.token = some token → issued pod.namespace_ token) :
    TokenInvariant issued (s.onUpdate h pod out) := by
  cases hwants : pod.wantsGateway with
  | false =>
    rw [onUpdate_of_not_wants hwants]
    exact hI
  | true =>
    have hinjected : TokenInvariant issued (withProxyContainer h s pod out).1 := by
      by_cases hcontainers : pod.containers = []
      · -- there is no container to be the target
        unfold withProxyContainer
        rw [hcontainers]
        exact hI
      obtain ⟨hchecked, hshared⟩ := hI.checked pod out.check (hcheck hwants hcontainers)
      obtain heq | heq | heq | ⟨minted, hmint, heq⟩ := state_withProxyContainer h s pod out
      · rw [heq]
        exact hI
      · rw [heq]
        exact hchecked
      · rw [heq]
        exact hchecked.loadSecret out.loadFails pod hshared
      · rw [heq]
        -- a mint is about no token
        obtain ⟨certs, hcreate, rfl⟩ := Option.map_eq_some_iff.mp hmint
        obtain ⟨-, -, -, -, -, -, htoken⟩ := createCertificate_eq_some hcreate
        have hminted : TokenInvariant issued { s.checked pod out.check with
            certs := certs
            generated := (s.checked pod out.check).generated + 1
            log := .mint pod.id (s.checked pod out.check).generated ::
              (s.checked pod out.check).log } := hchecked.congr fun _ _ => id
        refine hminted.loadSecret out.loadFails pod ?_
        show certs.token ≠ "" → issued pod.namespace_ certs.token
        rw [htoken]
        exact hshared
    obtain ⟨later, crashed, hstate⟩ := @state_onUpdate h s pod out hwants
    rw [hstate]
    exact hinjected.congr fun _ _ => id

theorem TokenInvariant.onDelete {issued : String → String → Prop} {s : State}
    (hI : TokenInvariant issued s) (pod : Pod) (fails : Bool) :
    TokenInvariant issued (s.onDelete pod fails) :=
  hI.congr fun _ _ hfound => lookup_of_deleteSecret hfound

/-- Tokens are only ever added to the issued ones. -/
theorem Issued.append {h : Handler} {start : State} {ls : List Life} {namespace_ token : String}
    (hissued : Issued h start ls namespace_ token) (more : List Life) :
    Issued h start (ls ++ more) namespace_ token := by
  obtain hfirst | ⟨before, after, pod, out, rfl, hcreates⟩ := hissued
  · exact Or.inl hfirst
  · exact Or.inr ⟨before, after ++ more, pod, out, by simp, hcreates⟩

theorem tokenInvariant_live (h : Handler) (start : State) (ls : List Life) (l : Life)
    (hI : TokenInvariant (Issued h start ls) (Trace.run (State.live h) start ls)) :
    TokenInvariant (Issued h start (ls ++ [l])) ((Trace.run (State.live h) start ls).live h l) := by
  have hmore := hI.mono fun ns token hissued => hissued.append [l]
  cases l with
  | restart cacert cakey => exact hmore.congr fun _ _ => id
  | event e =>
    show TokenInvariant _ ((Trace.run (State.live h) start ls).step h e)
    cases hcrash : (Trace.run (State.live h) start ls).crashed with
    | true =>
      rw [step_of_crashed hcrash]
      exact hmore
    | false =>
      cases e with
      | delete pod fails =>
        rw [step_delete hcrash]
        exact hmore.onDelete pod fails
      | update pod out =>
        rw [step_update hcrash]
        refine hmore.onUpdate pod out fun hwants hcontainers habsent token htoken => ?_
        exact Or.inr ⟨ls, [], pod, out, rfl, ⟨hcrash, hwants, hcontainers, habsent⟩, rfl, htoken⟩

theorem tokenInvariant_run (h : Handler) (cacert cakey : Pem) (cluster : Cluster)
    (ls : List Life) (hnone : ∀ key, ¬ HasSecret cluster key) :
    TokenInvariant (Issued h (.start cacert cakey cluster) ls)
      (Trace.run (State.live h) (.start cacert cakey cluster) ls) := by
  refine Trace.run_history_invariant ⟨fun ns data hfound hne => Or.inl ⟨data, hfound, ?_⟩,
    fun key data hfound => absurd ?_ (hnone key)⟩
    (fun ls l hI => tokenInvariant_live h _ ls l hI) ls
  · cases htoken : data.token with
    | none =>
      rw [htoken] at hne
      exact absurd rfl hne
    | some token => rfl
  · show (cluster.secrets.lookup _).isSome = true
    rw [show cluster.secrets.lookup (key.1, podSecretName key.2) = some data from hfound]
    rfl

/-! ## The gateway's container -/

/-- The pod's newest container is the gateway's, made for a pod of this name. -/
def HoldsGateway (h : Handler) (copied : Pod) : Prop :=
  ∃ pod target, copied.ephemeralContainers.getLast? = some (gatewayContainer h pod target) ∧
    pod.name = copied.name

/-- Every pod that was patched does. -/
def PatchesHoldGateway (h : Handler) (s : State) : Prop :=
  ∀ sent copied, .patch sent copied ∈ s.log → HoldsGateway h copied

theorem patchesHoldGateway_live (h : Handler) (s : State) (l : Life)
    (hs : PatchesHoldGateway h s) : PatchesHoldGateway h (s.live h l) := by
  intro sent copied hmem
  cases l with
  | restart cacert cakey => exact hs sent copied hmem
  | event e =>
    unfold State.live State.step at hmem
    dsimp only at hmem
    split at hmem
    · exact hs sent copied hmem
    · cases e with
      | delete pod fails => exact hs sent copied hmem
      | update pod out =>
        obtain hold | ⟨s', hinj⟩ := patch_mem_onUpdate hmem
        · exact hs sent copied hold
        · obtain ⟨target, s₁, -, -, -, hmark, rfl⟩ := withProxyContainer_eq_some hinj
          have hid : sent.id = pod.id := id_annotate hmark
          exact ⟨pod, target, by rw [List.getLast?_concat], (congrArg PodId.name hid).symm⟩

theorem patchesHoldGateway_run (h : Handler) (cacert cakey : Pem) (cluster : Cluster)
    (ls : List Life) :
    PatchesHoldGateway h (Trace.run (State.live h) (.start cacert cakey cluster) ls) :=
  Trace.run_invariant (patchesHoldGateway_live h)
    fun _ _ hmem => absurd hmem List.not_mem_nil

/-- The variables of the process that its container sets. -/
theorem processEnv_of_some {pem : Pem → GoString} {cluster : Cluster} {pod : Pod}
    {host port : GoString} {ec : EphemeralContainer} {name : String} {v : GoString}
    (hv : ec.environment pem cluster pod name = some v) :
    ec.processEnv pem cluster pod host port name = some v := by
  unfold EphemeralContainer.processEnv
  rw [hv]

/-- A variable of the pod's metadata. -/
theorem environment_fieldRef (pem : Pem → GoString) (cluster : Cluster) (h : Handler)
    (pod copied : Pod) (target : String) {name path : String}
    (hname : (name, path) = ("POD_NAME", "metadata.name") ∨
      (name, path) = ("POD_NAMESPACE", "metadata.namespace")) :
    (gatewayContainer h pod target).environment pem cluster copied name =
      some ((EnvVar.fieldRef name path).valueIn copied) := by
  have hmem : EnvVar.fieldRef name path ∈ gatewayEnv h pod := by
    rw [mem_gatewayEnv_iff]
    obtain heq | heq := hname <;> obtain ⟨rfl, rfl⟩ := Prod.mk.inj heq <;> simp
  refine environment_of_mem (v := .fieldRef name path) hmem fun u hu huname => ?_
  -- no other variable has one of the two names
  rcases mem_gatewayEnv_iff.mp hu with ⟨rfl, -⟩ | ⟨rfl, -⟩ | ⟨rfl, -⟩ | ⟨rfl, -⟩ | ⟨rfl, -⟩ |
    rfl | ⟨rfl, -⟩ | ⟨rfl, -⟩ | rfl | rfl <;>
  obtain heq | heq := hname <;> obtain ⟨rfl, rfl⟩ := Prod.mk.inj heq <;>
  first | rfl | exact absurd huname (by simp [EnvVar.name])

/-- The token of the process is that of its pod's own secret. -/
theorem get_token {pem : Pem → GoString} {cluster : Cluster} {h : Handler} {pod copied : Pod}
    {target : String} {host port : GoString} {env : ClientEnv}
    (hname : pod.name = copied.name)
    (henv : env.getenv =
      (gatewayContainer h pod target).processEnv pem cluster copied host port) :
    env.get "KUBE-GATEWAY-TOKEN" = goString
      (((cluster.secrets.lookup (copied.namespace_, podSecretName copied.name)).bind
        SecretData.token).getD "") := by
  have hnot : ¬ pod.Sets "KUBE-GATEWAY-TOKEN" := by simp [Pod.Sets]
  unfold ClientEnv.get EphemeralContainer.processEnv at *
  rw [henv]
  dsimp only
  rw [environment_of_not_sets hnot, hname]
  cases cluster.secrets.lookup (copied.namespace_, podSecretName copied.name) with
  | none => rfl
  | some data =>
    obtain ⟨ca, cert, key, token⟩ := data
    cases token <;> rfl

/-! ## Main result -/

/-- In every run of the watcher from a cluster in which no pod has a secret, whatever
    fails and however often it is started again: a gateway that is started, at any time,
    in a pod that was patched asks the API server for the ConfigMap that the policy of its
    pod is read from and for no other; and it asks as an account of its own namespace,
    with a token that was issued for that namespace by then, or else, if its secret has no
    token, with the one in the file of the pod's own account. -/
theorem policy_watched_as_own (h : Handler) (cacert cakey : Pem) (cluster : Cluster)
    (ls later : List Life) (sent copied : Pod) (hnone : ∀ key, ¬ HasSecret cluster key)
    (hpatch : .patch sent copied ∈
      (Trace.run (State.live h) (.start cacert cakey cluster) (ls ++ later)).log) :
    (Trace.run (State.live h) (.start cacert cakey cluster) ls).AsksForOwn
      (Issued h (.start cacert cakey cluster) ls copied.namespace_) copied := by
  have hI := tokenInvariant_run h cacert cakey cluster ls hnone
  generalize Trace.run (State.live h) (.start cacert cakey cluster) ls = s at hI
  obtain ⟨pod, target, hlast, hname⟩ :=
    patchesHoldGateway_run h cacert cakey cluster (ls ++ later) sent copied hpatch
  refine ⟨_, hlast, ?_⟩
  intro pem host port env henv c pids request hrequest
  obtain ⟨-, hns, hfield, hvalue, pid, token, hpid, hread, hbearer⟩ :=
    startPolicyWatch_eq_ok hrequest
  have hpodname : env.get "POD_NAME" = goString copied.name := by
    unfold ClientEnv.get
    rw [henv, processEnv_of_some (environment_fieldRef pem s.cluster h pod copied target
      (Or.inl rfl))]
    rfl
  have hpodns : env.get "POD_NAMESPACE" = goString copied.namespace_ := by
    unfold ClientEnv.get
    rw [henv, processEnv_of_some (environment_fieldRef pem s.cluster h pod copied target
      (Or.inr rfl))]
    rfl
  simp only [get_token hname henv, ne_eq, goString_eq_nil] at hbearer
  change request.config.bearerToken =
    if ¬ s.podToken copied = "" then goString (s.podToken copied) else token at hbearer
  refine ⟨fun m => ?_, fun hne => ?_, fun hempty => ?_⟩
  · unfold Selects ConfigMap.For
    rw [hfield, hvalue, hns, hpodname, hpodns, ← goString_append, goString_inj, goString_inj]
    constructor
    · rintro ⟨-, hm, hmns⟩
      exact ⟨hm.symm, hmns.symm⟩
    · rintro ⟨hm, hmns⟩
      exact ⟨rfl, hm.symm, hmns.symm⟩
  · rw [if_pos hne] at hbearer
    exact ⟨hI.podToken hne, hbearer⟩
  · rw [if_neg (not_not_intro hempty)] at hbearer
    exact ⟨pid, hpid, by rw [hbearer]; exact hread⟩

/-! ## A pod with the AI gateway -/

/-- The pod, and the copy of it that the watcher patches the gateway into. -/
def policyPod : Pod := annotatedPod "a" "10.0.0.1" aiGateway

def policyCopied : Pod :=
  { policyPod with
    annotations := policyPod.annotations.map fun m => m.insert enabled "true"
    ephemeralContainers := [gatewayContainer ⟨"image", false, "10.0.0.0/16"⟩ policyPod "app"]
    shareProcessNamespace := true }

/-- The environment of its gateway, with every file of the account at hand. -/
def policyEnv (cluster : Cluster) : ClientEnv :=
  { getenv := (gatewayContainer ⟨"image", false, "10.0.0.0/16"⟩ policyPod "app").processEnv
      (fun _ => []) cluster policyCopied (goString "10.96.0.1") (goString "443")
    readFile := fun _ => .ok (goString "own")
    newPool := fun _ => true
    newForConfig := fun _ => none }

/-- `policy_watched_as_own` for a gateway that is started after an injection; it
    does ask, with the token that was issued. -/
theorem policy_watched_as_own_ai :
    let h : Handler := ⟨"image", false, "10.0.0.0/16"⟩
    let start : State := .start (.certificate [] [] 0 0) (.rsaPrivateKey 0) ⟨∅, [], ∅⟩
    let s := Trace.run (State.live h) start [.event (.update policyPod (allSucceed policyPod))]
    s.AsksForOwn
        (Issued h start [.event (.update policyPod (allSucceed policyPod))]
          policyCopied.namespace_) policyCopied ∧
      (startPolicyWatch { Gateway.sidecarConfig Gateway.podRange with ai := true } [1]
          (policyEnv s.cluster)).map
        (fun answer => answer.toOption.map fun request => request.config.bearerToken) =
        some (some (goString "token")) := by
  intro h start s
  constructor
  · exact policy_watched_as_own ⟨"image", false, "10.0.0.0/16"⟩ (.certificate [] [] 0 0)
      (.rsaPrivateKey 0) ⟨∅, [], ∅⟩ [.event (.update policyPod (allSucceed policyPod))] []
      { policyPod with annotations := policyPod.annotations.map fun m => m.insert enabled "true" }
      policyCopied (fun _ hsecret => by cases hsecret) (List.mem_cons_of_mem _ List.mem_cons_self)
  · decide +kernel

/-! ## Who may see a ConfigMap -/

/-- Nothing binds the gateway's role. -/
def Cluster.Unbound (cl : Cluster) : Prop :=
  ∀ name binding, cl.clusterRoleBindings.lookup name = some binding →
    binding.roleRef ≠ "system:kube-gateway-role"

/-- What happens to the bindings: nothing, or the name is taken for a namespace. -/
inductive BindingStep (cl cl' : Cluster) : Prop where
  | same (heq : cl'.clusterRoleBindings = cl.clusterRoleBindings)
  | bound (namespace_ : String)
      (hfree : cl.clusterRoleBindings.lookup "system:kube-gateway-binding" = none)
      (heq : cl'.clusterRoleBindings =
        cl.clusterRoleBindings.insert "system:kube-gateway-binding" (bindingOf namespace_))

theorem bindingStep_checkSecretExists (out : CheckOutcome) (cl : Cluster) (namespace_ : String) :
    BindingStep cl (checkSecretExists out cl namespace_).2 := by
  unfold checkSecretExists
  dsimp only
  split
  · exact .same rfl
  · -- the last call is about a secret, and the first about an account
    cases htaken : out.bindingFails ||
        (cl.clusterRoleBindings.lookup "system:kube-gateway-binding").isSome with
    | true =>
      refine .same ?_
      simp only [clusterRoleBindings_createSecret, clusterRoleBindings_createClusterRoleBinding,
        clusterRoleBindings_createServiceAccount, htaken, if_true]
    | false =>
      refine .bound namespace_ ?_ ?_
      · rw [Bool.or_eq_false_iff] at htaken
        exact Option.not_isSome_iff_eq_none.mp (by rw [htaken.2]; exact Bool.false_ne_true)
      · simp only [clusterRoleBindings_createSecret, clusterRoleBindings_createClusterRoleBinding,
          clusterRoleBindings_createServiceAccount, htaken, Bool.false_eq_true, if_false, bindingOf]

theorem bindingStep_live (h : Handler) (s : State) (l : Life) :
    BindingStep s.cluster (s.live h l).cluster := by
  cases l with
  | restart cacert cakey => exact .same rfl
  | event e =>
    unfold State.live State.step
    dsimp only
    split
    · exact .same rfl
    · cases e with
      | delete pod fails =>
        refine .same ?_
        show (s.cluster.deleteSecret fails _ _).clusterRoleBindings = _
        unfold Cluster.deleteSecret
        split <;> rfl
      | update pod out =>
        dsimp only
        cases hwants : pod.wantsGateway with
        | false =>
          rw [onUpdate_of_not_wants hwants]
          exact .same rfl
        | true =>
          obtain ⟨later, crashed, hstate⟩ := @state_onUpdate h s pod out hwants
          rw [hstate]
          have hcheck := bindingStep_checkSecretExists out.check s.cluster pod.namespace_
          have hload : ∀ s' : State, BindingStep s.cluster s'.cluster →
              BindingStep s.cluster (s'.loadSecret out.loadFails pod).cluster := by
            intro s' hs'
            have hsame : (s'.loadSecret out.loadFails pod).cluster.clusterRoleBindings =
                s'.cluster.clusterRoleBindings := clusterRoleBindings_createSecret _ _ _ _ _
            cases hs' with
            | same heq => exact .same (hsame.trans heq)
            | bound namespace_ hfree heq => exact .bound namespace_ hfree (hsame.trans heq)
          show BindingStep s.cluster (withProxyContainer h s pod out).1.cluster
          obtain heq | heq | heq | ⟨minted, hmint, heq⟩ := state_withProxyContainer h s pod out
          · rw [heq]
            exact .same rfl
          · rw [heq]
            exact hcheck
          · rw [heq]
            exact hload _ hcheck
          · rw [heq]
            obtain ⟨certs, -, rfl⟩ := Option.map_eq_some_iff.mp hmint
            exact hload _ hcheck

/-- Once the name is taken, it stays. -/
theorem BoundTo.step {first : String} {cl cl' : Cluster} (hbound : BoundTo first cl)
    (hstep : BindingStep cl cl') : BoundTo first cl' := by
  cases hstep with
  | same heq => exact ⟨by rw [heq]; exact hbound.taken, by rw [heq]; exact hbound.only⟩
  | bound namespace_ hfree heq =>
    rw [hbound.taken] at hfree
    cases hfree

/-- Until then nothing binds the role. -/
theorem Cluster.Unbound.step {cl cl' : Cluster} (hfree : cl.Unbound)
    (hstep : BindingStep cl cl') : cl'.Unbound ∨ ∃ namespace_, BoundTo namespace_ cl' := by
  cases hstep with
  | same heq =>
    left
    unfold Cluster.Unbound
    rw [heq]
    exact hfree
  | bound namespace_ _ heq =>
    refine Or.inr ⟨namespace_, ?_, ?_⟩
    · rw [heq, AList.lookup_insert]
    · intro name binding hlookup hrole
      rw [heq] at hlookup
      by_cases hname : name = "system:kube-gateway-binding"
      · rw [hname, AList.lookup_insert] at hlookup
        exact (Option.some.inj hlookup).symm
      · rw [AList.lookup_insert_ne hname] at hlookup
        exact absurd hrole (hfree name binding hlookup)

theorem unbound_or_boundTo_run (h : Handler) (cacert cakey : Pem) (cluster : Cluster)
    (ls : List Life) (hunbound : cluster.Unbound) :
    let s := Trace.run (State.live h) (.start cacert cakey cluster) ls
    s.cluster.Unbound ∨ ∃ bound, BoundTo bound s.cluster := by
  refine Trace.run_invariant
    (I := fun s : State => s.cluster.Unbound ∨ ∃ bound, BoundTo bound s.cluster) ?_
    (Or.inl hunbound)
  intro s l hs
  obtain hfree | ⟨bound, hbound⟩ := hs
  · exact hfree.step (bindingStep_live h s l)
  · exact Or.inr ⟨bound, hbound.step (bindingStep_live h s l)⟩

/-- In every run of the watcher from a cluster in which nothing binds the gateway's
    role, whatever fails and however often it is started again: from the moment on at
    which the account of one namespace may see ConfigMaps, it always may, and the
    account of no other namespace ever does. -/
theorem authorised_for_good (h : Handler) (cacert cakey : Pem) (cluster : Cluster)
    (ls later : List Life) (hunbound : cluster.Unbound) (first : String)
    (hfirst : (Trace.run (State.live h) (.start cacert cakey cluster) ls).cluster.Authorised first)
    (namespace_ : String) :
    (Trace.run (State.live h) (.start cacert cakey cluster)
      (ls ++ later)).cluster.Authorised namespace_ ↔ namespace_ = first := by
  have hbefore := unbound_or_boundTo_run h cacert cakey cluster ls hunbound
  rw [Trace.run_append]
  generalize Trace.run (State.live h) (.start cacert cakey cluster) ls = s at hfirst hbefore
  obtain hfree | ⟨bound, hbound⟩ := hbefore
  · obtain ⟨name, binding, hlookup, hrole, -⟩ := hfirst
    exact absurd hrole (hfree name binding hlookup)
  · have hlater : BoundTo bound (Trace.run (State.live h) s later).cluster :=
      Trace.run_invariant (I := fun s : State => BoundTo bound s.cluster)
        (fun s l hs => hs.step (bindingStep_live h s l)) hbound
    rw [authorised_iff hlater, (authorised_iff hbound first).mp hfirst]

/-- `authorised_for_good` for a pod of another namespace, behind one of the first. -/
theorem authorised_for_good_other :
    let other : Pod := { policyPod with namespace_ := "other" }
    (Trace.run (State.live ⟨"image", false, "10.0.0.0/16"⟩)
      (.start (.certificate [] [] 0 0) (.rsaPrivateKey 0) ⟨∅, [], ∅⟩)
      ([.event (.update policyPod (allSucceed policyPod))] ++
        [.event (.update other (allSucceed other))])).cluster.Authorised "other" ↔
      "other" = "default" :=
  authorised_for_good ⟨"image", false, "10.0.0.0/16"⟩ (.certificate [] [] 0 0) (.rsaPrivateKey 0)
    ⟨∅, [], ∅⟩ _ _ (fun _ _ hlookup => by cases hlookup) "default"
    ⟨"system:kube-gateway-binding", bindingOf "default", rfl, rfl, List.mem_singleton_self _⟩
    "other"

end KubeGateway.Watcher

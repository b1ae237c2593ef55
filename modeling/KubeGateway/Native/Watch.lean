import KubeGateway.Native.Certs

/-!
# The pod watcher

`watcher/watch.go`: the informer's handlers.  `onUpdate` injects the gateway
into a pod that has an address and one of the gateway annotations and is not
marked as enabled yet; `onDelete` deletes the pod's secret.

The handlers run one at a time in one process, so a panic ends the run.  The
`log` lists what a handler did that others can see, newest first.
-/

namespace KubeGateway.Watcher

/-! ## Annotations -/

def debug : String := "kube-gateway.io/debug"
def podcidr : String := "kube-gateway.io/podcidr"
def endpoint : String := "kube-gateway.io/endpoint"
def encryptGateway : String := "kube-gateway.io/encrypt"
def enableKTLS : String := "kube-gateway.io/ktls"
def aiGateway : String := "kube-gateway.io/ai"
def aiModel : String := "kube-gateway.io/ai-model"
def netflush : String := "kube-gateway.io/netflush"
def enabled : String := "kube-gateway.io/enabled"

/-- `v1.EnvVar`: a value, or a field of the pod. -/
inductive EnvVar where
  | value (name value : String)
  | fieldRef (name fieldPath : String)
  deriving DecidableEq, Repr

/-- The ephemeral container the watcher adds. -/
structure EphemeralContainer where
  targetContainerName : String
  name : String
  image : String
  privileged : Bool
  pullAlways : Bool
  env : List EnvVar
  envFrom : List String
  deriving DecidableEq, Repr

/-- The parts of a `v1.Pod` the watcher reads and writes.  A pod without
    annotations has a nil map: reading it finds nothing, writing it panics. -/
structure Pod where
  name : String
  namespace_ : String
  podIP : String
  annotations : Option (AList (fun _ : String => String))
  containers : List String
  ephemeralContainers : List EphemeralContainer
  shareProcessNamespace : Bool

/-- `pod.Annotations[key]`, where a missing key reads as the empty string. -/
def Pod.annotationValue (pod : Pod) (key : String) : String :=
  ((pod.annotations.bind (fun m => m.lookup key))).getD ""

/-- `pod.Annotations[key] = value`; `none` is the panic of a nil map. -/
def Pod.annotate (pod : Pod) (key value : String) : Option Pod :=
  pod.annotations.map (fun m => { pod with annotations := some (m.insert key value) })

/-- `annotationLookup` -/
def annotationLookup (keys : List String)
    (annotations : Option (AList (fun _ : String => String))) : Bool :=
  keys.any (fun key => (annotations.bind (fun m => m.lookup key)).isSome)

/-! ## The handlers -/

/-- Which pod a certificate or a secret is for. -/
structure PodId where
  namespace_ : String
  name : String
  ip : String
  deriving DecidableEq, Repr

def Pod.id (pod : Pod) : PodId := ⟨pod.namespace_, pod.name, pod.podIP⟩

/-- What a handler did: minted a certificate for a pod, handed a pod's secret to
    the API server, asked for a patch from one pod to another, or sent a pod as
    an update. -/
inductive Effect where
  | mint (pod : PodId) (key : KeyId)
  | load (pod : PodId) (data : SecretData) (created : Bool)
  | patch (old new : Pod)
  | update (pod : Pod)

/-- The fields of `informerHandler` that no handler changes. -/
structure Handler where
  image : String
  imagePull : Bool
  podCIDR : String

/-- The watcher process and the API objects: the shared certificates, the number
    of keys generated so far, and whether the process has panicked. -/
structure State where
  certs : Certs
  cluster : Cluster
  generated : Nat
  crashed : Bool
  log : List Effect

/-- How the API calls of one `OnUpdate` turn out.  `patched` is the pod the API
    server returns for the patch, `none` if the patch fails. -/
structure UpdateOutcome where
  check : CheckOutcome
  loadFails : Bool
  patched : Option Pod
  updateFails : Bool

/-- `i.c.createCertificate(pod.Name, pod.Status.PodIP)` -/
def State.createCertificate (s : State) (pod : Pod) : Option State :=
  (s.certs.createCertificate s.generated pod.name pod.podIP).map fun certs =>
    { s with
      certs := certs
      generated := s.generated + 1
      log := .mint pod.id s.generated :: s.log }

/-- `loadSecret`: an error is only logged. -/
def State.loadSecret (s : State) (fails : Bool) (pod : Pod) : State :=
  let (created, cluster) :=
    s.cluster.createSecret fails pod.namespace_ (podSecretName pod.name) s.certs.secretMap
  { s with cluster := cluster, log := .load pod.id s.certs.secretMap created :: s.log }

/-- The environment of the gateway container, in the order it is appended. -/
def gatewayEnv (h : Handler) (pod : Pod) : List EnvVar :=
  (if pod.annotationValue encryptGateway ≠ "" then
    .value "ENCRYPT" "TRUE" ::
      (if pod.annotationValue enableKTLS ≠ "" then [.value "KTLS" "TRUE"] else [])
    else []) ++
  (if pod.annotationValue endpoint ≠ "" then [.value "ENDPOINT" "TRUE"] else []) ++
  (if pod.annotationValue aiGateway ≠ "" then
    .value "AI" "TRUE" ::
      (if pod.annotationValue aiModel ≠ "" then
        [.value "MODEL" (pod.annotationValue aiModel)]
      else [])
    else []) ++
  [.value "PODCIDR"
    (if pod.annotationValue podcidr ≠ "" then pod.annotationValue podcidr else h.podCIDR)] ++
  (if pod.annotationValue debug ≠ "" then [.value "DEBUG" "TRUE"] else []) ++
  (if pod.annotationValue netflush ≠ "" then [.value "NETFLUSH" "TRUE"] else []) ++
  [.fieldRef "POD_NAME" "metadata.name", .fieldRef "POD_NAMESPACE" "metadata.namespace"]

/-- The gateway container for a pod whose first container is `target`. -/
def gatewayContainer (h : Handler) (pod : Pod) (target : String) : EphemeralContainer :=
  { targetContainerName := target
    name := "kube-gateway"
    image := h.image
    privileged := true
    pullAlways := h.imagePull
    env := gatewayEnv h pod
    envFrom := [podSecretName pod.name] }

/-- `withProxyContainer`: the pod as it marks it, and the copy with the gateway
    container.  `none` is a panic. -/
def withProxyContainer (h : Handler) (s : State) (pod : Pod) (out : UpdateOutcome) :
    State × Option (Pod × Pod) :=
  match pod.containers with
  | [] => (s, none) -- pod.Spec.Containers[0]
  | target :: _ =>
    let (token, cluster) := checkSecretExists out.check s.cluster pod.namespace_
    -- the token of the namespace's account goes into the shared certificates, too
    let s := { s with cluster := cluster, certs := { s.certs with token := token } }
    -- Create certificates only for a pod that asks for encryption
    match (if pod.annotationValue encryptGateway ≠ "" then s.createCertificate pod else some s) with
    | none => (s, none)
    | some s =>
      -- Create the secret for the pod, whatever its annotations
      let s := s.loadSecret out.loadFails pod
      match pod.annotate enabled "true" with
      | none => (s, none)
      | some marked =>
        let copied := { marked with
          ephemeralContainers := marked.ephemeralContainers ++ [gatewayContainer h pod target]
          shareProcessNamespace := true }
        (s, some (marked, copied))

/-- The guard of `OnUpdate`: an address, a gateway annotation, not enabled yet. -/
def Pod.wantsGateway (pod : Pod) : Bool :=
  pod.podIP ≠ "" && pod.annotationValue enabled == "" &&
    annotationLookup [aiGateway, encryptGateway, endpoint] pod.annotations

/-- The empty object a failed API call returns. -/
def Pod.zero : Pod :=
  { name := "", namespace_ := "", podIP := "", annotations := none, containers := [],
    ephemeralContainers := [], shareProcessNamespace := false }

/-- `OnUpdate` -/
def State.onUpdate (h : Handler) (s : State) (newPod : Pod) (out : UpdateOutcome) : State :=
  if newPod.wantsGateway then
    match withProxyContainer h s newPod out with
    | (s, none) => { s with crashed := true }
    | (s, some (marked, copied)) =>
      -- Apply the patch; a failed one leaves the empty pod in `newPod`
      let s := { s with log := .patch marked copied :: s.log }
      let newPod := out.patched.getD Pod.zero
      match newPod.annotate enabled "true" with
      | none => { s with crashed := true }
      | some newPod => { s with log := .update newPod :: s.log }
  else s

/-- `OnDelete` -/
def State.onDelete (s : State) (pod : Pod) (fails : Bool) : State :=
  { s with cluster := s.cluster.deleteSecret fails pod.namespace_ (podSecretName pod.name) }

/-- One event of the informer, with the outcomes of the API calls it leads to. -/
inductive Event where
  | update (pod : Pod) (out : UpdateOutcome)
  | delete (pod : Pod) (fails : Bool)

/-- One event; a process that has panicked handles none. -/
def State.step (h : Handler) (s : State) (e : Event) : State :=
  if s.crashed then s
  else
    match e with
    | .update pod out => s.onUpdate h pod out
    | .delete pod fails => s.onDelete pod fails

/-- A watcher that has just started, with empty `certs.cert` and `certs.key`.
    The keys it generates are new, also next to the CA's. -/
def State.start (cacert cakey : Pem) (cluster : Cluster) : State :=
  { certs := { cacert := cacert, cakey := cakey, key := .empty, cert := .empty, token := "" }
    cluster := cluster
    generated :=
      match cakey with
      | .rsaPrivateKey ca => ca + 1
      | _ => 0
    crashed := false
    log := [] }

end KubeGateway.Watcher

import KubeGateway.Native.Connection
import KubeGateway.Native.Policy

/-!
# The client of the policy watcher

`gateway/pkg/watcher/client.go`, and how `Start` and `Watch` use it: which API
server the gateway asks for its policy, as whom, and for which ConfigMap.

The clientset that `NewForConfig` makes is kept as the configuration it was made
from.  A call that returns an error leaves the text of the error.
-/

namespace KubeGateway.Gateway

/-- `rest.Config`, as far as it is filled in. -/
structure RestConfig where
  host : GoString
  caFile : Option GoString
  bearerToken : GoString
  deriving DecidableEq

/-- What the client meets: the environment of the process, what `os.ReadFile`
    returns, whether `certutil.NewPool` reads the file, and the error of
    `kubernetes.NewForConfig`, if it returns one. -/
structure ClientEnv where
  getenv : String → Option GoString
  readFile : GoString → Except GoString GoString
  newPool : GoString → Bool
  newForConfig : RestConfig → Option GoString

/-- `os.Getenv`: a variable that is not set reads as the empty string. -/
def ClientEnv.get (env : ClientEnv) (name : String) : GoString := (env.getenv name).getD []

/-- `net.JoinHostPort` -/
def JoinHostPort (host port : GoString) : GoString :=
  -- an IPv6 address is put in brackets
  if host.contains 58 then goString "[" ++ host ++ goString "]:" ++ port
  else host ++ goString ":" ++ port

/-- `rest.ErrNotInCluster` -/
def errNotInCluster : GoString :=
  goString ("unable to load in-cluster configuration, KUBERNETES_SERVICE_HOST and " ++
    "KUBERNETES_SERVICE_PORT must be defined")

/-- The fields of the Go `Watch` that its client needs; `Watch` of `Policy` has
    those of the loop. -/
structure WatchClient where
  token : GoString
  tokenFile : GoString
  rootCAFile : GoString
  namespaceFile : GoString
  podname : GoString
  namespace_ : GoString
  deriving DecidableEq

/-- A file of the service account, as the process `pid` sees it. -/
def serviceAccountFile (pid : Int) (file : String) : GoString :=
  goString "/proc/" ++ decimal pid ++
    goString "/root/var/run/secrets/kubernetes.io/serviceaccount/" ++ goString file

/-- `NewWatcher` -/
def NewWatcher (pid : Int) (token : GoString) (env : ClientEnv) : WatchClient :=
  { token := token
    namespaceFile := serviceAccountFile pid "namespace"
    tokenFile := serviceAccountFile pid "token"
    rootCAFile := serviceAccountFile pid "ca.crt"
    podname := env.get "POD_NAME"
    namespace_ := env.get "POD_NAMESPACE" }

/-- `InClusterConfig` -/
def WatchClient.InClusterConfig (w : WatchClient) (env : ClientEnv) :
    Except GoString RestConfig :=
  let host := env.get "KUBERNETES_SERVICE_HOST"
  let port := env.get "KUBERNETES_SERVICE_PORT"
  if host.length = 0 ∨ port.length = 0 then .error errNotInCluster
  else
    match env.readFile w.tokenFile with
    | .error err => .error err
    | .ok token =>
      .ok
        { host := goString "https://" ++ JoinHostPort host port
          -- a root CA that cannot be loaded is only logged
          caFile := if env.newPool w.rootCAFile then some w.rootCAFile else none
          bearerToken := token }

/-- `client` -/
def WatchClient.client (w : WatchClient) (env : ClientEnv) : Except GoString RestConfig :=
  match w.InClusterConfig env with
  | .error err => .error (goString "unable to load in-cluster config: " ++ err)
  | .ok config =>
    -- Override the token
    let config := if w.token ≠ [] then { config with bearerToken := w.token } else config
    match env.newForConfig config with
    | some err => .error (goString "creating the kubernetes client set - " ++ err)
    | none => .ok config

/-- A watch of the ConfigMaps of a namespace, of those with one value of a field. -/
structure WatchRequest where
  config : RestConfig
  namespace_ : GoString
  fieldName : String
  fieldValue : GoString
  deriving DecidableEq

/-- `Watch` up to its loop: the watch it asks for, again whenever it breaks. -/
def WatchClient.Watch (w : WatchClient) (env : ClientEnv) : Except GoString WatchRequest :=
  let configMapName := w.podname ++ goString "-kube-gateway"
  match w.client env with
  | .error err => .error err
  | .ok config =>
    .ok
      { config := config
        namespace_ := w.namespace_
        fieldName := "metadata.name"
        fieldValue := configMapName }

/-- The goroutine that `Start` starts for the AI gateway; `none` where there is
    none, or it has no process to look at. -/
def startPolicyWatch (c : Config) (pids : List (BitVec 32)) (env : ClientEnv) :
    Option (Except GoString WatchRequest) :=
  if c.ai then
    match pids with
    | [] => none
    | pid :: _ =>
      some ((NewWatcher pid.toNat (env.get "KUBE-GATEWAY-TOKEN") env).Watch env)
  else none

/-! ## What a watch is made of -/

theorem InClusterConfig_eq_ok {w : WatchClient} {env : ClientEnv} {config : RestConfig}
    (h : w.InClusterConfig env = .ok config) :
    env.get "KUBERNETES_SERVICE_HOST" ≠ [] ∧ env.get "KUBERNETES_SERVICE_PORT" ≠ [] ∧
      env.readFile w.tokenFile = .ok config.bearerToken := by
  unfold WatchClient.InClusterConfig at h
  dsimp only at h
  split at h
  · cases h
  · rename_i hset
    rw [List.length_eq_zero_iff, List.length_eq_zero_iff, not_or] at hset
    cases hread : env.readFile w.tokenFile with
    | error err =>
      rw [hread] at h
      cases h
    | ok token =>
      rw [hread] at h
      cases h
      exact ⟨hset.1, hset.2, rfl⟩

/-- The client shows the token it is given, or else the one in the file.  The file
    has to be there in either case. -/
theorem client_eq_ok {w : WatchClient} {env : ClientEnv} {config : RestConfig}
    (h : w.client env = .ok config) :
    ∃ token, env.readFile w.tokenFile = .ok token ∧
      config.bearerToken = if w.token ≠ [] then w.token else token := by
  unfold WatchClient.client at h
  cases hconfig : w.InClusterConfig env with
  | error err =>
    rw [hconfig] at h
    cases h
  | ok inCluster =>
    rw [hconfig] at h
    dsimp only at h
    obtain ⟨-, -, hread⟩ := InClusterConfig_eq_ok hconfig
    refine ⟨inCluster.bearerToken, hread, ?_⟩
    split at h
    · cases h
    · cases h
      split <;> rfl

/-- Every watch that is asked for. -/
theorem startPolicyWatch_eq_ok {c : Config} {pids : List (BitVec 32)} {env : ClientEnv}
    {request : WatchRequest} (h : startPolicyWatch c pids env = some (.ok request)) :
    c.ai = true ∧ request.namespace_ = env.get "POD_NAMESPACE" ∧
      request.fieldName = "metadata.name" ∧
      request.fieldValue = env.get "POD_NAME" ++ goString "-kube-gateway" ∧
      ∃ pid token, pids.head? = some pid ∧
        env.readFile (serviceAccountFile pid.toNat "token") = .ok token ∧
        request.config.bearerToken =
          if env.get "KUBE-GATEWAY-TOKEN" ≠ [] then env.get "KUBE-GATEWAY-TOKEN" else token := by
  unfold startPolicyWatch at h
  split at h
  · rename_i hai
    cases pids with
    | nil => cases h
    | cons pid rest =>
      have hwatch := Option.some.inj h
      unfold WatchClient.Watch at hwatch
      dsimp only at hwatch
      split at hwatch
      · cases hwatch
      · rename_i config hclient
        cases hwatch
        obtain ⟨token, hread, hbearer⟩ := client_eq_ok hclient
        exact ⟨hai, rfl, rfl, rfl, pid, token, rfl, hread, hbearer⟩
  · cases h

end KubeGateway.Gateway

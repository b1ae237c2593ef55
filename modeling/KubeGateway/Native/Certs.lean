import Mathlib.Data.List.AList

/-!
# Certificates and secrets of the watcher

`watcher/certs.go` and `checkSecretExists` of `watcher/main.go`: minting a
certificate for a pod, and the API objects the watcher creates.

The watcher has one `certs` value for all pods.  What `pem.EncodeToMemory`
writes is kept as the value it encodes; a generated RSA key is a number that is
never used twice.
-/

namespace KubeGateway.Watcher

/-- A generated RSA key pair. -/
abbrev KeyId := Nat

/-- The contents of a `[]byte` that holds PEM data, or nothing. -/
inductive Pem where
  | empty
  | certificate (dnsNames ipAddresses : List String) (publicKey issuer : KeyId)
  | rsaPrivateKey (key : KeyId)
  deriving DecidableEq, Repr

/-- `certs` of `main.go`; `folder` only matters to the command line modes. -/
structure Certs where
  cacert : Pem
  cakey : Pem
  key : Pem
  cert : Pem
  token : String
  deriving DecidableEq, Repr

/-- `tls.X509KeyPair(c.cacert, c.cakey)`: the CA's key, if the private key is
    the one of the certificate. -/
def Certs.caKeyPair (c : Certs) : Option KeyId :=
  match c.cacert, c.cakey with
  | .certificate _ _ publicKey _, .rsaPrivateKey key => if publicKey = key then some key else none
  | _, _ => none

/-- `isIA5String` of `crypto/x509`: a DNS name must be ASCII. -/
def isIA5String (s : String) : Bool := s.toList.all (fun r => r.val ≤ 127)

/-- `createCertificate`, with `priv` the key `rsa.GenerateKey` returns; `none`
    is a panic.  The address is kept as the text `net.ParseIP` is given. -/
def Certs.createCertificate (c : Certs) (priv : KeyId) (name ip : String) : Option Certs :=
  -- Load CA
  match c.caKeyPair with
  | none => none
  | some ca =>
    -- Sign the certificate
    if isIA5String name then
      some { c with
        cert := .certificate [name] [ip] priv ca
        key := .rsaPrivateKey priv }
    else none

/-! ## API objects -/

/-- The data of an opaque `v1.Secret` the watcher writes. -/
structure SecretData where
  smeshCa : Option Pem
  smeshCert : Option Pem
  smeshKey : Option Pem
  token : Option String
  deriving DecidableEq, Repr

/-- A `rbacv1.ClusterRoleBinding` of a cluster role to service accounts. -/
structure ClusterRoleBinding where
  roleRef : String
  subjects : List (String × String)
  deriving DecidableEq, Repr

/-- The API objects the watcher reads and creates.  Secrets and service accounts
    are named within a namespace; cluster role bindings are not. -/
structure Cluster where
  secrets : AList (fun _ : String × String => SecretData)
  serviceAccounts : List (String × String)
  clusterRoleBindings : AList (fun _ : String => ClusterRoleBinding)

/-- `Secrets(namespace).Create`: an existing name is an error. -/
def Cluster.createSecret (cl : Cluster) (fails : Bool) (namespace_ name : String)
    (data : SecretData) : Bool × Cluster :=
  if fails || (cl.secrets.lookup (namespace_, name)).isSome then (false, cl)
  else (true, { cl with secrets := cl.secrets.insert (namespace_, name) data })

/-- `ServiceAccounts(namespace).Create` -/
def Cluster.createServiceAccount (cl : Cluster) (fails : Bool) (namespace_ name : String) :
    Cluster :=
  if fails || cl.serviceAccounts.contains (namespace_, name) then cl
  else { cl with serviceAccounts := (namespace_, name) :: cl.serviceAccounts }

/-- `ClusterRoleBindings().Create` -/
def Cluster.createClusterRoleBinding (cl : Cluster) (fails : Bool) (name : String)
    (binding : ClusterRoleBinding) : Cluster :=
  if fails || (cl.clusterRoleBindings.lookup name).isSome then cl
  else { cl with clusterRoleBindings := cl.clusterRoleBindings.insert name binding }

/-- `Secrets(namespace).Delete` -/
def Cluster.deleteSecret (cl : Cluster) (fails : Bool) (namespace_ name : String) : Cluster :=
  if fails then cl else { cl with secrets := cl.secrets.erase (namespace_, name) }

/-- How the API calls of one `checkSecretExists` turn out: which fail on their
    own, and the token `CreateToken` returns unless it fails. -/
structure CheckOutcome where
  getFails : Bool
  accountFails : Bool
  bindingFails : Bool
  token : Option String
  secretFails : Bool

/-- Every call succeeds that does not create what is there. -/
def CheckOutcome.succeeds (token : String) : CheckOutcome :=
  { getFails := false, accountFails := false, bindingFails := false, token := some token,
    secretFails := false }

/-- `checkSecretExists`: the token it returns, empty where it has none.  Any
    error of the first read counts as absence; a failed call leaves an empty
    object behind, and the code goes on with it. -/
def checkSecretExists (out : CheckOutcome) (cl : Cluster) (namespace_ : String) :
    String × Cluster :=
  let found := if out.getFails then none else cl.secrets.lookup (namespace_, "kube-gateway")
  match found with
  | some s => (s.token.getD "", cl)
  | none =>
    let cl := cl.createServiceAccount out.accountFails namespace_ "kube-gateway"
    let cl := cl.createClusterRoleBinding out.bindingFails "system:kube-gateway-binding"
      { roleRef := "system:kube-gateway-role", subjects := [(namespace_, "kube-gateway")] }
    let token := out.token.getD ""
    let (created, cl) := cl.createSecret out.secretFails namespace_ "kube-gateway"
      { smeshCa := none, smeshCert := none, smeshKey := none, token := some token }
    (if created then token else "", cl)

/-- The secret `loadSecret` builds from the shared certificates. -/
def Certs.secretMap (c : Certs) : SecretData :=
  { smeshCa := some c.cacert, smeshCert := some c.cert, smeshKey := some c.key,
    token := some c.token }

/-- The name of a pod's own secret. -/
def podSecretName (name : String) : String := "kube-gateway-" ++ name

/-! ## What minting changes -/

theorem createCertificate_eq_some {c c' : Certs} {priv : KeyId} {name ip : String}
    (h : c.createCertificate priv name ip = some c') :
    ∃ ca, c.caKeyPair = some ca ∧ c'.cert = .certificate [name] [ip] priv ca ∧
      c'.key = .rsaPrivateKey priv ∧ c'.cacert = c.cacert ∧ c'.cakey = c.cakey ∧
      c'.token = c.token := by
  unfold Certs.createCertificate at h
  cases hca : c.caKeyPair with
  | none => simp only [hca] at h; exact nomatch h
  | some ca =>
    simp only [hca] at h
    split at h
    · simp only [Option.some.injEq] at h
      subst h
      exact ⟨ca, rfl, rfl, rfl, rfl, rfl, rfl⟩
    · exact nomatch h

/-! ## What the calls change -/

theorem createSecret_fst {cl : Cluster} {fails : Bool} {namespace_ name : String}
    {data : SecretData} :
    (cl.createSecret fails namespace_ name data).1 = true ↔
      fails = false ∧ cl.secrets.lookup (namespace_, name) = none := by
  unfold Cluster.createSecret
  cases fails <;> cases cl.secrets.lookup (namespace_, name) <;> simp

theorem lookup_createSecret_of_ne {cl : Cluster} {fails : Bool} {namespace_ name : String}
    {data : SecretData} {key : String × String} (hne : key ≠ (namespace_, name)) :
    (cl.createSecret fails namespace_ name data).2.secrets.lookup key = cl.secrets.lookup key := by
  unfold Cluster.createSecret
  split
  · rfl
  · exact AList.lookup_insert_ne hne

/-- A secret that is there after a creation was there before, or is the new one. -/
theorem lookup_createSecret_eq_some {cl : Cluster} {fails : Bool} {namespace_ name : String}
    {data found : SecretData} {key : String × String}
    (hfound : (cl.createSecret fails namespace_ name data).2.secrets.lookup key = some found) :
    cl.secrets.lookup key = some found ∨ (key = (namespace_, name) ∧ found = data) := by
  unfold Cluster.createSecret at hfound
  split at hfound
  · exact Or.inl hfound
  · by_cases heq : key = (namespace_, name)
    · rw [heq, AList.lookup_insert] at hfound
      exact Or.inr ⟨heq, (Option.some.inj hfound).symm⟩
    · rw [AList.lookup_insert_ne heq] at hfound
      exact Or.inl hfound

/-- A deletion leaves no secret that was not there. -/
theorem lookup_of_deleteSecret {cl : Cluster} {fails : Bool} {namespace_ name : String}
    {found : SecretData} {key : String × String}
    (hfound : (cl.deleteSecret fails namespace_ name).secrets.lookup key = some found) :
    cl.secrets.lookup key = some found := by
  unfold Cluster.deleteSecret at hfound
  split at hfound
  · exact hfound
  · by_cases heq : key = (namespace_, name)
    · rw [heq, AList.lookup_erase] at hfound
      cases hfound
    · rwa [AList.lookup_erase_ne heq] at hfound

/-- A secret that is created is there afterwards. -/
theorem lookup_createSecret_of_free {cl : Cluster} {namespace_ name : String}
    {data : SecretData} (hfree : cl.secrets.lookup (namespace_, name) = none) :
    (cl.createSecret false namespace_ name data).2.secrets.lookup (namespace_, name) =
      some data := by
  simp [Cluster.createSecret, hfree]

/-- A secret that is there already stays as it is. -/
theorem lookup_createSecret_of_some {cl : Cluster} {fails : Bool} {namespace_ name : String}
    {data found : SecretData} {key : String × String} (hkey : cl.secrets.lookup key = some found) :
    (cl.createSecret fails namespace_ name data).2.secrets.lookup key = some found := by
  by_cases heq : key = (namespace_, name)
  · subst heq
    simp [Cluster.createSecret, hkey]
  · rw [lookup_createSecret_of_ne heq, hkey]

@[simp] theorem secrets_createServiceAccount (cl : Cluster) (fails : Bool)
    (namespace_ name : String) :
    (cl.createServiceAccount fails namespace_ name).secrets = cl.secrets := by
  unfold Cluster.createServiceAccount
  split <;> rfl

@[simp] theorem secrets_createClusterRoleBinding (cl : Cluster) (fails : Bool) (name : String)
    (binding : ClusterRoleBinding) :
    (cl.createClusterRoleBinding fails name binding).secrets = cl.secrets := by
  unfold Cluster.createClusterRoleBinding
  split <;> rfl

@[simp] theorem clusterRoleBindings_createServiceAccount (cl : Cluster) (fails : Bool)
    (namespace_ name : String) :
    (cl.createServiceAccount fails namespace_ name).clusterRoleBindings =
      cl.clusterRoleBindings := by
  unfold Cluster.createServiceAccount
  split <;> rfl

@[simp] theorem clusterRoleBindings_createSecret (cl : Cluster) (fails : Bool)
    (namespace_ name : String) (data : SecretData) :
    (cl.createSecret fails namespace_ name data).2.clusterRoleBindings =
      cl.clusterRoleBindings := by
  unfold Cluster.createSecret
  split <;> rfl

theorem clusterRoleBindings_createClusterRoleBinding (cl : Cluster) (fails : Bool)
    (name : String) (binding : ClusterRoleBinding) :
    (cl.createClusterRoleBinding fails name binding).clusterRoleBindings =
      if fails || (cl.clusterRoleBindings.lookup name).isSome then cl.clusterRoleBindings
      else cl.clusterRoleBindings.insert name binding := by
  unfold Cluster.createClusterRoleBinding
  split <;> rfl

/-- `checkSecretExists` touches no secret but the namespace's own. -/
theorem lookup_checkSecretExists {out : CheckOutcome} {cl : Cluster} {namespace_ : String}
    {key : String × String} (hne : key.2 ≠ "kube-gateway") :
    (checkSecretExists out cl namespace_).2.secrets.lookup key = cl.secrets.lookup key := by
  unfold checkSecretExists
  dsimp only
  split
  · rfl
  · rw [lookup_createSecret_of_ne (fun heq => hne (congrArg Prod.snd heq)),
      secrets_createClusterRoleBinding, secrets_createServiceAccount]

/-- No pod's own secret has the name of the namespace's. -/
theorem podSecretName_ne (name : String) : podSecretName name ≠ "kube-gateway" := by
  intro heq
  have hlen := congrArg String.length heq
  rw [podSecretName, String.length_append] at hlen
  have hprefix : "kube-gateway-".length = 13 := by decide
  have hown : "kube-gateway".length = 12 := by decide
  omega

end KubeGateway.Watcher

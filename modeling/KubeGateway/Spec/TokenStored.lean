import KubeGateway.ForStd.Trace
import KubeGateway.Native.Certs

/-!
# The token of a namespace

`checkSecretExists` takes every error of its first read for an absent secret, and
goes on after every error of its creations.  So the first secret that is created
keeps whatever came back for the token, and a later call returns it exactly if its
read succeeds.
-/

namespace KubeGateway.Watcher

/-- The secret with the token of a namespace's account. -/
def Cluster.gatewaySecret (cl : Cluster) (namespace_ : String) : Option SecretData :=
  cl.secrets.lookup (namespace_, "kube-gateway")

/-- The token in it, empty where there is none. -/
def Cluster.token (cl : Cluster) (namespace_ : String) : String :=
  ((cl.gatewaySecret namespace_).bind SecretData.token).getD ""

/-- The cluster after a call. -/
def Cluster.checked (namespace_ : String) (cl : Cluster) (out : CheckOutcome) : Cluster :=
  (checkSecretExists out cl namespace_).2

/-- A call stores no secret with an empty token, and returns the token that is there
    after it. -/
structure TokenCall (namespace_ : String) (cl : Cluster) (out : CheckOutcome) : Prop where
  stored : (cl.checked namespace_ out).gatewaySecret namespace_ ≠ cl.gatewaySecret namespace_ →
    (cl.checked namespace_ out).token namespace_ ≠ ""
  returned : (cl.checked namespace_ out).token namespace_ ≠ "" →
    (checkSecretExists out cl namespace_).1 = (cl.checked namespace_ out).token namespace_

/-- A secret with a token is found by every call.  Without a secret, the first call
    that can store one is given a token, and every call after it finds that. -/
def TokensAtHand (namespace_ : String) (cl : Cluster) (outs : List CheckOutcome) : Prop :=
  match cl.gatewaySecret namespace_ with
  | some data => data.token.getD "" ≠ "" → ∀ out ∈ outs, out.getFails = false
  | none =>
    match outs.dropWhile CheckOutcome.secretFails with
    | [] => True
    | first :: later => first.token.getD "" ≠ "" ∧ ∀ out ∈ later, out.getFails = false

/-! ## One call -/

section

variable {namespace_ : String} {cl : Cluster} {out : CheckOutcome}

/-- The secret that a call tries to create. -/
def CheckOutcome.secretData (out : CheckOutcome) : SecretData :=
  { smeshCa := none, smeshCert := none, smeshKey := none, token := some (out.token.getD "") }

/-- Where the read finds nothing, or fails, the call ends with a creation. -/
theorem checkSecretExists_of_absent (out : CheckOutcome) (cl : Cluster) (namespace_ : String)
    (habsent : out.getFails = true ∨ cl.gatewaySecret namespace_ = none) :
    ∃ cl₁ : Cluster, cl₁.secrets = cl.secrets ∧
      checkSecretExists out cl namespace_ =
        (if (cl₁.createSecret out.secretFails namespace_ "kube-gateway" out.secretData).1 then
            out.token.getD ""
          else "",
          (cl₁.createSecret out.secretFails namespace_ "kube-gateway" out.secretData).2) := by
  have hfound : (if out.getFails = true then none
      else cl.secrets.lookup (namespace_, "kube-gateway")) = none := by
    rcases habsent with hfails | hnone
    · exact if_pos hfails
    · split
      · rfl
      · exact hnone
  refine ⟨(cl.createServiceAccount out.accountFails namespace_
    "kube-gateway").createClusterRoleBinding out.bindingFails "system:kube-gateway-binding"
      { roleRef := "system:kube-gateway-role", subjects := [(namespace_, "kube-gateway")] },
    by simp, ?_⟩
  unfold checkSecretExists
  rw [hfound]
  rfl

/-- A secret that is there stays, and its token is returned if the read succeeds. -/
theorem checked_of_some (out : CheckOutcome) {data : SecretData}
    (hdata : cl.gatewaySecret namespace_ = some data) :
    (cl.checked namespace_ out).gatewaySecret namespace_ = some data ∧
      (checkSecretExists out cl namespace_).1 =
        if out.getFails then "" else data.token.getD "" := by
  unfold Cluster.checked
  cases hget : out.getFails with
  | false =>
    have hfound : checkSecretExists out cl namespace_ = (data.token.getD "", cl) := by
      unfold checkSecretExists
      rw [hget]
      simp only [Bool.false_eq_true, if_false]
      rw [show cl.secrets.lookup (namespace_, "kube-gateway") = some data from hdata]
    rw [hfound]
    exact ⟨hdata, rfl⟩
  | true =>
    -- the name of the secret is taken
    obtain ⟨cl₁, hsecrets, hcheck⟩ := checkSecretExists_of_absent out cl namespace_
      (Or.inl hget)
    have hthere : cl₁.secrets.lookup (namespace_, "kube-gateway") = some data := by
      rw [hsecrets]
      exact hdata
    have hrefused : (cl₁.createSecret out.secretFails namespace_ "kube-gateway" out.secretData).1 =
        false := by
      rw [Bool.eq_false_iff, Ne, createSecret_fst, hthere]
      exact fun h => nomatch h.2
    rw [hcheck, hrefused]
    exact ⟨lookup_createSecret_of_some hthere, rfl⟩

/-- Without a secret, the call stores one with the token it is given, unless that fails. -/
theorem checked_of_none (out : CheckOutcome) (hnone : cl.gatewaySecret namespace_ = none) :
    (cl.checked namespace_ out).gatewaySecret namespace_ =
        (if out.secretFails then none else some out.secretData) ∧
      (checkSecretExists out cl namespace_).1 =
        if out.secretFails then "" else out.token.getD "" := by
  obtain ⟨cl₁, hsecrets, hcheck⟩ := checkSecretExists_of_absent out cl namespace_
    (Or.inr hnone)
  have hfree : cl₁.secrets.lookup (namespace_, "kube-gateway") = none := by
    rw [hsecrets]
    exact hnone
  unfold Cluster.checked
  rw [hcheck]
  cases out.secretFails with
  | true => exact ⟨hfree, rfl⟩
  | false =>
    have hcreated : (cl₁.createSecret false namespace_ "kube-gateway" out.secretData).1 = true :=
      createSecret_fst.mpr ⟨rfl, hfree⟩
    rw [hcreated]
    exact ⟨lookup_createSecret_of_free hfree, rfl⟩

/-- A call where the secret is there. -/
theorem tokenCall_of_some_iff {data : SecretData}
    (hdata : cl.gatewaySecret namespace_ = some data) :
    TokenCall namespace_ cl out ↔ (data.token.getD "" ≠ "" → out.getFails = false) := by
  obtain ⟨hafter, hreturned⟩ := checked_of_some out hdata
  have htoken : (cl.checked namespace_ out).token namespace_ = data.token.getD "" := by
    unfold Cluster.token
    rw [hafter]
    rfl
  constructor
  · intro hcall hne
    have hsame := hcall.returned (htoken ▸ hne)
    rw [hreturned, htoken] at hsame
    cases hget : out.getFails with
    | false => rfl
    | true =>
      rw [hget] at hsame
      exact absurd hsame.symm hne
  · intro hread
    refine ⟨fun hchanged => absurd (hafter.trans hdata.symm) hchanged, fun hne => ?_⟩
    rw [htoken] at hne ⊢
    rw [hreturned, hread hne]
    rfl

/-- A call where there is no secret. -/
theorem tokenCall_of_none_iff (hnone : cl.gatewaySecret namespace_ = none) :
    TokenCall namespace_ cl out ↔ (out.secretFails = false → out.token.getD "" ≠ "") := by
  obtain ⟨hafter, hreturned⟩ := checked_of_none out hnone
  have htoken : (cl.checked namespace_ out).token namespace_ =
      if out.secretFails then "" else out.token.getD "" := by
    unfold Cluster.token
    rw [hafter]
    cases out.secretFails <;> rfl
  rw [← htoken] at hreturned
  constructor
  · intro hcall hstores
    have hchanged : (cl.checked namespace_ out).gatewaySecret namespace_ ≠
        cl.gatewaySecret namespace_ := by
      rw [hafter, hnone, hstores]
      exact Option.some_ne_none _
    have hne := hcall.stored hchanged
    rw [htoken, hstores] at hne
    exact hne
  · intro hgiven
    refine ⟨fun hchanged => ?_, fun _ => hreturned⟩
    cases hstores : out.secretFails with
    | true =>
      rw [hafter, hnone, hstores] at hchanged
      exact absurd rfl hchanged
    | false =>
      rw [htoken, hstores]
      exact hgiven hstores

end

/-! ## A sequence of calls -/

/-- Once the secret is there, every read has to succeed if there is a token in it. -/
theorem along_tokenCall_of_some {namespace_ : String} {cl : Cluster} {data : SecretData}
    (hdata : cl.gatewaySecret namespace_ = some data) (outs : List CheckOutcome) :
    Trace.Along (Cluster.checked namespace_) (TokenCall namespace_) cl outs ↔
      (data.token.getD "" ≠ "" → ∀ out ∈ outs, out.getFails = false) := by
  induction outs generalizing cl with
  | nil => simp
  | cons out outs ih =>
    rw [Trace.along_cons, tokenCall_of_some_iff hdata, ih (checked_of_some out hdata).1,
      List.forall_mem_cons]
    exact ⟨fun h hne => ⟨h.1 hne, h.2 hne⟩, fun h => ⟨fun hne => (h hne).1, fun hne => (h hne).2⟩⟩

/-- In every sequence of calls for a namespace, no call stores an empty token and each
    returns the token that is there, exactly if the tokens are at hand. -/
theorem tokens_stored_iff (namespace_ : String) (cl : Cluster) (outs : List CheckOutcome) :
    Trace.Along (Cluster.checked namespace_) (TokenCall namespace_) cl outs ↔
      TokensAtHand namespace_ cl outs := by
  unfold TokensAtHand
  cases hsecret : cl.gatewaySecret namespace_ with
  | some data => exact along_tokenCall_of_some hsecret outs
  | none =>
    induction outs generalizing cl with
    | nil => exact Iff.rfl
    | cons out outs ih =>
      obtain ⟨hafter, -⟩ := checked_of_none out hsecret
      rw [Trace.along_cons, tokenCall_of_none_iff hsecret, List.dropWhile_cons]
      cases hstores : out.secretFails with
      | true =>
        -- nothing is stored, and the next call is as this one
        rw [hstores] at hafter
        simp [ih _ hafter]
      | false =>
        rw [hstores] at hafter
        rw [along_tokenCall_of_some hafter]
        simp only [CheckOutcome.secretData, Option.getD_some, forall_const,
          if_neg Bool.false_ne_true]
        exact ⟨fun h => ⟨h.1, h.2 h.1⟩, fun h => ⟨h.1, fun _ => h.2⟩⟩

/-! ## A token that is not created -/

/-- The token cannot be created, and an empty one is stored for good. -/
theorem not_tokens_stored :
    ¬ ∀ (namespace_ : String) (cl : Cluster) (outs : List CheckOutcome),
      Trace.Along (Cluster.checked namespace_) (TokenCall namespace_) cl outs := by
  intro h
  have hcall := h "default" ⟨∅, [], ∅⟩ [{ CheckOutcome.succeeds "" with token := none }]
  rw [Trace.along_cons, tokenCall_of_none_iff rfl] at hcall
  exact hcall.1 rfl rfl

end KubeGateway.Watcher

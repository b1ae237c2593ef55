import KubeGateway.ForStd.Trace
import KubeGateway.Native.Certs

/-!
# The accounts of the gateways

`checkSecretExists` runs for the namespace of every pod that is injected.  The
service account it creates belongs to the namespace, but the cluster role binding
has one name in the whole cluster: the first namespace creates it, and the
creations for all others collide with it.
-/

namespace KubeGateway.Watcher

/-- The cluster after `checkSecretExists` for a namespace, with the token that is
    created if it comes to that. -/
def Cluster.afterCheck (cl : Cluster) (call : String × String) : Cluster :=
  (checkSecretExists (.succeeds call.2) cl call.1).2

/-! ## The property -/

/-- A binding gives the gateway's role to the gateway's account of a namespace. -/
def Cluster.Authorised (cl : Cluster) (namespace_ : String) : Prop :=
  ∃ name binding, cl.clusterRoleBindings.lookup name = some binding ∧
    binding.roleRef = "system:kube-gateway-role" ∧ (namespace_, "kube-gateway") ∈ binding.subjects

/-- From its call on, every namespace's account is authorised. -/
def AllAuthorised (cl : Cluster) (calls : List (String × String)) : Prop :=
  ∀ done later, calls = done ++ later →
    ∀ call ∈ done, (Trace.run Cluster.afterCheck cl done).Authorised call.1

/-- None of the objects is there that `checkSecretExists` looks for or creates, and
    nothing else binds the gateway's role. -/
structure Cluster.Fresh (cl : Cluster) : Prop where
  secrets : ∀ namespace_, cl.secrets.lookup (namespace_, "kube-gateway") = none
  accounts : ∀ namespace_, (namespace_, "kube-gateway") ∉ cl.serviceAccounts
  bindings : cl.clusterRoleBindings.lookup "system:kube-gateway-binding" = none
  roles : ∀ name binding, cl.clusterRoleBindings.lookup name = some binding →
    binding.roleRef ≠ "system:kube-gateway-role"

/-! ## The invariant -/

/-- The binding that a call for the namespace would create. -/
def bindingOf (namespace_ : String) : ClusterRoleBinding :=
  { roleRef := "system:kube-gateway-role", subjects := [(namespace_, "kube-gateway")] }

/-- The binding of the first namespace has the name, and the role. -/
structure BoundTo (namespace_ : String) (cl : Cluster) : Prop where
  taken : cl.clusterRoleBindings.lookup "system:kube-gateway-binding" = some (bindingOf namespace_)
  only : ∀ name binding, cl.clusterRoleBindings.lookup name = some binding →
    binding.roleRef = "system:kube-gateway-role" → binding = bindingOf namespace_

theorem authorised_iff {cl : Cluster} {first : String} (hbound : BoundTo first cl)
    (namespace_ : String) : cl.Authorised namespace_ ↔ namespace_ = first := by
  constructor
  · rintro ⟨name, binding, hlookup, hrole, hmem⟩
    rw [hbound.only name binding hlookup hrole, bindingOf, List.mem_singleton] at hmem
    exact congrArg Prod.fst hmem
  · rintro rfl
    exact ⟨_, _, hbound.taken, rfl, List.mem_singleton_self _⟩

/-- A call creates the binding for its namespace if the namespace has no secret
    and the name is not taken; otherwise it leaves the bindings. -/
theorem clusterRoleBindings_afterCheck (cl : Cluster) (call : String × String) :
    (cl.afterCheck call).clusterRoleBindings =
      if (cl.secrets.lookup (call.1, "kube-gateway")).isSome ||
          (cl.clusterRoleBindings.lookup "system:kube-gateway-binding").isSome then
        cl.clusterRoleBindings
      else cl.clusterRoleBindings.insert "system:kube-gateway-binding" (bindingOf call.1) := by
  unfold Cluster.afterCheck checkSecretExists
  cases hfound : cl.secrets.lookup (call.1, "kube-gateway") with
  | some data => simp [CheckOutcome.succeeds]
  | none =>
    simp only [CheckOutcome.succeeds, Bool.false_eq_true, if_false, Option.isSome_none,
      Bool.false_or,
      clusterRoleBindings_createSecret, clusterRoleBindings_createClusterRoleBinding,
      clusterRoleBindings_createServiceAccount, bindingOf]

/-- Once the name is taken, no call changes the bindings. -/
theorem boundTo_afterCheck {first : String} (cl : Cluster) (call : String × String)
    (hbound : BoundTo first cl) : BoundTo first (cl.afterCheck call) := by
  have hsame : (cl.afterCheck call).clusterRoleBindings = cl.clusterRoleBindings := by
    rw [clusterRoleBindings_afterCheck, hbound.taken, Option.isSome_some, Bool.or_true,
      if_pos rfl]
  exact ⟨by rw [hsame]; exact hbound.taken, by rw [hsame]; exact hbound.only⟩

/-- The first call takes the name for its namespace. -/
theorem boundTo_first {cl : Cluster} (hfresh : cl.Fresh) (call : String × String) :
    BoundTo call.1 (cl.afterCheck call) := by
  have hnew : (cl.afterCheck call).clusterRoleBindings =
      cl.clusterRoleBindings.insert "system:kube-gateway-binding" (bindingOf call.1) := by
    rw [clusterRoleBindings_afterCheck, hfresh.secrets, hfresh.bindings]
    rfl
  constructor
  · rw [hnew, AList.lookup_insert]
  · intro name binding hlookup hrole
    rw [hnew] at hlookup
    by_cases hname : name = "system:kube-gateway-binding"
    · rw [hname, AList.lookup_insert] at hlookup
      exact (Option.some.inj hlookup).symm
    · rw [AList.lookup_insert_ne hname] at hlookup
      exact absurd hrole (hfresh.roles name binding hlookup)

/-- After any calls the binding is the one of the first. -/
theorem boundTo_run {cl : Cluster} (hfresh : cl.Fresh) (first : String × String)
    (calls : List (String × String)) :
    BoundTo first.1 (Trace.run Cluster.afterCheck cl (first :: calls)) := by
  rw [Trace.run_cons]
  exact Trace.run_invariant boundTo_afterCheck (boundTo_first hfresh first)

/-! ## Main results -/

/-- Starting from a fresh cluster, the accounts of all namespaces are authorised
    exactly when the calls are all for one namespace. -/
theorem all_authorised_iff (cl : Cluster) (hfresh : cl.Fresh) (calls : List (String × String)) :
    AllAuthorised cl calls ↔ ∀ a ∈ calls, ∀ b ∈ calls, a.1 = b.1 := by
  constructor
  · intro hall
    cases calls with
    | nil => exact fun a ha => absurd ha List.not_mem_nil
    | cons first rest =>
      have heq : ∀ call ∈ first :: rest, call.1 = first.1 := by
        intro call hmem
        rw [← authorised_iff (boundTo_run hfresh first rest)]
        exact hall _ [] (List.append_nil _).symm call hmem
      exact fun a ha b hb => (heq a ha).trans (heq b hb).symm
  · rintro heq done later rfl call hmem
    cases done with
    | nil => exact absurd hmem List.not_mem_nil
    | cons first rest =>
      rw [authorised_iff (boundTo_run hfresh first rest)]
      exact heq call (List.mem_append_left _ hmem) first
        (List.mem_append_left _ List.mem_cons_self)

theorem fresh_empty : Cluster.Fresh ⟨∅, [], ∅⟩ where
  secrets := fun _ => rfl
  accounts := fun _ => List.not_mem_nil
  bindings := rfl
  roles := fun _ _ hlookup => nomatch hlookup

/-- `all_authorised_iff` for two calls in one namespace. -/
theorem all_authorised_iff_default :
    AllAuthorised ⟨∅, [], ∅⟩ [("default", "t"), ("default", "u")] :=
  (all_authorised_iff _ fresh_empty _).mpr (by decide)

/-- Not every namespace's account is authorised: the second one's never is. -/
theorem not_all_authorised :
    ¬ ∀ (cl : Cluster), cl.Fresh → ∀ calls, AllAuthorised cl calls := by
  intro hclaim
  have hsecond := hclaim _ fresh_empty [("default", "t"), ("shop", "u")]
    [("default", "t"), ("shop", "u")] [] rfl ("shop", "u") (by decide)
  rw [authorised_iff (boundTo_run fresh_empty _ _)] at hsecond
  exact absurd hsecond (by decide)

end KubeGateway.Watcher

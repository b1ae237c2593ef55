import KubeGateway.Spec.PodsSettle

/-!
# No secret outlives its pod

A pod's secret is created while one event is handled and deleted while another is.
In between the pod can be deleted, created again and written any number of times, and
the events arrive late.  `secrets_owned` says that the order of the events is enough
all the same: a pod's secret that is there has its pod, or the event of the pod's
deletion is still on its way.
-/

namespace KubeGateway.Watcher

/-! ## The property -/

/-- The pod exists, or the event of its deletion is among the events. -/
def Expected (pods : String × String → Option Pod) (events : List PodEvent)
    (key : String × String) : Prop :=
  (pods key).isSome = true ∨ ∃ pod, .deleted pod ∈ events ∧ pod.key = key

/-- The pod's own secret is there. -/
def HasSecret (cluster : Cluster) (key : String × String) : Prop :=
  (cluster.secrets.lookup (key.1, podSecretName key.2)).isSome = true

/-- While the watcher runs, a pod's secret has its pod, or will be deleted. -/
def Api.SecretsOwned (a : Api) : Prop :=
  a.watcher.crashed = false → ∀ key, HasSecret a.watcher.cluster key →
    Expected a.pods a.pending key

/-- Nobody but the watcher creates secrets with such names. -/
def LeavesPodSecrets (a : Api) : Act → Prop
  | .others cluster => ∀ key, HasSecret cluster key → HasSecret a.watcher.cluster key
  | _ => True

/-! ## Secrets in one event -/

theorem podSecretName_injective {name other : String}
    (heq : podSecretName name = podSecretName other) : name = other :=
  (String.append_right_inj "kube-gateway-").mp heq

theorem hasSecret_createSecret {cluster : Cluster} {fails : Bool} {pod : Pod} {data : SecretData}
    {key : String × String}
    (hsecret : HasSecret (cluster.createSecret fails pod.namespace_ (podSecretName pod.name) data).2
      key) : HasSecret cluster key ∨ key = pod.key := by
  obtain ⟨found, hfound⟩ := Option.isSome_iff_exists.mp hsecret
  obtain hold | ⟨hkey, -⟩ := lookup_createSecret_eq_some hfound
  · exact Or.inl (Option.isSome_iff_exists.mpr ⟨found, hold⟩)
  · obtain ⟨hns, hname⟩ := Prod.mk.inj hkey
    exact Or.inr (Prod.ext hns (podSecretName_injective hname))

/-- A check of the namespace's secret is about no pod's own. -/
theorem hasSecret_checkSecretExists {out : CheckOutcome} {cluster : Cluster} {namespace_ : String}
    {key : String × String} :
    HasSecret (checkSecretExists out cluster namespace_).2 key ↔ HasSecret cluster key := by
  unfold HasSecret
  rw [lookup_checkSecretExists (podSecretName_ne key.2)]

/-- A handled event creates the secret of its own pod only. -/
theorem hasSecret_onUpdate {h : Handler} {s : State} {pod : Pod} {out : UpdateOutcome}
    {key : String × String} (hsecret : HasSecret (s.onUpdate h pod out).cluster key) :
    HasSecret s.cluster key ∨ key = pod.key := by
  cases hwants : pod.wantsGateway with
  | false =>
    rw [onUpdate_of_not_wants hwants] at hsecret
    exact Or.inl hsecret
  | true =>
    obtain ⟨later, crashed, hstate⟩ := @state_onUpdate h s pod out hwants
    rw [hstate] at hsecret
    change HasSecret (withProxyContainer h s pod out).1.cluster key at hsecret
    obtain heq | heq | heq | ⟨minted, hmint, heq⟩ := state_withProxyContainer h s pod out
    · rw [heq] at hsecret
      exact Or.inl hsecret
    · rw [heq] at hsecret
      exact Or.inl (hasSecret_checkSecretExists.mp hsecret)
    · rw [heq] at hsecret
      exact (hasSecret_createSecret hsecret).imp hasSecret_checkSecretExists.mp id
    · rw [heq] at hsecret
      -- a mint is about no secret
      obtain ⟨certs, -, rfl⟩ := Option.map_eq_some_iff.mp hmint
      exact (hasSecret_createSecret hsecret).imp hasSecret_checkSecretExists.mp id

/-- `OnDelete` deletes the secret of its own pod only. -/
theorem hasSecret_onDelete {s : State} {pod : Pod} {key : String × String}
    (hsecret : HasSecret (s.onDelete pod false).cluster key) :
    HasSecret s.cluster key ∧ key ≠ pod.key := by
  unfold HasSecret at hsecret ⊢
  change ((s.cluster.secrets.erase (pod.namespace_, podSecretName pod.name)).lookup _).isSome =
    true at hsecret
  by_cases heq : (key.1, podSecretName key.2) = (pod.namespace_, podSecretName pod.name)
  · rw [heq, AList.lookup_erase] at hsecret
    cases hsecret
  · rw [AList.lookup_erase_ne heq] at hsecret
    refine ⟨hsecret, fun hkey => heq ?_⟩
    rw [hkey]
    rfl

/-! ## The order of the events -/

/-- Behind the event of a pod that is gone comes the event of its deletion. -/
def Ordered (pods : String × String → Option Pod) : List PodEvent → Prop
  | [] => True
  | .updated pod :: es => Expected pods es pod.key ∧ Ordered pods es
  | .deleted _ :: es => Ordered pods es

theorem Expected.mono {pods pods' : String × String → Option Pod} {es es' : List PodEvent}
    {key : String × String} (hexp : Expected pods es key)
    (hpods : (pods key).isSome = true → Expected pods' es' key)
    (hes : ∀ e ∈ es, e ∈ es') : Expected pods' es' key := by
  obtain hsome | ⟨pod, hmem, hkey⟩ := hexp
  · exact hpods hsome
  · exact Or.inr ⟨pod, hes _ hmem, hkey⟩

/-- More pods, or more events at the end, do not disturb the order. -/
theorem Ordered.append {pods pods' : String × String → Option Pod} {es new : List PodEvent}
    (hes : Ordered pods es)
    (hpods : ∀ key, (pods key).isSome = true → Expected pods' new key)
    (hnew : Ordered pods' new) : Ordered pods' (es ++ new) := by
  induction es with
  | nil => exact hnew
  | cons e es ih =>
    cases e with
    | deleted pod => exact ih hes
    | updated pod =>
      refine ⟨hes.1.mono (fun hsome => ?_) (fun e he => List.mem_append_left _ he), ih hes.2⟩
      exact (hpods _ hsome).mono Or.inl (fun e he => List.mem_append_right _ he)

/-! ## The invariant -/

/-- While the watcher runs, secrets have their pods, and events are in order. -/
structure SecretInvariant (a : Api) : Prop where
  owned : a.SecretsOwned
  ordered : a.watcher.crashed = false → Ordered a.pods a.pending

private theorem SecretInvariant.store {a a' : Api} {pod : Pod} {new : List PodEvent}
    (hI : SecretInvariant a) (hwatcher : a'.watcher = a.watcher)
    (hpods : a'.pods = Function.update a.pods pod.key (some pod))
    (hpending : a'.pending = a.pending ++ new)
    (hnew : new = [] ∨ new = [.updated pod]) : SecretInvariant a' := by
  -- a pod that was there still is
  have hstill : ∀ key, (a.pods key).isSome = true → (a'.pods key).isSome = true := by
    intro key hsome
    rw [hpods]
    by_cases hkey : key = pod.key
    · subst hkey
      rw [Function.update_self]
      rfl
    · rwa [Function.update_of_ne hkey]
  constructor
  · intro hrun key hsecret
    rw [hwatcher] at hrun hsecret
    rw [hpending]
    exact (hI.owned hrun key hsecret).mono (fun hsome => Or.inl (hstill key hsome))
      (fun e he => List.mem_append_left _ he)
  · intro hrun
    rw [hwatcher] at hrun
    rw [hpending]
    refine (hI.ordered hrun).append (fun key hsome => Or.inl (hstill key hsome)) ?_
    obtain rfl | rfl := hnew
    · trivial
    · refine ⟨Or.inl ?_, trivial⟩
      rw [hpods, Function.update_self]
      rfl

private theorem secretInvariant_remove {a : Api} (hI : SecretInvariant a)
    (key : String × String) : SecretInvariant (a.remove key) := by
  cases hremoved : a.pods key with
  | none =>
    rw [remove_of_none hremoved]
    exact hI
  | some gone =>
    obtain ⟨hpods, hqueue, hwatcher⟩ := remove_of_some hremoved
    -- a pod that is not there any more has its deletion at the end of the queue
    have hexpected : ∀ other, (a.pods other).isSome = true →
        Expected (a.remove key).pods [.deleted gone] other := by
      intro other hsome
      by_cases hother : other = key
      · subst hother
        exact Or.inr ⟨gone, List.mem_cons_self, a.keyed _ _ hremoved⟩
      · left
        rwa [hpods, Function.update_of_ne hother]
    constructor
    · intro hrun other hsecret
      rw [hwatcher] at hrun hsecret
      rw [hqueue]
      refine (hI.owned hrun other hsecret).mono (fun hsome => ?_)
        (fun e he => List.mem_append_left _ he)
      exact (hexpected other hsome).mono Or.inl (fun e he => List.mem_append_right _ he)
    · intro hrun
      rw [hwatcher] at hrun
      rw [hqueue]
      exact (hI.ordered hrun).append hexpected trivial

/-- What the handler writes while it handles the event of a pod. -/
private theorem watcher_deliver_updated {h : Handler} {a : Api} {pod : Pod} {rest : List PodEvent}
    {containers : List EphemeralContainer} {token : String}
    (hpending : a.pending = .updated pod :: rest) :
    ∃ out, (a.deliver h containers token).watcher = a.watcher.step h (.update pod out) := by
  unfold Api.deliver
  rw [hpending]
  exact ⟨_, watcher_writes _ _⟩

private theorem secretInvariant_deliver {h : Handler} {a : Api} (hI : SecretInvariant a)
    (containers : List EphemeralContainer) (token : String) :
    SecretInvariant (a.deliver h containers token) := by
  cases hcrash : a.watcher.crashed with
  | true =>
    have hstill := @watcher_deliver_of_crashed h a hcrash containers token
    exact ⟨fun hrun => absurd (hstill.symm.trans hrun) (by decide),
      fun hrun => absurd (hstill.symm.trans hrun) (by decide)⟩
  | false =>
    have howned := hI.owned hcrash
    have hordered := hI.ordered hcrash
    cases hpending : a.pending with
    | nil =>
      rw [deliver_of_nil hpending]
      exact hI
    | cons event rest =>
      rw [hpending] at howned hordered
      cases event with
      | deleted pod =>
        obtain ⟨hpods, hqueue, hwatcher⟩ := @deliver_deleted h a pod rest hpending containers token
        rw [step_delete hcrash] at hwatcher
        constructor
        · intro _ key hsecret
          rw [hwatcher] at hsecret
          rw [hpods, hqueue]
          -- the pod of the event has no secret any more, and the others wait behind it
          obtain ⟨hbefore, hother⟩ := hasSecret_onDelete hsecret
          obtain hsome | ⟨gone, hmem, hkey⟩ := howned key hbefore
          · exact Or.inl hsome
          · refine Or.inr ⟨gone, (List.mem_cons.mp hmem).resolve_left fun heq => hother ?_, hkey⟩
            rw [← hkey, PodEvent.deleted.inj heq]
        · intro _
          rw [hpods, hqueue]
          exact hordered
      | updated pod =>
        obtain ⟨out, hwatcher⟩ :=
          @watcher_deliver_updated h a pod rest containers token hpending
        rw [step_update hcrash] at hwatcher
        obtain ⟨hexpected, hordered⟩ := hordered
        -- what the handler writes is stored already, and goes to the end
        have hframe : (∀ key, (a.pods key).isSome = true →
              ((a.deliver h containers token).pods key).isSome = true) ∧
            ∃ new, (a.deliver h containers token).pending = rest ++ new ∧
              Ordered (a.deliver h containers token).pods new := by
          obtain ⟨hpods, hqueue, -⟩ | ⟨stored, hstored, -, hwrites⟩ :=
            @deliver_updated h a pod rest containers token hpending
          · rw [hpods]
            exact ⟨fun _ => id, [], by rw [hqueue, List.append_nil], trivial⟩
          · have hskey : stored.key = pod.key := a.keyed _ _ hstored
            have hupdate : ∀ written : Pod, ∀ key, (a.pods key).isSome = true →
                (Function.update a.pods pod.key (some written) key).isSome = true := by
              intro written key hsome
              by_cases hkey : key = pod.key
              · subst hkey
                rw [Function.update_self]
                rfl
              · rwa [Function.update_of_ne hkey]
            have hhere : ∀ written : Pod,
                (Function.update a.pods pod.key (some written) pod.key).isSome = true := by
              intro written
              rw [Function.update_self]
              rfl
            obtain ⟨-, -, hpods, hqueue⟩ | ⟨marked, hmark, hpods, hqueue⟩ := hwrites
            · rw [hpods]
              refine ⟨hupdate _, _, hqueue, Or.inl ?_, trivial⟩
              rw [key_withContainers, hskey]
              exact hhere _
            · rw [hpods]
              refine ⟨hupdate _, _, hqueue, Or.inl ?_, Or.inl ?_, trivial⟩
              · rw [key_withContainers, hskey]
                exact hhere _
              · rw [key_annotate hmark, key_withContainers, hskey]
                exact hhere _
        obtain ⟨hstill, new, hqueue, hnew⟩ := hframe
        have hkept : ∀ key, Expected a.pods rest key →
            Expected (a.deliver h containers token).pods (a.deliver h containers token).pending
              key := by
          intro key hexp
          rw [hqueue]
          exact hexp.mono (fun hsome => Or.inl (hstill key hsome))
            (fun e he => List.mem_append_left _ he)
        constructor
        · intro _ key hsecret
          rw [hwatcher] at hsecret
          apply hkept
          obtain hbefore | rfl := hasSecret_onUpdate hsecret
          · obtain hsome | ⟨gone, hmem, hkey⟩ := howned key hbefore
            · exact Or.inl hsome
            · exact Or.inr ⟨gone, (List.mem_cons.mp hmem).resolve_left nofun, hkey⟩
          · exact hexpected
        · intro _
          rw [hqueue]
          exact hordered.append (fun key hsome => Or.inl (hstill key hsome)) hnew

/-- Every step keeps the invariant, if nobody else creates secrets of pods. -/
theorem secretInvariant_step {h : Handler} (a : Api) (act : Act) (hI : SecretInvariant a)
    (hleaves : LeavesPodSecrets a act) : SecretInvariant (a.step h act) := by
  cases act with
  | create pod =>
    show SecretInvariant (a.create pod)
    unfold Api.create
    split
    · exact hI
    · exact hI.store rfl rfl (List.append_nil _).symm (Or.inl rfl)
  | write pod =>
    show SecretInvariant (a.write pod)
    by_cases hpod : (a.pods pod.key).isSome = true
    · obtain ⟨hpods, hqueue⟩ := write_of_isSome hpod
      exact hI.store (watcher_write a pod) hpods hqueue (Or.inr rfl)
    · unfold Api.write
      rw [if_neg hpod]
      exact hI
  | remove key => exact secretInvariant_remove hI key
  | others cluster =>
    exact ⟨fun hrun key hsecret => hI.owned hrun key (hleaves key hsecret), hI.ordered⟩
  | deliver containers token => exact secretInvariant_deliver hI containers token

/-! ## Main results -/

/-- From a cluster without secrets of pods, and while nobody but the watcher creates
    any: after every run in which the watcher has not panicked, each pod's secret has
    its pod, or the event of the pod's deletion is waiting. -/
theorem secrets_owned (h : Handler) (cacert cakey : Pem) (cluster : Cluster) (acts : List Act)
    (hnone : ∀ key, ¬ HasSecret cluster key)
    (hleaves : Trace.Along (Api.step h) LeavesPodSecrets (.start cacert cakey cluster) acts) :
    (Trace.run (Api.step h) (.start cacert cakey cluster) acts).SecretsOwned := by
  have hstart : SecretInvariant (.start cacert cakey cluster) :=
    ⟨fun _ key hsecret => absurd hsecret (hnone key), fun _ => trivial⟩
  exact (Trace.run_of_along secretInvariant_step hstart hleaves).owned

/-- `secrets_owned` for a pod that is injected, and deleted before the events of that
    are handled. -/
theorem secrets_owned_deleted :
    (Trace.run (Api.step ⟨"image", false, "10.0.0.0/16"⟩) newApi
      (addressed ++
        [.deliver addressedContainers "t", .remove ("default", "a")])).SecretsOwned := by
  apply secrets_owned
  · intro key hsecret
    cases hsecret
  · exact ⟨trivial, trivial, trivial, trivial, trivial⟩

end KubeGateway.Watcher

import KubeGateway.Spec.KeyIsolation

/-!
# What an injection does

An injection prepares the shared certificates, hands the pod's secret to the API
server, patches the container in and sends the patched pod as an update.  The
lemmas say what each part leaves behind, so that the properties of the watcher
need not take `OnUpdate` apart again.
-/

namespace KubeGateway.Watcher

/-! ## Annotations -/

theorem annotationValue_annotate {pod marked : Pod} {key value other : String}
    (hmark : pod.annotate key value = some marked) :
    marked.annotationValue other =
      if other = key then value else pod.annotationValue other := by
  unfold Pod.annotate at hmark
  cases hann : pod.annotations with
  | none => simp [hann] at hmark
  | some m =>
    simp only [hann, Option.map_some, Option.some.injEq] at hmark
    subst hmark
    unfold Pod.annotationValue
    by_cases heq : other = key
    · subst heq
      simp [AList.lookup_insert]
    · simp [hann, heq, AList.lookup_insert_ne heq]

theorem id_annotate {pod marked : Pod} {key value : String}
    (hmark : pod.annotate key value = some marked) : marked.id = pod.id := by
  unfold Pod.annotate at hmark
  obtain ⟨m, -, rfl⟩ := Option.map_eq_some_iff.mp hmark
  rfl

/-! ## Before the secret -/

/-- `certs` holds the pair that was minted for the pod with the key `key`. -/
def State.SharesPairOf (s : State) (pod : PodId) (key : KeyId) : Prop :=
  .mint pod key ∈ s.log ∧ PairOf pod key s.certs.cert s.certs.key

/-- The state in which `withProxyContainer` calls `loadSecret`, compared with the
    one it started in. -/
structure Prepared (s s₁ : State) (pod : Pod) (check : CheckOutcome) : Prop where
  cluster : s₁.cluster = (checkSecretExists check s.cluster pod.namespace_).2
  crashed : s₁.crashed = s.crashed
  minted : pod.annotationValue encryptGateway ≠ "" →
    s₁.log = .mint pod.id s.generated :: s.log ∧
      PairOf pod.id s.generated s₁.certs.cert s₁.certs.key
  shared : pod.annotationValue encryptGateway = "" →
    s₁.log = s.log ∧ s₁.certs.cert = s.certs.cert ∧ s₁.certs.key = s.certs.key

/-- An injection that gets as far as the containers has prepared the
    certificates, called `loadSecret` and marked the pod. -/
theorem withProxyContainer_eq_some {h : Handler} {s s' : State} {pod marked copied : Pod}
    {out : UpdateOutcome} (hinj : withProxyContainer h s pod out = (s', some (marked, copied))) :
    ∃ target s₁, pod.containers.head? = some target ∧ Prepared s s₁ pod out.check ∧
      s' = s₁.loadSecret out.loadFails pod ∧ pod.annotate enabled "true" = some marked ∧
      copied = { marked with
        ephemeralContainers := marked.ephemeralContainers ++ [gatewayContainer h pod target]
        shareProcessNamespace := true } := by
  unfold withProxyContainer at hinj
  cases hcont : pod.containers with
  | nil => simp [hcont] at hinj
  | cons target rest =>
    simp only [hcont] at hinj
    by_cases henc : pod.annotationValue encryptGateway = ""
    · rw [if_neg (not_not_intro henc)] at hinj
      dsimp only at hinj
      cases hmark : pod.annotate enabled "true" with
      | none => simp [hmark] at hinj
      | some m =>
        simp only [hmark, Prod.mk.injEq, Option.some.injEq] at hinj
        obtain ⟨rfl, rfl, rfl⟩ := hinj
        refine ⟨target, _, rfl, ?_, rfl, rfl, rfl⟩
        exact ⟨rfl, rfl, fun hne => absurd henc hne, fun _ => ⟨rfl, rfl, rfl⟩⟩
    · rw [if_pos henc] at hinj
      dsimp only [State.createCertificate] at hinj
      cases hmint : Certs.createCertificate
          { s.certs with token := (checkSecretExists out.check s.cluster pod.namespace_).1 }
          s.generated pod.name pod.podIP with
      | none => simp [hmint] at hinj
      | some certs =>
        obtain ⟨ca, -, hcert, hkey, -, -, -⟩ := createCertificate_eq_some hmint
        simp only [hmint, Option.map_some] at hinj
        cases hmark : pod.annotate enabled "true" with
        | none => simp [hmark] at hinj
        | some m =>
          simp only [hmark, Prod.mk.injEq, Option.some.injEq] at hinj
          obtain ⟨rfl, rfl, rfl⟩ := hinj
          refine ⟨target, _, rfl, ?_, rfl, rfl, rfl⟩
          exact ⟨rfl, rfl, fun _ => ⟨rfl, ⟨ca, hcert⟩, hkey⟩, fun heq => absurd heq henc⟩

/-! ## The secret -/

/-- The pod's secret before `loadSecret` is the one before the injection. -/
theorem Prepared.lookup {s s₁ : State} {pod : Pod} {check : CheckOutcome}
    (hprep : Prepared s s₁ pod check) (namespace_ name : String) :
    s₁.cluster.secrets.lookup (namespace_, podSecretName name) =
      s.cluster.secrets.lookup (namespace_, podSecretName name) := by
  rw [hprep.cluster]
  exact lookup_checkSecretExists (podSecretName_ne name)

/-- A mint is never taken back. -/
theorem Prepared.log_subset {s s₁ : State} {pod : Pod} {check : CheckOutcome}
    (hprep : Prepared s s₁ pod check) {x : Effect} (hx : x ∈ s.log) : x ∈ s₁.log := by
  by_cases henc : pod.annotationValue encryptGateway = ""
  · rw [(hprep.shared henc).1]
    exact hx
  · rw [(hprep.minted henc).1]
    exact List.mem_cons_of_mem _ hx

/-! ## The update -/

/-- The handler has got to its end, and sent the pod as an update. -/
def Marks (s s' : State) (marked : Pod) : Prop :=
  s'.crashed = false ∧ ∃ before, s'.log = .update marked :: (before ++ s.log)

theorem not_marks_of_log_eq {s s' : State} (hlog : s'.log = s.log) (marked : Pod) :
    ¬ Marks s s' marked := by
  rintro ⟨-, before, heq⟩
  have hlen := congrArg List.length (hlog.symm.trans heq)
  simp only [List.length_cons, List.length_append] at hlen
  omega

/-- A pod is marked by an injection, after a patch that succeeded. -/
theorem marks_onUpdate {h : Handler} {s : State} {pod marked : Pod} {out : UpdateOutcome}
    (hmarks : Marks s (s.onUpdate h pod out) marked) :
    ∃ s' sent copied stored, pod.wantsGateway = true ∧
      withProxyContainer h s pod out = (s', some (sent, copied)) ∧ out.patched = some stored ∧
      stored.annotate enabled "true" = some marked ∧
      s.onUpdate h pod out =
        { s' with log := .update marked :: .patch sent copied :: s'.log } := by
  unfold State.onUpdate at hmarks ⊢
  split at hmarks
  · rename_i hwants
    rw [if_pos hwants]
    cases hinj : withProxyContainer h s pod out with
    | mk s' result =>
      cases result with
      -- a panic before the patch
      | none => simp [Marks, hinj] at hmarks
      | some pods =>
        obtain ⟨sent, copied⟩ := pods
        simp only [hinj] at hmarks ⊢
        cases hpatched : out.patched with
        -- a failed patch: the empty pod cannot be annotated
        | none => simp [Marks, hpatched, Pod.annotate, Pod.zero] at hmarks
        | some stored =>
          simp only [hpatched, Option.getD_some] at hmarks ⊢
          cases hmark : stored.annotate enabled "true" with
          | none => simp [Marks, hmark] at hmarks
          | some m =>
            obtain ⟨-, before, hlog⟩ := hmarks
            simp only [hmark, List.cons.injEq, Effect.update.injEq] at hlog
            obtain ⟨rfl, -⟩ := hlog
            exact ⟨s', sent, copied, stored, hwants, rfl, rfl, hmark, rfl⟩
  · exact absurd hmarks (not_marks_of_log_eq rfl marked)

/-! ## The log -/

/-- Up to the containers, an injection logs nothing, a secret, or a mint and a
    secret, for its pod. -/
theorem log_withProxyContainer (h : Handler) (s : State) (pod : Pod) (out : UpdateOutcome) :
    (withProxyContainer h s pod out).1.log = s.log ∨
    (∃ data created,
      (withProxyContainer h s pod out).1.log = .load pod.id data created :: s.log) ∨
    ∃ data created, (withProxyContainer h s pod out).1.log =
      .load pod.id data created :: .mint pod.id s.generated :: s.log := by
  unfold withProxyContainer
  cases pod.containers with
  | nil => exact Or.inl rfl
  | cons target rest =>
    dsimp only
    by_cases henc : pod.annotationValue encryptGateway = ""
    · rw [if_neg (not_not_intro henc)]
      dsimp only
      cases pod.annotate enabled "true" <;> exact Or.inr (Or.inl ⟨_, _, rfl⟩)
    · rw [if_pos henc]
      dsimp only [State.createCertificate]
      cases Certs.createCertificate
          { s.certs with token := (checkSecretExists out.check s.cluster pod.namespace_).1 }
          s.generated pod.name pod.podIP with
      | none => exact Or.inl rfl
      | some certs =>
        cases pod.annotate enabled "true" <;> exact Or.inr (Or.inr ⟨_, _, rfl⟩)

/-- After the containers, an injection logs nothing, the patch, which leaves the
    annotations alone, or the patch and the update. -/
theorem log_onUpdate {h : Handler} {s : State} {pod : Pod} {out : UpdateOutcome}
    (hwants : pod.wantsGateway = true) :
    ∃ later, (s.onUpdate h pod out).log = later ++ (withProxyContainer h s pod out).1.log ∧
      (later = [] ∨
        (∃ sent copied, sent.annotations = copied.annotations ∧ later = [.patch sent copied]) ∨
        ∃ sent copied stored marked, out.patched = some stored ∧
          stored.annotate enabled "true" = some marked ∧
          later = [.update marked, .patch sent copied]) := by
  unfold State.onUpdate
  rw [if_pos hwants]
  cases hinj : withProxyContainer h s pod out with
  | mk s' result =>
    cases result with
    | none => exact ⟨[], rfl, Or.inl rfl⟩
    | some pods =>
      obtain ⟨sent, copied⟩ := pods
      have hsame : sent.annotations = copied.annotations := by
        obtain ⟨target, s₁, -, -, -, -, rfl⟩ := withProxyContainer_eq_some hinj
        rfl
      cases hpatched : out.patched with
      | none =>
        -- the empty pod has no annotations to write to
        exact ⟨[.patch sent copied], rfl, Or.inr (Or.inl ⟨sent, copied, hsame, rfl⟩)⟩
      | some stored =>
        simp only [Option.getD_some]
        cases hmark : stored.annotate enabled "true" with
        | none => exact ⟨[.patch sent copied], rfl, Or.inr (Or.inl ⟨sent, copied, hsame, rfl⟩)⟩
        | some marked =>
          exact ⟨[.update marked, .patch sent copied], rfl,
            Or.inr (Or.inr ⟨sent, copied, stored, marked, rfl, hmark, rfl⟩)⟩

/-! ## The state -/

/-- The state after the check of the namespace's secret. -/
def State.checked (s : State) (pod : Pod) (check : CheckOutcome) : State :=
  { s with
    cluster := (checkSecretExists check s.cluster pod.namespace_).2
    certs := { s.certs with token := (checkSecretExists check s.cluster pod.namespace_).1 } }

/-- Up to the containers, an injection does nothing, stops after the check of the
    namespace's secret, or goes on to the pod's secret, of a pod that is not encrypted
    or that a certificate has been minted for. -/
theorem state_withProxyContainer (h : Handler) (s : State) (pod : Pod) (out : UpdateOutcome) :
    (withProxyContainer h s pod out).1 = s ∨
    (withProxyContainer h s pod out).1 = s.checked pod out.check ∨
    (withProxyContainer h s pod out).1 = (s.checked pod out.check).loadSecret out.loadFails pod ∨
    ∃ minted, (s.checked pod out.check).createCertificate pod = some minted ∧
      (withProxyContainer h s pod out).1 = minted.loadSecret out.loadFails pod := by
  have hchecked : ({ s with
      cluster := (checkSecretExists out.check s.cluster pod.namespace_).2
      certs := { s.certs with
        token := (checkSecretExists out.check s.cluster pod.namespace_).1 } } : State) =
      s.checked pod out.check := rfl
  unfold withProxyContainer
  cases pod.containers with
  | nil => exact Or.inl rfl
  | cons target rest =>
    dsimp only
    rw [hchecked]
    by_cases henc : pod.annotationValue encryptGateway = ""
    · rw [if_neg (not_not_intro henc)]
      dsimp only
      cases pod.annotate enabled "true" <;> exact Or.inr (Or.inr (Or.inl rfl))
    · rw [if_pos henc]
      cases hmint : (s.checked pod out.check).createCertificate pod with
      | none => exact Or.inr (Or.inl rfl)
      | some minted =>
        dsimp only
        cases pod.annotate enabled "true" <;> exact Or.inr (Or.inr (Or.inr ⟨minted, rfl, rfl⟩))

/-- After the containers, an injection only logs, or panics. -/
theorem state_onUpdate {h : Handler} {s : State} {pod : Pod} {out : UpdateOutcome}
    (hwants : pod.wantsGateway = true) :
    ∃ later crashed, s.onUpdate h pod out =
      { (withProxyContainer h s pod out).1 with
        log := later ++ (withProxyContainer h s pod out).1.log, crashed := crashed } := by
  unfold State.onUpdate
  rw [if_pos hwants]
  cases withProxyContainer h s pod out with
  | mk s' result =>
    cases result with
    | none => exact ⟨[], true, rfl⟩
    | some pods =>
      obtain ⟨sent, copied⟩ := pods
      dsimp only
      cases (out.patched.getD Pod.zero).annotate enabled "true" with
      | none => exact ⟨[.patch sent copied], true, rfl⟩
      | some marked => exact ⟨[.update marked, .patch sent copied], s'.crashed, rfl⟩

theorem step_of_crashed {h : Handler} {s : State} (hcrash : s.crashed = true) (e : Event) :
    s.step h e = s := by
  unfold State.step
  exact if_pos hcrash

theorem step_update {h : Handler} {s : State} (hrun : s.crashed = false) (pod : Pod)
    (out : UpdateOutcome) : s.step h (.update pod out) = s.onUpdate h pod out := by
  unfold State.step
  exact if_neg (by rw [hrun]; exact Bool.false_ne_true)

theorem step_delete {h : Handler} {s : State} (hrun : s.crashed = false) (pod : Pod)
    (fails : Bool) : s.step h (.delete pod fails) = s.onDelete pod fails := by
  unfold State.step
  exact if_neg (by rw [hrun]; exact Bool.false_ne_true)

/-- Only an update event of a running process marks a pod. -/
theorem marks_step {h : Handler} {s : State} {e : Event} {marked : Pod}
    (hmarks : Marks s (s.step h e) marked) :
    ∃ pod out, e = .update pod out ∧ s.crashed = false ∧
      Marks s (s.onUpdate h pod out) marked := by
  cases hcrash : s.crashed with
  | true => exact absurd hmarks (not_marks_of_log_eq (by rw [step_of_crashed hcrash]) marked)
  | false =>
    cases e with
    | update pod out =>
      rw [step_update hcrash] at hmarks
      exact ⟨pod, out, rfl, rfl, hmarks⟩
    | delete pod fails =>
      rw [step_delete hcrash] at hmarks
      exact absurd hmarks (not_marks_of_log_eq rfl marked)

end KubeGateway.Watcher

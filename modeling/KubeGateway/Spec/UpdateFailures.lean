import KubeGateway.Spec.Injection

/-!
# API failures during an update

`OnUpdate` goes on after every failure it logs.  A secret that cannot be created
does no harm to the handler, but the pod of a failed patch is the empty one, and
it has no annotations to write to.
-/

namespace KubeGateway.Watcher

/-- What the API server is sent has the enabled annotation in it; a patch has what
    differs between its two pods. -/
def Effect.SendsEnabled : Effect → Prop
  | .update pod => pod.annotationValue enabled ≠ ""
  | .patch old new =>
    new.annotationValue enabled ≠ "" ∧ new.annotationValue enabled ≠ old.annotationValue enabled
  | .mint _ _ | .load _ _ _ => False

/-- Nothing on the way of a pod through `OnUpdate` panics. -/
structure Survivable (s : State) (pod : Pod) (out : UpdateOutcome) : Prop where
  containers : pod.containers ≠ []
  certificate : pod.annotationValue encryptGateway ≠ "" →
    s.certs.caKeyPair.isSome = true ∧ isIA5String pod.name = true
  patched : ∃ stored, out.patched = some stored ∧ stored.annotations.isSome = true

/-! ## As far as the patch -/

theorem isSome_annotate (pod : Pod) (key value : String) :
    (pod.annotate key value).isSome = pod.annotations.isSome := by
  unfold Pod.annotate
  rw [Option.isSome_map]

/-- A certificate can be signed with a CA pair that fits, for a name in ASCII; the
    token does not matter. -/
theorem isSome_createCertificate_iff (c : Certs) (token : String) (priv : KeyId)
    (name ip : String) :
    (({ c with token := token } : Certs).createCertificate priv name ip).isSome = true ↔
      c.caKeyPair.isSome = true ∧ isIA5String name = true := by
  have hpair : ({ c with token := token } : Certs).caKeyPair = c.caKeyPair := rfl
  unfold Certs.createCertificate
  rw [hpair]
  cases c.caKeyPair with
  | none => simp
  | some ca => cases isIA5String name <;> simp

/-- A pod that passes the guard has annotations. -/
theorem isSome_annotations_of_wantsGateway {pod : Pod} (hwants : pod.wantsGateway = true) :
    pod.annotations.isSome = true := by
  unfold Pod.wantsGateway annotationLookup at hwants
  rw [Bool.and_eq_true] at hwants
  obtain ⟨key, -, hkey⟩ := List.any_eq_true.mp hwants.2
  cases hann : pod.annotations with
  | none => simp [hann] at hkey
  | some m => rfl

/-- The containers are put together exactly if there is one already, and the
    certificate that is asked for can be signed. -/
theorem isSome_withProxyContainer_iff (h : Handler) (s : State) {pod : Pod} (out : UpdateOutcome)
    (hwants : pod.wantsGateway = true) :
    (withProxyContainer h s pod out).2.isSome = true ↔
      pod.containers ≠ [] ∧ (pod.annotationValue encryptGateway ≠ "" →
        s.certs.caKeyPair.isSome = true ∧ isIA5String pod.name = true) := by
  have hmark : ∃ marked, pod.annotate enabled "true" = some marked :=
    Option.isSome_iff_exists.mp
      ((isSome_annotate pod _ _).trans (isSome_annotations_of_wantsGateway hwants))
  obtain ⟨marked, hmark⟩ := hmark
  unfold withProxyContainer
  cases hcont : pod.containers with
  | nil => simp
  | cons target rest =>
    dsimp only
    by_cases henc : pod.annotationValue encryptGateway = ""
    · simp [henc, hmark]
    · rw [if_pos henc]
      dsimp only [State.createCertificate]
      rw [and_iff_right (List.cons_ne_nil _ _), forall_prop_of_true henc,
        ← isSome_createCertificate_iff s.certs
          (checkSecretExists out.check s.cluster pod.namespace_).1 s.generated pod.name pod.podIP]
      cases hmint : Certs.createCertificate
          { s.certs with token := (checkSecretExists out.check s.cluster pod.namespace_).1 }
          s.generated pod.name pod.podIP with
      | none => simp
      | some certs => simp [hmark]

/-! ## To the end -/

/-- The handler returns exactly if nothing on the pod's way panics. -/
theorem onUpdate_returns_iff (h : Handler) {s : State} {pod : Pod} (out : UpdateOutcome)
    (hrun : s.crashed = false) (hwants : pod.wantsGateway = true) :
    (s.onUpdate h pod out).crashed = false ↔ Survivable s pod out := by
  have hcontainers := isSome_withProxyContainer_iff h s out hwants
  have hsurvivable : Survivable s pod out ↔
      (withProxyContainer h s pod out).2.isSome = true ∧
        ∃ stored, out.patched = some stored ∧ stored.annotations.isSome = true := by
    rw [hcontainers]
    exact ⟨fun hs => ⟨⟨hs.containers, hs.certificate⟩, hs.patched⟩,
      fun hs => ⟨hs.1.1, hs.1.2, hs.2⟩⟩
  rw [hsurvivable]
  unfold State.onUpdate
  rw [if_pos hwants]
  cases hinj : withProxyContainer h s pod out with
  | mk s' result =>
    cases result with
    | none => simp
    | some pods =>
      obtain ⟨marked, copied⟩ := pods
      obtain ⟨target, s₁, -, hprep, rfl, -, -⟩ := withProxyContainer_eq_some hinj
      have hrun' : (s₁.loadSecret out.loadFails pod).crashed = false :=
        hprep.crashed.trans hrun
      cases hpatched : out.patched with
      -- the empty pod has no annotations
      | none => simp [Pod.annotate, Pod.zero]
      | some stored =>
        have hstored := isSome_annotate stored enabled "true"
        cases hmark : stored.annotate enabled "true" with
        | none =>
          rw [hmark] at hstored
          simp [hmark, ← hstored]
        | some newPod =>
          rw [hmark] at hstored
          simp [hmark, ← hstored, hrun']

/-- A pod is sent with the enabled annotation only after a patch that succeeded. -/
theorem patched_of_sendsEnabled {h : Handler} {s : State} {pod : Pod} {out : UpdateOutcome}
    (hwants : pod.wantsGateway = true) {later : List Effect}
    (hlog : (s.onUpdate h pod out).log = later ++ s.log) {x : Effect} (hx : x ∈ later)
    (hsends : x.SendsEnabled) : out.patched.isSome = true := by
  obtain ⟨after, hafter, hcases⟩ := @log_onUpdate h s pod out hwants
  obtain ⟨first, hfirst, hquiet⟩ : ∃ first, (withProxyContainer h s pod out).1.log =
      first ++ s.log ∧ ∀ x ∈ first, ¬ x.SendsEnabled := by
    obtain heq | ⟨data, created, heq⟩ | ⟨data, created, heq⟩ := log_withProxyContainer h s pod out
    · exact ⟨[], heq, by simp⟩
    · exact ⟨[_], heq, by simp [Effect.SendsEnabled]⟩
    · exact ⟨[_, _], heq, by simp [Effect.SendsEnabled]⟩
  rw [hlog, hfirst, ← List.append_assoc] at hafter
  obtain rfl := List.append_cancel_right hafter
  rcases List.mem_append.mp hx with hx | hx
  · obtain rfl | ⟨sent, copied, hsame, rfl⟩ | ⟨sent, copied, stored, marked, hpatched, -, -⟩ :=
      hcases
    · exact nomatch hx
    · -- the two pods of the patch have the same annotations
      rw [List.mem_singleton] at hx
      subst hx
      have hvalue : copied.annotationValue enabled = sent.annotationValue enabled := by
        unfold Pod.annotationValue
        rw [hsame]
      exact absurd hvalue hsends.2
    · rw [hpatched]
      rfl
  · exact absurd hsends (hquiet x hx)

/-- For every pod that passes the guard and every outcome of the calls: the handler
    returns exactly if nothing on the pod's way panics, and in any case the enabled
    annotation is sent only after a patch that succeeded. -/
theorem onUpdate_contains_failures_iff (h : Handler) (s : State) (pod : Pod)
    (out : UpdateOutcome) (hrun : s.crashed = false) (hwants : pod.wantsGateway = true) :
    ((s.onUpdate h pod out).crashed = false ↔ Survivable s pod out) ∧
      ∀ later, (s.onUpdate h pod out).log = later ++ s.log →
        ∀ x ∈ later, x.SendsEnabled → out.patched.isSome = true :=
  ⟨onUpdate_returns_iff h out hrun hwants,
    fun _ hlog _ hx hsends => patched_of_sendsEnabled hwants hlog hx hsends⟩

/-! ## A failed patch -/

/-- A pod with an address that asks for the AI gateway. -/
def aiPod : Pod := annotatedPod "a" "10.0.0.1" aiGateway

/-- A watcher without a CA, in an empty cluster. -/
def aiWatcher : State := .start .empty .empty ⟨∅, [], ∅⟩

/-- The patch succeeds, and the handler returns. -/
theorem onUpdate_contains_failures_patched :
    (aiWatcher.onUpdate ⟨"image", false, ""⟩ aiPod (allSucceed aiPod)).crashed = false := by
  refine (onUpdate_contains_failures_iff ⟨"image", false, ""⟩ aiWatcher aiPod
    (allSucceed aiPod) rfl (by decide)).1.mpr ⟨by decide, ?_, ⟨aiPod, rfl, rfl⟩⟩
  intro henc
  exact absurd (show aiPod.annotationValue encryptGateway = "" by decide) henc

/-- The patch fails, and the watcher panics. -/
theorem not_onUpdate_contains_failures :
    ¬ ∀ (h : Handler) (s : State) (pod : Pod) (out : UpdateOutcome), s.crashed = false →
      pod.wantsGateway = true → (s.onUpdate h pod out).crashed = false := by
  intro h
  have hreturns := h ⟨"image", false, ""⟩ aiWatcher aiPod
    { allSucceed aiPod with patched := none } rfl (by decide)
  exact absurd hreturns (by decide)

end KubeGateway.Watcher

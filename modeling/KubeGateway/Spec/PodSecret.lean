import KubeGateway.Spec.Injection

/-!
# The secret of an encrypted pod

A pod is marked as enabled whether or not its secret could be created.  The
secret's name is the pod's name, so a secret that outlives its pod (a deletion
and a re-creation that the informer reports as one update, a deletion that
failed) stands in the way of the new pod's, which then runs with the certificate
of the old pod's address.
-/

namespace KubeGateway.Watcher

/-! ## The property -/

/-- The pod's secret holds a pair that was minted for the pod at its address. -/
def State.SecretFor (s : State) (pod : Pod) : Prop :=
  ∃ data key cert priv,
    s.cluster.secrets.lookup (pod.namespace_, podSecretName pod.name) = some data ∧
    data.smeshCert = some cert ∧ data.smeshKey = some priv ∧
    .mint pod.id key ∈ s.log ∧ PairOf pod.id key cert priv

/-- Every encrypted pod the event marks as enabled has a secret of its own. -/
def MarksWithSecret (h : Handler) (s : State) (e : Event) : Prop :=
  ∀ marked, Marks s (s.step h e) marked → marked.annotationValue encryptGateway ≠ "" →
    (s.step h e).SecretFor marked

/-! ## The condition -/

/-- The injection of `pod` creates a secret with a pair for `stored`, the pod that
    the API server has under its name: the name is free, the call does not fail,
    and a pair was minted for it, in this injection or as the last one before. -/
def CreatesOwnSecret (s : State) (pod stored : Pod) (out : UpdateOutcome) : Prop :=
  stored.id = pod.id ∧ out.loadFails = false ∧
    s.cluster.secrets.lookup (pod.namespace_, podSecretName pod.name) = none ∧
    (pod.annotationValue encryptGateway = "" → ∃ key, s.SharesPairOf pod.id key)

/-- Whenever the pod that the patch returns is encrypted, its secret is created
    for it or is there from before. -/
def SecretAtHand (s : State) : Event → Prop
  | .update pod out => s.crashed = false → pod.wantsGateway = true →
      ∀ stored, out.patched = some stored → stored.annotationValue encryptGateway ≠ "" →
        CreatesOwnSecret s pod stored out ∨ s.SecretFor stored
  | .delete _ _ => True

/-! ## One injection -/

/-- The annotation that marks a pod is not one its secret depends on. -/
theorem secretFor_annotate {s : State} {pod marked : Pod} {key value : String}
    (hmark : pod.annotate key value = some marked) : s.SecretFor marked ↔ s.SecretFor pod := by
  have hid : marked.id = pod.id := id_annotate hmark
  have hns : marked.namespace_ = pod.namespace_ := congrArg PodId.namespace_ hid
  have hname : marked.name = pod.name := congrArg PodId.name hid
  unfold State.SecretFor
  rw [hid, hns, hname]

/-- A secret that is there before an injection is still there, untouched. -/
private theorem Prepared.secretFor {s s₁ : State} {pod stored : Pod} {out : UpdateOutcome}
    (hprep : Prepared s s₁ pod out.check) (hsecret : s.SecretFor stored) :
    (s₁.loadSecret out.loadFails pod).SecretFor stored := by
  obtain ⟨data, key, cert, priv, hlookup, hcert, hkey, hmint, hpair⟩ := hsecret
  refine ⟨data, key, cert, priv, ?_, hcert, hkey, ?_, hpair⟩
  · rw [← hprep.lookup] at hlookup
    exact lookup_createSecret_of_some hlookup
  · exact List.mem_cons_of_mem _ (hprep.log_subset hmint)

/-- Where the name is free, the new secret holds the pair in `certs`. -/
private theorem Prepared.creates {s s₁ : State} {pod stored : Pod} {out : UpdateOutcome}
    (hprep : Prepared s s₁ pod out.check) (hcreates : CreatesOwnSecret s pod stored out) :
    (s₁.loadSecret out.loadFails pod).SecretFor stored := by
  obtain ⟨hid, hfails, hfree, hshared⟩ := hcreates
  -- the pair that `certs` holds when the secret is built
  have hpair : ∃ key, s₁.SharesPairOf pod.id key := by
    by_cases henc : pod.annotationValue encryptGateway = ""
    · obtain ⟨hlog, hcert, hkey⟩ := hprep.shared henc
      obtain ⟨key, hmint, hpair⟩ := hshared henc
      refine ⟨key, ?_, ?_⟩
      · rwa [hlog]
      · rwa [hcert, hkey]
    · obtain ⟨hlog, hpair⟩ := hprep.minted henc
      exact ⟨s.generated, by rw [hlog]; exact List.mem_cons_self, hpair⟩
  obtain ⟨key, hmint, hpair⟩ := hpair
  have hns : stored.namespace_ = pod.namespace_ := congrArg PodId.namespace_ hid
  have hname : stored.name = pod.name := congrArg PodId.name hid
  refine ⟨s₁.certs.secretMap, key, s₁.certs.cert, s₁.certs.key, ?_, rfl, rfl, ?_, ?_⟩
  · rw [hns, hname, hfails]
    apply lookup_createSecret_of_free
    rw [hprep.lookup, hfree]
  · rw [hid]
    exact List.mem_cons_of_mem _ hmint
  · rwa [hid]

/-- An event that meets the condition marks no encrypted pod without its secret. -/
theorem marksWithSecret_of_secretAtHand (h : Handler) (s : State) (e : Event)
    (hcond : SecretAtHand s e) : MarksWithSecret h s e := by
  intro marked hmarks henc
  obtain ⟨pod, out, rfl, hrun, hmarked⟩ := marks_step hmarks
  rw [step_update hrun]
  obtain ⟨s', sent, copied, stored, hwants, hinj, hpatched, hmark, hstep⟩ := marks_onUpdate hmarked
  obtain ⟨target, s₁, -, hprep, rfl, -, -⟩ := withProxyContainer_eq_some hinj
  have hstored : stored.annotationValue encryptGateway ≠ "" := by
    rw [annotationValue_annotate hmark, if_neg (by decide)] at henc
    exact henc
  have hsecret : (s₁.loadSecret out.loadFails pod).SecretFor stored :=
    (hcond hrun hwants stored hpatched hstored).elim hprep.creates hprep.secretFor
  rw [← secretFor_annotate hmark] at hsecret
  -- the patch and the update only add to the log
  obtain ⟨data, key, cert, priv, hlookup, hcert, hkey, hmint, hpair⟩ := hsecret
  rw [hstep]
  exact ⟨data, key, cert, priv, hlookup, hcert, hkey,
    List.mem_cons_of_mem _ (List.mem_cons_of_mem _ hmint), hpair⟩

/-! ## Main results -/

/-- In a run in which every injection finds its secret at hand, every encrypted
    pod that is marked as enabled has a secret for its address. -/
theorem marked_with_secret (h : Handler) (cacert cakey : Pem) (cluster : Cluster)
    (es : List Event)
    (hcond : Trace.Along (State.step h) SecretAtHand (State.start cacert cakey cluster) es) :
    Trace.Along (State.step h) (MarksWithSecret h) (State.start cacert cakey cluster) es :=
  hcond.mono (marksWithSecret_of_secretAtHand h)

/-- `marked_with_secret` for a pod that is injected, deleted, and injected again
    at another address. -/
theorem marked_with_secret_deleted :
    let first := annotatedPod "a" "10.0.0.1" encryptGateway
    let second := annotatedPod "a" "10.0.0.2" encryptGateway
    let h : Handler := ⟨"image", false, "10.0.0.0/16"⟩
    Trace.Along (State.step h) (MarksWithSecret h)
      (State.start (.certificate [] [] 0 0) (.rsaPrivateKey 0) ⟨∅, [], ∅⟩)
      [.update first (allSucceed first), .delete first false,
        .update second (allSucceed second)] := by
  intro first second h
  apply marked_with_secret
  refine ⟨?_, trivial, ?_, trivial⟩
  · rintro - - stored hstored -
    obtain rfl : first = stored := Option.some.inj hstored
    exact Or.inl ⟨rfl, rfl, rfl, fun henc => absurd henc (by decide)⟩
  · rintro - - stored hstored -
    obtain rfl : second = stored := Option.some.inj hstored
    exact Or.inl ⟨rfl, rfl, by decide, fun henc => absurd henc (by decide)⟩

/-! ## A pod that is re-created -/

/-- An encrypted pod is injected, deleted, and created again under its name with
    another address; the informer reports the two as one update. -/
def recreated : List Event :=
  let first := annotatedPod "a" "10.0.0.1" encryptGateway
  let second := annotatedPod "a" "10.0.0.2" encryptGateway
  [.update first (allSucceed first), .update second (allSucceed second)]

/-- The pod of the second injection, as the watcher marks it. -/
def recreatedPod : Pod :=
  { annotatedPod "a" "10.0.0.2" encryptGateway with
    annotations := some ((AList.singleton encryptGateway "true").insert enabled "true") }

/-- A marked pod need not have a secret for its address: the secret of the pod
    before it is still there, and the new one cannot be created. -/
theorem not_marked_with_secret :
    ¬ ∀ (h : Handler) (cacert cakey : Pem) (cluster : Cluster) (es : List Event),
      Trace.Along (State.step h) (MarksWithSecret h) (State.start cacert cakey cluster) es := by
  intro hclaim
  obtain ⟨_, hsecond, _⟩ := hclaim ⟨"image", false, "10.0.0.0/16"⟩ (.certificate [] [] 0 0)
    (.rsaPrivateKey 0) ⟨∅, [], ∅⟩ recreated
  obtain ⟨data, key, cert, priv, hlookup, hcert, -, -, ⟨ca, hpair⟩, -⟩ :=
    hsecond recreatedPod ⟨rfl, [_, _, _], rfl⟩ (by decide)
  -- the secret is the first pod's
  have hfound : some firstPair = some data := hlookup
  rw [← Option.some.inj hfound, hpair] at hcert
  have hip : ["10.0.0.1"] = ["10.0.0.2"] := (Pem.certificate.inj (Option.some.inj hcert)).2.1
  exact absurd hip (by decide)

end KubeGateway.Watcher

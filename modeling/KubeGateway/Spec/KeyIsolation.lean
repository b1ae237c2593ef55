import KubeGateway.ForStd.Trace
import KubeGateway.Native.Watch

/-!
# A pod's secret and the keys of other pods

The watcher mints into one `certs` value for all pods, but only for a pod with
the encrypt annotation, and stores what `certs` holds for every pod.  So a
secret holds the pair of the last pod a certificate was minted for, which need
not be the secret's own pod.

`keys_apart_iff` says which runs keep the keys of the pods apart.
-/

namespace KubeGateway.Watcher

/-! ## The property -/

/-- The effects that are about keys: a mint, and a secret. -/
def Effect.aboutKeys : Effect → Bool
  | .mint _ _ => true
  | .load _ _ _ => true
  | .patch _ _ => false
  | .update _ => false

/-- The mints and secrets of the run so far, newest first. -/
def State.keyLog (s : State) : List Effect := s.log.filter Effect.aboutKeys

/-- The key pair a value belongs to: a private key's own, a certificate's
    public one. -/
def Pem.keyId : Pem → Option KeyId
  | .empty => none
  | .certificate _ _ publicKey _ => some publicKey
  | .rsaPrivateKey key => some key

/-- The pair `createCertificate` makes for a pod from the key `key`. -/
def PairOf (pod : PodId) (key : KeyId) (cert priv : Pem) : Prop :=
  (∃ ca, cert = .certificate [pod.name] [pod.ip] key ca) ∧ priv = .rsaPrivateKey key

/-- The secret holds nothing, or the pair that was minted for its pod; and
    nothing in it was minted for another pod. -/
structure OwnPair (log : List Effect) (pod : PodId) (data : SecretData) : Prop where
  own : (data.smeshCert = some .empty ∧ data.smeshKey = some .empty) ∨
    ∃ key cert priv, .mint pod key ∈ log ∧ PairOf pod key cert priv ∧
      data.smeshCert = some cert ∧ data.smeshKey = some priv
  notOthers : ∀ other key, .mint other key ∈ log →
    ((data.smeshCert.bind Pem.keyId) = some key ∨ (data.smeshKey.bind Pem.keyId) = some key) →
    other = pod

/-- Every secret so far is its pod's own. -/
def State.KeysApart (s : State) : Prop :=
  ∀ pod data created, .load pod data created ∈ s.keyLog → OwnPair s.keyLog pod data

/-- After the event every secret is its pod's own. -/
def KeepsKeysApart (h : Handler) (s : State) (e : Event) : Prop := (s.step h e).KeysApart

/-! ## The condition -/

/-- The last mint in a log, newest first: the pod and its key. -/
def lastMint : List Effect → Option (PodId × KeyId)
  | [] => none
  | .mint pod key :: _ => some (pod, key)
  | _ :: log => lastMint log

/-- The event makes the watcher inject a pod without minting for it. -/
def InjectsUnencrypted (s : State) : Event → Prop
  | .update pod _ => s.crashed = false ∧ pod.wantsGateway = true ∧ pod.containers ≠ [] ∧
      pod.annotationValue encryptGateway = ""
  | .delete _ _ => False

/-- The pod an event is about. -/
def Event.pod : Event → Pod
  | .update pod _ => pod
  | .delete pod _ => pod

/-- A pod that is injected without the encrypt annotation comes before every
    mint, or right after mints for itself. -/
def SharedPairIsOwn (s : State) (e : Event) : Prop :=
  InjectsUnencrypted s e → ∀ other key, lastMint s.keyLog = some (other, key) → other = e.pod.id

/-! ## What a step does with keys -/

/-- What an event can do with keys: nothing, store the shared pair, or mint a
    new pair and store it. -/
inductive KeyStep (s s' : State) (e : Event) : Prop where
  | idle
      (hlog : s'.keyLog = s.keyLog) (hcert : s'.certs.cert = s.certs.cert)
      (hkey : s'.certs.key = s.certs.key) (hgen : s'.generated = s.generated)
      (hnot : ¬ InjectsUnencrypted s e)
  | shared (data : SecretData) (created : Bool)
      (hdata : data.smeshCert = some s.certs.cert ∧ data.smeshKey = some s.certs.key)
      (hlog : s'.keyLog = .load e.pod.id data created :: s.keyLog)
      (hcert : s'.certs.cert = s.certs.cert) (hkey : s'.certs.key = s.certs.key)
      (hgen : s'.generated = s.generated) (hinj : InjectsUnencrypted s e)
  | minted (data : SecretData) (created : Bool)
      (hdata : data.smeshCert = some s'.certs.cert ∧ data.smeshKey = some s'.certs.key)
      (hlog : s'.keyLog =
        .load e.pod.id data created :: .mint e.pod.id s.generated :: s.keyLog)
      (hpair : PairOf e.pod.id s.generated s'.certs.cert s'.certs.key)
      (hgen : s'.generated = s.generated + 1) (hnot : ¬ InjectsUnencrypted s e)

/-- `KeyStep` only looks at four parts of the state it leads to. -/
private theorem KeyStep.congr {s s₁ s₂ : State} {e : Event} (h : KeyStep s s₁ e)
    (hlog : s₂.keyLog = s₁.keyLog) (hcert : s₂.certs.cert = s₁.certs.cert)
    (hkey : s₂.certs.key = s₁.certs.key) (hgen : s₂.generated = s₁.generated) :
    KeyStep s s₂ e := by
  cases h with
  | idle hl hc hk hg hn =>
    exact .idle (hlog.trans hl) (hcert.trans hc) (hkey.trans hk) (hgen.trans hg) hn
  | shared data created hd hl hc hk hg hi =>
    exact .shared data created hd (hlog.trans hl) (hcert.trans hc) (hkey.trans hk)
      (hgen.trans hg) hi
  | minted data created hd hl hp hg hn =>
    rw [← hcert, ← hkey] at hd hp
    exact .minted data created hd (hlog.trans hl) hp (hgen.trans hg) hn

/-- An injection stores the shared pair, or a new one for a pod that asks for
    encryption. -/
private theorem keyStep_withProxyContainer (h : Handler) (s : State) (pod : Pod)
    (out : UpdateOutcome) (hrun : s.crashed = false) (hwants : pod.wantsGateway = true) :
    KeyStep s (withProxyContainer h s pod out).1 (.update pod out) := by
  unfold withProxyContainer
  cases hcont : pod.containers with
  | nil =>
    -- a pod without containers: the index panics before anything is stored
    exact .idle rfl rfl rfl rfl (fun hinj => hinj.2.2.1 hcont)
  | cons target rest =>
    dsimp only
    by_cases henc : pod.annotationValue encryptGateway = ""
    · -- no mint: the secret gets whatever `certs` holds
      have hinj : InjectsUnencrypted s (.update pod out) :=
        ⟨hrun, hwants, by rw [hcont]; exact List.cons_ne_nil _ _, henc⟩
      rw [if_neg (not_not_intro henc)]
      dsimp only [State.loadSecret]
      -- a panic on the nil annotations comes too late to keep the secret back
      cases pod.annotate enabled "true" <;>
        exact .shared _ _ ⟨rfl, rfl⟩ rfl rfl rfl rfl hinj
    · have hnot : ¬ InjectsUnencrypted s (.update pod out) := fun hinj => henc hinj.2.2.2
      rw [if_pos henc]
      dsimp only [State.createCertificate]
      cases hmint : Certs.createCertificate
          { s.certs with token := (checkSecretExists out.check s.cluster pod.namespace_).1 }
          s.generated pod.name pod.podIP with
      -- the mint panics, and `loadSecret` is not reached
      | none => exact .idle rfl rfl rfl rfl hnot
      | some certs =>
        obtain ⟨ca, -, hcert, hkey, -, -, -⟩ := createCertificate_eq_some hmint
        dsimp only [Option.map_some, State.loadSecret]
        have hpair : PairOf pod.id s.generated certs.cert certs.key := ⟨⟨ca, hcert⟩, hkey⟩
        cases pod.annotate enabled "true" <;>
          exact .minted _ _ ⟨rfl, rfl⟩ rfl hpair rfl hnot

/-- The part of `OnUpdate` after the injection does nothing with keys. -/
private theorem keyStep_onUpdate (h : Handler) (s : State) (pod : Pod) (out : UpdateOutcome)
    (hrun : s.crashed = false) : KeyStep s (s.onUpdate h pod out) (.update pod out) := by
  unfold State.onUpdate
  split
  · rename_i hwants
    -- the patch and the update add effects that are not about keys
    have hstep := keyStep_withProxyContainer h s pod out hrun hwants
    split <;> rename_i heq <;> rw [heq] at hstep
    · exact hstep.congr rfl rfl rfl rfl
    · dsimp only
      cases (out.patched.getD Pod.zero).annotate enabled "true" <;>
        exact hstep.congr rfl rfl rfl rfl
  · rename_i hnot
    exact .idle rfl rfl rfl rfl (fun hinj => hnot hinj.2.1)

/-- Every event idles, stores the shared pair, or stores a new one. -/
theorem keyStep_step (h : Handler) (s : State) (e : Event) : KeyStep s (s.step h e) e := by
  unfold State.step
  by_cases hcrash : s.crashed = true
  · rw [if_pos hcrash]
    refine .idle rfl rfl rfl rfl ?_
    cases e with
    | update pod out => exact fun hinj => absurd hcrash (by rw [hinj.1]; decide)
    | delete pod fails => exact id
  · rw [if_neg hcrash]
    cases e with
    | update pod out => exact keyStep_onUpdate h s pod out (Bool.not_eq_true _ ▸ hcrash)
    | delete pod fails => exact .idle rfl rfl rfl rfl id

/-! ## The invariant -/

/-- `certs` holds the last pair minted, each key was minted once, and the
    secrets so far are their pods' own. -/
structure KeyInvariant (s : State) : Prop where
  unminted : lastMint s.keyLog = none → s.certs.cert = .empty ∧ s.certs.key = .empty
  minted : ∀ pod key, lastMint s.keyLog = some (pod, key) →
    .mint pod key ∈ s.keyLog ∧ PairOf pod key s.certs.cert s.certs.key
  fresh : ∀ pod key, .mint pod key ∈ s.keyLog → key < s.generated
  unique : ∀ pod other key, .mint pod key ∈ s.keyLog → .mint other key ∈ s.keyLog → other = pod
  apart : s.KeysApart

theorem keyInvariant_start (cacert cakey : Pem) (cluster : Cluster) :
    KeyInvariant (State.start cacert cakey cluster) where
  unminted := fun _ => ⟨rfl, rfl⟩
  minted := nofun
  fresh := nofun
  unique := nofun
  apart := nofun

/-- Where a key has one owner, holding one's own pair is holding nobody else's. -/
private theorem ownPair_of_own {log : List Effect} {pod : PodId} {data : SecretData}
    (hunique : ∀ pod other key, .mint pod key ∈ log → .mint other key ∈ log → other = pod)
    (hown : (data.smeshCert = some .empty ∧ data.smeshKey = some .empty) ∨
      ∃ key cert priv, .mint pod key ∈ log ∧ PairOf pod key cert priv ∧
        data.smeshCert = some cert ∧ data.smeshKey = some priv) :
    OwnPair log pod data where
  own := hown
  notOthers := by
    intro other key hmint hheld
    obtain ⟨hcert, hkey⟩ | ⟨k, cert, priv, hmintk, ⟨⟨ca, rfl⟩, rfl⟩, hcert, hkey⟩ := hown
    · rw [hcert, hkey] at hheld
      exact hheld.elim nofun nofun
    · -- both halves of the pair carry `k`, so `key` is `k`
      have hk : key = k := by
        rw [hcert, hkey] at hheld
        simp only [Option.bind_some, Pem.keyId, Option.some.injEq, or_self] at hheld
        exact hheld.symm
      rw [hk] at hmint
      exact hunique pod other k hmintk hmint

/-- A secret stays its pod's own while the log grows. -/
private theorem OwnPair.grow {log log' : List Effect} {pod : PodId} {data : SecretData}
    (h : OwnPair log pod data) (hsub : ∀ x, x ∈ log → x ∈ log')
    (hunique : ∀ pod other key, .mint pod key ∈ log' → .mint other key ∈ log' → other = pod) :
    OwnPair log' pod data := by
  apply ownPair_of_own hunique
  obtain hempty | ⟨key, cert, priv, hmint, hpair⟩ := h.own
  · exact Or.inl hempty
  · exact Or.inr ⟨key, cert, priv, hsub _ hmint, hpair⟩

/-- The new key of a mint is nobody's yet. -/
private theorem KeyInvariant.unique_mint {s : State} (h : KeyInvariant s) (id : PodId)
    (data : SecretData) (created : Bool) (pod other : PodId) (key : KeyId)
    (hp : .mint pod key ∈ Effect.load id data created :: .mint id s.generated :: s.keyLog)
    (ho : .mint other key ∈ Effect.load id data created :: .mint id s.generated :: s.keyLog) :
    other = pod := by
  simp only [List.mem_cons, reduceCtorEq, Effect.mint.injEq, false_or] at hp ho
  -- each of the two mints is the new one or an old one; an old key is below
  -- `generated`, so the mixed cases contradict freshness
  obtain ⟨hpod, hkey⟩ | hp := hp <;> obtain ⟨hother, hkey'⟩ | ho := ho
  · rw [hpod, hother]
  · have hlt := h.fresh other key ho
    rw [hkey] at hlt
    exact absurd hlt (Nat.lt_irrefl _)
  · have hlt := h.fresh pod key hp
    rw [hkey'] at hlt
    exact absurd hlt (Nat.lt_irrefl _)
  · exact h.unique pod other key hp ho

/-- Under the invariant, an event keeps the keys apart exactly when a pod that
    gets the shared pair is the pod of the last mint. -/
private theorem keepsKeysApart_iff (h : Handler) {s : State} (e : Event) (hI : KeyInvariant s) :
    KeepsKeysApart h s e ↔ SharedPairIsOwn s e := by
  unfold KeepsKeysApart
  cases keyStep_step h s e with
  | idle hlog _ _ _ hnot =>
    have hapart : (s.step h e).KeysApart := by
      unfold State.KeysApart
      rw [hlog]
      exact hI.apart
    exact ⟨fun _ hinj => absurd hinj hnot, fun _ => hapart⟩
  | shared data created hdata hlog _ _ _ hinj =>
    have hunique : ∀ pod other key, .mint pod key ∈ (s.step h e).keyLog →
        .mint other key ∈ (s.step h e).keyLog → other = pod := by
      intro pod other key hp ho
      rw [hlog, List.mem_cons] at hp ho
      exact hI.unique pod other key (hp.resolve_left nofun) (ho.resolve_left nofun)
    have hsub : ∀ x, x ∈ s.keyLog → x ∈ (s.step h e).keyLog := by
      intro x hx
      rw [hlog]
      exact List.mem_cons_of_mem _ hx
    -- no mint here, so every old secret is judged as before: the new one decides
    constructor
    · intro hapart _ other key hlast
      -- the new secret holds the last minted pair, so that pod is the secret's own
      obtain ⟨hmint, ⟨⟨ca, hcert⟩, _⟩⟩ := hI.minted other key hlast
      have hload := hapart e.pod.id data created (by rw [hlog]; exact List.mem_cons_self)
      apply hload.notOthers other key (hsub _ hmint)
      left
      rw [hdata.1, hcert]
      rfl
    · intro hcond pod data' created' hmem
      rw [hlog, List.mem_cons] at hmem
      obtain heq | hold := hmem
      · obtain ⟨rfl, rfl, rfl⟩ := Effect.load.inj heq
        apply ownPair_of_own hunique
        -- before the first mint the pair is empty; after it, it is the last one's
        cases hlast : lastMint s.keyLog with
        | none =>
          obtain ⟨hcert, hkey⟩ := hI.unminted hlast
          exact Or.inl ⟨by rw [hdata.1, hcert], by rw [hdata.2, hkey]⟩
        | some last =>
          obtain ⟨other, key⟩ := last
          obtain ⟨hmint, hpair⟩ := hI.minted other key hlast
          obtain rfl := hcond hinj other key hlast
          exact Or.inr ⟨key, _, _, hsub _ hmint, hpair, hdata.1, hdata.2⟩
      · exact (hI.apart pod data' created' hold).grow hsub hunique
  | minted data created hdata hlog hpair _ hnot =>
    -- a fresh key for the very pod whose secret is written: always its own
    have hapart : (s.step h e).KeysApart := by
      intro pod data' created' hmem
      rw [hlog] at hmem ⊢
      have hunique := hI.unique_mint e.pod.id data created
      rw [List.mem_cons, List.mem_cons] at hmem
      obtain heq | heq | hold := hmem
      · obtain ⟨rfl, rfl, rfl⟩ := Effect.load.inj heq
        apply ownPair_of_own hunique
        exact Or.inr ⟨s.generated, _, _, by simp, hpair, hdata.1, hdata.2⟩
      · exact nomatch heq
      · apply (hI.apart pod data' created' hold).grow _ hunique
        intro x hx
        exact List.mem_cons_of_mem _ (List.mem_cons_of_mem _ hx)
    exact ⟨fun _ hinj => absurd hinj hnot, fun _ => hapart⟩

/-- An event that keeps the keys apart keeps the invariant. -/
private theorem keyInvariant_step (h : Handler) (s : State) (e : Event) (hI : KeyInvariant s)
    (hapart : KeepsKeysApart h s e) : KeyInvariant (s.step h e) := by
  cases keyStep_step h s e with
  | idle hlog hcert hkey hgen _ =>
    exact {
      unminted := by rw [hlog, hcert, hkey]; exact hI.unminted
      minted := by rw [hlog, hcert, hkey]; exact hI.minted
      fresh := by rw [hlog, hgen]; exact hI.fresh
      unique := by rw [hlog]; exact hI.unique
      apart := hapart }
  | shared data created _ hlog hcert hkey hgen _ =>
    have hmem : ∀ pod key, .mint pod key ∈ (s.step h e).keyLog ↔ .mint pod key ∈ s.keyLog := by
      intro pod key
      rw [hlog, List.mem_cons]
      exact or_iff_right nofun
    exact {
      unminted := by rw [hlog, hcert, hkey]; exact hI.unminted
      minted := by
        intro pod key hlast
        rw [hmem, hcert, hkey]
        rw [hlog] at hlast
        exact hI.minted pod key hlast
      fresh := by
        intro pod key
        rw [hmem, hgen]
        exact hI.fresh pod key
      unique := by
        intro pod other key
        rw [hmem, hmem]
        exact hI.unique pod other key
      apart := hapart }
  | minted data created _ hlog hpair hgen _ =>
    exact {
      unminted := by
        intro hlast
        rw [hlog] at hlast
        exact nomatch hlast
      minted := by
        intro pod key hlast
        rw [hlog] at hlast ⊢
        -- the last mint is now this step's
        obtain ⟨rfl, rfl⟩ : e.pod.id = pod ∧ s.generated = key := by
          simpa only [lastMint, Option.some.injEq, Prod.mk.injEq] using hlast
        exact ⟨by simp, hpair⟩
      fresh := by
        intro pod key hmint
        rw [hlog] at hmint
        simp only [List.mem_cons, reduceCtorEq, Effect.mint.injEq, false_or] at hmint
        obtain ⟨_, rfl⟩ | hold := hmint
        · omega
        · have := hI.fresh pod key hold
          omega
      unique := by
        rw [hlog]
        exact hI.unique_mint e.pod.id data created
      apart := hapart }

/-! ## Main results -/

/-- In a run of the watcher from empty certificates every secret holds nothing
    or its own pod's pair, exactly when no pod without the encrypt annotation is
    injected after a certificate was last minted for another pod. -/
theorem keys_apart_iff (h : Handler) (cacert cakey : Pem) (cluster : Cluster) (es : List Event) :
    Trace.Along (State.step h) (KeepsKeysApart h) (State.start cacert cakey cluster) es ↔
      Trace.Along (State.step h) SharedPairIsOwn (State.start cacert cakey cluster) es := by
  apply Trace.along_iff_of_invariant (I := KeyInvariant)
  · intro s e hI hapart
    exact keyInvariant_step h s e hI hapart
  · intro s e hI
    exact keepsKeysApart_iff h e hI
  · exact keyInvariant_start cacert cakey cluster

/-! ## An unencrypted pod gets an encrypted pod's key -/

/-- A pod with one annotation of the gateway's. -/
def annotatedPod (name ip annotated : String) : Pod :=
  { name := name, namespace_ := "default", podIP := ip,
    annotations := some (AList.singleton annotated "true"), containers := ["app"],
    ephemeralContainers := [], shareProcessNamespace := false }

/-- All calls of an update succeed; the patch returns the pod as it was sent. -/
def allSucceed (pod : Pod) : UpdateOutcome :=
  { check := ⟨false, false, false, some "token", false⟩, loadFails := false,
    patched := some pod, updateFails := false }

/-- An encrypted pod is injected, and then one that only wants the AI gateway. -/
def encryptedThenAi : List Event :=
  let first := annotatedPod "a" "10.0.0.1" encryptGateway
  let second := annotatedPod "b" "10.0.0.2" aiGateway
  [.update first (allSucceed first), .update second (allSucceed second)]

/-- The secret both pods get: the pair minted for the first. -/
def firstPair : SecretData :=
  { smeshCa := some (.certificate [] [] 0 0)
    smeshCert := some (.certificate ["a"] ["10.0.0.1"] 1 0)
    smeshKey := some (.rsaPrivateKey 1)
    token := some "token" }

/-- The keys of pods are not always kept apart: the secret of the second pod
    holds the private key minted for the first. -/
theorem not_keys_apart :
    ¬ ∀ (h : Handler) (cacert cakey : Pem) (cluster : Cluster) (es : List Event),
      Trace.Along (State.step h) (KeepsKeysApart h) (State.start cacert cakey cluster) es := by
  intro hclaim
  obtain ⟨_, hapart, _⟩ := hclaim ⟨"image", false, "10.0.0.0/16"⟩ (.certificate [] [] 0 0)
    (.rsaPrivateKey 0) ⟨∅, [], ∅⟩ encryptedThenAi
  -- the secret of the second pod is in the log, and so is the mint for the first
  have hown := hapart ⟨"default", "b", "10.0.0.2"⟩ firstPair true (by
    show _ ∈ [Effect.load ⟨"default", "b", "10.0.0.2"⟩ firstPair true, _, _]
    exact List.mem_cons_self)
  have hother := hown.notOthers ⟨"default", "a", "10.0.0.1"⟩ 1 (by
    show _ ∈ [_, _, Effect.mint ⟨"default", "a", "10.0.0.1"⟩ 1]
    exact List.mem_cons_of_mem _ (List.mem_cons_of_mem _ List.mem_cons_self))
    (Or.inr rfl)
  exact absurd hother (by decide)

end KubeGateway.Watcher

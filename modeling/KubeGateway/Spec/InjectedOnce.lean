import KubeGateway.Native.PodEvents
import KubeGateway.Spec.Injection

/-!
# A pod is injected once

The guard of `OnUpdate` reads the enabled annotation in the event, and the
handler writes it with its second call.  The event of its first call, the patch,
is the pod without the annotation, and is delivered before that of the second:
so the handler injects the pod again.

`injected_once` says which runs are free of this.
-/

namespace KubeGateway.Watcher

/-! ## The property -/

/-- The effect is the secret of an injection of the pod; each injection has one. -/
def Effect.injects (key : String × String) : Effect → Bool
  | .load pod _ _ => (pod.namespace_, pod.name) = key
  | .mint _ _ => false
  | .patch _ _ => false
  | .update _ => false

/-- How often the pod has been injected so far. -/
def State.injections (s : State) (key : String × String) : Nat := s.log.countP (Effect.injects key)

/-! ## The condition -/

/-- The event makes `OnUpdate` inject the pod. -/
def PodEvent.wants (key : String × String) : PodEvent → Bool
  | .updated pod => pod.key = key && pod.wantsGateway
  | .deleted _ => false

/-- The injections of the pod that the waiting events lead to. -/
def Api.demand (a : Api) (key : String × String) : Nat := a.pending.countP (PodEvent.wants key)

/-- What keeps a pod that had been injected `n` times before its life began from
    being injected twice in it: nobody writes it so that it wants the gateway
    when this has been done or is about to be, and by the time it is injected
    someone else has seen to it that the stored pod does not want the gateway. -/
def AsksOnce (key : String × String) (n : Nat) (a : Api) : Act → Prop
  | .write pod => a.watcher.crashed = false → pod.key = key → pod.wantsGateway = true →
      a.watcher.injections key + a.demand key ≤ n
  | .deliver _ _ => a.watcher.crashed = false → ∀ pod rest, a.pending = .updated pod :: rest →
      pod.key = key → pod.wantsGateway = true →
      ∀ stored, a.pods key = some stored → stored.wantsGateway = false
  | _ => True

/-! ## What the handler adds -/

/-- Effects that are older come first. -/
theorem podWrites_append (patched : Option Pod) (newer older : List Effect) :
    podWrites patched (newer ++ older) = podWrites patched older ++ podWrites patched newer := by
  simp only [podWrites, List.reverse_append, List.flatMap_append]

theorem effectsSince_eq {s s' : State} {effects : List Effect} (hlog : s'.log = effects ++ s.log) :
    s'.effectsSince s = effects := by
  unfold State.effectsSince
  rw [hlog, List.length_append, Nat.add_sub_cancel, List.take_left']
  rfl

theorem onUpdate_of_not_wants {h : Handler} {s : State} {pod : Pod} {out : UpdateOutcome}
    (hwants : pod.wantsGateway = false) : s.onUpdate h pod out = s := by
  unfold State.onUpdate
  rw [if_neg (by rw [hwants]; exact Bool.false_ne_true)]

/-- An event leads to at most one injection, of its own pod. -/
theorem injections_onUpdate (h : Handler) (s : State) (pod : Pod) (out : UpdateOutcome)
    (key : String × String) :
    (s.onUpdate h pod out).injections key ≤
      s.injections key + (if pod.key = key && pod.wantsGateway then 1 else 0) := by
  cases hwants : pod.wantsGateway with
  | false =>
    rw [onUpdate_of_not_wants hwants]
    omega
  | true =>
    obtain ⟨later, hlog, hlater⟩ := @log_onUpdate h s pod out hwants
    -- nothing after the containers counts
    have hnone : later.countP (Effect.injects key) = 0 := by
      obtain rfl | ⟨sent, copied, -, rfl⟩ | ⟨sent, copied, stored, marked, -, -, rfl⟩ := hlater
      all_goals rfl
    have hfirst : (withProxyContainer h s pod out).1.log.countP (Effect.injects key) ≤
        s.log.countP (Effect.injects key) + (if decide (pod.key = key) = true then 1 else 0) := by
      obtain heq | ⟨data, created, heq⟩ | ⟨data, created, heq⟩ := log_withProxyContainer h s pod out
      · rw [heq]
        omega
      · rw [heq, List.countP_cons]
        exact Nat.le_refl _
      · rw [heq, List.countP_cons, List.countP_cons_of_neg Bool.false_ne_true]
        exact Nat.le_refl _
    unfold State.injections
    rw [hlog, List.countP_append, hnone, Nat.zero_add]
    simpa only [Bool.and_true] using hfirst

/-- The handler writes what the patch stored, and this with the annotation. -/
theorem mem_podWrites_onUpdate {h : Handler} {s : State} {pod w : Pod} {out : UpdateOutcome}
    (hw : w ∈ podWrites out.patched ((s.onUpdate h pod out).effectsSince s)) :
    pod.wantsGateway = true ∧ (out.patched = some w ∨
      ∃ stored, out.patched = some stored ∧ stored.annotate enabled "true" = some w) := by
  cases hwants : pod.wantsGateway with
  | false =>
    rw [onUpdate_of_not_wants hwants, effectsSince_eq (List.nil_append s.log).symm] at hw
    exact absurd hw List.not_mem_nil
  | true =>
    refine ⟨rfl, ?_⟩
    obtain ⟨later, hlog, hlater⟩ := @log_onUpdate h s pod out hwants
    -- a mint and a secret are no writes to pods
    obtain ⟨first, hfirst, hquiet⟩ : ∃ first, (withProxyContainer h s pod out).1.log =
        first ++ s.log ∧ podWrites out.patched first = [] := by
      obtain heq | ⟨data, created, heq⟩ | ⟨data, created, heq⟩ := log_withProxyContainer h s pod out
      · exact ⟨[], heq, rfl⟩
      · exact ⟨[_], heq, rfl⟩
      · exact ⟨[_, _], heq, rfl⟩
    rw [hfirst, ← List.append_assoc] at hlog
    rw [effectsSince_eq hlog, podWrites_append, hquiet, List.nil_append] at hw
    obtain rfl | ⟨sent, copied, -, rfl⟩ |
      ⟨sent, copied, stored, marked, hpatched, hmark, rfl⟩ := hlater
    · exact absurd hw List.not_mem_nil
    · exact Or.inl (by simpa [podWrites] using hw)
    · rw [hpatched] at hw ⊢
      simp only [podWrites, List.reverse_cons, List.reverse_nil, List.nil_append,
        List.cons_append, List.flatMap_cons, Option.toList_some, List.flatMap_nil,
        List.append_nil, List.mem_cons, List.not_mem_nil, or_false] at hw
      obtain rfl | rfl := hw
      · exact Or.inl rfl
      · exact Or.inr ⟨stored, rfl, hmark⟩

/-! ## What the writes add -/

/-- A pod that is marked does not want the gateway. -/
theorem wantsGateway_marked {pod marked : Pod}
    (hmark : pod.annotate enabled "true" = some marked) : marked.wantsGateway = false := by
  have hvalue : marked.annotationValue enabled = "true" := by
    rw [annotationValue_annotate hmark, if_pos rfl]
  simp [Pod.wantsGateway, hvalue]

theorem watcher_write (a : Api) (pod : Pod) : (a.write pod).watcher = a.watcher := by
  unfold Api.write
  split <;> rfl

theorem demand_write (a : Api) (pod : Pod) (key : String × String) :
    (a.write pod).demand key ≤
      a.demand key + (if pod.key = key && pod.wantsGateway then 1 else 0) := by
  unfold Api.write
  split
  · simp only [Api.demand, List.countP_append, List.countP_singleton, PodEvent.wants,
      Bool.and_eq_true, decide_eq_true_eq]
    exact Nat.le_refl _
  · omega

/-- Writes that do not make the pod want the gateway leave the demand. -/
theorem demand_writes {key : String × String} {ws : List Pod}
    (hquiet : ∀ w ∈ ws, w.key = key → w.wantsGateway = false) (a : Api) :
    (ws.foldl Api.write a).watcher = a.watcher ∧
      (ws.foldl Api.write a).demand key ≤ a.demand key := by
  induction ws generalizing a with
  | nil => exact ⟨rfl, Nat.le_refl _⟩
  | cons w ws ih =>
    obtain ⟨hwatcher, hdemand⟩ := ih (fun x hx => hquiet x (List.mem_cons_of_mem _ hx)) (a.write w)
    rw [List.foldl_cons]
    refine ⟨hwatcher.trans (watcher_write a w), Nat.le_trans hdemand ?_⟩
    have hstep := demand_write a w key
    have hw : ¬ (w.key = key && w.wantsGateway) = true := by
      intro hboth
      rw [Bool.and_eq_true, decide_eq_true_eq] at hboth
      exact absurd hboth.2 (by rw [hquiet w List.mem_cons_self hboth.1]; exact Bool.false_ne_true)
    rw [if_neg hw] at hstep
    exact hstep

/-! ## The invariant -/

/-- The pod has been injected once at most since its life began; while the watcher
    runs, the injections that wait are counted too. -/
structure AtMostOnce (key : String × String) (n : Nat) (a : Api) : Prop where
  done : a.watcher.injections key ≤ n + 1
  waiting : a.watcher.crashed = false → a.watcher.injections key + a.demand key ≤ n + 1

/-- An update event that meets the condition. -/
private theorem atMostOnce_updated {h : Handler} {key : String × String} {n : Nat} {a : Api}
    {pod : Pod} {rest : List PodEvent} {containers : List EphemeralContainer} {token : String}
    (hI : AtMostOnce key n a) (hpending : a.pending = .updated pod :: rest)
    (hcond : AsksOnce key n a (.deliver containers token)) :
    AtMostOnce key n (a.deliver h containers token) := by
  unfold Api.deliver
  rw [hpending]
  dsimp only
  generalize hout : UpdateOutcome.mk (.succeeds token) false (a.patched pod.key containers)
    false = out
  have hpatched : a.patched pod.key containers = out.patched := by rw [← hout]
  rw [hpatched]
  cases hcrash : a.watcher.crashed with
  | true =>
    -- a process that has panicked writes nothing
    rw [step_of_crashed hcrash, effectsSince_eq (List.nil_append a.watcher.log).symm]
    refine ⟨hI.done, fun hrun => absurd hrun ?_⟩
    rw [← Bool.not_eq_true]
    exact not_not_intro hcrash
  | false =>
    rw [step_update hcrash]
    have hquiet : ∀ w ∈ podWrites out.patched
        ((a.watcher.onUpdate h pod out).effectsSince a.watcher),
        w.key = key → w.wantsGateway = false := by
      intro w hw hkey
      obtain ⟨hwants, hw | ⟨stored, -, hmark⟩⟩ := mem_podWrites_onUpdate hw
      · -- the pod that the patch stored: the one that was stored, but for its containers
        rw [← hpatched] at hw
        obtain ⟨stored, hstored, rfl⟩ := Option.map_eq_some_iff.mp hw
        have hpod : pod.key = key := (a.keyed _ _ hstored).symm.trans hkey
        rw [hpod] at hstored
        exact hcond hcrash pod rest hpending hpod hwants stored hstored
      · exact wantsGateway_marked hmark
    obtain ⟨hwatcher, hdemand⟩ := demand_writes hquiet
      { a with pending := rest, watcher := a.watcher.onUpdate h pod out }
    have hinj := injections_onUpdate h a.watcher pod out key
    have hbefore : a.demand key = rest.countP (PodEvent.wants key) +
        (if pod.key = key && pod.wantsGateway then 1 else 0) := by
      unfold Api.demand
      rw [hpending, List.countP_cons]
      rfl
    have hafter : Api.demand { a with
        pending := rest, watcher := a.watcher.onUpdate h pod out } key =
          rest.countP (PodEvent.wants key) := rfl
    have hI := hI.waiting hcrash
    constructor
    · rw [hwatcher]
      dsimp only
      omega
    · intro _
      rw [hwatcher]
      dsimp only
      omega

/-- A step that meets the condition keeps the pod at one injection. -/
theorem atMostOnce_step {h : Handler} {key : String × String} {n : Nat} (a : Api) (act : Act)
    (hI : AtMostOnce key n a) (hcond : AsksOnce key n a act) :
    AtMostOnce key n (a.step h act) := by
  cases act with
  | create pod =>
    show AtMostOnce key n (a.create pod)
    unfold Api.create
    split
    · exact hI
    · exact ⟨hI.done, hI.waiting⟩
  | write pod =>
    have hdemand := demand_write a pod key
    show AtMostOnce key n (a.write pod)
    refine ⟨by rw [watcher_write]; exact hI.done, ?_⟩
    rw [watcher_write]
    intro hrun
    have hI := hI.waiting hrun
    split at hdemand
    · rename_i hwants
      rw [Bool.and_eq_true, decide_eq_true_eq] at hwants
      have := hcond hrun hwants.1 hwants.2
      omega
    · omega
  | remove removed =>
    show AtMostOnce key n (a.remove removed)
    unfold Api.remove
    split
    · exact hI
    · refine ⟨hI.done, fun hrun => ?_⟩
      have hI := hI.waiting hrun
      simpa [Api.demand, PodEvent.wants] using hI
  | others cluster => exact ⟨hI.done, hI.waiting⟩
  | deliver containers token =>
    show AtMostOnce key n (a.deliver h containers token)
    cases hpending : a.pending with
    | nil =>
      unfold Api.deliver
      rw [hpending]
      exact hI
    | cons event rest =>
      cases event with
      | updated pod => exact atMostOnce_updated hI hpending hcond
      | deleted pod =>
        unfold Api.deliver
        rw [hpending]
        dsimp only
        cases hcrash : a.watcher.crashed with
        | true =>
          rw [step_of_crashed hcrash]
          exact ⟨hI.done, fun hrun => absurd (hcrash.symm.trans hrun) (by decide)⟩
        | false =>
          rw [step_delete hcrash]
          have hwaiting := hI.waiting hcrash
          unfold Api.demand at hwaiting
          rw [hpending, List.countP_cons] at hwaiting
          refine ⟨hI.done, fun _ => Nat.le_trans ?_ hwaiting⟩
          exact Nat.add_le_add_left (Nat.le_add_right _ _) _

/-! ## Main results -/

/-- In a run in which nobody else makes the pod ask for the gateway twice, and the
    stored pod does not want it any more when it is injected, a pod for which at most
    one event was waiting at the start is injected once at most. -/
theorem injected_once (h : Handler) (a : Api) (key : String × String) (acts : List Act)
    (hnew : a.demand key ≤ 1)
    (hcond : Trace.Along (Api.step h) (AsksOnce key (a.watcher.injections key)) a acts) :
    (Trace.run (Api.step h) a acts).watcher.injections key ≤ a.watcher.injections key + 1 := by
  have hstart : AtMostOnce key (a.watcher.injections key) a :=
    ⟨Nat.le_succ _, fun _ => Nat.add_le_add_left hnew _⟩
  exact (Trace.run_of_along atMostOnce_step hstart hcond).done

/-- An empty cluster and a watcher with a CA. -/
def newApi : Api := Api.start (.certificate [] [] 0 0) (.rsaPrivateKey 0) ⟨∅, [], ∅⟩

/-- A pod's way to its first event: created without an address, which then
    comes. -/
def addressed : List Act :=
  [.create (annotatedPod "a" "" encryptGateway),
    .write (annotatedPod "a" "10.0.0.1" encryptGateway)]

/-- What the patch of the pod with its address stores. -/
def addressedContainers : List EphemeralContainer :=
  [gatewayContainer ⟨"image", false, "10.0.0.0/16"⟩
    (annotatedPod "a" "10.0.0.1" encryptGateway) "app"]

/-- The pod with its address, marked as enabled. -/
def enabledPod : Pod :=
  { annotatedPod "a" "10.0.0.1" encryptGateway with
    annotations := some ((AList.singleton encryptGateway "true").insert enabled "true") }

/-- `injected_once` for a pod that someone marks before the watcher does. -/
theorem injected_once_marked :
    (Trace.run (Api.step ⟨"image", false, "10.0.0.0/16"⟩) newApi
      (addressed ++ [.write enabledPod, .deliver addressedContainers "t"])).watcher.injections
        ("default", "a") ≤ 1 := by
  have hmarked : enabledPod.wantsGateway = false := by decide
  apply injected_once _ newApi
  · exact Nat.zero_le 1
  · refine ⟨trivial, fun _ _ _ => by decide, fun _ _ hwants => ?_, ?_, trivial⟩
    · exact absurd (hmarked.symm.trans hwants) (by decide)
    · intro _ _ _ _ _ _ stored hstored
      obtain rfl : enabledPod = stored := Option.some.inj hstored
      exact hmarked

/-! ## A pod that is injected twice -/

/-- A pod can be injected twice: the event of the patch is the pod without the
    annotation.  Someone deletes the secret in between, so that no call fails. -/
theorem not_injected_once :
    ¬ ∀ (h : Handler) (a : Api) (key : String × String) (acts : List Act), a.demand key = 0 →
      (Trace.run (Api.step h) a acts).watcher.injections key ≤ a.watcher.injections key + 1 := by
  intro hclaim
  have htwice := hclaim ⟨"image", false, "10.0.0.0/16"⟩ newApi ("default", "a")
    (addressed ++ [.deliver addressedContainers "t", .others ⟨∅, [], ∅⟩,
      .deliver addressedContainers "t"]) rfl
  exact absurd htwice (by decide)

end KubeGateway.Watcher

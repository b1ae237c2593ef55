import KubeGateway.Spec.InjectedOnce

/-!
# The watcher comes to rest, and leaves no pod out

Every write to a pod is an event, and the handler answers an event with writes of its
own.  `settles` says that this ends: once nobody else writes, a bounded number of
deliveries empties the queue, and then the watcher has panicked or the pods that still
want a gateway are the ones that nobody has written since they were created, for which
the informer calls `OnAdd`, which does nothing.  No call of the handler fails on its own
here: an `Update` that does leaves the pod unmarked, and the patch's event starts it
again.
-/

namespace KubeGateway.Watcher

/-! ## One delivery -/

/-- The pod with the containers that a patch gives it. -/
def Pod.withContainers (pod : Pod) (containers : List EphemeralContainer) : Pod :=
  { pod with ephemeralContainers := containers }

@[simp] theorem key_withContainers (pod : Pod) (containers : List EphemeralContainer) :
    (pod.withContainers containers).key = pod.key := rfl

@[simp] theorem wantsGateway_withContainers (pod : Pod) (containers : List EphemeralContainer) :
    (pod.withContainers containers).wantsGateway = pod.wantsGateway := rfl

/-- What the handler writes while it handles the event of a pod: nothing; or what the
    patch stored, and then that pod with the annotation.  It stops before the end in a
    panic only. -/
theorem onUpdate_podWrites {h : Handler} {s : State} {pod : Pod} {out : UpdateOutcome}
    (hwants : pod.wantsGateway = true) :
    ((s.onUpdate h pod out).crashed = true ∧
      podWrites out.patched ((s.onUpdate h pod out).effectsSince s) = []) ∨
    ∃ patched, out.patched = some patched ∧
      ((patched.annotate enabled "true" = none ∧ (s.onUpdate h pod out).crashed = true ∧
        podWrites out.patched ((s.onUpdate h pod out).effectsSince s) = [patched]) ∨
      ∃ marked, patched.annotate enabled "true" = some marked ∧
        podWrites out.patched ((s.onUpdate h pod out).effectsSince s) = [patched, marked]) := by
  -- a mint and a secret are no writes to pods
  obtain ⟨first, hfirst, hquiet⟩ : ∃ first, (withProxyContainer h s pod out).1.log =
      first ++ s.log ∧ podWrites out.patched first = [] := by
    obtain heq | ⟨data, created, heq⟩ | ⟨data, created, heq⟩ := log_withProxyContainer h s pod out
    · exact ⟨[], heq, rfl⟩
    · exact ⟨[_], heq, rfl⟩
    · exact ⟨[_, _], heq, rfl⟩
  -- so the writes are those of the effects that follow
  have hwrites : ∀ later, (s.onUpdate h pod out).log =
      later ++ (withProxyContainer h s pod out).1.log →
      podWrites out.patched ((s.onUpdate h pod out).effectsSince s) =
        podWrites out.patched later := by
    intro later hlog
    rw [hfirst, ← List.append_assoc] at hlog
    rw [effectsSince_eq hlog, podWrites_append, hquiet, List.nil_append]
  cases hinj : withProxyContainer h s pod out with
  | mk s' result =>
    rw [hinj] at hwrites
    cases result with
    | none =>
      have hstep : s.onUpdate h pod out = { s' with crashed := true } := by
        unfold State.onUpdate
        rw [if_pos hwants, hinj]
      left
      refine ⟨by rw [hstep], hwrites [] ?_⟩
      rw [hstep]
      rfl
    | some pods =>
      obtain ⟨sent, copied⟩ := pods
      cases hpatched : out.patched with
      | none =>
        -- the empty pod cannot be annotated
        have hstep : s.onUpdate h pod out =
            { s' with log := .patch sent copied :: s'.log, crashed := true } := by
          unfold State.onUpdate
          rw [if_pos hwants, hinj]
          simp [hpatched, Pod.annotate, Pod.zero]
        left
        have hlater := hwrites [.patch sent copied] (by rw [hstep]; rfl)
        rw [hpatched] at hlater
        exact ⟨by rw [hstep], hlater⟩
      | some patched =>
        right
        refine ⟨patched, rfl, ?_⟩
        cases hmark : patched.annotate enabled "true" with
        | none =>
          have hstep : s.onUpdate h pod out =
              { s' with log := .patch sent copied :: s'.log, crashed := true } := by
            unfold State.onUpdate
            rw [if_pos hwants, hinj]
            simp [hpatched, hmark]
          left
          have hlater := hwrites [.patch sent copied] (by rw [hstep]; rfl)
          rw [hpatched] at hlater
          exact ⟨rfl, by rw [hstep], hlater⟩
        | some marked =>
          have hstep : s.onUpdate h pod out =
              { s' with log := .update marked :: .patch sent copied :: s'.log } := by
            unfold State.onUpdate
            rw [if_pos hwants, hinj]
            simp [hpatched, hmark]
          right
          have hlater := hwrites [.update marked, .patch sent copied] (by rw [hstep]; rfl)
          rw [hpatched] at hlater
          exact ⟨marked, rfl, hlater⟩

theorem key_annotate {pod marked : Pod} {key value : String}
    (hmark : pod.annotate key value = some marked) : marked.key = pod.key := by
  unfold Pod.annotate at hmark
  obtain ⟨m, -, rfl⟩ := Option.map_eq_some_iff.mp hmark
  rfl

theorem write_of_isSome {a : Api} {pod : Pod} (hpod : (a.pods pod.key).isSome) :
    (a.write pod).pods = Function.update a.pods pod.key (some pod) ∧
      (a.write pod).pending = a.pending ++ [.updated pod] := by
  unfold Api.write
  rw [if_pos hpod]
  exact ⟨rfl, rfl⟩

theorem remove_of_some {a : Api} {key : String × String} {pod : Pod}
    (hpod : a.pods key = some pod) :
    (a.remove key).pods = Function.update a.pods key none ∧
      (a.remove key).pending = a.pending ++ [.deleted pod] ∧
      (a.remove key).watcher = a.watcher := by
  unfold Api.remove
  split
  · rename_i hnone
    rw [hpod] at hnone
    cases hnone
  · rename_i found hfound
    obtain rfl : pod = found := Option.some.inj (hpod.symm.trans hfound)
    exact ⟨rfl, rfl, rfl⟩

theorem remove_of_none {a : Api} {key : String × String} (hpod : a.pods key = none) :
    a.remove key = a := by
  unfold Api.remove
  split
  · rfl
  · rename_i found hfound
    rw [hpod] at hfound
    cases hfound

theorem deliver_of_nil {h : Handler} {a : Api} (hpending : a.pending = [])
    (containers : List EphemeralContainer) (token : String) : a.deliver h containers token = a := by
  unfold Api.deliver
  rw [hpending]

theorem deliver_deleted {h : Handler} {a : Api} {pod : Pod} {rest : List PodEvent}
    (hpending : a.pending = .deleted pod :: rest) (containers : List EphemeralContainer)
    (token : String) :
    (a.deliver h containers token).pods = a.pods ∧
      (a.deliver h containers token).pending = rest ∧
      (a.deliver h containers token).watcher = a.watcher.step h (.delete pod false) := by
  unfold Api.deliver
  rw [hpending]
  exact ⟨rfl, rfl, rfl⟩

/-- A delivery of the event of a pod takes the event off the queue, and one of: it
    writes nothing, because the pod does not want the gateway or the watcher has
    panicked; it stores the patched pod only and panics; it marks the stored pod, after
    a patch. -/
theorem deliver_updated {h : Handler} {a : Api} {pod : Pod} {rest : List PodEvent}
    {containers : List EphemeralContainer} {token : String}
    (hpending : a.pending = .updated pod :: rest) :
    let a' := a.deliver h containers token
    (a'.pods = a.pods ∧ a'.pending = rest ∧
      (pod.wantsGateway = false ∨ a'.watcher.crashed = true)) ∨
    ∃ stored, a.pods pod.key = some stored ∧ pod.wantsGateway = true ∧
      (((stored.withContainers containers).annotate enabled "true" = none ∧
        a'.watcher.crashed = true ∧
        a'.pods = Function.update a.pods pod.key (some (stored.withContainers containers)) ∧
        a'.pending = rest ++ [.updated (stored.withContainers containers)]) ∨
      ∃ marked, (stored.withContainers containers).annotate enabled "true" = some marked ∧
        a'.pods = Function.update a.pods pod.key (some marked) ∧
        a'.pending = rest ++ [.updated (stored.withContainers containers), .updated marked]) := by
  intro a'
  have hdeliver : a' = a.deliver h containers token := rfl
  unfold Api.deliver at hdeliver
  rw [hpending] at hdeliver
  dsimp only at hdeliver
  generalize hout : UpdateOutcome.mk (.succeeds token) false (a.patched pod.key containers)
    false = out at hdeliver
  have hpatched : a.patched pod.key containers = out.patched := by rw [← hout]
  rw [hpatched] at hdeliver
  clear_value a'
  subst hdeliver
  cases hcrash : a.watcher.crashed with
  | true =>
    rw [step_of_crashed hcrash, effectsSince_eq (List.nil_append a.watcher.log).symm]
    exact Or.inl ⟨rfl, rfl, Or.inr hcrash⟩
  | false =>
    rw [step_update hcrash]
    cases hwants : pod.wantsGateway with
    | false =>
      rw [onUpdate_of_not_wants hwants, effectsSince_eq (List.nil_append a.watcher.log).symm]
      exact Or.inl ⟨rfl, rfl, Or.inl rfl⟩
    | true =>
      obtain ⟨hcrashes, hwrites⟩ | ⟨patched, hsome, hwrites⟩ :=
        @onUpdate_podWrites h a.watcher pod out hwants
      · rw [hwrites]
        exact Or.inl ⟨rfl, rfl, Or.inr hcrashes⟩
      · right
        -- the patch stored the pod that was there, but for its containers
        rw [← hpatched] at hsome
        obtain ⟨stored, hstored, rfl⟩ := Option.map_eq_some_iff.mp hsome
        have hkey : stored.key = pod.key := a.keyed _ _ hstored
        refine ⟨stored, hstored, rfl, ?_⟩
        let a₁ : Api := { a with pending := rest, watcher := a.watcher.onUpdate h pod out }
        let patched : Pod := stored.withContainers containers
        have hpkey : patched.key = pod.key := hkey
        obtain ⟨hpods, hqueue⟩ := @write_of_isSome a₁ patched (by
          rw [hpkey]
          show (a.pods pod.key).isSome
          rw [hstored]
          rfl)
        obtain ⟨hmark, hcrashes, hwrites⟩ | ⟨marked, hmark, hwrites⟩ := hwrites
        · left
          rw [hwrites]
          refine ⟨hmark, ?_, ?_, hqueue⟩
          · exact (congrArg State.crashed (watcher_write a₁ patched)).trans hcrashes
          · exact hpods.trans (by rw [hpkey])
        · right
          rw [hwrites]
          have hmkey : marked.key = pod.key := (key_annotate hmark).trans hpkey
          have hstill : ((a₁.write patched).pods marked.key).isSome := by
            rw [hpods, hmkey, hpkey, Function.update_self]
            rfl
          obtain ⟨hpods', hqueue'⟩ := @write_of_isSome (a₁.write patched) marked hstill
          refine ⟨marked, hmark, ?_, ?_⟩
          · refine hpods'.trans ?_
            rw [hpods, hmkey, hpkey, Function.update_idem]
          · refine hqueue'.trans ?_
            rw [hqueue, List.append_assoc]
            rfl

/-! ## The work that is left -/

/-- The stored pod wants a gateway. -/
def StoredWants (pods : String × String → Option Pod) (key : String × String) : Bool :=
  (pods key).any Pod.wantsGateway

/-- How many deliveries an event can lead to.  The event of an injection's patch is the
    stored pod, which leads to an injection again if it is not marked yet. -/
def PodEvent.weight (pods : String × String → Option Pod) : PodEvent → Nat
  | .updated pod =>
    if pod.wantsGateway then if StoredWants pods pod.key then 5 else 3
    else 1
  | .deleted _ => 1

/-- The deliveries that the waiting events can lead to. -/
def workload (pods : String × String → Option Pod) : List PodEvent → Nat
  | [] => 0
  | e :: es => e.weight pods + workload pods es

def Api.workload (a : Api) : Nat := Watcher.workload a.pods a.pending

theorem PodEvent.weight_bounds (pods : String × String → Option Pod) (e : PodEvent) :
    1 ≤ e.weight pods ∧ e.weight pods ≤ 5 := by
  unfold PodEvent.weight
  repeat' split
  all_goals decide

theorem PodEvent.weight_of_wants {pods : String × String → Option Pod} {pod : Pod}
    (hwants : pod.wantsGateway = true) :
    (PodEvent.updated pod).weight pods = if StoredWants pods pod.key then 5 else 3 :=
  if_pos hwants

theorem PodEvent.weight_of_not_wants {pods : String × String → Option Pod} {pod : Pod}
    (hwants : pod.wantsGateway = false) : (PodEvent.updated pod).weight pods = 1 :=
  if_neg (by rw [hwants]; exact Bool.false_ne_true)

theorem workload_append (pods : String × String → Option Pod) (es es' : List PodEvent) :
    workload pods (es ++ es') = workload pods es + workload pods es' := by
  induction es with
  | nil => rw [List.nil_append, workload, Nat.zero_add]
  | cons e es ih => rw [List.cons_append, workload, workload, ih, Nat.add_assoc]

theorem workload_bounds (pods : String × String → Option Pod) (es : List PodEvent) :
    es.length ≤ workload pods es ∧ workload pods es ≤ 5 * es.length := by
  induction es with
  | nil => exact ⟨Nat.le_refl _, Nat.le_refl _⟩
  | cons e es ih =>
    have hbounds := e.weight_bounds pods
    unfold workload
    rw [List.length_cons]
    omega

/-- Storing a pod that wants no more than the one before it adds no work. -/
theorem workload_update_le {pods : String × String → Option Pod} {key : String × String}
    {pod : Pod} (hwants : pod.wantsGateway = true → StoredWants pods key = true)
    (es : List PodEvent) :
    workload (Function.update pods key (some pod)) es ≤ workload pods es := by
  -- no pod is stored that wants a gateway where none did
  have hstored : ∀ other, StoredWants (Function.update pods key (some pod)) other = true →
      StoredWants pods other = true := by
    intro other hother
    by_cases hkey : other = key
    · subst hkey
      unfold StoredWants at hother
      rw [Function.update_self] at hother
      exact hwants hother
    · unfold StoredWants at hother ⊢
      rwa [Function.update_of_ne hkey] at hother
  have hweight : ∀ e : PodEvent,
      e.weight (Function.update pods key (some pod)) ≤ e.weight pods := by
    intro e
    cases e with
    | deleted pod => exact Nat.le_refl _
    | updated event =>
      unfold PodEvent.weight
      dsimp only
      by_cases hnew : StoredWants (Function.update pods key (some pod)) event.key = true
      · rw [if_pos hnew, if_pos (hstored _ hnew)]
      · rw [if_neg hnew]
        repeat' split
        all_goals decide
  induction es with
  | nil => exact Nat.le_refl _
  | cons e es ih =>
    unfold workload
    exact Nat.add_le_add (hweight e) ih

/-- A delivery leaves less to do. -/
theorem workload_deliver (h : Handler) (a : Api) (containers : List EphemeralContainer)
    (token : String) : (a.deliver h containers token).workload ≤ a.workload - 1 := by
  cases hpending : a.pending with
  | nil =>
    rw [deliver_of_nil hpending]
    unfold Api.workload
    rw [hpending]
    exact Nat.le_refl _
  | cons event rest =>
    have hbefore : a.workload = event.weight a.pods + workload a.pods rest := by
      unfold Api.workload
      rw [hpending, workload]
    have hbounds := event.weight_bounds a.pods
    cases event with
    | deleted pod =>
      obtain ⟨hpods, hqueue, -⟩ := @deliver_deleted h a pod rest hpending containers token
      unfold Api.workload at hbefore ⊢
      rw [hpods, hqueue]
      omega
    | updated pod =>
      obtain ⟨hpods, hqueue, -⟩ | ⟨stored, hstored, hwants, hwrites⟩ :=
        @deliver_updated h a pod rest containers token hpending
      · unfold Api.workload at hbefore ⊢
        rw [hpods, hqueue]
        omega
      · have hstill : StoredWants a.pods pod.key = stored.wantsGateway := by
          unfold StoredWants
          rw [hstored, Option.any_some]
        have hkey : (stored.withContainers containers).key = pod.key :=
          (key_withContainers _ _).trans (a.keyed _ _ hstored)
        rw [PodEvent.weight_of_wants hwants, hstill] at hbefore
        obtain ⟨hmark, -, hpods, hqueue⟩ | ⟨marked, hmark, hpods, hqueue⟩ := hwrites
        · -- without annotations it wants none
          have hnot : stored.wantsGateway = false := by
            have hnone : stored.annotations = none := Option.map_eq_none_iff.mp hmark
            unfold Pod.wantsGateway annotationLookup
            simp [hnone]
          have hrest := @workload_update_le a.pods pod.key (stored.withContainers containers)
            (fun hp => hstill.trans hp) rest
          rw [if_neg (by rw [hnot]; decide)] at hbefore
          unfold Api.workload at hbefore ⊢
          rw [hpods, hqueue, workload_append, workload, workload,
            PodEvent.weight_of_not_wants (wantsGateway_withContainers stored containers ▸ hnot)]
          omega
        · -- the stored pod is marked: the patch's event leads to one more injection
          have hnot : marked.wantsGateway = false := wantsGateway_marked hmark
          have hrest := @workload_update_le a.pods pod.key marked
            (fun hp => absurd (hnot.symm.trans hp) (by decide)) rest
          have hmarked : StoredWants (Function.update a.pods pod.key (some marked)) pod.key =
              false := by
            unfold StoredWants
            rw [Function.update_self, Option.any_some, hnot]
          unfold Api.workload at hbefore ⊢
          rw [hpods, hqueue, workload_append, workload, workload, workload,
            PodEvent.weight_of_not_wants hnot]
          cases hwas : stored.wantsGateway with
          | false =>
            rw [PodEvent.weight_of_not_wants (wantsGateway_withContainers stored containers ▸ hwas)]
            rw [if_neg (by rw [hwas]; decide)] at hbefore
            omega
          | true =>
            rw [PodEvent.weight_of_wants (wantsGateway_withContainers stored containers ▸ hwas),
              hkey, hmarked, if_neg Bool.false_ne_true]
            rw [if_pos hwas] at hbefore
            omega

/-! ## No pod is left out -/

/-- Someone other than the watcher writes or deletes the pod of this name. -/
def Act.touches (key : String × String) : Act → Prop
  | .write pod => pod.key = key
  | .remove other => other = key
  | _ => False

/-- One of these steps created the pod, and nobody has written it since, the watcher
    included: it was stored as it was created at every later step. -/
def Untouched (h : Handler) (start : Api) (acts : List Act) (pod : Pod) : Prop :=
  ∃ before after, acts = before ++ .create pod :: after ∧
    (Trace.run (Api.step h) start before).pods pod.key = none ∧
    Trace.Along (Api.step h) (fun a act => a.pods pod.key = some pod ∧ ¬ act.touches pod.key)
      (Trace.run (Api.step h) start (before ++ [.create pod])) after

/-- While the watcher runs, every stored pod that wants a gateway has its event
    waiting, or is as it was created. -/
def Covered (created : Pod → Prop) (a : Api) : Prop :=
  a.watcher.crashed = false → ∀ key pod, a.pods key = some pod → pod.wantsGateway = true →
    created pod ∨ .updated pod ∈ a.pending

private theorem Covered.store {created created' : Pod → Prop} {a a' : Api} {pod : Pod}
    (hcover : Covered created a) (hwatcher : a'.watcher = a.watcher)
    (hpods : a'.pods = Function.update a.pods pod.key (some pod))
    (hkept : ∀ e ∈ a.pending, e ∈ a'.pending)
    (hnew : pod.wantsGateway = true → created' pod ∨ .updated pod ∈ a'.pending)
    (hcreated : ∀ key stored, key ≠ pod.key → a.pods key = some stored → created stored →
      created' stored) :
    Covered created' a' := by
  intro hrun key stored hstored hwants
  rw [hwatcher] at hrun
  rw [hpods] at hstored
  by_cases hkey : key = pod.key
  · subst hkey
    rw [Function.update_self] at hstored
    obtain rfl := Option.some.inj hstored
    exact hnew hwants
  · rw [Function.update_of_ne hkey] at hstored
    exact (hcover hrun key stored hstored hwants).imp (hcreated key stored hkey hstored) (hkept _)

/-- A panic is the end of the watcher. -/
theorem crashed_step {h : Handler} {s : State} (hcrash : s.crashed = true) (e : Event) :
    (s.step h e).crashed = true := by
  rw [step_of_crashed hcrash]
  exact hcrash

theorem watcher_writes (ws : List Pod) (a : Api) : (ws.foldl Api.write a).watcher = a.watcher := by
  induction ws generalizing a with
  | nil => rfl
  | cons w ws ih => rw [List.foldl_cons, ih, watcher_write]

/-- A delivery runs the handler. -/
theorem watcher_deliver_of_crashed {h : Handler} {a : Api} (hcrash : a.watcher.crashed = true)
    (containers : List EphemeralContainer) (token : String) :
    (a.deliver h containers token).watcher.crashed = true := by
  unfold Api.deliver
  split
  · exact hcrash
  · rw [watcher_writes]
    exact crashed_step hcrash _
  · exact crashed_step hcrash _

private theorem covered_deliver {h : Handler} {created created' : Pod → Prop} {a : Api}
    (hcover : Covered created a) (containers : List EphemeralContainer) (token : String)
    (hkeep : ∀ key stored, a.pods key = some stored → created stored → created' stored) :
    Covered created' (a.deliver h containers token) := by
  intro hrun key stored hstored hwants
  -- the watcher was running before, and the invariant said where the pod is covered
  have hran : a.watcher.crashed = false := by
    by_contra hcrash
    rw [watcher_deliver_of_crashed (Bool.not_eq_false _ ▸ hcrash)] at hrun
    cases hrun
  have hbefore := hcover hran
  cases hpending : a.pending with
  | nil =>
    rw [deliver_of_nil hpending] at hstored ⊢
    exact (hbefore key stored hstored hwants).imp_left (hkeep key stored hstored)
  | cons event rest =>
    rw [hpending] at hbefore
    cases event with
    | deleted pod =>
      obtain ⟨hpods, hqueue, -⟩ := @deliver_deleted h a pod rest hpending containers token
      rw [hpods] at hstored
      rw [hqueue]
      refine (hbefore key stored hstored hwants).imp (hkeep key stored hstored) fun hmem => ?_
      exact (List.mem_cons.mp hmem).resolve_left nofun
    | updated pod =>
      obtain ⟨hpods, hqueue, hquiet⟩ | ⟨before, hbeforeStored, -, hwrites⟩ :=
        @deliver_updated h a pod rest containers token hpending
      · -- the event it has handled was not the pod's: that one wanted no gateway
        rw [hpods] at hstored
        rw [hqueue]
        refine (hbefore key stored hstored hwants).imp (hkeep key stored hstored) fun hmem => ?_
        refine (List.mem_cons.mp hmem).resolve_left fun heq => ?_
        obtain rfl : stored = pod := PodEvent.updated.inj heq
        obtain hnot | hcrash := hquiet
        · rw [hwants] at hnot
          cases hnot
        · rw [hcrash] at hrun
          cases hrun
      · obtain ⟨-, hcrash, -, -⟩ | ⟨marked, hmark, hpods, hqueue⟩ := hwrites
        · rw [hcrash] at hrun
          cases hrun
        · rw [hpods] at hstored
          rw [hqueue]
          by_cases hkey : key = pod.key
          · -- the pod of the event is marked now
            subst hkey
            rw [Function.update_self] at hstored
            obtain rfl := Option.some.inj hstored
            rw [wantsGateway_marked hmark] at hwants
            cases hwants
          · rw [Function.update_of_ne hkey] at hstored
            refine (hbefore key stored hstored hwants).imp (hkeep key stored hstored)
              fun hmem => ?_
            refine List.mem_append_left _ ((List.mem_cons.mp hmem).resolve_left fun heq => ?_)
            obtain rfl : stored = pod := PodEvent.updated.inj heq
            exact hkey (a.keyed _ _ hstored).symm

/-- Every step keeps the pods covered: what it does not touch is as it was created if it
    was so before. -/
theorem covered_step {h : Handler} {created created' : Pod → Prop} (a : Api) (act : Act)
    (hcover : Covered created a)
    (hkeep : ∀ key stored, a.pods key = some stored → ¬ act.touches key → created stored →
      created' stored)
    (hnew : ∀ pod, act = .create pod → a.pods pod.key = none → created' pod) :
    Covered created' (a.step h act) := by
  cases act with
  | create pod =>
    show Covered created' (a.create pod)
    unfold Api.create
    split
    · exact fun hrun key stored hstored hwants => (hcover hrun key stored hstored hwants).imp_left
        (hkeep key stored hstored id)
    · rename_i hfree
      exact hcover.store rfl rfl (fun _ => id)
        (fun _ => Or.inl (hnew pod rfl (Option.not_isSome_iff_eq_none.mp hfree)))
        fun key stored _ hstored => hkeep key stored hstored id
  | write pod =>
    show Covered created' (a.write pod)
    by_cases hpod : (a.pods pod.key).isSome = true
    · obtain ⟨hpods, hqueue⟩ := write_of_isSome hpod
      refine hcover.store (watcher_write a pod) hpods (fun e he => ?_) (fun _ => Or.inr ?_)
        fun key stored hkey hstored => hkeep key stored hstored fun htouched => hkey htouched.symm
      · rw [hqueue]
        exact List.mem_append_left _ he
      · rw [hqueue]
        exact List.mem_append_right _ List.mem_cons_self
    · unfold Api.write
      rw [if_neg hpod]
      intro hrun key stored hstored hwants
      -- the pod that is stored is another one
      refine (hcover hrun key stored hstored hwants).imp_left (hkeep key stored hstored ?_)
      rintro rfl
      rw [hstored] at hpod
      exact hpod rfl
  | remove key =>
    show Covered created' (a.remove key)
    cases hremoved : a.pods key with
    | none =>
      rw [remove_of_none hremoved]
      intro hrun other stored hstored hwants
      refine (hcover hrun other stored hstored hwants).imp_left (hkeep other stored hstored ?_)
      rintro rfl
      rw [hremoved] at hstored
      cases hstored
    | some gone =>
      obtain ⟨hpods, hqueue, hwatcher⟩ := remove_of_some hremoved
      intro hrun other stored hstored hwants
      rw [hwatcher] at hrun
      rw [hpods] at hstored
      rw [hqueue]
      have hkey : other ≠ key := by
        rintro rfl
        rw [Function.update_self] at hstored
        cases hstored
      rw [Function.update_of_ne hkey] at hstored
      exact (hcover hrun other stored hstored hwants).imp
        (hkeep other stored hstored fun htouched => hkey htouched.symm) (List.mem_append_left _)
  | others cluster =>
    exact fun hrun key stored hstored hwants => (hcover hrun key stored hstored hwants).imp_left
      (hkeep key stored hstored id)
  | deliver containers token =>
    exact covered_deliver hcover containers token fun key stored hstored =>
      hkeep key stored hstored id

/-- After every run from no pods, a pod without an event is as it was created. -/
theorem covered_untouched (h : Handler) (start : Api) (hstart : ∀ key, start.pods key = none)
    (acts : List Act) :
    Covered (Untouched h start acts) (Trace.run (Api.step h) start acts) := by
  apply Trace.run_history_invariant (I := fun past a => Covered (Untouched h start past) a)
  · intro _ key pod hstored
    rw [hstart key] at hstored
    cases hstored
  · intro past act hcover
    refine covered_step _ act hcover ?_ ?_
    · rintro key pod hstored huntouched ⟨before, after, rfl, hfree, hsince⟩
      obtain rfl := Api.keyed _ key pod hstored
      refine ⟨before, after ++ [act], by simp, hfree, Trace.along_append.mpr ⟨hsince, ?_, trivial⟩⟩
      rw [← Trace.run_append, List.append_assoc, List.singleton_append]
      exact ⟨hstored, huntouched⟩
    · rintro pod rfl hfree
      exact ⟨past, [], rfl, hfree, trivial⟩

/-! ## Main results -/

/-- Deliveries, each with the containers that a patch stores and the token that the
    API server gives. -/
def deliveries (ds : List (List EphemeralContainer × String)) : List Act :=
  ds.map fun d => .deliver d.1 d.2

/-- Enough deliveries empty the queue, from any state. -/
theorem pending_deliveries (h : Handler) (a : Api) (ds : List (List EphemeralContainer × String))
    (hlen : 5 * a.pending.length ≤ ds.length) :
    (Trace.run (Api.step h) a (deliveries ds)).pending = [] := by
  have hdown : (Trace.run (Api.step h) a (deliveries ds)).workload ≤
      a.workload - (deliveries ds).length := by
    apply Trace.run_le_sub
    intro s act hact
    obtain ⟨d, -, rfl⟩ := List.mem_map.mp hact
    exact workload_deliver h s d.1 d.2
  have hwork : a.workload ≤ 5 * a.pending.length := (workload_bounds a.pods a.pending).2
  have hleft := (workload_bounds (Trace.run (Api.step h) a (deliveries ds)).pods
    (Trace.run (Api.step h) a (deliveries ds)).pending).1
  rw [← List.length_eq_zero_iff]
  have hcount : (deliveries ds).length = ds.length := List.length_map _
  unfold Api.workload at hdown hwork
  omega

/-- Whatever was done before, to any pods and in any order: once nobody else writes,
    five deliveries for each event that waits bring the watcher to rest.  Then it has
    panicked, or a pod that still wants a gateway has not been written since it was
    created. -/
theorem settles (h : Handler) (cacert cakey : Pem) (cluster : Cluster) (acts : List Act)
    (ds : List (List EphemeralContainer × String))
    (hlen : 5 * (Trace.run (Api.step h) (.start cacert cakey cluster) acts).pending.length ≤
      ds.length) :
    let a := Trace.run (Api.step h) (.start cacert cakey cluster) (acts ++ deliveries ds)
    a.pending = [] ∧ (a.watcher.crashed = false → ∀ key pod, a.pods key = some pod →
      pod.wantsGateway = true →
      Untouched h (.start cacert cakey cluster) (acts ++ deliveries ds) pod) := by
  intro a
  have hrest : a.pending = [] := by
    show (Trace.run (Api.step h) (.start cacert cakey cluster) (acts ++ deliveries ds)).pending = []
    rw [Trace.run_append]
    exact pending_deliveries h _ ds hlen
  refine ⟨hrest, fun hrun key pod hstored hwants => ?_⟩
  have hcover := covered_untouched h (.start cacert cakey cluster) (fun _ => rfl)
    (acts ++ deliveries ds)
  refine (hcover hrun key pod hstored hwants).resolve_right fun hwaits => ?_
  have hnone : .updated pod ∈ a.pending := hwaits
  rw [hrest] at hnone
  cases hnone

/-- `settles` for a pod that gets its address: after five deliveries it is marked. -/
theorem settles_addressed :
    let h : Handler := ⟨"image", false, "10.0.0.0/16"⟩
    let acts := addressed ++ deliveries (List.replicate 5 (addressedContainers, "t"))
    let a := Trace.run (Api.step h) newApi acts
    a.pending = [] ∧ (a.watcher.crashed = false → ∀ key pod, a.pods key = some pod →
      pod.wantsGateway = true → Untouched h newApi acts pod) :=
  settles ⟨"image", false, "10.0.0.0/16"⟩ (.certificate [] [] 0 0) (.rsaPrivateKey 0) ⟨∅, [], ∅⟩
    addressed (List.replicate 5 (addressedContainers, "t")) (by decide)

end KubeGateway.Watcher

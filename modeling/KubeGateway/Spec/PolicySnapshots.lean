import KubeGateway.ForStd.Trace
import KubeGateway.Native.SharedPolicy

/-!
# Policy snapshots

A loop checks its policy for nil, and the handler then reads the shared policy again.
If `Reset` comes between, the next read finds a nil pointer; if an update does, what
is left of the message is treated as the new version says.  Each message is treated
under one version as long as the watcher writes a policy only while no loop is at work
under it, and a loop does not set to work in the middle of an update.
-/

namespace KubeGateway.Gateway

open GoJson

/-- No loop panics; a loop that checks its policy finds a version of it, and what the
    loop reads and does next is of the version it has found. -/
def KeepsSnapshots (parse : String → Option Json) (sdk : Sdk) (s : SharedPolicy) (e : PolicyEvent) :
    Prop :=
  (s.step parse sdk e).crashed = s.crashed ∧
    (s.stopped = false →
      match e with
      | .watch _ | .write => True
      | .request i _ =>
        s.requests i = .idle → ∃ c ∈ s.versions, c.request = s.watch.config.request
      | .nextRequest i => (s.requests i).OneVersion (openAIRequest sdk) s.watch.config.request
      | .response i _ =>
        s.responses i = .idle → ∃ c ∈ s.versions, c.response = s.watch.config.response
      | .nextResponse i => (s.responses i).OneVersion (openAIResponse sdk) s.watch.config.response)

/-- A write leaves the policies as they are that loops have still to read, and a loop
    that checks its policy does not find an update of it under way. -/
def WritesApart (s : SharedPolicy) (e : PolicyEvent) : Prop :=
  s.stopped = false →
    match e with
    | .write =>
      ∀ w rest, s.pending = w :: rest → ∀ i,
        (s.requests i).Allows RequestVerdict.blocks s.watch.config.request
            (w.apply s.watch.config).request ∧
          (s.responses i).Allows (fun _ => false) s.watch.config.response
            (w.apply s.watch.config).response
    | .request i _ =>
      s.requests i = .idle → writesRequest s.written = false ∨ writesRequest s.pending = false
    | .response i _ =>
      s.responses i = .idle → writesResponse s.written = false ∨ writesResponse s.pending = false
    | .watch _ | .nextRequest _ | .nextResponse _ => True

/-- What holds in every run so far. -/
structure SnapshotInvariant (sdk : Sdk) (s : SharedPolicy) : Prop where
  running : s.crashed = false
  before : ∃ c ∈ s.versions, s.written.foldl PolicyWrite.apply c = s.watch.config
  after : s.pending.foldl PolicyWrite.apply s.watch.config ∈ s.versions
  requests : ∀ i,
    (s.requests i).Faithful (openAIRequest sdk) RequestVerdict.blocks s.watch.config.request
  responses : ∀ i,
    (s.responses i).Faithful (openAIResponse sdk) (fun _ => false) s.watch.config.response

/-! ## One step -/

section

variable {parse : String → Option Json} {sdk : Sdk} {s : SharedPolicy}

theorem snapshotInvariant_start (podname namespace_ : String) :
    SnapshotInvariant sdk (.start podname namespace_) where
  running := rfl
  before := ⟨.empty, List.mem_singleton_self _, rfl⟩
  after := List.mem_singleton_self _
  requests := fun _ => Reader.faithful_idle
  responses := fun _ => Reader.faithful_idle

/-- A half that no update is in the middle of is that of a version. -/
private theorem exists_version_request (h : SnapshotInvariant sdk s)
    (hapart : writesRequest s.written = false ∨ writesRequest s.pending = false) :
    ∃ c ∈ s.versions, c.request = s.watch.config.request := by
  rcases hapart with hwritten | hpending
  · obtain ⟨c, hc, hconfig⟩ := h.before
    exact ⟨c, hc, by rw [← hconfig, request_foldl_apply hwritten]⟩
  · exact ⟨_, h.after, request_foldl_apply hpending _⟩

private theorem exists_version_response (h : SnapshotInvariant sdk s)
    (hapart : writesResponse s.written = false ∨ writesResponse s.pending = false) :
    ∃ c ∈ s.versions, c.response = s.watch.config.response := by
  rcases hapart with hwritten | hpending
  · obtain ⟨c, hc, hconfig⟩ := h.before
    exact ⟨c, hc, by rw [← hconfig, response_foldl_apply hwritten]⟩
  · exact ⟨_, h.after, response_foldl_apply hpending _⟩

private theorem SnapshotInvariant.setRequests (h : SnapshotInvariant sdk s) (i : Nat)
    {r : Reader Request (Option GoString) RequestVerdict}
    (hr : r.Faithful (openAIRequest sdk) RequestVerdict.blocks s.watch.config.request) :
    SnapshotInvariant sdk { s with requests := Function.update s.requests i r } where
  running := h.running
  before := h.before
  after := h.after
  requests := (Function.forall_update_iff s.requests _).mpr ⟨hr, fun j _ => h.requests j⟩
  responses := h.responses

private theorem SnapshotInvariant.setResponses (h : SnapshotInvariant sdk s) (i : Nat)
    {r : Reader Response GoString (Option (Bool × GoString))}
    (hr : r.Faithful (openAIResponse sdk) (fun _ => false) s.watch.config.response) :
    SnapshotInvariant sdk { s with responses := Function.update s.responses i r } where
  running := h.running
  before := h.before
  after := h.after
  requests := h.requests
  responses := (Function.forall_update_iff s.responses _).mpr ⟨hr, fun j _ => h.responses j⟩

/-- A step of the watcher or of a loop keeps the invariant, if the writes stay apart. -/
private theorem snapshotInvariant_step (h : SnapshotInvariant sdk s) (e : PolicyEvent)
    (hapart : WritesApart s e) : SnapshotInvariant sdk (s.step parse sdk e) := by
  unfold SharedPolicy.step
  by_cases hstopped : s.stopped = true
  · rw [if_pos hstopped]
    exact h
  · rw [if_neg hstopped]
    have hapart := hapart (Bool.eq_false_of_not_eq_true hstopped)
    cases e with
    | watch event =>
      cases hpending : s.pending with
      | cons w rest => exact h
      | nil =>
        -- the event's writes are those of one round of the watcher's loop
        have hconfig : s.watch.config ∈ s.versions := by
          have hafter := h.after
          rw [hpending] at hafter
          exact hafter
        dsimp only
        refine ⟨h.running, ⟨s.watch.config, List.mem_append_left _ hconfig, rfl⟩, ?_, h.requests,
          h.responses⟩
        have hwatch := (Bool.or_eq_false_iff.mp (Bool.eq_false_of_not_eq_true hstopped)).2
        rw [Watch.foldl_writes parse event hwatch]
        exact List.mem_append_right _ (List.mem_singleton_self _)
    | write =>
      cases hpending : s.pending with
      | nil => exact h
      | cons w rest =>
        have hallows := hapart w rest hpending
        dsimp only
        obtain ⟨c, hc, hbefore⟩ := h.before
        have hafter := h.after
        rw [hpending] at hafter
        refine ⟨h.running, ⟨c, hc, ?_⟩, hafter, fun i => ?_, fun i => ?_⟩
        · rw [List.foldl_append, hbefore]
          rfl
        · exact (h.requests i).of_allows (hallows i).1
        · exact (h.responses i).of_allows (hallows i).2
    | request i body =>
      exact h.setRequests i ((h.requests i).check (eval_openAIRequestReads sdk) body)
    | response i body =>
      exact h.setResponses i ((h.responses i).check (eval_openAIResponseReads sdk) body)
    | nextRequest i =>
      obtain ⟨r, hnext, hr⟩ := (h.requests i).next
      dsimp only
      rw [hnext]
      exact h.setRequests i hr
    | nextResponse i =>
      obtain ⟨r, hnext, hr⟩ := (h.responses i).next
      dsimp only
      rw [hnext]
      exact h.setResponses i hr

private theorem SnapshotInvariant.keepsSnapshots (h : SnapshotInvariant sdk s) (e : PolicyEvent)
    (hapart : WritesApart s e) : KeepsSnapshots parse sdk s e := by
  refine ⟨(snapshotInvariant_step h e hapart).running.trans h.running.symm, fun hgoes => ?_⟩
  have hapart := hapart hgoes
  cases e with
  | watch event => trivial
  | write => trivial
  | request i body => exact fun hidle => exists_version_request h (hapart hidle)
  | response i body => exact fun hidle => exists_version_response h (hapart hidle)
  | nextRequest i => exact (h.requests i).now
  | nextResponse i => exact (h.responses i).now

end

/-- For every run of the watcher and of any number of loops, one read or write at a time,
    on any messages: no loop ever reads through a nil pointer, and each message is treated
    under the one version that was found at its nil check, as long as the watcher's writes
    stay apart from the work of the loops. -/
theorem snapshots_of_writesApart (parse : String → Option Json) (sdk : Sdk)
    (podname namespace_ : String) (events : List PolicyEvent)
    (hapart : Trace.Along (SharedPolicy.step parse sdk) WritesApart (.start podname namespace_)
      events) :
    Trace.Along (SharedPolicy.step parse sdk) (KeepsSnapshots parse sdk) (.start podname namespace_)
      events :=
  Trace.along_of_invariant (I := SnapshotInvariant sdk)
    (fun _ e h hapart => snapshotInvariant_step h e hapart)
    (fun _ e h hapart => h.keepsSnapshots e hapart)
    (snapshotInvariant_start podname namespace_) hapart

/-! ## One ConfigMap -/

/-- A ConfigMap without a key, for the gateway of the pod `pod`. -/
def podMap : ConfigMap := { name := "pod-kube-gateway", namespace_ := "default", data := ∅ }

/-- Every text is an empty request policy. -/
def requestOnly (_ : String) : Option Json := some (.obj [("request", .obj [])])

/-- The policy is written before a request comes, and stays as it is. -/
theorem snapshots_of_writesApart_podMap :
    let sdk : Sdk := ⟨fun _ => none, fun _ => none, fun _ => none, fun _ => none⟩
    Trace.Along (SharedPolicy.step requestOnly sdk) (KeepsSnapshots requestOnly sdk)
      (.start "pod" "default")
      [.watch (.added (some podMap)), .write, .request 0 none, .nextRequest 0, .nextRequest 0] := by
  intro sdk
  refine snapshots_of_writesApart _ _ _ _ _
    ⟨fun _ => trivial, ?_, ?_, fun _ => trivial, fun _ => trivial, trivial⟩
  · exact fun _ w rest _ i => ⟨trivial, trivial⟩
  · exact fun _ _ => Or.inr rfl

/-- The ConfigMap is deleted while a request is being handled. -/
theorem not_snapshots :
    ¬ ∀ (parse : String → Option Json) (sdk : Sdk) (podname namespace_ : String)
      (events : List PolicyEvent),
      Trace.Along (SharedPolicy.step parse sdk) (KeepsSnapshots parse sdk)
        (.start podname namespace_) events := by
  intro h
  have hbad := h requestOnly ⟨fun _ => none, fun _ => none, fun _ => none, fun _ => none⟩
    "pod" "default"
    [.watch (.added (some podMap)), .write, .request 0 none, .watch (.deleted (some podMap)),
      .write, .nextRequest 0]
  -- the first read after the nil check
  obtain ⟨-, -, -, -, -, ⟨hcrashed, -⟩, -⟩ := hbad
  exact absurd hcrashed (by decide)

end KubeGateway.Gateway

import KubeGateway.ForStd.Trace
import KubeGateway.Native.Policy

/-!
# The policy and the versions before it

A version of the ConfigMap is decoded over the policy of the versions before it,
and only a deletion empties the policy.  So the policy is that of the current
version alone exactly when the old policy is clean of everything the new version
leaves out: a field it does not write is zero in the old policy, a pointer it
does not mention is nil, a slice it does not mention is empty; and below the
length it gives a slice, the old element at each position is clean of what the
new element leaves out, the elements hidden behind the old length included.
-/

namespace KubeGateway.Gateway

open GoJson

/-! ## What a reader of a policy sees -/

def Request.bare (r : Request) : Request :=
  { r with
    modelReplace := r.modelReplace.bare
    userPromptReplace := r.userPromptReplace.bare
    devPromptReplace := r.devPromptReplace.bare }

def Response.bare (r : Response) : Response := { r with bannedWords := r.bannedWords.bare }

/-- A policy without what is hidden behind the lengths of its slices. -/
def AITransaction.bare (c : AITransaction) : AITransaction :=
  ⟨c.request.map Request.bare, c.response.map Response.bare⟩

private theorem same_promtReplace (p p' : PromtReplace) :
    promtReplaceLayout.target.Same p p' ↔ p = p' := by
  cases p
  cases p'
  simp [Layout.target, promtReplaceLayout, Target.string, Target.bool, Target.scalar]

private theorem same_modelReplace (m m' : ModelReplace) :
    modelReplaceLayout.target.Same m m' ↔ m = m' := by
  cases m
  cases m'
  simp [Layout.target, modelReplaceLayout, Target.string, Target.scalar]

private theorem same_request (r r' : Request) :
    requestLayout.target.Same r r' ↔ r.bare = r'.bare := by
  have hmodel := Target.sameSlice_iff_bare_eq _ same_modelReplace
  have hpromt := Target.sameSlice_iff_bare_eq _ same_promtReplace
  show (∀ f ∈ requestLayout.fields, _) ↔ _
  simp only [requestLayout, List.forall_mem_cons, List.not_mem_nil, false_implies, implies_true,
    and_true, Target.slice, hmodel, hpromt, Request.bare, Request.mk.injEq]
  rfl

private theorem same_response (r r' : Response) :
    responseLayout.target.Same r r' ↔ r.bare = r'.bare := by
  have hwords := Target.sameSlice_iff_bare_eq Target.string (fun _ _ => Iff.rfl)
  show (∀ f ∈ responseLayout.fields, _) ↔ _
  simp only [responseLayout, List.forall_mem_cons, List.not_mem_nil, false_implies, implies_true,
    and_true, Target.slice, hwords, Response.bare, Response.mk.injEq]
  rfl

/-- Two policies are the same to a reader when they are equal but for what is hidden. -/
theorem same_transaction (c c' : AITransaction) :
    transactionLayout.target.Same c c' ↔ c.bare = c'.bare := by
  have hrequest := Target.samePointer_iff_map_eq _ same_request
  have hresponse := Target.samePointer_iff_map_eq _ same_response
  show (∀ f ∈ transactionLayout.fields, _) ↔ _
  simp only [transactionLayout, List.forall_mem_cons, List.not_mem_nil, false_implies, implies_true,
    and_true, Target.pointer, hrequest, hresponse, AITransaction.bare, AITransaction.mk.injEq]
  simp [Target.unsupported]

/-! ## The events of the watched ConfigMap -/

/-- The ConfigMap a gateway of this pod looks for. -/
def ConfigMap.For (m : ConfigMap) (podname namespace_ : String) : Prop :=
  m.name = podname ++ "-kube-gateway" ∧ m.namespace_ = namespace_

/-- The event writes a version of the ConfigMap. -/
def WatchEvent.Writes (e : WatchEvent) (m : ConfigMap) : Prop :=
  e = .added (some m) ∨ e = .modified (some m)

/-- An event of the watched ConfigMap. -/
def WatchEvent.Watched (podname namespace_ : String) (e : WatchEvent) : Prop :=
  ∃ m, m.For podname namespace_ ∧ (e.Writes m ∨ e = .deleted (some m))

/-- A watcher of this pod that is still running. -/
structure Watch.Running (podname namespace_ : String) (w : Watch) : Prop where
  podname : w.podname = podname
  namespace_ : w.namespace_ = namespace_
  crashed : w.crashed = false

section

variable {parse : String → Option Json} {podname namespace_ : String} {w : Watch} {m : ConfigMap}

/-- A version is decoded over the policy. -/
theorem step_of_writes {e : WatchEvent} (hw : w.Running podname namespace_)
    (hm : m.For podname namespace_) (he : e.Writes m) :
    w.step parse e = { w with config := (w.config.unmarshal parse m.config).1 } := by
  -- the watcher compares the name and the namespace itself
  have hfor : m.name = w.configMapName ∧ m.namespace_ = w.namespace_ := by
    unfold Watch.configMapName
    rw [hw.podname, hw.namespace_]
    exact hm
  have hrunning : ¬ w.crashed = true := by simp [hw.crashed]
  unfold Watch.step
  rw [if_neg hrunning]
  rcases he with rfl | rfl
  · exact if_pos hfor
  · exact if_pos hfor

/-- A deletion empties the policy. -/
private theorem step_of_deleted (hw : w.Running podname namespace_) :
    w.step parse (.deleted (some m)) = { w with config := .empty } := by
  have hrunning : ¬ w.crashed = true := by simp [hw.crashed]
  unfold Watch.step
  rw [if_neg hrunning]
  rfl

/-- The events of the ConfigMap keep the watcher running. -/
private theorem running_step {e : WatchEvent} (hw : w.Running podname namespace_)
    (he : e.Watched podname namespace_) : (w.step parse e).Running podname namespace_ := by
  obtain ⟨m, hm, hwrites | rfl⟩ := he
  · rw [step_of_writes hw hm hwrites]
    exact ⟨hw.podname, hw.namespace_, hw.crashed⟩
  · rw [step_of_deleted hw]
    exact ⟨hw.podname, hw.namespace_, hw.crashed⟩

private theorem running_run (parse : String → Option Json) {es : List WatchEvent}
    (hw : w.Running podname namespace_)
    (hes : ∀ e ∈ es, e.Watched podname namespace_) :
    (Trace.run (Watch.step parse) w es).Running podname namespace_ := by
  induction es generalizing w with
  | nil => exact hw
  | cons e es ih =>
    rw [List.forall_mem_cons] at hes
    exact ih (running_step hw hes.1) hes.2

private theorem running_newWatcher :
    (Watch.newWatcher podname namespace_).Running podname namespace_ :=
  ⟨rfl, rfl, rfl⟩

end

/-- What a run of the watcher leaves as the policy. -/
def policyAfter (parse : String → Option Json) (podname namespace_ : String)
    (es : List WatchEvent) : AITransaction :=
  (Trace.run (Watch.step parse) (Watch.newWatcher podname namespace_) es).config

/-- One more version is decoded over what the run so far has left. -/
private theorem policyAfter_snoc {parse : String → Option Json} {podname namespace_ : String}
    {es : List WatchEvent} {e : WatchEvent} {m : ConfigMap} {j : Json}
    (hes : ∀ e ∈ es, e.Watched podname namespace_) (hm : m.For podname namespace_)
    (he : e.Writes m) (hj : parse m.config = some j) :
    policyAfter parse podname namespace_ (es ++ [e]) =
      transactionLayout.target.decode j (policyAfter parse podname namespace_ es) := by
  have hrunning := running_run parse running_newWatcher hes
  unfold policyAfter
  rw [Trace.run_append, Trace.run_cons, Trace.run_nil, step_of_writes hrunning hm he]
  unfold AITransaction.unmarshal
  rw [hj]

/-- After every sequence of events of the watched ConfigMap that ends with a
    version whose text is JSON, the policy is the one a new gateway obtains from
    this version exactly when the policy before it was clean of all it leaves out. -/
theorem policy_current_iff_clean {parse : String → Option Json} {podname namespace_ : String}
    {es : List WatchEvent} {e : WatchEvent} {m : ConfigMap} {j : Json}
    (hes : ∀ e ∈ es, e.Watched podname namespace_) (hm : m.For podname namespace_)
    (he : e.Writes m) (hj : parse m.config = some j) :
    (policyAfter parse podname namespace_ (es ++ [e])).bare =
        (policyAfter parse podname namespace_ [e]).bare ↔
      transactionLayout.target.Clean [j] (policyAfter parse podname namespace_ es) := by
  -- both sides decode the same text, one over the old policy, one over the empty one
  have hnew := policyAfter_snoc (List.forall_mem_nil _) hm he hj
  rw [List.nil_append] at hnew
  rw [policyAfter_snoc hes hm he hj, hnew, ← same_transaction]
  exact transactionLayout.target.same_run [j] _

/-- A version that follows a deletion is not mixed with the versions before it. -/
theorem policy_current_after_deleted {parse : String → Option Json} {podname namespace_ : String}
    {es : List WatchEvent} {e : WatchEvent} {m : ConfigMap} {j : Json}
    (hes : ∀ e ∈ es, e.Watched podname namespace_) (hm : m.For podname namespace_)
    (he : e.Writes m) (hj : parse m.config = some j) :
    policyAfter parse podname namespace_ (es ++ [.deleted (some m), e]) =
      policyAfter parse podname namespace_ [e] := by
  have hdeleted : ∀ e' ∈ es ++ [WatchEvent.deleted (some m)], e'.Watched podname namespace_ := by
    intro e' hmem
    rcases List.mem_append.mp hmem with hmem | hmem
    · exact hes e' hmem
    · rw [List.mem_singleton] at hmem
      exact ⟨m, hm, Or.inr hmem⟩
  -- the deletion leaves what a new gateway starts with
  have hempty : policyAfter parse podname namespace_ (es ++ [.deleted (some m)]) = .empty := by
    have hrunning := running_run parse running_newWatcher hes
    unfold policyAfter
    rw [Trace.run_append, Trace.run_cons, Trace.run_nil, step_of_deleted hrunning]
  have hnew := policyAfter_snoc (List.forall_mem_nil _) hm he hj
  rw [List.nil_append] at hnew
  rw [List.append_cons, policyAfter_snoc hdeleted hm he hj, hempty, hnew]
  rfl

/-! ## Two versions of a policy -/

/-- A version of the ConfigMap of pod `web` in namespace `default`. -/
def version (text : String) : ConfigMap :=
  { name := "web-kube-gateway"
    namespace_ := "default"
    data := AList.singleton "config" text }

def blockText : String := "\x7b\"request\":\x7b\"block\":true\x7d\x7d"
def unblockText : String := "\x7b\"request\":\x7b\"block\":false\x7d\x7d"
def emptyText : String := "\x7b\x7d"

/-- JSON, as far as these texts go. -/
def parseTexts (text : String) : Option Json :=
  if text = blockText then some (.obj [("request", .obj [("block", .bool true)])])
  else if text = unblockText then some (.obj [("request", .obj [("block", .bool false)])])
  else if text = emptyText then some (.obj [])
  else none

private theorem version_for (text : String) : (version text).For "web" "default" := by
  constructor
  · show "web-kube-gateway" = "web" ++ "-kube-gateway"
    decide
  · rfl

private theorem watched_version (text : String) :
    ∀ e ∈ [WatchEvent.added (some (version text))], e.Watched "web" "default" := by
  intro e hmem
  rw [List.mem_singleton] at hmem
  exact ⟨version text, version_for text, Or.inl (Or.inl hmem)⟩

/-- Blocking is switched off by a version that says so. -/
theorem policy_current_unblock :
    (policyAfter parseTexts "web" "default"
        ([.added (some (version blockText))] ++ [.modified (some (version unblockText))])).bare =
      (policyAfter parseTexts "web" "default" [.modified (some (version unblockText))]).bare ↔
    transactionLayout.target.Clean [.obj [("request", .obj [("block", .bool false)])]]
      (policyAfter parseTexts "web" "default" [.added (some (version blockText))]) :=
  policy_current_iff_clean (watched_version blockText) (version_for unblockText) (Or.inr rfl) rfl

/-- A policy that blocks is followed by a version without any policy: a new
    gateway blocks nothing, this one still blocks everything. -/
theorem not_policy_current :
    ¬ ∀ (parse : String → Option Json) (podname namespace_ : String) (es : List WatchEvent)
      (e : WatchEvent) (m : ConfigMap) (j : Json),
      (∀ e ∈ es, e.Watched podname namespace_) → m.For podname namespace_ → e.Writes m →
      parse m.config = some j → transactionLayout.target.accepts j = true →
      (policyAfter parse podname namespace_ (es ++ [e])).bare =
        (policyAfter parse podname namespace_ [e]).bare := by
  intro h
  -- `{}` mentions no request, so the old pointer stays
  have hbad := h parseTexts "web" "default" [.added (some (version blockText))]
    (.modified (some (version emptyText))) (version emptyText) (.obj [])
    (watched_version blockText) (version_for emptyText) (Or.inr rfl) rfl (by decide)
  exact absurd hbad (by decide)

end KubeGateway.Gateway

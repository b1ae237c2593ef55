import KubeGateway.ForStd.Trace
import KubeGateway.Native.HttpGateway

/-!
# What becomes of a request

While a request policy is set, a round of the request loop that has read a request
either answers it itself, writes it to the target, or goes on to the next round.
The last happens to every request whose body is no chat completion request: its
body has been read by then, and nothing is done with it.
-/

namespace KubeGateway.Gateway

open Framing

/-- One thing more was written to the target, or one more answered, but not both. -/
def HandledOnce (s s' : RequestLoop) : Prop :=
  (∃ sent, s'.egress = s.egress ++ [sent] ∧ s'.refusals = s.refusals) ∨
    ∃ res, s'.refusals = s.refusals ++ [res] ∧ s'.egress = s.egress

/-- A request that is read under a policy is written once to the target, or answered
    once, or the connection is closed. -/
def Answered (net : NetHttp) (sdk : Sdk) (g : HttpGateway) (r : Round) : Prop :=
  match r.turn with
  | .request _ =>
    r.policy.request.isSome → ∀ m, g.requests.reads net = some m →
      HandledOnce g.requests (g.stepUnder net sdk r).requests ∨ g.Closed
  | .response _ => True

/-- The body of a request that is read under a policy is a chat completion request, or
    the connection is closed already. -/
def Decodable (net : NetHttp) (sdk : Sdk) (g : HttpGateway) (r : Round) : Prop :=
  match r.turn with
  | .request _ =>
    r.policy.request.isSome → ∀ m, g.requests.reads net = some m →
      (sdk.unmarshalParams (net.content m)).isSome ∨ g.Closed
  | .response _ => True

private theorem not_handledOnce {s s' : RequestLoop} (hegress : s'.egress = s.egress)
    (hrefusals : s'.refusals = s.refusals) : ¬ HandledOnce s s' := by
  rintro (⟨sent, hsent, -⟩ | ⟨res, hres, -⟩)
  · rw [hegress] at hsent
    exact absurd hsent (by simp)
  · rw [hrefusals] at hres
    exact absurd hres (by simp)

/-- A request that was read is handled if its body decodes, whatever the rules. -/
private theorem handledOnce_apply_iff (net : NetHttp) (sdk : Sdk) (policy : Request)
    (s : RequestLoop)
    (writes : Bool) (head body rest : GoString) :
    HandledOnce s (s.apply net sdk policy writes head (.part body rest)) ↔
      (sdk.unmarshalParams (net.content ⟨head, body⟩)).isSome := by
  rcases openAIRequest_cases sdk policy (net.content ⟨head, body⟩) with
    ⟨hchat, hverdict⟩ | ⟨chat, hchat, ⟨-, hverdict⟩ | ⟨-, hverdict⟩⟩
  all_goals
    simp only [RequestLoop.apply, bytesRead, Option.map_some, hverdict, hchat]
  · exact iff_of_false (not_handledOnce rfl rfl) Bool.false_ne_true
  · exact iff_of_true (Or.inr ⟨refusal sdk, rfl, rfl⟩) rfl
  · -- a write that fails has been tried once, too
    unfold RequestLoop.write
    cases writes with
    | true => exact iff_of_true (Or.inl ⟨_, rfl, rfl⟩) rfl
    | false => exact iff_of_true (Or.inl ⟨_, rfl, rfl⟩) rfl

/-- A round under a policy that reads a request, before the connection is closed. -/
private theorem stepUnder_requests (net : NetHttp) (sdk : Sdk) {g : HttpGateway} {r : Round}
    {writes : Bool} {policy : Request} {m : Message UInt8} (hturn : r.turn = .request writes)
    (hpolicy : r.policy.request = some policy) (hreads : g.requests.reads net = some m)
    (hcrashed : g.responses.state ≠ .crashed) :
    ∃ s rest, s.egress = g.requests.egress ∧ s.refusals = g.requests.refusals ∧
      (g.stepUnder net sdk r).requests =
        RequestLoop.apply net sdk policy s writes m.head (.part m.body rest) := by
  obtain ⟨s, rest, hegress, hrefusals, hiterate⟩ :=
    RequestLoop.iterate_of_reads sdk hpolicy writes hreads
  exact ⟨s, rest, hegress, hrefusals, (HttpGateway.stepUnder_request hturn hcrashed).trans hiterate⟩

/-- One round. -/
private theorem answered_iff (net : NetHttp) (sdk : Sdk) (g : HttpGateway) (r : Round) :
    Answered net sdk g r ↔ Decodable net sdk g r := by
  unfold Answered Decodable
  cases hturn : r.turn with
  | response writes => exact Iff.rfl
  | request writes =>
    cases hpolicy : r.policy.request with
    | none => simp
    | some policy =>
      cases hreads : g.requests.reads net with
      | none => simp
      | some m =>
        by_cases hclosed : g.Closed
        · simp [hclosed]
        · have hcrashed : g.responses.state ≠ .crashed := fun h => hclosed (Or.inr h)
          obtain ⟨s, rest, hegress, hrefusals, hstep⟩ :=
            stepUnder_requests net sdk hturn hpolicy hreads hcrashed
          have happly := handledOnce_apply_iff net sdk policy s writes m.head m.body rest
          have hsame : HandledOnce g.requests (g.stepUnder net sdk r).requests ↔
              (sdk.unmarshalParams (net.content m)).isSome := by
            rw [hstep, ← happly]
            unfold HandledOnce
            rw [hegress, hrefusals]
          simp only [Option.some.injEq, hsame, hclosed, or_false]
          constructor
          · rintro h _ m' rfl
            exact h rfl m rfl
          · rintro h _ m' rfl
            exact h rfl m rfl

/-- For every sequence of requests, whatever is between them and however the loops take
    turns, while a policy is set: each request that is read is written once, or answered
    once, or the connection is closed, if and only if each has a body that is a chat
    completion request or finds the connection closed. -/
theorem answered_iff_decodable (net : NetHttp) (sdk : Sdk) (g : HttpGateway) (rounds : List Round) :
    Trace.Along (HttpGateway.stepUnder net sdk) (Answered net sdk) g rounds ↔
      Trace.Along (HttpGateway.stepUnder net sdk) (Decodable net sdk) g rounds :=
  Trace.along_congr (answered_iff net sdk)

/-! ## A request without JSON -/

/-- A request whose body is no JSON at all. -/
def helloRequest : Message UInt8 :=
  ⟨goString "POST /v1/chat/completions HTTP/1.1\r\nContent-Length: 5\r\n\r\n", goString "hello"⟩

/-- It is read, and the loop goes on to wait for the next one. -/
theorem not_answered :
    ¬ ∀ (net : NetHttp) (sdk : Sdk) (ingress egress : Conn UInt8) (rounds : List Round),
      (∀ r ∈ rounds, r.policy.request.isSome) →
      Trace.Along (HttpGateway.stepUnder net sdk) (Answered net sdk) (.start ingress egress)
        rounds := by
  intro h
  let policy : Request := requestLayout.zero
  let sdk : Sdk := ⟨fun _ => none, fun _ => none, fun _ => none, fun _ => none⟩
  let g : HttpGateway := .start (.ofSegments [helloRequest.wire] none) ⟨[], none⟩
  let r : Round := ⟨⟨some policy, none⟩, .request true⟩
  have hbad :=
    h (fixedNet 5) sdk (.ofSegments [helloRequest.wire] none) ⟨[], none⟩ [r] (by simp [r])
  have hnothing : (g.stepUnder (fixedNet 5) sdk r).requests.egress = [] ∧
      (g.stepUnder (fixedNet 5) sdk r).requests.refusals = [] := by
    decide
  have hread : g.requests.reads (fixedNet 5) = some helloRequest := by decide
  rcases hbad.1 rfl helloRequest hread with hhandled | hclosed
  · exact not_handledOnce hnothing.1 hnothing.2 hhandled
  · exact absurd hclosed (by decide)

end KubeGateway.Gateway

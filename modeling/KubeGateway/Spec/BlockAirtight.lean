import KubeGateway.ForStd.Trace
import KubeGateway.Native.HttpGateway

/-!
# A policy that blocks

With `block` set no round of the request loop gets to a write to the target.  A
request that cannot be read, or whose body cannot be, or is no chat completion
request, is dropped; every other one is answered with one refusal.
-/

namespace KubeGateway.Gateway

open Framing

/-- The body was read to its end and is a chat completion request. -/
def TakenRequest.decodes (net : NetHttp) (sdk : Sdk) (t : TakenRequest) : Bool :=
  match t.body with
  | none => false
  | some body => (sdk.unmarshalParams (net.content ⟨t.head, body⟩)).isSome

/-- A policy that blocks either fails or blocks, and blocks what decodes. -/
theorem openAIRequest_of_block (sdk : Sdk) {c : Request} (hblock : c.block = true)
    (body : Option GoString) :
    openAIRequest sdk c body =
      if (body.bind sdk.unmarshalParams).isSome then .block (refusal sdk) else .err := by
  cases body with
  | none => rfl
  | some body =>
    unfold openAIRequest
    -- `Block` is looked at after the decoding, and before anything is rewritten
    cases hchat : sdk.unmarshalParams body with
    | none => simp [hchat]
    | some chat => simp [hchat, hblock]

/-- Nothing has been written to the target, and there is one refusal for each
    request that decodes. -/
structure Airtight (net : NetHttp) (sdk : Sdk) (s : RequestLoop) : Prop where
  egress : s.egress = []
  refusals : s.refusals = (s.taken.filter (TakenRequest.decodes net sdk)).map fun _ => refusal sdk

variable {net : NetHttp} {sdk : Sdk} {c : AITransaction} {policy : Request} {s : RequestLoop}

/-- The rounds that read no request leave all but the connection as it is. -/
private theorem Airtight.congr {s' : RequestLoop} (h : Airtight net sdk s)
    (hegress : s'.egress = s.egress) (hrefusals : s'.refusals = s.refusals)
    (htaken : s'.taken = s.taken) : Airtight net sdk s' := by
  constructor
  · rw [hegress, h.egress]
  · rw [hrefusals, htaken, h.refusals]

/-- A request that does not decode adds nothing. -/
private theorem Airtight.dropped {t : TakenRequest} (h : Airtight net sdk s)
    (ht : t.decodes net sdk = false) : Airtight net sdk { s with taken := s.taken ++ [t] } := by
  constructor
  · exact h.egress
  · simp only [List.filter_append, List.filter_cons, ht, Bool.false_eq_true, if_false,
      List.filter_nil, List.append_nil]
    exact h.refusals

/-- A request that decodes adds its refusal. -/
private theorem Airtight.refused {t : TakenRequest} (h : Airtight net sdk s)
    (ht : t.decodes net sdk = true) :
    Airtight net sdk
      { s with taken := s.taken ++ [t], refusals := s.refusals ++ [refusal sdk] } := by
  constructor
  · exact h.egress
  · simp only [List.filter_append, List.filter_cons, ht, if_true, List.filter_nil,
      List.map_append, List.map_cons, List.map_nil]
    rw [h.refusals]

/-- A request that was read goes into the log, and is refused if it decodes. -/
private theorem Airtight.apply (h : Airtight net sdk s) (hblock : policy.block = true)
    (writes : Bool) (head : GoString) (out : Outcome UInt8) :
    Airtight net sdk (RequestLoop.apply net sdk policy
      { s with taken := s.taken ++ [TakenRequest.mk head (bytesRead out)] } writes head out) := by
  -- a body that was not read to its end decodes as nothing
  have hlost : ∀ out, bytesRead out = none →
      (TakenRequest.mk head (bytesRead out)).decodes net sdk = false := by
    intro out hout
    rw [hout]
    rfl
  cases out with
  | part body rest =>
    unfold RequestLoop.apply
    simp only [openAIRequest_of_block sdk hblock]
    -- the verdict of `openAIRequest` and the log's test look at the same bytes
    by_cases hdec : (TakenRequest.mk head (bytesRead (.part body rest))).decodes net sdk = true
    · rw [if_pos (by simpa [TakenRequest.decodes, bytesRead] using hdec)]
      exact h.refused hdec
    · rw [if_neg (by simpa [TakenRequest.decodes, bytesRead] using hdec)]
      exact h.dropped (by simpa using hdec)
  | waits => exact (h.dropped (hlost _ rfl)).congr rfl rfl rfl
  | malformed => exact h.dropped (hlost _ rfl)
  | eof => exact h.dropped (hlost _ rfl)
  | cut => exact h.dropped (hlost _ rfl)

/-- One round of the request loop keeps the gateway airtight. -/
private theorem airtight_iterate (hc : c.request = some policy) (hblock : policy.block = true)
    (h : Airtight net sdk s) (writes : Bool) : Airtight net sdk (s.iterate net sdk c writes) := by
  by_cases hrunning : s.state = .running
  · rcases hread : net.request.readHead s.ingress with ⟨out, conn⟩
    cases out with
    | part head rest =>
      rw [RequestLoop.iterate_of_head hrunning hread]
      simp only [hc]
      -- what was read from the connection does not matter to the two counts
      have hconn : Airtight net sdk
          { s with ingress := (net.request.readBody head rest conn).2 } := h.congr rfl rfl rfl
      exact hconn.apply hblock writes head _
    | malformed | eof | cut | waits =>
      obtain ⟨htaken, hegress, hrefusals, -⟩ :=
        RequestLoop.iterate_of_no_head sdk c writes (s := s) (by rw [hread]; rfl)
      exact h.congr hegress hrefusals htaken
  · rw [RequestLoop.iterate_of_not_running hrunning]
    exact h

/-- In every run under a policy that blocks, whatever the two connections return
    and however the two loops take turns: nothing is written to the target, and each
    request whose body was read to its end and decodes is answered with one refusal,
    in order. -/
theorem block_airtight (net : NetHttp) (sdk : Sdk) (policy : Request)
    (response : Option Response) (ingress egress : Conn UInt8) (turns : List Turn) :
    let c : AITransaction := ⟨some { policy with block := true }, response⟩
    let g := Trace.run (HttpGateway.step net sdk c) (.start ingress egress) turns
    g.requests.egress = [] ∧
      g.requests.refusals =
        (g.requests.taken.filter (TakenRequest.decodes net sdk)).map fun _ => refusal sdk := by
  intro c g
  have hrun : Airtight net sdk g.requests := by
    -- the response loop's turns leave the request loop alone
    refine Trace.run_invariant (I := fun g : HttpGateway => Airtight net sdk g.requests) ?_ ?_
    · intro g turn h
      rcases g.step_requests turn with hsame | ⟨writes, -, hstep⟩
      · rw [hsame]
        exact h
      · rw [hstep]
        exact airtight_iterate rfl rfl h writes
    · exact ⟨rfl, rfl⟩
  exact ⟨hrun.egress, hrun.refusals⟩

end KubeGateway.Gateway

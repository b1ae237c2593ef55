import KubeGateway.ForStd.Trace
import KubeGateway.Native.HttpGateway

/-!
# Responses that are no completions

Under a response policy the body of every response is read before it is decoded.
When it does not decode, `openAIResponse` returns before it gives the response a new
body, and its error is forgotten: the response is written with the head it came with
and a body of which nothing is left.
-/

namespace KubeGateway.Gateway

open Framing

/-- The head a response was written with, if it is the one it came with. -/
def Sent.headAsSent : Sent → Option GoString
  | .whole m | .emptied m => some m.head
  | .rewritten _ _ | .part _ => none

/-- The content that was written behind the head. -/
def Sent.content (net : NetHttp) : Sent → GoString
  | .whole m => net.content m
  | .rewritten _ newBody => newBody
  | .emptied _ | .part _ => []

/-- A response was written as the server sent it, and its body has the length that its
    head declares, if it declares one. -/
structure Sent.AsSent (net : NetHttp) (m : Message UInt8) (sent : Sent) : Prop where
  head : sent.headAsSent = some m.head
  content : sent.content net = net.content m
  length : ∀ n, net.contentLength m.head = some n → n = (sent.content net).length

/-- A response that is read under a policy and is no completion is written as the server
    sent it, if it can be written. -/
def LeavesUndecodable (net : NetHttp) (sdk : Sdk) (g : HttpGateway) (r : Round) : Prop :=
  match r.turn with
  | .response true =>
    r.policy.response.isSome → ∀ m, g.responses.reads net r.policy = some m →
      sdk.unmarshalCompletion (net.content m) = none →
      ∃ sent, (g.stepUnder net sdk r).responses.ingress = g.responses.ingress ++ [sent] ∧
        sent.AsSent net m
  | _ => True

/-- Such a response has no content, and declares none. -/
def UndecodableEmpty (net : NetHttp) (sdk : Sdk) (g : HttpGateway) (r : Round) : Prop :=
  match r.turn with
  | .response true =>
    r.policy.response.isSome → ∀ m, g.responses.reads net r.policy = some m →
      sdk.unmarshalCompletion (net.content m) = none →
      net.content m = [] ∧ ∀ n, net.contentLength m.head = some n → n = 0
  | _ => True

/-! ## One response -/

section

variable {net : NetHttp} {sdk : Sdk} {m : Message UInt8}

/-- The body is gone, also where the head has no length to say so. -/
private theorem ingress_answer_undecodable (policy : Response) (s : ResponseLoop)
    (hm : sdk.unmarshalCompletion (net.content m) = none) :
    (s.answer net sdk policy true m).ingress = s.ingress ++ [.emptied m] := by
  have hopen : openAIResponse sdk policy (net.content m) = none := by
    simp only [openAIResponse, hm]
  unfold ResponseLoop.answer
  rw [hopen]
  dsimp only
  split
  · rfl
  · rfl

private theorem asSent_emptied_iff :
    Sent.AsSent net m (.emptied m) ↔
      net.content m = [] ∧ ∀ n, net.contentLength m.head = some n → n = 0 := by
  constructor
  · intro h
    exact ⟨h.content.symm, h.length⟩
  · rintro ⟨hcontent, hlength⟩
    exact ⟨rfl, hcontent.symm, hlength⟩

/-- A round that reads such a response. -/
private theorem ingress_iterate_undecodable {c : AITransaction} (hc : c.response.isSome)
    {s : ResponseLoop} (hreads : s.reads net c = some m)
    (hm : sdk.unmarshalCompletion (net.content m) = none) :
    (s.iterate net sdk c true).ingress = s.ingress ++ [.emptied m] := by
  obtain ⟨policy, hpolicy⟩ := Option.isSome_iff_exists.mp hc
  rcases s.iterate_of_policy sdk hpolicy true with ⟨m', conn, hreads', hiterate⟩ | ⟨hnone, -⟩
  · obtain rfl : m' = m := Option.some.inj (hreads'.symm.trans hreads)
    rw [hiterate]
    exact ingress_answer_undecodable policy { s with egress := conn } hm
  · rw [hnone] at hreads
    exact nomatch hreads

end

private theorem leavesUndecodable_iff (net : NetHttp) (sdk : Sdk) (g : HttpGateway) (r : Round) :
    LeavesUndecodable net sdk g r ↔ UndecodableEmpty net sdk g r := by
  unfold LeavesUndecodable UndecodableEmpty
  split
  · next hturn =>
    apply forall_congr'
    intro hpolicy
    apply forall₃_congr
    intro m hreads hm
    -- a loop that reads a response is running, so the process is
    have hcrashed : g.responses.state ≠ .crashed := by
      intro hcrashed
      simp [ResponseLoop.reads, hcrashed] at hreads
    rw [HttpGateway.stepUnder_response hturn hcrashed,
      ingress_iterate_undecodable hpolicy hreads hm, ← asSent_emptied_iff]
    simp
  · exact Iff.rfl

/-! ## Every run -/

/-- For every response of the target, every policy a round finds and every order of the
    loops' rounds: each response that does not decode is written as the server sent it
    if and only if none of them has a body or declares one. -/
theorem leaves_undecodable_iff_empty (net : NetHttp) (sdk : Sdk) (g : HttpGateway)
    (rounds : List Round) :
    Trace.Along (HttpGateway.stepUnder net sdk) (LeavesUndecodable net sdk) g rounds ↔
      Trace.Along (HttpGateway.stepUnder net sdk) (UndecodableEmpty net sdk) g rounds :=
  Trace.along_congr (leavesUndecodable_iff net sdk)

/-! ## An error page -/

/-- A response whose body is plain text. -/
def errorPage : Message UInt8 :=
  ⟨goString "HTTP/1.1 502 Bad Gateway\r\nContent-Length: 5\r\n\r\n", goString "sorry"⟩

/-- It is written with the length of a body that does not follow. -/
theorem not_leaves_undecodable :
    ¬ ∀ (net : NetHttp) (sdk : Sdk) (ingress egress : Conn UInt8) (rounds : List Round),
      Trace.Along (HttpGateway.stepUnder net sdk) (LeavesUndecodable net sdk)
        (.start ingress egress) rounds := by
  intro h
  obtain ⟨hround, -⟩ := h (fixedNet 5) ⟨fun _ => none, fun _ => none, fun _ => none, fun _ => none⟩
    ⟨[], none⟩ (.ofSegments [errorPage.wire] none)
    [⟨⟨none, some ⟨false, .nil⟩⟩, .response true⟩]
  obtain ⟨sent, hsent, hasSent⟩ := hround rfl errorPage rfl rfl
  have hemptied : sent = .emptied errorPage := (List.singleton_inj.mp hsent).symm
  rw [hemptied] at hasSent
  exact nomatch hasSent.content

end KubeGateway.Gateway

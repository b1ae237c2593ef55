import KubeGateway.ForStd.Trace
import KubeGateway.Native.HttpGateway

/-!
# What the response loop survives

`http.ReadResponse` returns no response with an error.  The response loop looks at
the error only after the policy has been applied, and under a response policy it
reads the body of the response it has not got; the process ends.  With `debug` it
ends one call earlier, when that response is dumped.
-/

namespace KubeGateway.Gateway

open Framing

/-- A round has written a response that it has read, or the loop has returned an error,
    or waits for more of a response. -/
def ResponseLoop.Survives (s s' : ResponseLoop) : Prop :=
  (s'.state = .running ∧ ∃ sent, s'.ingress = s.ingress ++ [sent]) ∨
    s'.state = .returned ∨ s'.state = .waits

/-- There is an error where the head of the next response should be: the connection is
    at its end, or fails, or what is sent is no response. -/
def ResponseLoop.HeadFails (net : NetHttp) (s : ResponseLoop) : Prop :=
  match ((net.response none).readHead s.egress).1 with
  | .part _ _ | .waits => False
  | .malformed | .eof | .cut _ => True

/-- A round of the running loop survives. -/
def SurvivesRound (net : NetHttp) (sdk : Sdk) (g : HttpGateway) (r : Round) : Prop :=
  match r.turn with
  | .response _ => g.responses.state = .running →
      g.responses.Survives (g.stepUnder net sdk r).responses
  | .request _ => True

/-- A round of the running loop that finds a response policy finds a response, too. -/
def HeadUnderPolicy (net : NetHttp) (g : HttpGateway) (r : Round) : Prop :=
  match r.turn with
  | .response _ => g.responses.state = .running → r.policy.response.isSome →
      ¬ g.responses.HeadFails net
  | .request _ => True

/-! ## One round -/

theorem ResponseLoop.Survives.not_crashed {s s' : ResponseLoop} (h : s.Survives s') :
    s'.state ≠ .crashed := by
  intro hcrashed
  rcases h with ⟨hstate, -⟩ | hstate | hstate
  · exact nomatch hcrashed.symm.trans hstate
  · exact nomatch hcrashed.symm.trans hstate
  · exact nomatch hcrashed.symm.trans hstate

section

variable {net : NetHttp} {sdk : Sdk} {s : ResponseLoop} {writes : Bool} {head : GoString}

private theorem survives_write (h : s.state = .running) (sent : Sent) :
    s.Survives (s.write writes head sent) := by
  unfold ResponseLoop.write
  cases writes with
  | true => exact Or.inl ⟨h, sent, rfl⟩
  | false => exact Or.inr (Or.inl rfl)

private theorem survives_forward (h : s.state = .running) (out : Outcome UInt8) :
    s.Survives (s.forward writes head out) := by
  cases out with
  | part body rest => exact survives_write h _
  | waits => exact Or.inr (Or.inr rfl)
  | malformed | eof | cut => exact Or.inr (Or.inl rfl)

private theorem survives_answer (h : s.state = .running) (policy : Response) (m : Message UInt8) :
    s.Survives (s.answer net sdk policy writes m) := by
  unfold ResponseLoop.answer
  split
  · exact survives_write h _
  · split
    · exact Or.inr (Or.inl rfl)
    · exact survives_write h _

private theorem survives_apply (h : s.state = .running) (policy : Response) (out : Outcome UInt8) :
    s.Survives (s.apply net sdk policy writes head out) := by
  unfold ResponseLoop.apply
  split
  · exact Or.inr (Or.inr rfl)
  · split
    · exact survives_answer h policy _
    · exact Or.inr (Or.inl rfl)

/-- A round survives if it finds no policy, or a response. -/
private theorem survives_iterate_iff (net : NetHttp) (sdk : Sdk) (c : AITransaction) (writes : Bool)
    {s : ResponseLoop} (h : s.state = .running) :
    s.Survives (s.iterate net sdk c writes) ↔ (c.response.isSome → ¬ s.HeadFails net) := by
  unfold ResponseLoop.HeadFails
  rcases hhead : (net.response none).readHead s.egress with ⟨out, conn⟩
  cases out with
  | part head rest =>
    rw [ResponseLoop.iterate_of_head h hhead]
    apply iff_of_true ?_ (fun _ => id)
    -- what was read of the connection is not written yet
    rcases (net.response none).readBody head rest conn with ⟨out, conn'⟩
    cases c.response with
    | none => exact survives_forward (s := { s with egress := conn' }) h out
    | some policy => exact survives_apply (s := { s with egress := conn' }) h policy out
  | waits =>
    simp only [ResponseLoop.iterate, h, hhead]
    exact iff_of_true (Or.inr (Or.inr rfl)) (fun _ => id)
  | malformed | eof | cut =>
    simp only [ResponseLoop.iterate, h, hhead]
    by_cases hfound : c.getResponse.isSome = true
    · rw [if_pos hfound]
      exact iff_of_false (fun h => h.not_crashed rfl) (fun h => h hfound trivial)
    · rw [if_neg hfound]
      exact iff_of_true (Or.inr (Or.inl rfl)) (fun h => absurd h hfound)

end

private theorem survivesRound_iff (net : NetHttp) (sdk : Sdk) (g : HttpGateway) (r : Round) :
    SurvivesRound net sdk g r ↔ HeadUnderPolicy net g r := by
  unfold SurvivesRound HeadUnderPolicy
  cases hturn : r.turn with
  | request writes => exact Iff.rfl
  | response writes =>
    apply forall_congr'
    intro hrunning
    rw [HttpGateway.stepUnder_response hturn (by rw [hrunning]; decide)]
    exact survives_iterate_iff net sdk r.policy writes hrunning

/-! ## Every run -/

/-- In a run whose rounds survive the process goes on. -/
theorem not_crashed_of_survives (net : NetHttp) (sdk : Sdk) {g : HttpGateway} {rounds : List Round}
    (hstart : g.responses.state ≠ .crashed)
    (h : Trace.Along (HttpGateway.stepUnder net sdk) (SurvivesRound net sdk) g rounds) :
    (Trace.run (HttpGateway.stepUnder net sdk) g rounds).responses.state ≠ .crashed := by
  refine Trace.run_of_along (I := fun g => g.responses.state ≠ .crashed) ?_ hstart h
  intro g r hcrashed hround
  cases hturn : r.turn with
  | request writes =>
    -- the request loop has no part in it
    unfold HttpGateway.stepUnder HttpGateway.step
    rw [if_neg hcrashed, hturn]
    exact hcrashed
  | response writes =>
    simp only [SurvivesRound, hturn] at hround
    by_cases hrunning : g.responses.state = .running
    · exact (hround hrunning).not_crashed
    · rw [HttpGateway.stepUnder_response hturn hcrashed,
        ResponseLoop.iterate_of_not_running hrunning]
      exact hcrashed

/-- For every stream of the target, every policy that a round finds and every order of
    the loops' rounds: each round of the response loop forwards a response or returns an
    error, if and only if none that finds a response policy meets an error in place of a
    response. -/
theorem survives_iff_head_under_policy (net : NetHttp) (sdk : Sdk) (g : HttpGateway)
    (rounds : List Round) :
    Trace.Along (HttpGateway.stepUnder net sdk) (SurvivesRound net sdk) g rounds ↔
      Trace.Along (HttpGateway.stepUnder net sdk) (HeadUnderPolicy net) g rounds :=
  Trace.along_congr (survivesRound_iff net sdk)

/-! ## A target that closes its connection -/

/-- It has answered one request and is done; the next round ends the process. -/
theorem not_survives :
    ¬ ∀ (net : NetHttp) (sdk : Sdk) (ingress egress : Conn UInt8) (rounds : List Round),
      (Trace.run (HttpGateway.stepUnder net sdk) (.start ingress egress) rounds).responses.state ≠
        .crashed := by
  intro h
  apply h (fixedNet 0) ⟨fun _ => none, fun _ => none, fun _ => none, fun _ => none⟩ ⟨[], none⟩
    (.ofSegments [goString "HTTP/1.1 204 No Content\r\n\r\n"] (some .eof))
    [⟨⟨none, some ⟨false, .nil⟩⟩, .response true⟩, ⟨⟨none, some ⟨false, .nil⟩⟩, .response true⟩]
  rfl

end KubeGateway.Gateway

import KubeGateway.Native.HttpGateway

/-!
# The writes to the application

The goroutine of `Http_gateway` answers what it blocks itself, the response loop
writes what it reads from the target, and both write to `ingress`.  A response takes
one or more `Write` calls on the connection; nothing keeps those of the other writer
from coming between them.

Requests are numbered in the order they are read.  Which request a response of the
target is for, and whether it is the last one for it (a `100 Continue` is not), is for
the target to choose: the loop writes whatever it reads.
-/

namespace KubeGateway.Gateway

open Framing

/-- A `Write` call on `ingress`: the request that its response is for, and how many
    responses were begun before that one. -/
@[ext]
structure WriteCall where
  request : Nat
  response : Nat
  deriving DecidableEq, Repr

/-- Both loops with what they have still to write. -/
structure HttpWrites where
  gateway : HttpGateway
  /-- the calls left of the goroutine's response -/
  refusing : List WriteCall
  /-- the calls left of the response loop's response -/
  answering : List WriteCall
  /-- the requests written to the target that the loop has read no final response for -/
  unanswered : List Nat
  /-- the responses begun so far -/
  begun : Nat
  /-- the calls made so far -/
  written : List WriteCall

def HttpWrites.start (ingress egress : Conn UInt8) : HttpWrites :=
  { gateway := .start ingress egress
    refusing := [], answering := [], unanswered := [], begun := 0, written := [] }

/-- A round of one of the loops, under the policy it finds, up to its first `Write` call
    on `ingress`; or one such call. -/
inductive WriteEvent where
  /-- a response of the goroutine takes `calls` more calls than one -/
  | request (policy : AITransaction) (writes : Bool) (calls : Nat)
  /-- what the loop reads is for request `i`; it takes `calls` more calls than one -/
  | response (policy : AITransaction) (writes : Bool) (calls : Nat) (i : Nat) (final : Bool)
  | writeRefusal
  | writeAnswer

/-- One step.  A loop that is writing a response does not go on to the next round. -/
def HttpWrites.step (net : NetHttp) (sdk : Sdk) (s : HttpWrites) (e : WriteEvent) : HttpWrites :=
  if s.gateway.responses.state = .crashed then s
  else
    match e with
    | .request policy writes calls =>
      if s.refusing = [] then
        let g := s.gateway.step net sdk policy (.request writes)
        let i := s.gateway.requests.taken.length
        if s.gateway.requests.refusals.length < g.requests.refusals.length then
          { s with
            gateway := g
            refusing := List.replicate (calls + 1) ⟨i, s.begun⟩
            begun := s.begun + 1 }
        else if s.gateway.requests.egress.length < g.requests.egress.length then
          { s with gateway := g, unanswered := s.unanswered ++ [i] }
        else { s with gateway := g }
      else s
    | .response policy writes calls i final =>
      if s.answering = [] then
        let g := s.gateway.step net sdk policy (.response writes)
        if s.gateway.responses.ingress.length < g.responses.ingress.length then
          { s with
            gateway := g
            answering := List.replicate (calls + 1) ⟨i, s.begun⟩
            begun := s.begun + 1
            unanswered := if final then s.unanswered.erase i else s.unanswered }
        else { s with gateway := g }
      else s
    | .writeRefusal =>
      match s.refusing with
      | [] => s
      | c :: rest => { s with refusing := rest, written := s.written ++ [c] }
    | .writeAnswer =>
      match s.answering with
      | [] => s
      | c :: rest => { s with answering := rest, written := s.written ++ [c] }

/-- The goroutine reads a request and is going to answer it itself. -/
def HttpWrites.Refuses (net : NetHttp) (sdk : Sdk) (s : HttpWrites) : WriteEvent → Prop
  | .request policy _ _ =>
    s.gateway.responses.state ≠ .crashed ∧ s.refusing = [] ∧
      s.gateway.requests.Blocks net sdk policy
  | _ => False

section

variable (net : NetHttp) (sdk : Sdk) {s : HttpWrites} (policy : AITransaction) (writes : Bool)
  (calls : Nat)

theorem HttpWrites.step_of_crashed (h : s.gateway.responses.state = .crashed) (e : WriteEvent) :
    s.step net sdk e = s := by
  simp only [step, if_pos h]

end

end KubeGateway.Gateway

import KubeGateway.ForStd.Framing
import KubeGateway.Native.OpenAI

/-!
# The HTTP gateway

`Http_gateway` of `gateway/http_gateway.go`: a goroutine that reads requests from
the application and writes them to the target, and a loop that reads responses
and writes them to the application.  Every round of either makes a new buffered
reader, so what the old one holds behind its message is dropped.

`net/http` is a parameter.  A request or response stands for the bytes it was read
from.  The response loop reads without the request a response answers, so the
parser it uses is the one for a response to `GET`.
-/

namespace KubeGateway.Gateway

open Framing

abbrev Method := String

/-- What `net/http` makes of the bytes of requests and responses. -/
structure NetHttp where
  request : Parser UInt8
  /-- by the method of the request it answers, `GET` if there is none -/
  response : Option Method → Parser UInt8
  /-- what `io.ReadAll` returns of a body that ends well -/
  content : Message UInt8 → GoString
  /-- the `ContentLength` of a response with this head, `none` for an unknown one -/
  contentLength : GoString → Option Nat

/-- What a `Write` of a request or response puts on the other connection. -/
inductive Sent where
  | whole (m : Message UInt8)
  /-- with a new body, and its length -/
  | rewritten (m : Message UInt8) (newBody : GoString)
  /-- with the head as it was read, but nothing left of the body -/
  | emptied (m : Message UInt8)
  /-- some part of it: the write has failed, or the body has -/
  | part (head : GoString)
  deriving DecidableEq, Repr

inductive LoopState where
  | running
  | waits
  | returned
  | crashed
  deriving DecidableEq, Repr

/-- A request the loop has read, and its body if that was read to its end. -/
structure TakenRequest where
  head : GoString
  body : Option GoString
  deriving DecidableEq, Repr

/-- The bytes of a part, `none` if it was not read to its end. -/
def bytesRead : Outcome UInt8 → Option GoString
  | .part bytes _ => some bytes
  | _ => none

/-! ## The request loop -/

/-- The goroutine: its connection to the application, the requests it has read, and
    what it has written to the target and back to the application. -/
structure RequestLoop where
  ingress : Conn UInt8
  taken : List TakenRequest
  egress : List Sent
  refusals : List HttpResponse
  state : LoopState
  deriving DecidableEq, Repr

def RequestLoop.start (ingress : Conn UInt8) : RequestLoop :=
  { ingress, taken := [], egress := [], refusals := [], state := .running }

/-- `req.Write(egress)` of a request that can be written as a whole. -/
def RequestLoop.write (s : RequestLoop) (writes : Bool) (head : GoString) (sent : Sent) :
    RequestLoop :=
  if writes then { s with egress := s.egress ++ [sent] }
  else { s with egress := s.egress ++ [.part head], state := .returned }

/-- A request is written as it is read. -/
def RequestLoop.forward (s : RequestLoop) (writes : Bool) (head : GoString) :
    Outcome UInt8 → RequestLoop
  | .part body _ => s.write writes head (.whole ⟨head, body⟩)
  | .waits => { s with egress := s.egress ++ [.part head], state := .waits }
  | _ => { s with egress := s.egress ++ [.part head], state := .returned }

/-- A request is read, and then treated as the policy says. -/
def RequestLoop.apply (net : NetHttp) (sdk : Sdk) (policy : Request) (s : RequestLoop)
    (writes : Bool) (head : GoString) : Outcome UInt8 → RequestLoop
  | .waits => { s with state := .waits }
  | out =>
    match openAIRequest sdk policy ((bytesRead out).map fun body => net.content ⟨head, body⟩) with
    | .err => s -- logged, and on to the next
    | .block res => { s with refusals := s.refusals ++ [res] } -- a failed write is only logged
    | .pass newBody => s.write writes head (.rewritten ⟨head, (bytesRead out).getD []⟩ newBody)

/-- One round of the goroutine. -/
def RequestLoop.iterate (net : NetHttp) (sdk : Sdk) (c : AITransaction) (writes : Bool)
    (s : RequestLoop) : RequestLoop :=
  match s.state with
  | .running =>
    match net.request.readHead s.ingress with
    | (.part head rest, conn) =>
      -- what the buffer holds behind the body is not kept
      let (out, conn) := net.request.readBody head rest conn
      let s := { s with
        ingress := conn, taken := s.taken ++ [TakenRequest.mk head (bytesRead out)] }
      match c.getRequest with
      | some policy => s.apply net sdk policy writes head out
      | none => s.forward writes head out
    | (.eof, conn) => { s with ingress := conn, state := .returned }
    | (.waits, conn) => { s with ingress := conn, state := .waits }
    | (_, conn) => { s with ingress := conn } -- logged, and on to the next
  | _ => s

/-- The request a round of the loop reads, if it reads one to its end. -/
def RequestLoop.reads (net : NetHttp) (s : RequestLoop) : Option (Message UInt8) :=
  if s.state = .running then (net.request.readMessage s.ingress).1.map Prod.fst else none

/-! ## The response loop -/

/-- The loop: its connection to the target, and what it has written to the
    application. -/
structure ResponseLoop where
  egress : Conn UInt8
  ingress : List Sent
  state : LoopState
  deriving DecidableEq, Repr

def ResponseLoop.start (egress : Conn UInt8) : ResponseLoop :=
  { egress, ingress := [], state := .running }

/-- `res.Write(ingress)` of a response that can be written as a whole. -/
def ResponseLoop.write (s : ResponseLoop) (writes : Bool) (head : GoString) (sent : Sent) :
    ResponseLoop :=
  if writes then { s with ingress := s.ingress ++ [sent] }
  else { s with ingress := s.ingress ++ [.part head], state := .returned }

/-- A response is written as it is read. -/
def ResponseLoop.forward (s : ResponseLoop) (writes : Bool) (head : GoString) :
    Outcome UInt8 → ResponseLoop
  | .part body _ => s.write writes head (.whole ⟨head, body⟩)
  | .waits => { s with ingress := s.ingress ++ [.part head], state := .waits }
  | _ => { s with ingress := s.ingress ++ [.part head], state := .returned }

/-- What `io.ReadAll` returns of the body of a response, `none` for an error.  When
    `DumpResponse` has read the body before, a body that came to its end is there
    again; but that a body is shorter than its `Content-Length` is only said once. -/
def NetHttp.readAll (net : NetHttp) (dumped : Bool) (head : GoString) :
    Outcome UInt8 → Option GoString
  | .part body _ => some body
  | .eof | .cut .eof => if dumped && (net.contentLength head).isSome then some [] else none
  | _ => none

/-- A response whose body has been read is written as the policy says. -/
def ResponseLoop.answer (net : NetHttp) (sdk : Sdk) (policy : Response) (s : ResponseLoop)
    (writes : Bool) (m : Message UInt8) : ResponseLoop :=
  match openAIResponse sdk policy (net.content m) with
  -- blocked or not, the response is sent on with the new body
  | some (_, newBody) => s.write writes m.head (.rewritten m newBody)
  | none =>
    -- the body has been read: `Write` finds it empty, an error if the head says otherwise
    match net.contentLength m.head with
    | some (_ + 1) => { s with ingress := s.ingress ++ [.emptied m], state := .returned }
    | _ => s.write writes m.head (.emptied m)

/-- The body of a response is read, and then the response is treated as the policy says. -/
def ResponseLoop.apply (net : NetHttp) (sdk : Sdk) (policy : Response) (s : ResponseLoop)
    (writes : Bool) (head : GoString) : Outcome UInt8 → ResponseLoop
  | .waits => { s with state := .waits }
  | out =>
    match net.readAll policy.debug head out with
    | some body => s.answer net sdk policy writes ⟨head, body⟩
    | none => { s with state := .returned }

/-- One round of the loop. -/
def ResponseLoop.iterate (net : NetHttp) (sdk : Sdk) (c : AITransaction) (writes : Bool)
    (s : ResponseLoop) : ResponseLoop :=
  match s.state with
  | .running =>
    match (net.response none).readHead s.egress with
    | (.part head rest, conn) =>
      -- `http.ReadResponse(reader, nil)`, and a buffer that is not kept
      let (out, conn) := (net.response none).readBody head rest conn
      let s := { s with egress := conn }
      match c.getResponse with
      | some policy => s.apply net sdk policy writes head out
      | none => s.forward writes head out
    | (.waits, conn) => { s with egress := conn, state := .waits }
    | (_, conn) =>
      -- with a policy, the body of a nil response is read before the error is looked at
      { s with egress := conn, state := if c.getResponse.isSome then .crashed else .returned }
  | _ => s

/-- The response a round of the loop reads, if it gets to the end of its body. -/
def ResponseLoop.reads (net : NetHttp) (c : AITransaction) (s : ResponseLoop) :
    Option (Message UInt8) :=
  if s.state = .running then
    match (net.response none).readHead s.egress with
    | (.part head rest, conn) =>
      let out := ((net.response none).readBody head rest conn).1
      (net.readAll (c.response.any Response.debug) head out).map (Message.mk head)
    | _ => none
  else none

/-! ## Both loops -/

structure HttpGateway where
  requests : RequestLoop
  responses : ResponseLoop
  deriving DecidableEq, Repr

def HttpGateway.start (ingress egress : Conn UInt8) : HttpGateway :=
  { requests := .start ingress, responses := .start egress }

/-- One round of one of the loops, and whether its `Write`s succeed. -/
inductive Turn where
  | request (writes : Bool)
  | response (writes : Bool)
  deriving DecidableEq, Repr

/-- One round; a crash ends the process. -/
def HttpGateway.step (net : NetHttp) (sdk : Sdk) (c : AITransaction) (g : HttpGateway)
    (turn : Turn) : HttpGateway :=
  if g.responses.state = .crashed then g
  else
    match turn with
    | .request writes => { g with requests := g.requests.iterate net sdk c writes }
    | .response writes => { g with responses := g.responses.iterate net sdk c writes }

/-- A round with the policy it finds: another goroutine keeps the policy up to date. -/
structure Round where
  policy : AITransaction
  turn : Turn

/-- One round, under the policy it finds. -/
def HttpGateway.stepUnder (net : NetHttp) (sdk : Sdk) (g : HttpGateway) (r : Round) : HttpGateway :=
  g.step net sdk r.policy r.turn

/-- `directConnect` closes the connection to the application when the response loop
    returns; a crash closes everything. -/
def HttpGateway.Closed (g : HttpGateway) : Prop :=
  g.responses.state = .returned ∨ g.responses.state = .crashed

instance (g : HttpGateway) : Decidable g.Closed := inferInstanceAs (Decidable (_ ∨ _))

/-- `net/http`, for messages whose bodies have `n` bytes, neither encoded nor typed. -/
def fixedNet (n : Nat) : NetHttp where
  request := .terminated [13, 10, 13, 10] fun _ => n
  response := fun _ => .terminated [13, 10, 13, 10] fun _ => n
  content := Message.body
  contentLength := fun _ => some n

/-! ## Rounds -/

section

variable {net : NetHttp} {sdk : Sdk} {c : AITransaction} {writes : Bool}

theorem RequestLoop.iterate_of_not_running {s : RequestLoop} (h : s.state ≠ .running) :
    s.iterate net sdk c writes = s := by
  unfold RequestLoop.iterate
  split
  · exact absurd ‹s.state = .running› h
  · rfl

/-- A round that reads a head goes on with the body that follows it. -/
theorem RequestLoop.iterate_of_head {s : RequestLoop} (h : s.state = .running)
    {head rest : GoString} {conn : Conn UInt8}
    (hread : net.request.readHead s.ingress = (.part head rest, conn)) :
    s.iterate net sdk c writes =
      let (out, conn) := net.request.readBody head rest conn
      let s := { s with
        ingress := conn, taken := s.taken ++ [TakenRequest.mk head (bytesRead out)] }
      match c.request with
      | some policy => s.apply net sdk policy writes head out
      | none => s.forward writes head out := by
  simp only [RequestLoop.iterate, h, hread, AITransaction.getRequest]

/-- A round that reads no head changes the connection and the loop's state only. -/
theorem RequestLoop.iterate_of_no_head (sdk : Sdk) (c : AITransaction) (writes : Bool)
    {s : RequestLoop} (hread : bytesRead (net.request.readHead s.ingress).1 = none) :
    (s.iterate net sdk c writes).taken = s.taken ∧
      (s.iterate net sdk c writes).egress = s.egress ∧
      (s.iterate net sdk c writes).refusals = s.refusals ∧
      s.ingress.Later (s.iterate net sdk c writes).ingress := by
  by_cases h : s.state = .running
  · have hlater := net.request.readHead_later s.ingress
    rcases hout : net.request.readHead s.ingress with ⟨out, conn⟩
    rw [hout] at hread hlater
    cases out with
    | part bytes rest => exact nomatch hread
    | malformed | eof | cut | waits =>
      simp only [RequestLoop.iterate, h, hout]
      exact ⟨trivial, trivial, trivial, hlater⟩
  · rw [iterate_of_not_running h]
    exact ⟨rfl, rfl, rfl, .refl _⟩

/-- Under a policy a round treats the request it reads. -/
theorem RequestLoop.iterate_of_reads (sdk : Sdk) {policy : Request} (hc : c.request = some policy)
    (writes : Bool) {s : RequestLoop} {m : Message UInt8} (hreads : s.reads net = some m) :
    ∃ (s' : RequestLoop) (rest : GoString), s'.egress = s.egress ∧ s'.refusals = s.refusals ∧
      s.iterate net sdk c writes = s'.apply net sdk policy writes m.head (.part m.body rest) := by
  unfold RequestLoop.reads at hreads
  split at hreads
  · next hrunning =>
    obtain ⟨⟨m', rest⟩, hmessage, rfl⟩ := Option.map_eq_some_iff.mp hreads
    obtain ⟨rest₀, conn, hhead, hbody⟩ := Parser.readMessage_eq_some.mp
      (show net.request.readMessage s.ingress = (some (m', rest), _) from Prod.ext hmessage rfl)
    -- the loop, once it has read the request
    refine ⟨{ s with
      ingress := (net.request.readMessage s.ingress).2
      taken := s.taken ++ [⟨m'.head, bytesRead (.part m'.body rest)⟩] }, rest, rfl, rfl, ?_⟩
    rw [RequestLoop.iterate_of_head hrunning hhead]
    simp only [hbody, hc]
  · exact nomatch hreads

/-- A round that blocks has read a request that decodes. -/
def RequestLoop.Blocks (net : NetHttp) (sdk : Sdk) (c : AITransaction) (s : RequestLoop) : Prop :=
  ∃ policy m, c.request = some policy ∧ policy.block = true ∧ s.reads net = some m ∧
    (sdk.unmarshalParams (net.content m)).isSome

/-- A round takes no request, or one; of one that it takes, it writes something to the
    target, or answers it, or does neither. -/
theorem RequestLoop.iterate_cases (net : NetHttp) (sdk : Sdk) (c : AITransaction) (writes : Bool)
    (s : RequestLoop) :
    let s' := s.iterate net sdk c writes
    (s'.taken = s.taken ∧ s'.egress = s.egress ∧ s'.refusals = s.refusals) ∨
    ∃ t, s'.taken = s.taken ++ [t] ∧
      ((s'.egress = s.egress ∧ s'.refusals = s.refusals) ∨
        (∃ sent, s'.egress = s.egress ++ [sent] ∧ s'.refusals = s.refusals) ∨
        (∃ res, s'.egress = s.egress ∧ s'.refusals = s.refusals ++ [res]) ∧
          s.Blocks net sdk c) := by
  by_cases hrunning : s.state = .running
  · rcases hhead : net.request.readHead s.ingress with ⟨out, conn⟩
    cases out with
    | part head rest =>
      rw [iterate_of_head hrunning hhead]
      rcases hbody : net.request.readBody head rest conn with ⟨out, conn'⟩
      cases hpolicy : c.request with
      | none =>
        -- without a policy all that was read is written on
        cases out with
        | part body rest' =>
          cases writes with
          | true => exact Or.inr ⟨_, rfl, Or.inr (Or.inl ⟨_, rfl, rfl⟩)⟩
          | false => exact Or.inr ⟨_, rfl, Or.inr (Or.inl ⟨_, rfl, rfl⟩)⟩
        | malformed | eof | cut | waits => exact Or.inr ⟨_, rfl, Or.inr (Or.inl ⟨_, rfl, rfl⟩)⟩
      | some policy =>
        cases out with
        | part body rest' =>
          have hreads : s.reads net = some ⟨head, body⟩ := by
            simp only [reads, if_pos hrunning, Parser.readMessage, hhead, hbody, Option.map_some]
          rcases openAIRequest_cases sdk policy (net.content ⟨head, body⟩) with
            ⟨-, hverdict⟩ | ⟨chat, hchat, ⟨hblock, hverdict⟩ | ⟨-, hverdict⟩⟩
          all_goals
            simp only [apply, bytesRead, Option.map_some, hverdict]
          · exact Or.inr ⟨_, rfl, Or.inl ⟨trivial, trivial⟩⟩
          · exact Or.inr ⟨_, rfl, Or.inr (Or.inr ⟨⟨_, trivial, rfl⟩, policy, ⟨head, body⟩, hpolicy,
              hblock, hreads, by rw [hchat]; rfl⟩)⟩
          · unfold write
            cases writes with
            | true => exact Or.inr ⟨_, rfl, Or.inr (Or.inl ⟨_, rfl, rfl⟩)⟩
            | false => exact Or.inr ⟨_, rfl, Or.inr (Or.inl ⟨_, rfl, rfl⟩)⟩
        | malformed | eof | cut | waits => exact Or.inr ⟨_, rfl, Or.inl ⟨rfl, rfl⟩⟩
    | malformed | eof | cut | waits =>
      obtain ⟨htaken, hegress, hrefusals, -⟩ :=
        iterate_of_no_head sdk c writes (s := s) (by rw [hhead]; rfl)
      exact Or.inl ⟨htaken, hegress, hrefusals⟩
  · rw [iterate_of_not_running hrunning]
    exact Or.inl ⟨rfl, rfl, rfl⟩

theorem ResponseLoop.iterate_of_not_running {s : ResponseLoop} (h : s.state ≠ .running) :
    s.iterate net sdk c writes = s := by
  unfold ResponseLoop.iterate
  split
  · exact absurd ‹s.state = .running› h
  · rfl

/-- A round that reads a head goes on with the body that follows it. -/
theorem ResponseLoop.iterate_of_head {s : ResponseLoop} (h : s.state = .running)
    {head rest : GoString} {conn : Conn UInt8}
    (hread : (net.response none).readHead s.egress = (.part head rest, conn)) :
    s.iterate net sdk c writes =
      let (out, conn) := (net.response none).readBody head rest conn
      let s := { s with egress := conn }
      match c.response with
      | some policy => s.apply net sdk policy writes head out
      | none => s.forward writes head out := by
  simp only [ResponseLoop.iterate, h, hread, AITransaction.getResponse]

/-- A round that reads no head writes nothing. -/
theorem ResponseLoop.iterate_of_no_head (sdk : Sdk) (c : AITransaction) (writes : Bool)
    {s : ResponseLoop} (hread : bytesRead ((net.response none).readHead s.egress).1 = none) :
    (s.iterate net sdk c writes).ingress = s.ingress ∧
      s.egress.Later (s.iterate net sdk c writes).egress := by
  by_cases h : s.state = .running
  · have hlater := (net.response none).readHead_later s.egress
    rcases hout : (net.response none).readHead s.egress with ⟨out, conn⟩
    rw [hout] at hread hlater
    cases out with
    | part bytes rest => exact nomatch hread
    | malformed | eof | cut | waits =>
      simp only [ResponseLoop.iterate, h, hout]
      exact ⟨trivial, hlater⟩
  · rw [iterate_of_not_running h]
    exact ⟨rfl, .refl _⟩

/-- Under a policy a round treats the response it reads, and writes nothing without one. -/
theorem ResponseLoop.iterate_of_policy (sdk : Sdk) {policy : Response}
    (hc : c.response = some policy) (writes : Bool) (s : ResponseLoop) :
    (∃ m conn, s.reads net c = some m ∧
      s.iterate net sdk c writes = { s with egress := conn }.answer net sdk policy writes m) ∨
    (s.reads net c = none ∧ (s.iterate net sdk c writes).ingress = s.ingress) := by
  by_cases hrunning : s.state = .running
  · unfold reads
    rw [if_pos hrunning]
    rcases hhead : (net.response none).readHead s.egress with ⟨out, conn⟩
    cases out with
    | part head rest =>
      rw [iterate_of_head hrunning hhead]
      rcases hbody : (net.response none).readBody head rest conn with ⟨out, conn'⟩
      simp only [hc, hbody, Option.any_some]
      cases hread : net.readAll policy.debug head out with
      | some body =>
        refine Or.inl ⟨⟨head, body⟩, conn', rfl, ?_⟩
        unfold apply
        split
        · exact nomatch hread
        · rw [hread]
      | none =>
        refine Or.inr ⟨rfl, ?_⟩
        unfold apply
        split
        · rfl
        · rw [hread]
    | malformed | eof | cut | waits =>
      exact Or.inr ⟨rfl, (iterate_of_no_head sdk c writes (by rw [hhead]; rfl)).1⟩
  · refine Or.inr ⟨?_, ?_⟩
    · unfold reads
      rw [if_neg hrunning]
    · rw [iterate_of_not_running hrunning]

/-- A turn of the gateway is a round of one of its loops. -/
theorem HttpGateway.step_requests (g : HttpGateway) (turn : Turn) :
    (g.step net sdk c turn).requests = g.requests ∨
      ∃ writes, turn = .request writes ∧
        (g.step net sdk c turn).requests = g.requests.iterate net sdk c writes := by
  unfold HttpGateway.step
  by_cases hcrashed : g.responses.state = .crashed
  · exact Or.inl (by rw [if_pos hcrashed])
  · rw [if_neg hcrashed]
    cases turn with
    | request writes => exact Or.inr ⟨writes, rfl, rfl⟩
    | response writes => exact Or.inl rfl

/-- While the process runs, a turn of the request loop is a round under the policy it
    finds. -/
theorem HttpGateway.stepUnder_request {g : HttpGateway} {r : Round}
    (hturn : r.turn = .request writes) (hcrashed : g.responses.state ≠ .crashed) :
    (g.stepUnder net sdk r).requests = g.requests.iterate net sdk r.policy writes := by
  unfold HttpGateway.stepUnder HttpGateway.step
  rw [if_neg hcrashed, hturn]

theorem HttpGateway.stepUnder_response {g : HttpGateway} {r : Round}
    (hturn : r.turn = .response writes) (hcrashed : g.responses.state ≠ .crashed) :
    (g.stepUnder net sdk r).responses = g.responses.iterate net sdk r.policy writes := by
  unfold HttpGateway.stepUnder HttpGateway.step
  rw [if_neg hcrashed, hturn]

end

end KubeGateway.Gateway

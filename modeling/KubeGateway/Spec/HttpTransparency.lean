import KubeGateway.ForStd.Trace
import KubeGateway.Native.HttpGateway

/-!
# The HTTP gateway without a policy

Without a policy both loops copy messages, each read through a buffer of its own.
So what a read of the connection returns behind the end of a message is lost, and
the next message is looked for behind it; and a response ends where a response to
`GET` would end.  The gateway is transparent exactly for the traffic on which
neither shows.
-/

namespace KubeGateway.Gateway

open Framing

/-- The message that was written as a whole. -/
def Sent.whole? : Sent → Option (Message UInt8)
  | .whole m => some m
  | _ => none

private theorem map_whole?_eq_iff {sents : List Sent} {ms : List (Message UInt8)} :
    sents.map Sent.whole? = ms.map some ↔ sents = ms.map .whole := by
  constructor
  · intro h
    induction ms generalizing sents with
    | nil => simpa using h
    | cons m ms ih =>
      cases sents with
      | nil => exact nomatch h
      | cons sent sents =>
        rw [List.map_cons, List.map_cons, List.cons.injEq] at h
        have hsent : sent = .whole m := by
          -- anything but a whole message has no message to compare
          cases sent with
          | whole m' => exact congrArg Sent.whole (Option.some.inj h.1)
          | rewritten | emptied | part => exact nomatch h.1
        rw [hsent, ih h.2, List.map_cons]
  · rintro rfl
    rw [List.map_map]
    rfl

section

variable (net : NetHttp) (sdk : Sdk)

private theorem bytesRead_of_no_head {p : Parser UInt8} {c : Conn UInt8}
    (hno : ∀ head rest conn, p.readHead c ≠ (.part head rest, conn)) :
    bytesRead (p.readHead c).1 = none := by
  rcases hhead : p.readHead c with ⟨out, conn⟩
  cases out with
  | part head rest => exact absurd hhead (hno head rest conn)
  | malformed | eof | cut | waits => rfl

/-- The request loop copies requests. -/
private theorem copies_requests :
    Copies net.request RequestLoop.ingress (fun s => s.egress.map Sent.whole?)
      (fun s => s.state = .running) (RequestLoop.iterate net sdk .empty true) := by
  constructor
  · intro s hno
    by_cases hrunning : s.state = .running
    · obtain ⟨-, hegress, -, hlater⟩ :=
        RequestLoop.iterate_of_no_head sdk .empty true (bytesRead_of_no_head (hno hrunning))
      exact ⟨by rw [hegress], hlater⟩
    · rw [RequestLoop.iterate_of_not_running hrunning]
      exact ⟨rfl, .refl _⟩
  · intro s head rest c hrunning hhead
    rw [RequestLoop.iterate_of_head hrunning hhead]
    rcases net.request.readBody head rest c with ⟨out, c'⟩
    cases out with
    -- a body that breaks off leaves part of its request on the wire
    | part body rest' => exact ⟨rfl, List.map_append, hrunning⟩
    | malformed | eof | cut | waits => exact ⟨rfl, List.map_append⟩

/-- The response loop copies responses, each as a response to `GET`. -/
private theorem copies_responses :
    Copies (net.response none) ResponseLoop.egress (fun s => s.ingress.map Sent.whole?)
      (fun s => s.state = .running) (ResponseLoop.iterate net sdk .empty true) := by
  constructor
  · intro s hno
    by_cases hrunning : s.state = .running
    · obtain ⟨hingress, hlater⟩ :=
        ResponseLoop.iterate_of_no_head sdk .empty true (bytesRead_of_no_head (hno hrunning))
      exact ⟨by rw [hingress], hlater⟩
    · rw [ResponseLoop.iterate_of_not_running hrunning]
      exact ⟨rfl, .refl _⟩
  · intro s head rest c hrunning hhead
    rw [ResponseLoop.iterate_of_head hrunning hhead]
    rcases (net.response none).readBody head rest c with ⟨out, c'⟩
    cases out with
    | part body rest' => exact ⟨rfl, List.map_append, hrunning⟩
    | malformed | eof | cut | waits => exact ⟨rfl, List.map_append⟩

/-- Without a policy no response is looked into, so none that is missing is. -/
private theorem not_crashed_iterate {s : ResponseLoop} (h : s.state ≠ .crashed) :
    (s.iterate net sdk .empty true).state ≠ .crashed := by
  by_cases hrunning : s.state = .running
  · rcases hhead : (net.response none).readHead s.egress with ⟨out, conn⟩
    cases out with
    | part head rest =>
      rw [ResponseLoop.iterate_of_head hrunning hhead]
      rcases (net.response none).readBody head rest conn with ⟨out, conn'⟩
      cases out with
      -- only a policy makes the loop look into a missing response
      | part body rest' => exact h
      | malformed | eof | cut | waits => exact nofun
    | malformed | eof | cut | waits =>
      simp [ResponseLoop.iterate, hrunning, hhead, AITransaction.getResponse, AITransaction.empty]
  · rw [ResponseLoop.iterate_of_not_running hrunning]
    exact h

/-- The loops do not get in each other's way: a run is so many rounds of each. -/
private theorem run_eq_iterate {turns : List Turn}
    (hwrites : ∀ turn ∈ turns, turn = .request true ∨ turn = .response true) {g : HttpGateway}
    (h : g.responses.state ≠ .crashed) :
    Trace.run (HttpGateway.step net sdk .empty) g turns =
      { requests :=
          (RequestLoop.iterate net sdk .empty true)^[turns.count (.request true)] g.requests
        responses :=
          (ResponseLoop.iterate net sdk .empty true)^[turns.count (.response true)]
            g.responses } := by
  induction turns generalizing g with
  | nil => rfl
  | cons turn turns ih =>
    rw [List.forall_mem_cons] at hwrites
    rw [Trace.run_cons]
    -- a turn of one loop leaves the other's state alone, so the counts decide
    rcases hwrites.1 with rfl | rfl
    · have hstep : g.step net sdk .empty (.request true) =
          { g with requests := g.requests.iterate net sdk .empty true } := if_neg h
      have hrest :=
        ih hwrites.2 (g := { g with requests := g.requests.iterate net sdk .empty true }) h
      rw [hstep, hrest, List.count_cons_self,
        List.count_cons_of_ne (by decide), Function.iterate_succ_apply]
    · have hstep : g.step net sdk .empty (.response true) =
          { g with responses := g.responses.iterate net sdk .empty true } := if_neg h
      have hrunning := not_crashed_iterate net sdk h
      have hrest := ih hwrites.2
        (g := { g with responses := g.responses.iterate net sdk .empty true }) hrunning
      rw [hstep, hrest, List.count_cons_self,
        List.count_cons_of_ne (by decide), Function.iterate_succ_apply]

end

/-- Without a policy, over all the requests and responses that are sent, however the
    connections cut them into segments and the loops take turns: exactly the
    requests are written to the target and exactly the responses to the
    application, in order, if and only if every request ends with a segment, and so
    does every response, and every response ends where a response to `GET` ends. -/
theorem transparent_iff_aligned {net : NetHttp} {sdk : Sdk} (hrequest : net.request.Lawful)
    (hresponse : (net.response none).Lawful) {requests responses : List (Message UInt8)}
    {ingress egress : List GoString} {ingressEnd egressEnd : Option ReadError}
    (hrequests : net.request.FramesAll ingressEnd requests)
    (hingress : ingress.flatten = wires requests) (hegress : egress.flatten = wires responses)
    {turns : List Turn} (hwrites : ∀ turn ∈ turns, turn = .request true ∨ turn = .response true)
    (hrounds : requests.length ≤ turns.count (.request true))
    (hrounds' : responses.length ≤ turns.count (.response true)) :
    let g := Trace.run (HttpGateway.step net sdk .empty)
      (.start (.ofSegments ingress ingressEnd) (.ofSegments egress egressEnd)) turns
    (g.requests.egress = requests.map .whole ∧ g.responses.ingress = responses.map .whole) ↔
      Aligned ingress requests ∧ Aligned egress responses ∧
        (net.response none).FramesAll egressEnd responses := by
  intro g
  -- each loop by itself is a copying loop over its own connection
  have hg := run_eq_iterate net sdk hwrites (g := .start
    (.ofSegments ingress ingressEnd) (.ofSegments egress egressEnd)) nofun
  have hreq := copies_iff hrequest (copies_requests net sdk)
    (s := .start (.ofSegments ingress ingressEnd)) rfl rfl rfl hingress hrounds
  have hres := copies_iff hresponse (copies_responses net sdk)
    (s := .start (.ofSegments egress egressEnd)) rfl rfl rfl hegress hrounds'
  rw [map_whole?_eq_iff] at hreq hres
  rw [show g = _ from hg]
  constructor
  · rintro ⟨hwritten, hwritten'⟩
    obtain ⟨haligned, -⟩ := hreq.mp hwritten
    obtain ⟨haligned', hframes⟩ := hres.mp hwritten'
    exact ⟨haligned, haligned', hframes⟩
  · rintro ⟨haligned, haligned', hframes⟩
    exact ⟨hreq.mpr ⟨haligned, hrequests⟩, hres.mpr ⟨haligned', hframes⟩⟩

/-! ## Messages without bodies -/

/-- The empty line that ends a head. -/
def blankLine : GoString := [13, 10, 13, 10]

/-- `net/http`, as far as messages without bodies go. -/
def bodiless : NetHttp where
  request := .terminated blankLine fun _ => 0
  response := fun _ => .terminated blankLine fun _ => 0
  content := Message.body
  contentLength := fun _ => some 0

/-- The SDK, which is not asked without a policy. -/
def unusedSdk : Sdk := ⟨fun _ => none, fun _ => none, fun _ => none, fun _ => none⟩

def getRequest : Message UInt8 := ⟨goString "GET / HTTP/1.1\r\nHost: a\r\n\r\n", []⟩

def noContent : Message UInt8 := ⟨goString "HTTP/1.1 204 No Content\r\n\r\n", []⟩

private theorem lawful_bodiless : (Parser.terminated blankLine fun _ => 0).Lawful :=
  Parser.lawful_terminated (by decide) _

private theorem frames_getRequest : bodiless.request.Frames getRequest :=
  Parser.frames_terminated (by decide) (by decide) rfl

private theorem frames_noContent (method : Option Method) :
    (bodiless.response method).Frames noContent :=
  Parser.frames_terminated (by decide) (by decide) rfl

/-- Two messages are aligned with the segments if each of them ends where one ends. -/
private theorem aligned_pair {segments : List GoString} {m m' : Message UInt8} (i j : Nat)
    (hfirst : (segments.take i).flatten.length = m.wire.length)
    (hsecond : (segments.take j).flatten.length = m.wire.length + m'.wire.length) :
    Aligned segments [m, m'] := by
  intro k hk
  obtain rfl | rfl | rfl : k = 0 ∨ k = 1 ∨ k = 2 := by
    simp only [List.length_cons, List.length_nil] at hk
    omega
  · exact ⟨0, rfl⟩
  · exact ⟨i, by simpa [wires] using hfirst⟩
  · exact ⟨j, by simpa [wires] using hsecond⟩

/-- Two requests, of which the first comes in two segments, and their responses. -/
theorem transparent_twoRequests :
    let g := Trace.run (HttpGateway.step bodiless unusedSdk .empty)
      (.start (.ofSegments [getRequest.head.take 5, getRequest.head.drop 5, getRequest.head] none)
        (.ofSegments [noContent.head, noContent.head] none))
      [.request true, .response true, .request true, .response true]
    g.requests.egress = [getRequest, getRequest].map .whole ∧
      g.responses.ingress = [noContent, noContent].map .whole := by
  have hrequests : bodiless.request.FramesAll none [getRequest, getRequest] :=
    ⟨Or.inl frames_getRequest, Or.inl frames_getRequest, trivial⟩
  have hresponses : (bodiless.response none).FramesAll none [noContent, noContent] :=
    ⟨Or.inl (frames_noContent none), Or.inl (frames_noContent none), trivial⟩
  exact (transparent_iff_aligned lawful_bodiless lawful_bodiless hrequests (by decide) (by decide)
    (by decide) (by decide) (by decide)).mpr
      ⟨aligned_pair 2 3 (by decide) (by decide), aligned_pair 1 2 (by decide) (by decide),
        hresponses⟩

/-- Two requests that arrive in one segment: the second one is lost. -/
theorem not_transparent :
    ¬ ∀ (net : NetHttp) (sdk : Sdk) (requests : List (Message UInt8))
      (responses : List (Method × Message UInt8)) (ingress egress : List GoString)
      (turns : List Turn),
      net.request.Lawful → (∀ method, (net.response method).Lawful) →
      (∀ m ∈ requests, net.request.Frames m) →
      (∀ r ∈ responses, (net.response (some r.1)).Frames r.2) →
      ingress.flatten = wires requests → egress.flatten = wires (responses.map Prod.snd) →
      (∀ turn ∈ turns, turn = .request true ∨ turn = .response true) →
      requests.length ≤ turns.count (.request true) →
      responses.length ≤ turns.count (.response true) →
      let g := Trace.run (HttpGateway.step net sdk .empty)
        (.start (.ofSegments ingress none) (.ofSegments egress none)) turns
      g.requests.egress = requests.map .whole ∧
        g.responses.ingress = (responses.map Prod.snd).map .whole := by
  intro h
  -- the second round finds an empty connection: both requests were in the first buffer
  have hbad := h bodiless unusedSdk [getRequest, getRequest] [("GET", noContent)]
    [getRequest.head ++ getRequest.head] [noContent.head]
    [.request true, .request true, .response true] lawful_bodiless
    (fun _ => lawful_bodiless) (by simp [frames_getRequest])
    (by simpa using frames_noContent _) (by decide) (by decide) (by decide) (by decide) (by decide)
  exact absurd hbad.1 (by decide)

end KubeGateway.Gateway

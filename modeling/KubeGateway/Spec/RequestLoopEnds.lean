import KubeGateway.ForStd.ReadScript
import KubeGateway.ForStd.Trace
import KubeGateway.Native.HttpGateway

/-!
# Whether the request loop ends with its connection

The request loop returns when the reading of a request begins with `io.EOF`.  Any
other error it logs, and it reads again: from a connection that was reset, or that
`directConnect` has closed when the response loop returned, it gets the same error
for ever.  `request_loop_ends_iff` says for which connections it returns whatever
the policy is.
-/

namespace KubeGateway.Gateway

open Framing

/-- The request loop, and what the reads of its connection will return. -/
structure Reading where
  loop : RequestLoop
  script : Script UInt8

def Reading.start (script : Script UInt8) : Reading := ⟨.start script.conn, script⟩

/-- What one round of the request loop finds: the policy, and whether its `Write`
    succeeds. -/
structure RequestRound where
  policy : AITransaction
  writes : Bool

/-- One round, on what is left of the script. -/
def Reading.step (net : NetHttp) (sdk : Sdk) (s : Reading) (r : RequestRound) : Reading :=
  let loop := { s.loop with ingress := s.script.conn }.iterate net sdk r.policy r.writes
  ⟨loop, s.script.after loop.ingress⟩

/-- The request loop after its first `n` rounds. -/
def Reading.after (net : NetHttp) (sdk : Sdk) (s : Reading) (rounds : Nat → RequestRound)
    (n : Nat) : Reading :=
  Trace.run (Reading.step net sdk) s ((List.range n).map rounds)

theorem Reading.after_succ (net : NetHttp) (sdk : Sdk) (s : Reading) (rounds : Nat → RequestRound)
    (n : Nat) :
    s.after net sdk rounds (n + 1) = (s.after net sdk rounds n).step net sdk (rounds n) := by
  unfold Reading.after
  rw [List.range_succ, List.map_append, Trace.run_append]
  rfl

/-! ## One round -/

/-- What is done with a request leaves the connection as it is, and the loop goes on or
    returns. -/
private structure GoesOn (s s' : RequestLoop) : Prop where
  ingress : s'.ingress = s.ingress
  state : s'.state = s.state ∨ s'.state = .returned

section

variable (net : NetHttp) (sdk : Sdk) (policy : Request) (s : RequestLoop) (writes : Bool)
  (head : GoString) {out : Outcome UInt8}

private theorem goesOn_write (sent : Sent) : GoesOn s (s.write writes head sent) := by
  unfold RequestLoop.write
  cases writes with
  | true => exact ⟨rfl, Or.inl rfl⟩
  | false => exact ⟨rfl, Or.inr rfl⟩

private theorem goesOn_forward (hout : out ≠ .waits) : GoesOn s (s.forward writes head out) := by
  cases out with
  | part body rest => exact goesOn_write s writes head _
  | waits => exact absurd rfl hout
  | malformed | eof | cut => exact ⟨rfl, Or.inr rfl⟩

private theorem goesOn_apply (hout : out ≠ .waits) :
    GoesOn s (s.apply net sdk policy writes head out) := by
  unfold RequestLoop.apply
  split
  · exact absurd rfl hout
  · split
    · exact ⟨rfl, Or.inl rfl⟩
    · exact ⟨rfl, Or.inl rfl⟩
    · exact goesOn_write s writes head _

/-- Under a policy only a failed write ends the loop. -/
private theorem apply_state (hout : out ≠ .waits) :
    (s.apply net sdk policy true head out).state = s.state := by
  unfold RequestLoop.apply
  split
  · exact absurd rfl hout
  · split
    · rfl
    · rfl
    · rfl

end

/-- A round of the running loop reads what comes next; it goes on, or returns. -/
private theorem iterate_conn (net : NetHttp) (sdk : Sdk) (c : AITransaction) (writes : Bool)
    {s : RequestLoop} {script : Script UInt8} (h : s.state = .running)
    (hconn : s.ingress = script.conn) :
    (s.iterate net sdk c writes).ingress = net.request.round script.conn ∧
      ((s.iterate net sdk c writes).state = .running ∨
        (s.iterate net sdk c writes).state = .returned) := by
  unfold Parser.round
  rcases hhead : net.request.readHead script.conn with ⟨out, conn⟩
  have hread := hhead
  rw [← hconn] at hread
  cases out with
  | part head rest =>
    rw [RequestLoop.iterate_of_head h hread]
    have hout := net.request.readBody_conn_ne_waits script hhead
    rcases hbody : net.request.readBody head rest conn with ⟨out, conn'⟩
    rw [hbody] at hout
    dsimp only
    rw [hbody]
    let read : RequestLoop :=
      { s with ingress := conn', taken := s.taken ++ [⟨head, bytesRead out⟩] }
    cases c.request with
    | none =>
      have hgoes := goesOn_forward read writes head hout
      exact ⟨hgoes.ingress, hgoes.state.imp_left (·.trans h)⟩
    | some policy =>
      have hgoes := goesOn_apply net sdk policy read writes head hout
      exact ⟨hgoes.ingress, hgoes.state.imp_left (·.trans h)⟩
  | waits =>
    have hwaits := net.request.readHead_conn_ne_waits script
    rw [hhead] at hwaits
    exact absurd rfl hwaits
  | malformed | cut =>
    simp only [RequestLoop.iterate, h, hread]
    exact ⟨trivial, Or.inl trivial⟩
  | eof =>
    simp only [RequestLoop.iterate, h, hread]
    exact ⟨trivial, Or.inr trivial⟩

/-- The loop returns at the end of its connection. -/
private theorem iterate_atEnd (net : NetHttp) (sdk : Sdk) (c : AITransaction) (writes : Bool)
    {s : RequestLoop} {script : Script UInt8} (h : s.state = .running)
    (hconn : s.ingress = script.conn) (hend : net.request.AtEnd script) :
    (s.iterate net sdk c writes).state = .returned := by
  unfold Parser.AtEnd at hend
  rw [← hconn] at hend
  rcases hread : net.request.readHead s.ingress with ⟨out, conn⟩
  rw [hread] at hend
  obtain rfl : out = .eof := hend
  simp only [RequestLoop.iterate, h, hread]

/-- Anywhere else it goes on, if it has a policy and its writes succeed. -/
private theorem iterate_running (net : NetHttp) (sdk : Sdk) {c : AITransaction}
    {s : RequestLoop} {script : Script UInt8} (h : s.state = .running)
    (hconn : s.ingress = script.conn) (hend : ¬ net.request.AtEnd script)
    (hpolicy : c.request.isSome) : (s.iterate net sdk c true).state = .running := by
  unfold Parser.AtEnd at hend
  rcases hhead : net.request.readHead script.conn with ⟨out, conn⟩
  have hread := hhead
  rw [← hconn] at hread
  rw [hhead] at hend
  cases out with
  | part head rest =>
    obtain ⟨policy, hpolicy⟩ := Option.isSome_iff_exists.mp hpolicy
    rw [RequestLoop.iterate_of_head h hread, hpolicy]
    have hbody := net.request.readBody_conn_ne_waits script hhead
    exact (apply_state net sdk policy _ head hbody).trans h
  | waits =>
    have hwaits := net.request.readHead_conn_ne_waits script
    rw [hhead] at hwaits
    exact absurd rfl hwaits
  | malformed | cut => simp only [RequestLoop.iterate, h, hread]
  | eof => exact absurd rfl hend

/-! ## All rounds -/

private theorem step_of_running (net : NetHttp) (sdk : Sdk) {s : Reading}
    (h : s.loop.state = .running) (r : RequestRound) :
    (s.step net sdk r).script = net.request.advance s.script ∧
      ((s.step net sdk r).loop.state = .running ∨ (s.step net sdk r).loop.state = .returned) := by
  obtain ⟨hingress, hstate⟩ := iterate_conn net sdk r.policy r.writes
    (s := { s.loop with ingress := s.script.conn }) h rfl
  exact ⟨congrArg s.script.after hingress, hstate⟩

private theorem step_of_atEnd {net : NetHttp} (sdk : Sdk) {s : Reading}
    (h : s.loop.state = .running)
    (hend : net.request.AtEnd s.script) (r : RequestRound) :
    (s.step net sdk r).loop.state = .returned :=
  iterate_atEnd net sdk r.policy r.writes (s := { s.loop with ingress := s.script.conn }) h rfl hend

private theorem step_of_not_atEnd {net : NetHttp} (sdk : Sdk) {s : Reading}
    (h : s.loop.state = .running)
    (hend : ¬ net.request.AtEnd s.script) {r : RequestRound} (hpolicy : r.policy.request.isSome)
    (hwrites : r.writes = true) : (s.step net sdk r).loop.state = .running := by
  unfold Reading.step
  rw [hwrites]
  exact iterate_running net sdk (s := { s.loop with ingress := s.script.conn }) h rfl hend hpolicy

/-- The loop has returned, or it reads one message in each round. -/
private theorem after_cases (net : NetHttp) (sdk : Sdk) (script : Script UInt8)
    (rounds : Nat → RequestRound) (n : Nat) :
    ((Reading.start script).after net sdk rounds n).loop.state = .returned ∨
      ((Reading.start script).after net sdk rounds n).loop.state = .running ∧
        ((Reading.start script).after net sdk rounds n).script =
          net.request.advance^[n] script := by
  induction n with
  | zero => exact Or.inr ⟨rfl, rfl⟩
  | succ n ih =>
    rw [Reading.after_succ, Function.iterate_succ_apply']
    rcases ih with hreturned | ⟨hrunning, hscript⟩
    · left
      unfold Reading.step
      rw [RequestLoop.iterate_of_not_running]
      · exact hreturned
      · rw [hreturned]
        exact nofun
    · rw [← hscript]
      obtain ⟨hnext, hstate⟩ := step_of_running net sdk hrunning (rounds n)
      exact hstate.symm.imp_right fun hrunning' => ⟨hrunning', hnext⟩

/-- Without an end of the connection there is a policy under which the loop goes on. -/
private theorem after_running (net : NetHttp) (sdk : Sdk) {script : Script UInt8}
    (hend : ∀ n, ¬ net.request.AtEnd (net.request.advance^[n] script))
    {rounds : Nat → RequestRound} (hpolicy : ∀ n, (rounds n).policy.request.isSome)
    (hwrites : ∀ n, (rounds n).writes = true) (n : Nat) :
    ((Reading.start script).after net sdk rounds n).loop.state = .running := by
  induction n with
  | zero => rfl
  | succ n ih =>
    have hscript := after_cases net sdk script rounds n
    rw [ih] at hscript
    obtain ⟨-, hscript⟩ := hscript.resolve_left nofun
    have hnot := hend n
    rw [← hscript] at hnot
    rw [Reading.after_succ]
    exact step_of_not_atEnd sdk ih hnot (hpolicy n) (hwrites n)

/-- A connection that the gateway has closed itself keeps the loop running under every
    policy. -/
theorem after_running_of_closed {net : NetHttp} (sdk : Sdk) (hhead : net.request.head [] = .more)
    (rounds : Nat → RequestRound) (n : Nat) :
    ((Reading.start ⟨[], fun _ => .failed⟩).after net sdk rounds n).loop.state = .running := by
  -- every read fails, and leaves the script as it was
  have hread : net.request.readHead (Script.conn ⟨[], fun _ => .failed⟩) =
      (.cut .failed, ⟨[], none⟩) := by
    simp [Parser.readHead, Script.conn, Stage.read, Stage.atError, hhead]
  suffices h :
      ((Reading.start ⟨[], fun _ => .failed⟩).after net sdk rounds n).loop.state = .running ∧
      ((Reading.start ⟨[], fun _ => .failed⟩).after net sdk rounds n).script =
        ⟨[], fun _ => .failed⟩ from h.1
  induction n with
  | zero => exact ⟨rfl, rfl⟩
  | succ n ih =>
    obtain ⟨hrunning, hscript⟩ := ih
    rw [Reading.after_succ]
    unfold Reading.step
    rw [hscript]
    simp only [RequestLoop.iterate, hrunning, hread]
    exact ⟨trivial, rfl⟩

/-! ## The condition -/

/-- Whatever policies the loop finds, it returns. -/
def RequestLoopEnds (net : NetHttp) (sdk : Sdk) (script : Script UInt8) : Prop :=
  ∀ rounds, ∃ n, ((Reading.start script).after net sdk rounds n).loop.state = .returned

private theorem exists_atEnd_of_ends {net : NetHttp} {sdk : Sdk} {script : Script UInt8}
    (h : RequestLoopEnds net sdk script) :
    ∃ n, net.request.AtEnd (net.request.advance^[n] script) := by
  by_contra hnever
  rw [not_exists] at hnever
  -- under a request policy the loop does not return over a body that is cut off either
  obtain ⟨n, hn⟩ := h fun _ => ⟨⟨some requestLayout.zero, none⟩, true⟩
  rw [after_running net sdk hnever (fun _ => rfl) (fun _ => rfl)] at hn
  exact nomatch hn

private theorem ends_of_atEnd {net : NetHttp} (sdk : Sdk) {script : Script UInt8} {n : Nat}
    (hend : net.request.AtEnd (net.request.advance^[n] script)) :
    RequestLoopEnds net sdk script := by
  intro rounds
  rcases after_cases net sdk script rounds n with hreturned | ⟨hrunning, hscript⟩
  · exact ⟨n, hreturned⟩
  · refine ⟨n + 1, ?_⟩
    rw [← hscript] at hend
    rw [Reading.after_succ]
    exact step_of_atEnd sdk hrunning hend (rounds n)

/-- A connection that is closed by its other end, and not reset, ends the loop. -/
theorem requestLoopEnds_of_eof {net : NetHttp} (sdk : Sdk) {script : Script UInt8}
    (hhead : net.request.head [] = .more) (htail : ∀ n, script.tail n = .eof) :
    RequestLoopEnds net sdk script := by
  obtain ⟨n, hend⟩ := Parser.exists_atEnd hhead htail
  exact ends_of_atEnd sdk hend

/-- A connection that fails and never says that it has ended does not. -/
theorem not_requestLoopEnds_of_noEof (net : NetHttp) (sdk : Sdk) {script : Script UInt8}
    (h : script.NoEof) : ¬ RequestLoopEnds net sdk script := by
  intro hends
  obtain ⟨n, hn⟩ := exists_atEnd_of_ends hends
  exact Parser.not_atEnd_of_noEof h n hn

/-- The request loop ends with its connection if and only if the reading of some
    request begins with the end of the connection. -/
theorem request_loop_ends_iff (net : NetHttp) (sdk : Sdk) (script : Script UInt8) :
    RequestLoopEnds net sdk script ↔ ∃ n, net.request.AtEnd (net.request.advance^[n] script) :=
  ⟨exists_atEnd_of_ends, fun ⟨_, hend⟩ => ends_of_atEnd sdk hend⟩

/-- With no policy and no request the loop still goes on reading a connection that
    `directConnect` has closed. -/
theorem not_request_loop_ends :
    ¬ ∃ n, ((Reading.start ⟨[], fun _ => .failed⟩).after (fixedNet 0)
      ⟨fun _ => none, fun _ => none, fun _ => none, fun _ => none⟩
      (fun _ => ⟨.empty, true⟩) n).loop.state = .returned := by
  rintro ⟨n, hn⟩
  rw [after_running_of_closed _ rfl] at hn
  exact nomatch hn

end KubeGateway.Gateway

import KubeGateway.ForStd.Trace
import KubeGateway.Native.HttpGateway

/-!
# Messages go out in the order they came in

Under policies that come and go, with messages that are refused, rewritten, cut short
or lost in a buffer: what the gateway writes to the target was made from requests of the
application that it read one after the other, and what it writes to the application
from responses of the target, apart from its refusals.  No message is sent twice, none
overtakes another and none is made up.
-/

namespace KubeGateway.Gateway

open Framing

/-! ## The properties -/

/-- The bytes that a message was made from. -/
def Sent.source : Sent → GoString
  | .whole m => m.wire
  | .rewritten m _ => m.wire
  | .emptied m => m.wire
  | .part head => head

/-- The requests are made from pieces of what the application sends, in order, and each
    that is read is written or refused at most once. -/
structure RequestLoop.InOrder (stream : GoString) (s : RequestLoop) : Prop where
  pieces : Framing.InOrder (s.egress.map Sent.source) stream s.ingress.unread
  once : s.egress.length + s.refusals.length ≤ s.taken.length

/-- The responses are made from pieces of what the target sends, in order. -/
def ResponseLoop.InOrder (stream : GoString) (s : ResponseLoop) : Prop :=
  Framing.InOrder (s.ingress.map Sent.source) stream s.egress.unread

/-! ## A message that is read -/

/-- A connection has given `w`, and then perhaps more. -/
def Gives (c : Conn UInt8) (w : GoString) (c' : Conn UInt8) : Prop :=
  ∃ behind, c.unread = w ++ behind ∧ c'.unread <:+ behind

section

variable {p : Parser UInt8} {c conn conn' : Conn UInt8} {head rest : GoString}
  {out : Outcome UInt8}

theorem gives_head (hhead : p.readHead c = (.part head rest, conn))
    (hbody : p.readBody head rest conn = (out, conn')) : Gives c head conn' := by
  refine ⟨rest ++ conn.unread, ?_, ?_⟩
  · rw [Parser.readHead_part hhead, List.append_assoc]
  · have hlater := (p.readBody_later head rest conn).unread
    rw [hbody] at hlater
    exact hlater.trans (List.suffix_append _ _)

/-- The head, and the body if it was read to its end. -/
theorem gives_message (hhead : p.readHead c = (.part head rest, conn))
    (hbody : p.readBody head rest conn = (out, conn')) :
    Gives c (head ++ (bytesRead out).getD []) conn' := by
  cases out with
  | part body rest' =>
    refine ⟨rest' ++ conn'.unread, ?_, List.suffix_append _ _⟩
    rw [Parser.readHead_part hhead, List.append_assoc, Parser.readBody_part hbody]
    simp only [bytesRead, Option.getD_some, List.append_assoc]
  | malformed | eof | cut | waits =>
    simp only [bytesRead, Option.getD_none, List.append_nil]
    exact gives_head hhead hbody

end

/-! ## The request loop -/

section

variable {net : NetHttp} {sdk : Sdk} {c : AITransaction} {writes : Bool}

/-- The loop has written nothing, or a message made from what it was given. -/
def RequestLoop.Sends (s s' : RequestLoop) : Prop :=
  (s'.egress = s.egress ∧ s'.ingress.unread <:+ s.ingress.unread) ∨
    ∃ sent, s'.egress = s.egress ++ [sent] ∧ Gives s.ingress sent.source s'.ingress

private theorem sends_write {s s₁ : RequestLoop} {head : GoString} {sent : Sent}
    (hegress : s₁.egress = s.egress) (hhead : Gives s.ingress head s₁.ingress)
    (hsent : Gives s.ingress sent.source s₁.ingress) : s.Sends (s₁.write writes head sent) := by
  unfold RequestLoop.write
  split
  · exact Or.inr ⟨sent, by rw [hegress], hsent⟩
  · exact Or.inr ⟨.part head, by rw [hegress], hhead⟩

private theorem sends_forward {s s₁ : RequestLoop} {head : GoString} {out : Outcome UInt8}
    (hegress : s₁.egress = s.egress) (hhead : Gives s.ingress head s₁.ingress)
    (hmessage : Gives s.ingress (head ++ (bytesRead out).getD []) s₁.ingress) :
    s.Sends (s₁.forward writes head out) := by
  cases out with
  | part body rest => exact sends_write hegress hhead hmessage
  | malformed | eof | cut | waits => exact Or.inr ⟨.part head, by rw [← hegress]; rfl, hhead⟩

private theorem sends_apply {policy : Request} {s s₁ : RequestLoop} {head : GoString}
    {out : Outcome UInt8} (hegress : s₁.egress = s.egress)
    (hlater : s₁.ingress.unread <:+ s.ingress.unread)
    (hhead : Gives s.ingress head s₁.ingress)
    (hmessage : Gives s.ingress (head ++ (bytesRead out).getD []) s₁.ingress) :
    s.Sends (s₁.apply net sdk policy writes head out) := by
  unfold RequestLoop.apply
  split
  · exact Or.inl ⟨hegress, hlater⟩
  · split
    · exact Or.inl ⟨hegress, hlater⟩
    · exact Or.inl ⟨hegress, hlater⟩
    · exact sends_write hegress hhead hmessage

theorem sends_iterate (s : RequestLoop) : s.Sends (s.iterate net sdk c writes) := by
  by_cases hrunning : s.state = .running
  · rcases hhead : net.request.readHead s.ingress with ⟨out, conn⟩
    cases out with
    | part head rest =>
      rw [RequestLoop.iterate_of_head hrunning hhead]
      rcases hbody : net.request.readBody head rest conn with ⟨out, conn'⟩
      have hlater : conn'.unread <:+ s.ingress.unread := by
        have h₁ := net.request.readHead_later s.ingress
        have h₂ := net.request.readBody_later head rest conn
        rw [hhead] at h₁
        rw [hbody] at h₂
        exact (h₁.trans h₂).unread
      cases hpolicy : c.request with
      | none => exact sends_forward rfl (gives_head hhead hbody) (gives_message hhead hbody)
      | some policy =>
        exact sends_apply rfl hlater (gives_head hhead hbody) (gives_message hhead hbody)
    | malformed | eof | cut | waits =>
      obtain ⟨-, hegress, -, hlater⟩ :=
        RequestLoop.iterate_of_no_head sdk c writes (s := s) (by rw [hhead]; rfl)
      exact Or.inl ⟨hegress, hlater.unread⟩
  · rw [RequestLoop.iterate_of_not_running hrunning]
    exact Or.inl ⟨rfl, List.suffix_refl _⟩

theorem RequestLoop.InOrder.iterate {stream : GoString} {s : RequestLoop} (h : s.InOrder stream) :
    (s.iterate net sdk c writes).InOrder stream := by
  constructor
  · obtain ⟨hegress, hlater⟩ | ⟨sent, hegress, behind, hgives, hlater⟩ :=
      @sends_iterate net sdk c writes s
    · rw [hegress]
      exact h.pieces.later hlater
    · rw [hegress, List.map_append, List.map_singleton]
      exact h.pieces.concat hgives hlater
  · have honce := h.once
    obtain ⟨ht, he, hr⟩ | ⟨t, ht, hfate⟩ := s.iterate_cases net sdk c writes
    · rw [ht, he, hr]
      exact honce
    · rw [ht, List.length_append, List.length_singleton]
      rcases hfate with ⟨he, hr⟩ | ⟨sent, he, hr⟩ | ⟨⟨res, he, hr⟩, -⟩
      · rw [he, hr]
        omega
      · rw [he, hr, List.length_append, List.length_singleton]
        omega
      · rw [he, hr, List.length_append, List.length_singleton]
        omega

/-! ## The response loop -/

/-- The loop has written nothing, or a message made from what it was given. -/
def ResponseLoop.Sends (s s' : ResponseLoop) : Prop :=
  (s'.ingress = s.ingress ∧ s'.egress.unread <:+ s.egress.unread) ∨
    ∃ sent, s'.ingress = s.ingress ++ [sent] ∧ Gives s.egress sent.source s'.egress

private theorem sends_writeResponse {s s₁ : ResponseLoop} {head : GoString} {sent : Sent}
    (hingress : s₁.ingress = s.ingress) (hhead : Gives s.egress head s₁.egress)
    (hsent : Gives s.egress sent.source s₁.egress) : s.Sends (s₁.write writes head sent) := by
  unfold ResponseLoop.write
  split
  · exact Or.inr ⟨sent, by rw [hingress], hsent⟩
  · exact Or.inr ⟨.part head, by rw [hingress], hhead⟩

private theorem sends_forwardResponse {s s₁ : ResponseLoop} {head : GoString} {out : Outcome UInt8}
    (hingress : s₁.ingress = s.ingress) (hhead : Gives s.egress head s₁.egress)
    (hmessage : Gives s.egress (head ++ (bytesRead out).getD []) s₁.egress) :
    s.Sends (s₁.forward writes head out) := by
  cases out with
  | part body rest => exact sends_writeResponse hingress hhead hmessage
  | malformed | eof | cut | waits => exact Or.inr ⟨.part head, by rw [← hingress]; rfl, hhead⟩

/-- What `io.ReadAll` returns is the body as far as it was read to its end. -/
private theorem readAll_eq_some {dumped : Bool} {head body : GoString} {out : Outcome UInt8}
    (h : net.readAll dumped head out = some body) : body = (bytesRead out).getD [] := by
  unfold NetHttp.readAll at h
  split at h
  · exact (Option.some.inj h).symm
  · split at h
    · exact (Option.some.inj h).symm
    · cases h
  · split at h
    · exact (Option.some.inj h).symm
    · cases h
  · cases h

private theorem sends_answer {policy : Response} {s s₁ : ResponseLoop} {m : Message UInt8}
    (hingress : s₁.ingress = s.ingress) (hhead : Gives s.egress m.head s₁.egress)
    (hmessage : Gives s.egress m.wire s₁.egress) :
    s.Sends (s₁.answer net sdk policy writes m) := by
  unfold ResponseLoop.answer
  split
  · exact sends_writeResponse hingress hhead hmessage
  · split
    · exact Or.inr ⟨.emptied m, by rw [← hingress], hmessage⟩
    · exact sends_writeResponse hingress hhead hmessage

private theorem sends_applyResponse {policy : Response} {s s₁ : ResponseLoop} {head : GoString}
    {out : Outcome UInt8} (hingress : s₁.ingress = s.ingress)
    (hlater : s₁.egress.unread <:+ s.egress.unread) (hhead : Gives s.egress head s₁.egress)
    (hmessage : Gives s.egress (head ++ (bytesRead out).getD []) s₁.egress) :
    s.Sends (s₁.apply net sdk policy writes head out) := by
  unfold ResponseLoop.apply
  split
  · exact Or.inl ⟨hingress, hlater⟩
  · split
    · rename_i body hread
      obtain rfl := readAll_eq_some hread
      exact sends_answer hingress hhead hmessage
    · exact Or.inl ⟨hingress, hlater⟩

theorem sends_iterateResponse (s : ResponseLoop) : s.Sends (s.iterate net sdk c writes) := by
  by_cases hrunning : s.state = .running
  · rcases hhead : (net.response none).readHead s.egress with ⟨out, conn⟩
    cases out with
    | part head rest =>
      rw [ResponseLoop.iterate_of_head hrunning hhead]
      rcases hbody : (net.response none).readBody head rest conn with ⟨out, conn'⟩
      have hlater : conn'.unread <:+ s.egress.unread := by
        have h₁ := (net.response none).readHead_later s.egress
        have h₂ := (net.response none).readBody_later head rest conn
        rw [hhead] at h₁
        rw [hbody] at h₂
        exact (h₁.trans h₂).unread
      cases hpolicy : c.response with
      | none => exact sends_forwardResponse rfl (gives_head hhead hbody) (gives_message hhead hbody)
      | some policy =>
        exact sends_applyResponse rfl hlater (gives_head hhead hbody) (gives_message hhead hbody)
    | malformed | eof | cut | waits =>
      obtain ⟨hingress, hlater⟩ :=
        ResponseLoop.iterate_of_no_head sdk c writes (s := s) (by rw [hhead]; rfl)
      exact Or.inl ⟨hingress, hlater.unread⟩
  · rw [ResponseLoop.iterate_of_not_running hrunning]
    exact Or.inl ⟨rfl, List.suffix_refl _⟩

theorem ResponseLoop.InOrder.iterate {stream : GoString} {s : ResponseLoop}
    (h : s.InOrder stream) : (s.iterate net sdk c writes).InOrder stream := by
  unfold ResponseLoop.InOrder
  obtain ⟨hingress, hlater⟩ | ⟨sent, hingress, behind, hgives, hlater⟩ :=
    @sends_iterateResponse net sdk c writes s
  · rw [hingress]
    exact h.later hlater
  · rw [hingress, List.map_append, List.map_singleton]
    exact h.concat hgives hlater

end

/-! ## Main result -/

/-- In every run of the gateway, whatever policies its rounds find, whatever its
    connections give and whichever writes fail: what it has written to the target was
    made from requests that are pieces of what the application sent, in that order, each
    written or refused at most once; and what it has written to the application, besides
    refusals, from responses that are pieces of what the target sent, in that order. -/
theorem messages_in_order (net : NetHttp) (sdk : Sdk) (ingress egress : Conn UInt8)
    (rounds : List Round) :
    let g := Trace.run (HttpGateway.stepUnder net sdk) (.start ingress egress) rounds
    g.requests.InOrder ingress.unread ∧ g.responses.InOrder egress.unread := by
  refine Trace.run_invariant (I := fun g : HttpGateway =>
    g.requests.InOrder ingress.unread ∧ g.responses.InOrder egress.unread) ?_ ?_
  · rintro g ⟨policy, turn⟩ ⟨hrequests, hresponses⟩
    unfold HttpGateway.stepUnder HttpGateway.step
    split
    · exact ⟨hrequests, hresponses⟩
    · cases turn with
      | request writes => exact ⟨hrequests.iterate, hresponses⟩
      | response writes => exact ⟨hrequests, hresponses.iterate⟩
  · exact ⟨⟨List.suffix_refl _, Nat.le_refl _⟩, List.suffix_refl _⟩

end KubeGateway.Gateway

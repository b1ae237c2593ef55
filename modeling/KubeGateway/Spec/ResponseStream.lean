import KubeGateway.Spec.TunnelControl

/-!
# What the application reads from a tunnel

The external handler writes its acknowledgement and what the target sends into
one stream.  The internal handler reads once from it and throws away what it
got.  `answer_prefix_of_ackAlone` says that the application gets the target's
stream when that one read gave it no more than the acknowledgement.
-/

namespace KubeGateway.Gateway

/-! ## The property and the condition -/

/-- What the application has read is a prefix of what the target has sent. -/
def Tunnel.AnswersTarget (t : Tunnel) : Prop := t.answer.received <+: t.fromTarget.sent

instance (t : Tunnel) : Decidable t.AnswersTarget := inferInstanceAs (Decidable (_ <+: _))

/-- What the internal handler's read of the acknowledgement gives it. -/
def Tunnel.ackChunk (t : Tunnel) : TunnelEvent → List UInt8
  | .readAck n =>
    match t.internal with
    | .readAck _ _ _ => t.response.chunk (min n tmpSize)
    | _ => []
  | _ => []

/-- A read of the acknowledgement gives one byte at most. -/
def AckAlone (t : Tunnel) (e : TunnelEvent) : Prop := (t.ackChunk e).length ≤ 1

instance (t : Tunnel) (e : TunnelEvent) : Decidable (AckAlone t e) :=
  inferInstanceAs (Decidable (_ ≤ 1))

/-! ## The invariant -/

/-- Both loops towards the application carry what they read: the external one
    after the acknowledgement's byte, the internal one from there on. -/
structure ResponseInvariant (t : Tunnel) : Prop where
  externalDown : t.externalDown.Carried t.fromTarget 0 t.response 1
  acknowledged : ∀ a, t.external = some (.relay a) →
    1 ≤ t.response.sent.length ∨ t.response.ended = true
  skipped : t.internal.relays = true → 1 ≤ t.response.taken ∨ t.response.dead = true
  internalDown : t.internalDown.Carried t.response 1 t.answer 0

theorem responseInvariant_start (env : TunnelEnv) : ResponseInvariant (Tunnel.start env) where
  externalDown := rfl
  acknowledged := nofun
  skipped := by
    unfold Tunnel.start TunnelEnv.internalFn
    exact nofun
  internalDown := rfl

/-- The loops and the bytes between them are as before; the response stream may
    have ended. -/
structure SameResponse (t t' : Tunnel) : Prop where
  externalDown : t'.externalDown = t.externalDown := by rfl
  internalDown : t'.internalDown = t.internalDown := by rfl
  fromTarget : t'.fromTarget.received = t.fromTarget.received := by rfl
  answer : t'.answer.sent = t.answer.sent := by rfl
  sent : t'.response.sent = t.response.sent := by rfl
  taken : t'.response.taken = t.response.taken := by rfl
  ended : t.response.ended = true → t'.response.ended = true := by exact id
  dead : t.response.dead = true → t'.response.dead = true := by exact id

private theorem ResponseInvariant.congr {t t' : Tunnel} (h : ResponseInvariant t)
    (hrelays : t'.internal.relays = true → t.internal.relays = true)
    (hext : ∀ a, t'.external = some (.relay a) → t.external = some (.relay a))
    (hsame : SameResponse t t') : ResponseInvariant t' where
  externalDown := by
    have hdown := h.externalDown
    unfold Pump.Carried at hdown ⊢
    rw [hsame.externalDown, hsame.sent, hsame.fromTarget]
    exact hdown
  acknowledged := by
    intro a ha
    rw [hsame.sent]
    exact (h.acknowledged a (hext a ha)).imp id hsame.ended
  skipped := by
    intro hr
    rw [hsame.taken]
    exact (h.skipped (hrelays hr)).imp id hsame.dead
  internalDown := by
    have hdown := h.internalDown
    unfold Pump.Carried at hdown ⊢
    rw [hsame.internalDown, hsame.answer, Pipe.received_congr hsame.sent hsame.taken]
    exact hdown

/-- Before the acknowledgement is read nothing is on its way to the application. -/
private theorem ResponseInvariant.nothing_answered {t : Tunnel} (h : ResponseInvariant t)
    (htaken : t.response.taken = 0) : t.answer.sent ++ t.internalDown.buf = [] := by
  have hdown := h.internalDown
  unfold Pump.Carried Pipe.received at hdown
  rw [htaken, List.take_zero, List.drop_nil, List.drop_zero] at hdown
  exact hdown

/-- The acknowledgement goes in front of everything else. -/
private theorem ResponseInvariant.wroteAck {t : Tunnel} (h : ResponseInvariant t) (hc : Control t)
    (n : Nat) (a : GoString) (hext : t.external = some (.writeAck a)) :
    ResponseInvariant
      { t with external := some (.relay a), response := t.response.write [ackByte] n } := by
  -- nothing was written before, so behind the first byte there is still nothing
  have hempty : t.response.sent = [] := hc.notAnswered (by unfold Tunnel.unanswered; rw [hext])
  have hdrop : (t.response.write [ackByte] n).sent.drop 1 = [] := by
    cases hend : t.response.ended with
    | true => rw [Pipe.write_of_ended hend, hempty, List.drop_nil]
    | false =>
      rw [Pipe.sent_write_of_not_ended hend, hempty, List.nil_append, List.drop_eq_nil_iff,
        List.length_take]
      exact Nat.min_le_right _ _
  exact {
    externalDown := by
      have hdown := h.externalDown
      unfold Pump.Carried at hdown ⊢
      rw [hempty, List.drop_nil] at hdown
      show (t.response.write [ackByte] n).sent.drop 1 ++ t.externalDown.buf = _
      rw [hdrop]
      exact hdown
    acknowledged := by
      intro _ _
      show 1 ≤ (t.response.write [ackByte] n).sent.length ∨
        (t.response.write [ackByte] n).ended = true
      cases hend : t.response.ended with
      | true => rw [Pipe.write_of_ended hend]; exact Or.inr hend
      | false =>
        rw [Pipe.sent_write_of_not_ended hend, Pipe.ended_write_of_not_ended hend, hempty]
        -- a write of no byte is a failed one, after which nothing follows
        cases n with
        | zero => exact Or.inr rfl
        | succ n => left; simp
    skipped := by
      intro hr
      show 1 ≤ (t.response.write [ackByte] n).taken ∨ (t.response.write [ackByte] n).dead = true
      rw [Pipe.taken_write]
      apply (h.skipped hr).imp id
      intro hdead
      rw [Pipe.write_of_dead hdead]
      exact hdead
    internalDown := by
      have hdown := h.internalDown
      unfold Pump.Carried at hdown ⊢
      rw [Pipe.received_write]
      exact hdown }

/-- The read of the acknowledgement leaves what comes after it. -/
private theorem ResponseInvariant.acked {t : Tunnel} (h : ResponseInvariant t) (n : Nat)
    (fn : InternalFn) (dst : Target) (wire : Wire) (htaken : t.response.taken = 0)
    (hdata : t.response.chunk n ≠ []) (halone : (t.response.chunk n).length ≤ 1) :
    ResponseInvariant { t with internal := .relay fn dst wire, response := t.response.read n } := by
  -- the read took exactly the acknowledgement: the rest starts behind it
  have hone : 1 ≤ (t.response.chunk n).length := List.length_pos_of_ne_nil hdata
  exact {
    externalDown := h.externalDown
    acknowledged := h.acknowledged
    skipped := by
      intro _
      left
      show 1 ≤ t.response.taken + (t.response.chunk n).length
      omega
    internalDown := by
      unfold Pump.Carried
      rw [Pipe.received_read, List.drop_zero, h.nothing_answered htaken]
      unfold Pipe.received
      rw [htaken, List.take_zero, List.nil_append, eq_comm, List.drop_eq_nil_iff]
      exact halone }

/-- The internal loop reads from the response stream. -/
private theorem ResponseInvariant.internalDownStep {t : Tunnel} (h : ResponseInvariant t) (n : Nat)
    (hrelay : t.internal.relays = true) :
    ResponseInvariant
      { t with
        internalDown := (t.internalDown.step n t.response t.answer).1
        response := (t.internalDown.step n t.response t.answer).2.1
        answer := (t.internalDown.step n t.response t.answer).2.2 } where
  externalDown := by
    have hdown := h.externalDown
    unfold Pump.Carried at hdown ⊢
    rw [Pump.sent_src_step]
    exact hdown
  acknowledged := by
    intro a ha
    rw [Pump.sent_src_step, Pump.ended_src_step]
    exact h.acknowledged a ha
  skipped := by
    intro hr
    -- the loop only takes more; a dead stream it leaves as it is
    have hle := t.internalDown.taken_le_src_step n t.response t.answer
    obtain htaken | hdead := h.skipped hr
    · exact Or.inl (Nat.le_trans htaken hle)
    · right
      show (t.internalDown.step n t.response t.answer).2.1.dead = true
      rw [Pump.src_step_of_dead _ _ _ hdead]
      exact hdead
  internalDown := Pump.carried_step n (h.skipped hrelay) (Or.inl (Nat.zero_le _)) h.internalDown

/-- The external loop writes to the response stream. -/
private theorem ResponseInvariant.externalDownStep {t : Tunnel} (h : ResponseInvariant t) (n : Nat)
    (a : GoString) (hext : t.external = some (.relay a)) :
    ResponseInvariant
      { t with
        externalDown := (t.externalDown.step n t.fromTarget t.response).1
        fromTarget := (t.externalDown.step n t.fromTarget t.response).2.1
        response := (t.externalDown.step n t.fromTarget t.response).2.2 } where
  externalDown :=
    Pump.carried_step n (Or.inl (Nat.zero_le _)) (h.acknowledged a hext) h.externalDown
  acknowledged := by
    intro _ _
    -- the loop only appends; a stream that has ended it leaves as it is
    have hlen := (t.externalDown.sent_prefix_dst_step n t.fromTarget t.response).length_le
    obtain hsent | hend := h.acknowledged a hext
    · exact Or.inl (Nat.le_trans hsent hlen)
    · right
      show (t.externalDown.step n t.fromTarget t.response).2.2.ended = true
      rw [Pump.dst_step_of_ended _ _ _ hend]
      exact hend
  skipped := by
    intro hr
    show 1 ≤ (t.externalDown.step n t.fromTarget t.response).2.2.taken ∨
      (t.externalDown.step n t.fromTarget t.response).2.2.dead = true
    rw [Pump.taken_dst_step]
    apply (h.skipped hr).imp id
    intro hdead
    rw [Pump.dst_step_of_ended _ _ _ (Pipe.ended_of_dead hdead)]
    exact hdead
  internalDown := by
    have hdown := h.internalDown
    unfold Pump.Carried at hdown ⊢
    rw [Pump.received_dst_step]
    exact hdown

/-- A step keeps the invariant, if a read of the acknowledgement gives one byte. -/
private theorem responseInvariant_step (env : TunnelEnv) (t : Tunnel) (e : TunnelEvent)
    (hc : Control t) (h : ResponseInvariant t) (halone : AckAlone t e) :
    ResponseInvariant (t.step env e) := by
  have hstep := tunnelStep_step env e hc.tunnelled
  generalize t.step env e = t' at hstep
  have hfinish : ∀ {p : Pipe UInt8}, p.dead = true → p.finish.dead = true :=
    Pipe.dead_finish_of_dead
  cases hstep with
  | idle => exact h
  | targetFound fn dst hint => exact h.congr nofun (fun _ => id) {}
  | connectEnds r h' hcon hend =>
    obtain rfl | rfl := hend
    · exact h.congr nofun (fun _ => id) {}
    · exact h.congr nofun (fun _ => id) {}
  | tested r fn dst wire endpoint hint => exact h.congr nofun (fun _ => id) {}
  | connected fn dst wire endpoint hint => exact h.congr nofun nofun {}
  | wroteDestination n fn dst wire hint => exact h.congr nofun (fun _ => id) {}
  | ackFailed n fn dst wire hint hdead =>
    -- the error is ignored, but no byte will come out of a dead stream either
    exact {
      externalDown := h.externalDown
      acknowledged := h.acknowledged
      skipped := fun _ => Or.inr hdead
      internalDown := h.internalDown }
  | acked n fn dst wire hint hdead hdata =>
    -- the one step the condition speaks about
    have hchunk : t.ackChunk (.readAck n) = t.response.chunk (min n tmpSize) := by
      unfold Tunnel.ackChunk
      rw [hint]
    unfold AckAlone at halone
    rw [hchunk] at halone
    exact h.acked _ fn dst wire (hc.unacked (by rw [hint]; rfl)) hdata halone
  | peerRefuses n data request hext =>
    exact h.congr id nofun { ended := fun _ => rfl, dead := hfinish }
  | peerReads n data request hext => exact h.congr id nofun {}
  | targetDialled a hext => exact h.congr id nofun {}
  | dialFailed a hext =>
    exact h.congr id nofun { ended := fun _ => rfl, dead := hfinish }
  | wroteAck n a hext => exact h.wroteAck hc n a hext
  | internalUp n hrelay => exact h.congr id (fun _ => id) {}
  | internalDown n hrelay => exact h.internalDownStep n hrelay
  | externalUp n a hext => exact h.congr id (fun _ => id) {}
  | externalDown n a hext => exact h.externalDownStep n a hext
  | internalReturned hrelay => exact h.congr nofun (fun _ => id) {}
  | externalReturned a hext =>
    exact h.congr id nofun { ended := fun _ => rfl, dead := hfinish }
  | appSent bytes => exact h.congr id (fun _ => id) {}
  | appRead n => exact h.congr id (fun _ => id) {}
  | appClosed => exact h.congr id (fun _ => id) {}
  | targetSent bytes hdial =>
    have hfrom := t.fromTarget.received_write bytes bytes.length
    exact h.congr id (fun _ => id) { fromTarget := hfrom }
  | targetRead n => exact h.congr id (fun _ => id) {}
  | targetClosed => exact h.congr id (fun _ => id) {}
  | brokenRedirected => exact h.congr id (fun _ => id) {}
  | brokenGateways =>
    exact h.congr id (fun _ => id) { ended := fun _ => rfl, dead := fun _ => rfl }
  | brokenTarget => exact h.congr id (fun _ => id) {}

/-- Under the invariant the application has read a prefix of the target's bytes:
    every stage of the way is a prefix of the one before it. -/
private theorem ResponseInvariant.answersTarget {t : Tunnel} (h : ResponseInvariant t) :
    t.AnswersTarget := by
  -- from the application back to the target, skipping the acknowledgement
  have hanswer : t.answer.sent <+: t.response.received.drop 1 := h.internalDown.prefix
  have hresponse : t.response.received.drop 1 <+: t.response.sent.drop 1 :=
    t.response.drop_received_prefix 1
  have htarget : t.response.sent.drop 1 <+: t.fromTarget.received := h.externalDown.prefix
  have hdown : t.answer.sent <+: t.fromTarget.received :=
    (hanswer.trans hresponse).trans htarget
  exact (t.answer.received_prefix.trans hdown).trans t.fromTarget.received_prefix

/-! ## Main results -/

/-- On every run of a tunnel, whatever the target sends and however reads split
    and join the bytes: if the one read of the acknowledgement gives no more than
    one byte, then the application has at every moment read a prefix of what the
    target has sent. -/
theorem answer_prefix_of_ackAlone (env : TunnelEnv) (es : List TunnelEvent)
    (halone : Trace.Along (Tunnel.step env) AckAlone (Tunnel.start env) es) :
    Trace.Along (Tunnel.step env) (fun t e => (t.step env e).AnswersTarget)
      (Tunnel.start env) es := by
  have hstep : ∀ t e, Control t ∧ ResponseInvariant t → AckAlone t e →
      Control (t.step env e) ∧ ResponseInvariant (t.step env e) := by
    intro t e ⟨hc, hr⟩ ha
    exact ⟨control_step env t e hc, responseInvariant_step env t e hc hr ha⟩
  apply Trace.along_of_invariant (I := fun t => Control t ∧ ResponseInvariant t) hstep _ _ halone
  · intro t e hI ha
    exact (hstep t e hI ha).2.answersTarget
  · exact ⟨control_start env, responseInvariant_start env⟩

/-! ## The two ways a reply can arrive -/

/-- The handlers find 10.0.0.1:8080, connect and agree, up to the target's
    greeting, which reaches the internal side before it reads. -/
def greeted : List TunnelEvent :=
  [.connect (.target (some ⟨0x0a000001, 8080⟩)), .connect (.done true), .connect (.done true),
    .writeDestination 256, .readDestination 256, .dialTarget true,
    .targetSends [50, 50, 48], .writeAck 1, .copy 256 .externalDown, .copy 256 .externalDown]

/-- The read of the acknowledgement returns `n` bytes; then the target sends one
    more byte, and the application reads. -/
def readThenDeliver (n : Nat) : List TunnelEvent :=
  [.readAck n, .targetSends [32], .copy 256 .externalDown, .copy 256 .externalDown,
    .copy 256 .internalDown, .copy 256 .internalDown, .appReads 256]

/-- A greeting that is not read with the acknowledgement arrives whole. -/
theorem answer_prefix_greeted :
    Trace.Along (Tunnel.step plainEnv) (fun t e => (t.step plainEnv e).AnswersTarget)
      (Tunnel.start plainEnv) (greeted ++ readThenDeliver 1) :=
  answer_prefix_of_ackAlone plainEnv _ (by decide)

/-- The application does not always get the target's stream: a greeting that is
    read together with the acknowledgement is lost. -/
theorem not_answer_prefix :
    ¬ ∀ (env : TunnelEnv) (es : List TunnelEvent),
      Trace.Along (Tunnel.step env) (fun t e => (t.step env e).AnswersTarget)
        (Tunnel.start env) es := by
  intro hclaim
  have hrun := hclaim plainEnv (greeted ++ readThenDeliver 256)
  exact absurd hrun (by decide)

end KubeGateway.Gateway

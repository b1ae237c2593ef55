import KubeGateway.Spec.HandshakeAgreement
import KubeGateway.Spec.ResponseStream

/-!
# What a tunnel can do to the bytes it carries

On every run, whatever the reads of the handshake return and whatever fails: the
text the peer dialled, followed by what it sent to the target, is a prefix of the
destination followed by what the application sent; and what the application got is
a contiguous part of what the target sent, which misses at most as many bytes as the
read of the acknowledgement takes besides it.  So neither direction is reordered or
repeated, and nothing is lost in the middle of a stream.
-/

namespace KubeGateway.Gateway

/-! ## The properties -/

/-- The peer has forwarded what it did not take for the destination, in order. -/
structure Tunnel.RequestsInOrder (t : Tunnel) : Prop where
  dialled : ∀ a, t.dialled = some a → a ++ t.toTarget.sent <+: t.text ++ t.app.sent
  undialled : t.dialled = none → t.toTarget.sent = []

/-- The application has read the target's bytes in order, from one of the first on. -/
def Tunnel.AnswersPart (t : Tunnel) : Prop :=
  ∃ k, k < tmpSize ∧ t.answer.received <+: t.fromTarget.sent.drop k

/-! ## Towards the target -/

/-- The request stream is a part of the destination, or all of it and then what the
    application sent; the peer has read the text it dials off it and copies the rest. -/
structure RequestBytes (t : Tunnel) : Prop where
  unwritten : t.internal.unwritten = true → t.request.sent = []
  written : t.internal.wrote = true →
    t.text.length ≤ t.request.sent.length ∨ t.request.ended = true
  framed : t.request.sent.take t.text.length <+: t.text
  internalUp : t.internalUp.Carried t.app 0 t.request t.text.length
  unread : t.destinationUnread = true → t.request.taken = 0
  idle : t.dialled = none → t.toTarget.sent ++ t.externalUp.buf = []
  dials : ∀ a, t.external = some (.dial a) → t.request.received = a
  dialled : ∀ a, t.dialled = some a → a <+: t.request.received ∧
    t.externalUp.Carried t.request a.length t.toTarget 0

theorem requestBytes_start (env : TunnelEnv) : RequestBytes (Tunnel.start env) where
  unwritten := fun _ => rfl
  written := nofun
  framed := List.prefix_refl _
  internalUp := rfl
  unread := fun _ => rfl
  idle := fun _ => rfl
  dials := nofun
  dialled := nofun

private theorem RequestBytes.congr {t t' : Tunnel} (h : RequestBytes t)
    (hunwritten : t'.internal.unwritten = true → t.internal.unwritten = true)
    (hwrote : t'.internal.wrote = true → t.internal.wrote = true)
    (hunread : t'.destinationUnread = true → t.destinationUnread = true)
    (hdials : ∀ a, t'.external = some (.dial a) → t.external = some (.dial a))
    (hsame : SameRequest t t') : RequestBytes t' := by
  have hreceived : t'.request.received = t.request.received :=
    Pipe.received_congr hsame.sent hsame.taken
  constructor
  · intro hu
    rw [hsame.sent]
    exact h.unwritten (hunwritten hu)
  · intro hw
    rw [hsame.text, hsame.sent]
    exact (h.written (hwrote hw)).imp id hsame.ended
  · rw [hsame.text, hsame.sent]
    exact h.framed
  · have hup := h.internalUp
    unfold Pump.Carried at hup ⊢
    rw [hsame.internalUp, hsame.text, hsame.sent, hsame.app]
    exact hup
  · intro hu
    rw [hsame.taken]
    exact h.unread (hunread hu)
  · rw [hsame.dialled, hsame.toTarget, hsame.externalUp]
    exact h.idle
  · intro a ha
    rw [hreceived]
    exact h.dials a (hdials a ha)
  · intro a ha
    rw [hsame.dialled] at ha
    have hdialled := h.dialled a ha
    unfold Pump.Carried at hdialled ⊢
    rw [hreceived, hsame.externalUp, hsame.toTarget]
    exact hdialled

/-- The handlers are as before, too. -/
private theorem RequestBytes.frame {t t' : Tunnel} (h : RequestBytes t)
    (hint : t'.internal = t.internal) (hext : t'.external = t.external)
    (hsame : SameRequest t t') : RequestBytes t' := by
  have hunread : t'.destinationUnread = t.destinationUnread := by
    unfold Tunnel.destinationUnread
    rw [hext]
  apply h.congr _ _ _ _ hsame
  · rw [hint]; exact id
  · rw [hint]; exact id
  · rw [hunread]; exact id
  · rw [hext]; exact fun _ => id

/-- The destination becomes known, while nothing has been sent. -/
private theorem RequestBytes.targetFound {t : Tunnel} (h : RequestBytes t) (hc : Control t)
    (fn : InternalFn) (dst : Target) (hint : t.internal = .findTarget fn) :
    RequestBytes { t with internal := .testCertificates fn dst, dst := some dst } := by
  have hext : t.external = none := hc.alone (by rw [hint]; rfl)
  have hsent : t.request.sent = [] := h.unwritten (by rw [hint]; rfl)
  exact {
    unwritten := fun _ => hsent
    written := nofun
    framed := by
      show t.request.sent.take _ <+: _
      rw [hsent, List.take_nil]
      exact List.nil_prefix
    internalUp := by
      -- with nothing sent, the text does not matter
      have hup := h.internalUp
      unfold Pump.Carried at hup ⊢
      rw [hsent, List.drop_nil] at hup ⊢
      exact hup
    unread := h.unread
    idle := h.idle
    dials := h.dials
    dialled := h.dialled }

/-- The destination is written, whole or up to an error. -/
private theorem RequestBytes.wroteDestination {t : Tunnel} (h : RequestBytes t) (hc : Control t)
    (n : Nat) (fn : InternalFn) (dst : Target) (wire : Wire)
    (hint : t.internal = .writeDestination fn dst wire) :
    RequestBytes
      { t with internal := .readAck fn dst wire, request := t.request.write dst.text n } := by
  have hsent : t.request.sent = [] := h.unwritten (by rw [hint]; rfl)
  have htext : t.text = dst.text := by
    have hdst := hc.known dst (by rw [hint]; rfl)
    unfold Tunnel.text
    rw [hdst]
  have hpre : (t.request.write dst.text n).sent <+: t.text := by
    cases hend : t.request.ended with
    | true => rw [Pipe.write_of_ended hend, hsent]; exact List.nil_prefix
    | false =>
      rw [Pipe.sent_write_of_not_ended hend, hsent, List.nil_append, htext]
      exact List.take_prefix _ _
  exact {
    unwritten := nofun
    written := by
      intro _
      show t.text.length ≤ (t.request.write dst.text n).sent.length ∨
        (t.request.write dst.text n).ended = true
      cases hend : t.request.ended with
      | true => rw [Pipe.write_of_ended hend]; exact Or.inr hend
      | false =>
        rw [Pipe.sent_write_of_not_ended hend, Pipe.ended_write_of_not_ended hend, hsent, htext]
        simp only [List.nil_append, List.length_take, decide_eq_true_eq]
        omega
    framed := (List.take_prefix _ _).trans hpre
    internalUp := by
      -- no byte of the application's is behind the destination yet
      have hup := h.internalUp
      unfold Pump.Carried at hup ⊢
      rw [hsent, List.drop_nil] at hup
      show (t.request.write dst.text n).sent.drop t.text.length ++ t.internalUp.buf = _
      rw [List.drop_eq_nil_iff.mpr hpre.length_le]
      exact hup
    unread := by
      intro hu
      show (t.request.write dst.text n).taken = 0
      rw [Pipe.taken_write]
      exact h.unread hu
    idle := h.idle
    dials := by
      intro a ha
      show (t.request.write dst.text n).received = a
      rw [Pipe.received_write]
      exact h.dials a ha
    dialled := by
      intro a ha
      have hdialled := h.dialled a ha
      unfold Pump.Carried at hdialled ⊢
      rw [Pipe.received_write]
      exact hdialled }

/-- The peer has read, and will dial what it read, or returns. -/
private theorem RequestBytes.readDestination {t t' : Tunnel} (h : RequestBytes t) (hc : Control t)
    {n : Nat} {data : GoString} {request : Pipe UInt8} (hext : t.external = some .readDestination)
    (hread : ReadsDestination t n data request) (hint : t'.internal = t.internal)
    (hrequest : t'.request = request) (hsame : SameLoops t t')
    (hnext : t'.external = some .returned ∨ t'.external = some (.dial data)) :
    RequestBytes t' := by
  have hdialled : t.dialled = none := hc.notDialled (by unfold Tunnel.undialled; rw [hext])
  have htaken : t.request.taken = 0 := h.unread (by unfold Tunnel.destinationUnread; rw [hext])
  obtain ⟨hsent, hended, hreceived, -⟩ := hread.facts htaken
  constructor
  · rw [hint, hrequest, hsent]
    exact h.unwritten
  · rw [hint, hsame.text, hrequest, hsent, hended]
    exact h.written
  · rw [hrequest, hsent, hsame.text]
    exact h.framed
  · have hup := h.internalUp
    unfold Pump.Carried at hup ⊢
    rw [hsame.internalUp, hsame.text, hrequest, hsent, hsame.app]
    exact hup
  · -- whether it returns or dials, the peer is past its read
    intro hu
    unfold Tunnel.destinationUnread at hu
    obtain hret | hdials := hnext
    · rw [hret] at hu; cases hu
    · rw [hdials] at hu; cases hu
  · intro _
    rw [hsame.toTarget, hsame.externalUp]
    exact h.idle hdialled
  · intro a ha
    rw [hrequest, hreceived]
    obtain hret | hdials := hnext
    · rw [hret] at ha; cases ha
    · rw [hdials] at ha
      exact External.dial.inj (Option.some.inj ha)
  · intro a ha
    rw [hsame.dialled, hdialled] at ha
    cases ha

/-- The peer has dialled what it read, before it forwards anything. -/
private theorem RequestBytes.targetDialled {t : Tunnel} (h : RequestBytes t) (hc : Control t)
    (a : GoString) (hext : t.external = some (.dial a)) :
    RequestBytes { t with external := some (.writeAck a), dialled := some a } where
  unwritten := h.unwritten
  written := h.written
  framed := h.framed
  internalUp := h.internalUp
  unread := by
    intro hu
    cases hu
  idle := by
    intro hnone
    cases hnone
  dials := by
    intro a' ha
    cases ha
  dialled := by
    intro a' ha
    obtain rfl := Option.some.inj ha
    have hreceived := h.dials a hext
    have hnone : t.dialled = none := hc.notDialled (by unfold Tunnel.undialled; rw [hext])
    refine ⟨⟨[], by rw [List.append_nil, hreceived]⟩, ?_⟩
    unfold Pump.Carried
    rw [hreceived, List.drop_length, List.drop_zero]
    exact h.idle hnone

/-- The internal loop writes to the request stream. -/
private theorem RequestBytes.internalUpStep {t : Tunnel} (h : RequestBytes t) (n : Nat)
    (hrelay : t.internal.relays = true) :
    RequestBytes
      { t with
        internalUp := (t.internalUp.step n t.app t.request).1
        app := (t.internalUp.step n t.app t.request).2.1
        request := (t.internalUp.step n t.app t.request).2.2 } := by
  obtain ⟨fn, dst, wire, hint⟩ : ∃ fn dst wire, t.internal = .relay fn dst wire := by
    cases hint : t.internal with
    | relay fn dst wire => exact ⟨fn, dst, wire, rfl⟩
    | _ => rw [hint] at hrelay; cases hrelay
  -- the loop starts behind the destination: it has been written, or the stream
  -- has ended and takes nothing more
  have hwritten := h.written (by rw [hint]; rfl)
  have hlen := (t.internalUp.sent_prefix_dst_step n t.app t.request).length_le
  exact {
    unwritten := by
      intro hu
      change t.internal.unwritten = true at hu
      rw [hint] at hu
      cases hu
    written := by
      intro _
      obtain hsent | hend := hwritten
      · exact Or.inl (Nat.le_trans hsent hlen)
      · right
        show (t.internalUp.step n t.app t.request).2.2.ended = true
        rw [Pump.dst_step_of_ended _ _ _ hend]
        exact hend
    framed := by
      show (t.internalUp.step n t.app t.request).2.2.sent.take t.text.length <+: t.text
      rw [Pump.take_dst_step _ _ _ hwritten]
      exact h.framed
    internalUp := Pump.carried_step n (Or.inl (Nat.zero_le _)) hwritten h.internalUp
    unread := by
      intro hu
      show (t.internalUp.step n t.app t.request).2.2.taken = 0
      rw [Pump.taken_dst_step]
      exact h.unread hu
    idle := h.idle
    dials := by
      intro a ha
      show (t.internalUp.step n t.app t.request).2.2.received = a
      rw [Pump.received_dst_step]
      exact h.dials a ha
    dialled := by
      intro a ha
      have hdialled := h.dialled a ha
      unfold Pump.Carried at hdialled ⊢
      rw [Pump.received_dst_step]
      exact hdialled }

/-- The external loop reads from the request stream. -/
private theorem RequestBytes.externalUpStep {t : Tunnel} (h : RequestBytes t) (hc : Control t)
    (n : Nat) (a : GoString) (hext : t.external = some (.relay a)) :
    RequestBytes
      { t with
        externalUp := (t.externalUp.step n t.request t.toTarget).1
        request := (t.externalUp.step n t.request t.toTarget).2.1
        toTarget := (t.externalUp.step n t.request t.toTarget).2.2 } where
  unwritten := by
    rw [Pump.sent_src_step]
    exact h.unwritten
  written := by
    rw [Pump.sent_src_step, Pump.ended_src_step]
    exact h.written
  framed := by
    rw [Pump.sent_src_step]
    exact h.framed
  internalUp := by
    have hup := h.internalUp
    unfold Pump.Carried at hup ⊢
    rw [Pump.sent_src_step]
    exact hup
  unread := by
    unfold Tunnel.destinationUnread
    rw [hext]
    intro hu
    cases hu
  idle := by
    -- a peer that relays has dialled
    intro hnone
    have hsome := hc.serving a (by rw [hext]; rfl)
    change t.dialled = none at hnone
    rw [hnone] at hsome
    cases hsome
  dials := by
    intro a' ha
    change t.external = some (.dial a') at ha
    rw [hext] at ha
    cases ha
  dialled := by
    intro a' ha
    obtain ⟨hpre, hup⟩ := h.dialled a' ha
    -- what it dialled has been read before, and the loop only reads on
    have hle : a'.length ≤ t.request.taken := by
      rw [← Pipe.length_received]
      exact hpre.length_le
    exact ⟨hpre.trans (t.externalUp.received_prefix_src_step n t.request t.toTarget),
      Pump.carried_step n (Or.inl hle) (Or.inl (Nat.zero_le _)) hup⟩

/-- Every step keeps the invariant. -/
theorem requestBytes_step (env : TunnelEnv) (t : Tunnel) (e : TunnelEvent)
    (hc : Control t) (h : RequestBytes t) : RequestBytes (t.step env e) := by
  have hstep := tunnelStep_step env e hc.tunnelled
  generalize t.step env e = t' at hstep
  cases hstep with
  | idle => exact h
  | targetFound fn dst hint => exact h.targetFound hc fn dst hint
  | connectEnds r h' hcon hend =>
    obtain rfl | rfl := hend
    · exact h.congr nofun nofun id (fun _ => id) {}
    · exact h.congr nofun nofun id (fun _ => id) {}
  | tested r fn dst wire endpoint hint =>
    exact h.congr (fun _ => by rw [hint]; rfl) nofun id (fun _ => id) {}
  | connected fn dst wire endpoint hint =>
    have hext : t.external = none := hc.alone (by rw [hint]; rfl)
    have hunread : t.destinationUnread = true := by unfold Tunnel.destinationUnread; rw [hext]
    exact h.congr (fun _ => by rw [hint]; rfl) nofun (fun _ => hunread) nofun {}
  | wroteDestination n fn dst wire hint => exact h.wroteDestination hc n fn dst wire hint
  | ackFailed n fn dst wire hint hdead =>
    exact h.congr nofun (fun _ => by rw [hint]; rfl) id (fun _ => id) {}
  | acked n fn dst wire hint hdead hdata =>
    have hle : t.response.taken ≤ (t.response.read (min n tmpSize)).taken := Nat.le_add_right _ _
    exact h.congr nofun (fun _ => by rw [hint]; rfl) id (fun _ => id) { response := hle }
  | peerRefuses n data request hext hread hself =>
    exact h.readDestination hc hext hread rfl rfl {} (Or.inl rfl)
  | peerReads n data request hext hread hself =>
    exact h.readDestination hc hext hread rfl rfl {} (Or.inr rfl)
  | targetDialled a hext => exact h.targetDialled hc a hext
  | dialFailed a hext => exact h.congr id id nofun nofun {}
  | wroteAck n a hext =>
    have htaken := t.response.taken_write [ackByte] n
    exact h.congr id id nofun nofun { response := Nat.le_of_eq htaken.symm }
  | internalUp n hrelay => exact h.internalUpStep n hrelay
  | internalDown n hrelay =>
    have hle := t.internalDown.taken_le_src_step n t.response t.answer
    exact h.frame rfl rfl { response := hle }
  | externalUp n a hext => exact h.externalUpStep hc n a hext
  | externalDown n a hext =>
    have htaken := t.externalDown.taken_dst_step n t.fromTarget t.response
    exact h.frame rfl rfl { response := Nat.le_of_eq htaken.symm }
  | internalReturned hrelay => exact h.congr nofun nofun id (fun _ => id) { ended := fun _ => rfl }
  | externalReturned a hext => exact h.congr id id nofun nofun {}
  | appSent bytes =>
    have happ := t.app.received_write bytes bytes.length
    exact h.frame rfl rfl { app := happ }
  | appRead n => exact h.frame rfl rfl {}
  | appClosed => exact h.frame rfl rfl {}
  | targetSent bytes hdial => exact h.frame rfl rfl {}
  | targetRead n => exact h.frame rfl rfl {}
  | targetClosed => exact h.frame rfl rfl {}
  | brokenRedirected => exact h.frame rfl rfl {}
  | brokenGateways => exact h.frame rfl rfl { ended := fun _ => rfl }
  | brokenTarget => exact h.frame rfl rfl {}

/-- The request stream is a prefix of the destination and the application's bytes. -/
private theorem RequestBytes.sent_le {t : Tunnel} (h : RequestBytes t) :
    t.request.sent <+: t.text ++ t.app.sent := by
  have hrest : t.request.sent.drop t.text.length <+: t.app.sent :=
    h.internalUp.prefix.trans t.app.received_prefix
  by_cases hlen : t.text.length ≤ t.request.sent.length
  · -- the destination is there, and the rest is the application's
    have htext : t.request.sent.take t.text.length = t.text := by
      refine h.framed.eq_of_length ?_
      rw [List.length_take]
      exact Nat.min_eq_left hlen
    rw [← List.take_append_drop t.text.length t.request.sent, htext]
    exact (List.prefix_append_right_inj _).mpr hrest
  · have hshort : t.request.sent.take t.text.length = t.request.sent :=
      List.take_of_length_le (Nat.le_of_not_le hlen)
    have hframed := h.framed
    rw [hshort] at hframed
    exact hframed.trans (List.prefix_append _ _)

private theorem RequestBytes.toTarget_le {t : Tunnel} (h : RequestBytes t) (a : GoString)
    (ha : t.dialled = some a) : a ++ t.toTarget.sent <+: t.text ++ t.app.sent := by
  obtain ⟨hpre, hup⟩ := h.dialled a ha
  have htarget : t.toTarget.sent <+: t.request.received.drop a.length := hup.prefix
  -- what was read is what was dialled and what the loop took
  have hread : a ++ t.request.received.drop a.length = t.request.received :=
    (List.prefix_iff_eq_append.mp hpre)
  have hall : a ++ t.toTarget.sent <+: t.request.received := by
    rw [← hread]
    exact (List.prefix_append_right_inj _).mpr htarget
  exact (hall.trans t.request.received_prefix).trans h.sent_le

/-! ## Towards the application -/

/-- Behind its first byte the response stream is what the target sent.  Of the
    response stream the application gets nothing, or all from some byte on: the first
    one that the read of the acknowledgement left. -/
structure ResponseBytes (t : Tunnel) : Prop where
  externalDown : t.externalDown.Carried t.fromTarget 0 t.response 1
  acknowledged : ∀ a, t.external = some (.relay a) →
    1 ≤ t.response.sent.length ∨ t.response.ended = true
  internalDown :
    (t.answer.sent ++ t.internalDown.buf = [] ∧
      (t.internal.relays = true → t.response.dead = true)) ∨
    ∃ k, 1 ≤ k ∧ k ≤ tmpSize ∧ k ≤ t.response.taken ∧
      t.internalDown.Carried t.response k t.answer 0

theorem responseBytes_start (env : TunnelEnv) : ResponseBytes (Tunnel.start env) where
  externalDown := rfl
  acknowledged := nofun
  internalDown := by
    left
    unfold Tunnel.start TunnelEnv.internalFn
    exact ⟨rfl, nofun⟩

private theorem ResponseBytes.congr {t t' : Tunnel} (h : ResponseBytes t)
    (hrelays : t'.internal.relays = true → t.internal.relays = true)
    (hext : ∀ a, t'.external = some (.relay a) → t.external = some (.relay a))
    (hsame : SameResponse t t') : ResponseBytes t' where
  externalDown := by
    have hdown := h.externalDown
    unfold Pump.Carried at hdown ⊢
    rw [hsame.externalDown, hsame.sent, hsame.fromTarget]
    exact hdown
  acknowledged := by
    intro a ha
    rw [hsame.sent]
    exact (h.acknowledged a (hext a ha)).imp id hsame.ended
  internalDown := by
    obtain ⟨hnothing, hdead⟩ | ⟨k, hpos, hmax, htaken, hdown⟩ := h.internalDown
    · left
      rw [hsame.answer, hsame.internalDown]
      exact ⟨hnothing, fun hr => hsame.dead (hdead (hrelays hr))⟩
    · right
      unfold Pump.Carried at hdown ⊢
      rw [hsame.internalDown, hsame.answer, Pipe.received_congr hsame.sent hsame.taken, hsame.taken]
      exact ⟨k, hpos, hmax, htaken, hdown⟩

/-- A write to the response stream takes nothing from the application. -/
private theorem ResponseBytes.internalDown_of_received {t t' : Tunnel} (h : ResponseBytes t)
    (hint : t'.internal = t.internal) (hpump : t'.internalDown = t.internalDown)
    (hanswer : t'.answer = t.answer) (hreceived : t'.response.received = t.response.received)
    (htaken : t'.response.taken = t.response.taken)
    (hdead : t.response.dead = true → t'.response.dead = true) :
    (t'.answer.sent ++ t'.internalDown.buf = [] ∧
      (t'.internal.relays = true → t'.response.dead = true)) ∨
    ∃ k, 1 ≤ k ∧ k ≤ tmpSize ∧ k ≤ t'.response.taken ∧
      t'.internalDown.Carried t'.response k t'.answer 0 := by
  unfold Pump.Carried
  rw [hint, hpump, hanswer, hreceived, htaken]
  exact h.internalDown.imp (And.imp_right fun himp hr => hdead (himp hr)) id

/-- The acknowledgement goes in front of everything else. -/
private theorem ResponseBytes.wroteAck {t : Tunnel} (h : ResponseBytes t) (hc : Control t)
    (n : Nat) (a : GoString) (hext : t.external = some (.writeAck a)) :
    ResponseBytes
      { t with external := some (.relay a), response := t.response.write [ackByte] n } := by
  -- nothing was written before, so behind the first byte there is still nothing
  have hempty : t.response.sent = [] := hc.notAnswered (by unfold Tunnel.unanswered; rw [hext])
  have hdrop : (t.response.write [ackByte] n).sent.drop 1 = [] := by
    cases hend : t.response.ended with
    | true => rw [Pipe.write_of_ended hend, hempty, List.drop_nil]
    | false =>
      rw [Pipe.sent_write_of_not_ended hend, hempty, List.nil_append, List.drop_eq_nil_iff,
        List.length_take]
      exact Nat.min_le_right _ _
  exact {
    externalDown := by
      have hdown := h.externalDown
      unfold Pump.Carried at hdown ⊢
      rw [hempty, List.drop_nil] at hdown
      show (t.response.write [ackByte] n).sent.drop 1 ++ t.externalDown.buf = _
      rw [hdrop]
      exact hdown
    acknowledged := by
      intro _ _
      show 1 ≤ (t.response.write [ackByte] n).sent.length ∨
        (t.response.write [ackByte] n).ended = true
      cases hend : t.response.ended with
      | true => rw [Pipe.write_of_ended hend]; exact Or.inr hend
      | false =>
        rw [Pipe.sent_write_of_not_ended hend, Pipe.ended_write_of_not_ended hend, hempty]
        -- a write of no byte is a failed one, after which nothing follows
        cases n with
        | zero => exact Or.inr rfl
        | succ n => left; simp
    internalDown := by
      refine h.internalDown_of_received rfl rfl rfl (Pipe.received_write _ _ _)
        (Pipe.taken_write _ _ _) (fun hdead => ?_)
      show (t.response.write [ackByte] n).dead = true
      rw [Pipe.write_of_dead hdead]
      exact hdead }

/-- The read of the acknowledgement leaves what comes after it. -/
private theorem ResponseBytes.acked {t : Tunnel} (h : ResponseBytes t) (n : Nat)
    (fn : InternalFn) (dst : Target) (wire : Wire) (htaken : t.response.taken = 0)
    (hmax : n ≤ tmpSize) (hdata : t.response.chunk n ≠ []) :
    ResponseBytes { t with internal := .relay fn dst wire, response := t.response.read n } where
  externalDown := h.externalDown
  acknowledged := h.acknowledged
  internalDown := by
    right
    have hreceived : t.response.received = [] := by
      unfold Pipe.received
      rw [htaken, List.take_zero]
    -- nothing was answered before the first read
    have hnothing : t.answer.sent ++ t.internalDown.buf = [] := by
      obtain ⟨hnothing, -⟩ | ⟨k, hpos, -, hle, -⟩ := h.internalDown
      · exact hnothing
      · exact absurd (htaken ▸ hle) (by omega)
    have hlen : (t.response.chunk n).length ≤ n := by
      unfold Pipe.chunk
      split
      · exact Nat.zero_le _
      · exact List.length_take_le _ _
    refine ⟨(t.response.chunk n).length, List.length_pos_of_ne_nil hdata,
      Nat.le_trans hlen hmax, Nat.le_add_left _ _, ?_⟩
    unfold Pump.Carried
    rw [Pipe.received_read, hreceived, List.nil_append, List.drop_length, List.drop_zero]
    exact hnothing

/-- The internal loop reads from the response stream. -/
private theorem ResponseBytes.internalDownStep {t : Tunnel} (h : ResponseBytes t) (n : Nat)
    (hrelay : t.internal.relays = true) :
    ResponseBytes
      { t with
        internalDown := (t.internalDown.step n t.response t.answer).1
        response := (t.internalDown.step n t.response t.answer).2.1
        answer := (t.internalDown.step n t.response t.answer).2.2 } where
  externalDown := by
    have hdown := h.externalDown
    unfold Pump.Carried at hdown ⊢
    rw [Pump.sent_src_step]
    exact hdown
  acknowledged := by
    intro a ha
    rw [Pump.sent_src_step, Pump.ended_src_step]
    exact h.acknowledged a ha
  internalDown := by
    obtain ⟨hnothing, hdead⟩ | ⟨k, hpos, hmax, htaken, hdown⟩ := h.internalDown
    · -- a stream that is dead gives the loop nothing
      left
      obtain ⟨hanswer, hbuf⟩ := List.append_eq_nil_iff.mp hnothing
      have hstill := hdead hrelay
      refine ⟨?_, fun _ => ?_⟩
      · have hidle : (t.internalDown.step n t.response t.answer).1.buf = [] ∧
            (t.internalDown.step n t.response t.answer).2.2 = t.answer := by
          unfold Pump.step
          rw [if_pos hbuf, if_pos hstill]
          split
          · exact ⟨hbuf, rfl⟩
          · exact ⟨hbuf, rfl⟩
        show (t.internalDown.step n t.response t.answer).2.2.sent ++ _ = []
        rw [hidle.1, hidle.2, hanswer, List.nil_append]
      · show (t.internalDown.step n t.response t.answer).2.1.dead = true
        rw [Pump.src_step_of_dead _ _ _ hstill]
        exact hstill
    · right
      have hle := t.internalDown.taken_le_src_step n t.response t.answer
      exact ⟨k, hpos, hmax, Nat.le_trans htaken hle,
        Pump.carried_step n (Or.inl htaken) (Or.inl (Nat.zero_le _)) hdown⟩

/-- The external loop writes to the response stream. -/
private theorem ResponseBytes.externalDownStep {t : Tunnel} (h : ResponseBytes t) (n : Nat)
    (a : GoString) (hext : t.external = some (.relay a)) :
    ResponseBytes
      { t with
        externalDown := (t.externalDown.step n t.fromTarget t.response).1
        fromTarget := (t.externalDown.step n t.fromTarget t.response).2.1
        response := (t.externalDown.step n t.fromTarget t.response).2.2 } where
  externalDown :=
    Pump.carried_step n (Or.inl (Nat.zero_le _)) (h.acknowledged a hext) h.externalDown
  acknowledged := by
    intro _ _
    have hlen := (t.externalDown.sent_prefix_dst_step n t.fromTarget t.response).length_le
    obtain hsent | hend := h.acknowledged a hext
    · exact Or.inl (Nat.le_trans hsent hlen)
    · right
      show (t.externalDown.step n t.fromTarget t.response).2.2.ended = true
      rw [Pump.dst_step_of_ended _ _ _ hend]
      exact hend
  internalDown := by
    refine h.internalDown_of_received rfl rfl rfl (Pump.received_dst_step _ _ _ _)
      (Pump.taken_dst_step _ _ _ _) (fun hdead => ?_)
    show (t.externalDown.step n t.fromTarget t.response).2.2.dead = true
    rw [Pump.dst_step_of_ended _ _ _ (Pipe.ended_of_dead hdead)]
    exact hdead

/-- Every step keeps the invariant. -/
theorem responseBytes_step (env : TunnelEnv) (t : Tunnel) (e : TunnelEvent)
    (hc : Control t) (h : ResponseBytes t) : ResponseBytes (t.step env e) := by
  have hstep := tunnelStep_step env e hc.tunnelled
  generalize t.step env e = t' at hstep
  have hfinish : ∀ {p : Pipe UInt8}, p.dead = true → p.finish.dead = true :=
    Pipe.dead_finish_of_dead
  cases hstep with
  | idle => exact h
  | targetFound fn dst hint => exact h.congr nofun (fun _ => id) {}
  | connectEnds r h' hcon hend =>
    obtain rfl | rfl := hend
    · exact h.congr nofun (fun _ => id) {}
    · exact h.congr nofun (fun _ => id) {}
  | tested r fn dst wire endpoint hint => exact h.congr nofun (fun _ => id) {}
  | connected fn dst wire endpoint hint => exact h.congr nofun nofun {}
  | wroteDestination n fn dst wire hint => exact h.congr nofun (fun _ => id) {}
  | ackFailed n fn dst wire hint hdead =>
    -- the handler relays a stream out of which no byte will come
    have hunacked : t.response.taken = 0 := hc.unacked (by rw [hint]; rfl)
    exact {
      externalDown := h.externalDown
      acknowledged := h.acknowledged
      internalDown := by
        obtain ⟨hnothing, -⟩ | ⟨k, hpos, -, hle, -⟩ := h.internalDown
        · exact Or.inl ⟨hnothing, fun _ => hdead⟩
        · exact absurd (hunacked ▸ hle) (by omega) }
  | acked n fn dst wire hint hdead hdata =>
    exact h.acked _ fn dst wire (hc.unacked (by rw [hint]; rfl)) (Nat.min_le_right _ _) hdata
  | peerRefuses n data request hext =>
    exact h.congr id nofun { ended := fun _ => rfl, dead := hfinish }
  | peerReads n data request hext => exact h.congr id nofun {}
  | targetDialled a hext => exact h.congr id nofun {}
  | dialFailed a hext => exact h.congr id nofun { ended := fun _ => rfl, dead := hfinish }
  | wroteAck n a hext => exact h.wroteAck hc n a hext
  | internalUp n hrelay => exact h.congr id (fun _ => id) {}
  | internalDown n hrelay => exact h.internalDownStep n hrelay
  | externalUp n a hext => exact h.congr id (fun _ => id) {}
  | externalDown n a hext => exact h.externalDownStep n a hext
  | internalReturned hrelay => exact h.congr nofun (fun _ => id) {}
  | externalReturned a hext => exact h.congr id nofun { ended := fun _ => rfl, dead := hfinish }
  | appSent bytes => exact h.congr id (fun _ => id) {}
  | appRead n => exact h.congr id (fun _ => id) {}
  | appClosed => exact h.congr id (fun _ => id) {}
  | targetSent bytes hdial =>
    have hfrom := t.fromTarget.received_write bytes bytes.length
    exact h.congr id (fun _ => id) { fromTarget := hfrom }
  | targetRead n => exact h.congr id (fun _ => id) {}
  | targetClosed => exact h.congr id (fun _ => id) {}
  | brokenRedirected => exact h.congr id (fun _ => id) {}
  | brokenGateways => exact h.congr id (fun _ => id) { ended := fun _ => rfl, dead := fun _ => rfl }
  | brokenTarget => exact h.congr id (fun _ => id) {}

private theorem ResponseBytes.answer_le {t : Tunnel} (h : ResponseBytes t) : t.AnswersPart := by
  obtain ⟨hnothing, -⟩ | ⟨k, hpos, hmax, -, hdown⟩ := h.internalDown
  · refine ⟨0, by decide, ?_⟩
    have hsent : t.answer.sent = [] := (List.append_eq_nil_iff.mp hnothing).1
    have hnil : t.answer.received = [] := by
      unfold Pipe.received
      rw [hsent, List.take_nil]
    rw [hnil]
    exact List.nil_prefix
  · -- the acknowledgement's byte is the first of the `k` that are skipped
    obtain ⟨k, rfl⟩ : ∃ k', k = k' + 1 := ⟨k - 1, by omega⟩
    refine ⟨k, hmax, ?_⟩
    have hsent : t.response.sent.drop 1 <+: t.fromTarget.sent :=
      h.externalDown.prefix.trans t.fromTarget.received_prefix
    have hresponse : t.response.sent.drop (k + 1) <+: t.fromTarget.sent.drop k := by
      rw [Nat.add_comm, ← List.drop_drop]
      obtain ⟨rest, hrest⟩ := hsent
      rw [← hrest, List.drop_append]
      exact List.prefix_append _ _
    have hanswer : t.answer.sent <+: t.response.received.drop (k + 1) := hdown.prefix
    exact ((t.answer.received_prefix.trans hanswer).trans
      (t.response.drop_received_prefix _)).trans hresponse

/-! ## Main results -/

theorem requestBytes_run (env : TunnelEnv) (es : List TunnelEvent) :
    Control (Trace.run (Tunnel.step env) (Tunnel.start env) es) ∧
      RequestBytes (Trace.run (Tunnel.step env) (Tunnel.start env) es) := by
  have hstep : ∀ t e, Control t ∧ RequestBytes t →
      Control (t.step env e) ∧ RequestBytes (t.step env e) :=
    fun t e hI => ⟨control_step env t e hI.1, requestBytes_step env t e hI.1 hI.2⟩
  exact @Trace.run_invariant _ _ _ _ es _ hstep ⟨control_start env, requestBytes_start env⟩

theorem responseBytes_run (env : TunnelEnv) (es : List TunnelEvent) :
    Control (Trace.run (Tunnel.step env) (Tunnel.start env) es) ∧
      ResponseBytes (Trace.run (Tunnel.step env) (Tunnel.start env) es) := by
  have hstep : ∀ t e, Control t ∧ ResponseBytes t →
      Control (t.step env e) ∧ ResponseBytes (t.step env e) :=
    fun t e hI => ⟨control_step env t e hI.1, responseBytes_step env t e hI.1 hI.2⟩
  exact @Trace.run_invariant _ _ _ _ es _ hstep ⟨control_start env, responseBytes_start env⟩

/-- After every run: what the peer dialled and then sent to the target is a prefix of
    the destination and then the application's bytes.  A peer that has dialled nothing
    has sent nothing. -/
theorem requests_in_order (env : TunnelEnv) (es : List TunnelEvent) :
    (Trace.run (Tunnel.step env) (Tunnel.start env) es).RequestsInOrder := by
  have hbytes := (requestBytes_run env es).2
  exact ⟨hbytes.toTarget_le,
    fun hnone => (List.append_eq_nil_iff.mp (hbytes.idle hnone)).1⟩

/-- After every run the application has read a contiguous part of what the target
    sent, which leaves out at most the first 255 bytes. -/
theorem answers_contiguous (env : TunnelEnv) (es : List TunnelEvent) :
    (Trace.run (Tunnel.step env) (Tunnel.start env) es).AnswersPart :=
  (responseBytes_run env es).2.answer_le

end KubeGateway.Gateway

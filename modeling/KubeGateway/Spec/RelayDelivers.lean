import KubeGateway.Spec.StreamIntegrity

/-!
# A relay gets to the end of its work

`StreamIntegrity` says what a tunnel never does to the bytes it carries.  Here is what
it does: while both handlers relay and no connection breaks or is closed, bytes are
never stuck.  Every copy loop that runs moves something, as long as there is something
to move in front of it; so after as many rounds of the four loops as the bytes on their
way have reads and writes ahead of them, in any order within a round and with any
pieces, everything has arrived.
-/

namespace KubeGateway.Gateway

/-! ## The properties -/

/-- Both handlers are in their gateway functions, and none of the connections has
    broken or been closed by a gateway. -/
structure Tunnel.Flows (t : Tunnel) : Prop where
  internal : t.internal.relays = true
  external : t.external.any External.relays = true
  app : t.app.broken = false
  fromTarget : t.fromTarget.broken = false
  request : t.request.ended = false
  toTarget : t.toTarget.ended = false
  response : t.response.ended = false
  answer : t.answer.ended = false

/-- The reads and writes that are still ahead of the bytes on their way. -/
def Tunnel.backlog (t : Tunnel) : Nat :=
  4 * t.app.pending.length + 3 * t.internalUp.buf.length +
  2 * t.request.pending.length + t.externalUp.buf.length +
  4 * t.fromTarget.pending.length + 3 * t.externalDown.buf.length +
  2 * t.response.pending.length + t.internalDown.buf.length

def Tunnel.pump (t : Tunnel) : Loop → Pump UInt8
  | .internalUp => t.internalUp
  | .internalDown => t.internalDown
  | .externalUp => t.externalUp
  | .externalDown => t.externalDown

def Tunnel.source (t : Tunnel) : Loop → Pipe UInt8
  | .internalUp => t.app
  | .internalDown => t.response
  | .externalUp => t.request
  | .externalDown => t.fromTarget

/-- A copy loop reads something, if there is something, or writes all that it has
    read. -/
def Tunnel.copies (t : Tunnel) : TunnelEvent → Bool
  | .copy n loop => 1 ≤ n && (t.pump loop).buf.length ≤ n
  | _ => false

/-- A copy loop has something to move. -/
def Tunnel.Waits (t : Tunnel) : TunnelEvent → Prop
  | .copy _ loop => 0 < (t.pump loop).waiting (t.source loop)
  | _ => False

/-- All that was sent has arrived: behind the text that was dialled, and behind what
    was read with the acknowledgement. -/
structure Tunnel.Delivered (t : Tunnel) : Prop where
  requests : ∃ a, t.dialled = some a ∧ a ++ t.toTarget.sent = t.text ++ t.app.sent
  answers : ∃ k, k < tmpSize ∧ t.answer.sent = t.fromTarget.sent.drop k

/-! ## Why a loop has returned -/

/-- A copy loop that has returned had a reason to. -/
structure LoopsExcused (t : Tunnel) : Prop where
  internalUp : t.internalUp.Excused t.app t.request
  internalDown : t.internalDown.Excused t.response t.answer
  externalUp : t.externalUp.Excused t.request t.toTarget
  externalDown : t.externalDown.Excused t.fromTarget t.response

/-- The loops are as before, and what was over is over. -/
structure LaterPipes (t t' : Tunnel) : Prop where
  internalUp : t'.internalUp = t.internalUp := by rfl
  internalDown : t'.internalDown = t.internalDown := by rfl
  externalUp : t'.externalUp = t.externalUp := by rfl
  externalDown : t'.externalDown = t.externalDown := by rfl
  app : t.app.Later t'.app := by exact Pipe.Later.refl _
  answer : t.answer.Later t'.answer := by exact Pipe.Later.refl _
  request : t.request.Later t'.request := by exact Pipe.Later.refl _
  response : t.response.Later t'.response := by exact Pipe.Later.refl _
  toTarget : t.toTarget.Later t'.toTarget := by exact Pipe.Later.refl _
  fromTarget : t.fromTarget.Later t'.fromTarget := by exact Pipe.Later.refl _

private theorem LoopsExcused.later {t t' : Tunnel} (h : LoopsExcused t) (hl : LaterPipes t t') :
    LoopsExcused t' where
  internalUp := by
    rw [hl.internalUp]
    exact h.internalUp.later hl.app hl.request
  internalDown := by
    rw [hl.internalDown]
    exact h.internalDown.later hl.response hl.answer
  externalUp := by
    rw [hl.externalUp]
    exact h.externalUp.later hl.request hl.toTarget
  externalDown := by
    rw [hl.externalDown]
    exact h.externalDown.later hl.fromTarget hl.response

/-- What a read of the destination leaves of the request stream. -/
private theorem ReadsDestination.later {t : Tunnel} {n : Nat} {data : GoString}
    {request : Pipe UInt8} (h : ReadsDestination t n data request) : t.request.Later request := by
  obtain ⟨-, -, rfl⟩ | ⟨-, -, -, rfl⟩ := h
  · exact Pipe.Later.refl _
  · exact Pipe.later_read _ _

theorem loopsExcused_step (env : TunnelEnv) (t : Tunnel) (e : TunnelEvent) (hc : Control t)
    (h : LoopsExcused t) : LoopsExcused (t.step env e) := by
  have hstep := tunnelStep_step env e hc.tunnelled
  generalize t.step env e = t' at hstep
  cases hstep with
  | idle => exact h
  | targetFound fn dst hint => exact h.later {}
  | connectEnds r h' hcon hend => exact h.later {}
  | tested r fn dst wire endpoint hint => exact h.later {}
  | connected fn dst wire endpoint hint => exact h.later {}
  | wroteDestination n fn dst wire hint =>
    exact h.later { request := Pipe.later_write _ _ _ }
  | ackFailed n fn dst wire hint hdead => exact h.later {}
  | acked n fn dst wire hint hdead hdata => exact h.later { response := Pipe.later_read _ _ }
  | peerRefuses n data request hext hread hself =>
    exact h.later
      { request := hread.later, response := Pipe.later_finish _, toTarget := Pipe.later_finish _ }
  | peerReads n data request hext hread hself => exact h.later { request := hread.later }
  | targetDialled a hext => exact h.later {}
  | dialFailed a hext =>
    exact h.later { response := Pipe.later_finish _, toTarget := Pipe.later_finish _ }
  | wroteAck n a hext => exact h.later { response := Pipe.later_write _ _ _ }
  | internalUp n hrelay =>
    exact {
      internalUp := h.internalUp.step n
      internalDown := h.internalDown
      externalUp := h.externalUp.later (Pump.later_dst_step _ n _ _) (Pipe.Later.refl _)
      externalDown := h.externalDown }
  | internalDown n hrelay =>
    exact {
      internalUp := h.internalUp
      internalDown := h.internalDown.step n
      externalUp := h.externalUp
      externalDown := h.externalDown.later (Pipe.Later.refl _) (Pump.later_src_step _ n _ _) }
  | externalUp n a hext =>
    exact {
      internalUp := h.internalUp.later (Pipe.Later.refl _) (Pump.later_src_step _ n _ _)
      internalDown := h.internalDown
      externalUp := h.externalUp.step n
      externalDown := h.externalDown }
  | externalDown n a hext =>
    exact {
      internalUp := h.internalUp
      internalDown := h.internalDown.later (Pump.later_dst_step _ n _ _) (Pipe.Later.refl _)
      externalUp := h.externalUp
      externalDown := h.externalDown.step n }
  | internalReturned hrelay =>
    exact h.later { request := Pipe.later_finish _, answer := Pipe.later_finish _ }
  | externalReturned a hext =>
    exact h.later { response := Pipe.later_finish _, toTarget := Pipe.later_finish _ }
  | appSent bytes => exact h.later { app := Pipe.later_write _ _ _ }
  | appRead n => exact h.later { answer := Pipe.later_read _ _ }
  | appClosed => exact h.later { app := Pipe.later_finish _ }
  | targetSent bytes hdial => exact h.later { fromTarget := Pipe.later_write _ _ _ }
  | targetRead n => exact h.later { toTarget := Pipe.later_read _ _ }
  | targetClosed => exact h.later { fromTarget := Pipe.later_finish _ }
  | brokenRedirected =>
    exact h.later { app := Pipe.later_reset _, answer := Pipe.later_reset _ }
  | brokenGateways =>
    exact h.later { request := Pipe.later_reset _, response := Pipe.later_reset _ }
  | brokenTarget =>
    exact h.later { toTarget := Pipe.later_reset _, fromTarget := Pipe.later_reset _ }

/-! ## One step of a loop -/

section

variable {t : Tunnel}

/-- What the loops have in front of them is as before. -/
def SameWaiting (t t' : Tunnel) : Prop :=
  ∀ loop, (t'.pump loop).buf = (t.pump loop).buf ∧
    (t'.source loop).pending = (t.source loop).pending

theorem SameWaiting.backlog {t' : Tunnel} (h : SameWaiting t t') : t'.backlog = t.backlog := by
  have hiu := h .internalUp
  have hid := h .internalDown
  have heu := h .externalUp
  have hed := h .externalDown
  unfold Tunnel.pump Tunnel.source at hiu hid heu hed
  dsimp only at hiu hid heu hed
  unfold Tunnel.backlog
  rw [hiu.1, hiu.2, hid.1, hid.2, heu.1, heu.2, hed.1, hed.2]

theorem SameWaiting.waits {t' : Tunnel} (h : SameWaiting t t') (e : TunnelEvent)
    (hwaits : t.Waits e) : t'.Waits e := by
  cases e with
  | copy n loop =>
    unfold Tunnel.Waits Pump.waiting at hwaits ⊢
    dsimp only at hwaits ⊢
    rw [(h loop).1, (h loop).2]
    exact hwaits
  | _ => cases hwaits

/-- While there is a backlog, some loop has something to move. -/
theorem exists_waiting (hpos : 0 < t.backlog) :
    ∃ loop, 0 < (t.pump loop).waiting (t.source loop) := by
  by_contra hnone
  simp only [not_exists, Nat.not_lt, Nat.le_zero, Pump.waiting, Nat.add_eq_zero_iff] at hnone
  have hiu := hnone .internalUp
  have hid := hnone .internalDown
  have heu := hnone .externalUp
  have hed := hnone .externalDown
  unfold Tunnel.pump Tunnel.source at hiu hid heu hed
  dsimp only at hiu hid heu hed
  unfold Tunnel.backlog at hpos
  omega

/-- A step of a loop keeps the connections open; it brings the backlog down, or it had
    nothing to move, and nothing else depends on it. -/
def Advances (t t' : Tunnel) (loop : Loop) : Prop :=
  t'.Flows ∧ (t'.backlog < t.backlog ∨
    ((t.pump loop).waiting (t.source loop) = 0 ∧ SameWaiting t t'))

private theorem advances_internalUp (hf : t.Flows) (hx : LoopsExcused t) {n : Nat} (hn : 1 ≤ n)
    (hbuf : t.internalUp.buf.length ≤ n) : Advances t (t.copy n .internalUp) .internalUp := by
  obtain ⟨hended, hweight⟩ := Pump.step_weight hn hbuf hf.app hf.request hx.internalUp 2
  have hstep : t.copy n .internalUp = { t with
      internalUp := (t.internalUp.step n t.app t.request).1
      app := (t.internalUp.step n t.app t.request).2.1
      request := (t.internalUp.step n t.app t.request).2.2 } := by
    unfold Tunnel.copy
    dsimp only
    rw [if_pos hf.internal]
  rw [hstep]
  refine ⟨{ hf with app := (Pump.broken_src_step _ n _ _).trans hf.app, request := hended }, ?_⟩
  obtain hlt | ⟨hzero, hidle, hpending, hsame⟩ := hweight
  · left
    unfold Tunnel.backlog
    dsimp only
    omega
  · refine Or.inr ⟨hzero, fun loop => ?_⟩
    cases loop with
    | internalUp => exact ⟨hidle, hpending⟩
    | internalDown => exact ⟨rfl, rfl⟩
    | externalUp => exact ⟨rfl, congrArg Pipe.pending hsame⟩
    | externalDown => exact ⟨rfl, rfl⟩

private theorem advances_internalDown (hf : t.Flows) (hx : LoopsExcused t) {n : Nat} (hn : 1 ≤ n)
    (hbuf : t.internalDown.buf.length ≤ n) :
    Advances t (t.copy n .internalDown) .internalDown := by
  obtain ⟨hended, hweight⟩ :=
    Pump.step_weight hn hbuf (Pipe.unbroken hf.response) hf.answer hx.internalDown 0
  have hstep : t.copy n .internalDown = { t with
      internalDown := (t.internalDown.step n t.response t.answer).1
      response := (t.internalDown.step n t.response t.answer).2.1
      answer := (t.internalDown.step n t.response t.answer).2.2 } := by
    unfold Tunnel.copy
    dsimp only
    rw [if_pos hf.internal]
  rw [hstep]
  refine ⟨{ hf with response := (Pump.ended_src_step _ n _ _).trans hf.response, answer := hended },
    ?_⟩
  obtain hlt | ⟨hzero, hidle, hpending, hsame⟩ := hweight
  · left
    unfold Tunnel.backlog
    dsimp only
    omega
  · refine Or.inr ⟨hzero, fun loop => ?_⟩
    cases loop with
    | internalDown => exact ⟨hidle, hpending⟩
    | internalUp => exact ⟨rfl, rfl⟩
    | externalUp => exact ⟨rfl, rfl⟩
    | externalDown => exact ⟨rfl, rfl⟩

private theorem advances_externalUp (hf : t.Flows) (hx : LoopsExcused t) {n : Nat} (hn : 1 ≤ n)
    (hbuf : t.externalUp.buf.length ≤ n) : Advances t (t.copy n .externalUp) .externalUp := by
  obtain ⟨hended, hweight⟩ :=
    Pump.step_weight hn hbuf (Pipe.unbroken hf.request) hf.toTarget hx.externalUp 0
  have hstep : t.copy n .externalUp = { t with
      externalUp := (t.externalUp.step n t.request t.toTarget).1
      request := (t.externalUp.step n t.request t.toTarget).2.1
      toTarget := (t.externalUp.step n t.request t.toTarget).2.2 } := by
    unfold Tunnel.copy
    dsimp only
    rw [if_pos hf.external]
  rw [hstep]
  refine ⟨{ hf with request := (Pump.ended_src_step _ n _ _).trans hf.request, toTarget := hended },
    ?_⟩
  obtain hlt | ⟨hzero, hidle, hpending, hsame⟩ := hweight
  · left
    unfold Tunnel.backlog
    dsimp only
    omega
  · refine Or.inr ⟨hzero, fun loop => ?_⟩
    cases loop with
    | externalUp => exact ⟨hidle, hpending⟩
    | internalUp => exact ⟨rfl, rfl⟩
    | internalDown => exact ⟨rfl, rfl⟩
    | externalDown => exact ⟨rfl, rfl⟩

private theorem advances_externalDown (hf : t.Flows) (hx : LoopsExcused t) {n : Nat} (hn : 1 ≤ n)
    (hbuf : t.externalDown.buf.length ≤ n) :
    Advances t (t.copy n .externalDown) .externalDown := by
  obtain ⟨hended, hweight⟩ := Pump.step_weight hn hbuf hf.fromTarget hf.response hx.externalDown 2
  have hstep : t.copy n .externalDown = { t with
      externalDown := (t.externalDown.step n t.fromTarget t.response).1
      fromTarget := (t.externalDown.step n t.fromTarget t.response).2.1
      response := (t.externalDown.step n t.fromTarget t.response).2.2 } := by
    unfold Tunnel.copy
    dsimp only
    rw [if_pos hf.external]
  rw [hstep]
  refine ⟨{ hf with
    fromTarget := (Pump.broken_src_step _ n _ _).trans hf.fromTarget, response := hended }, ?_⟩
  obtain hlt | ⟨hzero, hidle, hpending, hsame⟩ := hweight
  · left
    unfold Tunnel.backlog
    dsimp only
    omega
  · refine Or.inr ⟨hzero, fun loop => ?_⟩
    cases loop with
    | externalDown => exact ⟨hidle, hpending⟩
    | internalUp => exact ⟨rfl, rfl⟩
    | internalDown => exact ⟨rfl, congrArg Pipe.pending hsame⟩
    | externalUp => exact ⟨rfl, rfl⟩

theorem advances_copy (hf : t.Flows) (hx : LoopsExcused t) {n : Nat} {loop : Loop}
    (hcopies : t.copies (.copy n loop) = true) : Advances t (t.copy n loop) loop := by
  unfold Tunnel.copies at hcopies
  simp only [Bool.and_eq_true, decide_eq_true_eq] at hcopies
  obtain ⟨hn, hbuf⟩ := hcopies
  cases loop with
  | internalUp => exact advances_internalUp hf hx hn hbuf
  | internalDown => exact advances_internalDown hf hx hn hbuf
  | externalUp => exact advances_externalUp hf hx hn hbuf
  | externalDown => exact advances_externalDown hf hx hn hbuf

end

/-! ## Nothing is left -/

/-- With no backlog, what is at the target and at the application is all that was
    sent. -/
theorem delivered_of_backlog {t : Tunnel} (hc : Control t) (hrequest : RequestBytes t)
    (hresponse : ResponseBytes t) (hf : t.Flows) (hzero : t.backlog = 0) : t.Delivered := by
  unfold Tunnel.backlog at hzero
  have hnil : ∀ {l : List UInt8}, l.length = 0 → l = [] := List.length_eq_zero_iff.mp
  have happ : t.app.received = t.app.sent :=
    Pipe.received_of_pending_eq_nil (hnil (by omega))
  have hreq : t.request.received = t.request.sent :=
    Pipe.received_of_pending_eq_nil (hnil (by omega))
  have hfrom : t.fromTarget.received = t.fromTarget.sent :=
    Pipe.received_of_pending_eq_nil (hnil (by omega))
  have hresp : t.response.received = t.response.sent :=
    Pipe.received_of_pending_eq_nil (hnil (by omega))
  obtain ⟨fn, dst, wire, hint⟩ : ∃ fn dst wire, t.internal = .relay fn dst wire := by
    cases hint : t.internal with
    | relay fn dst wire => exact ⟨fn, dst, wire, rfl⟩
    | _ => have hrelay := hf.internal; rw [hint] at hrelay; cases hrelay
  obtain ⟨a, hext⟩ : ∃ a, t.external = some (.relay a) := by
    have hrelays := hf.external
    cases hext : t.external with
    | none => rw [hext] at hrelays; cases hrelays
    | some x =>
      cases x with
      | relay a => exact ⟨a, rfl⟩
      | _ => rw [hext] at hrelays; cases hrelays
  constructor
  · have hdialled : t.dialled = some a := hc.serving a (by rw [hext]; rfl)
    obtain ⟨hpre, hup⟩ := hrequest.dialled a hdialled
    refine ⟨a, hdialled, ?_⟩
    have htarget : t.toTarget.sent = t.request.sent.drop a.length := by
      have hcarried := hup
      unfold Pump.Carried at hcarried
      rw [hnil (show t.externalUp.buf.length = 0 by omega), List.append_nil, hreq,
        List.drop_zero] at hcarried
      exact hcarried
    have hbehind : t.request.sent.drop t.text.length = t.app.sent := by
      have hcarried := hrequest.internalUp
      unfold Pump.Carried at hcarried
      rw [hnil (show t.internalUp.buf.length = 0 by omega), List.append_nil, happ,
        List.drop_zero] at hcarried
      exact hcarried
    -- the destination was written whole, since the stream has not ended
    have htext : t.request.sent.take t.text.length = t.text := by
      refine hrequest.framed.eq_of_length ?_
      obtain hlen | hended := hrequest.written (by rw [hint]; rfl)
      · rw [List.length_take]
        exact Nat.min_eq_left hlen
      · rw [hf.request] at hended
        cases hended
    rw [hreq] at hpre
    calc a ++ t.toTarget.sent = t.request.sent := by
          rw [htarget, List.prefix_iff_eq_append.mp hpre]
      _ = t.request.sent.take t.text.length ++ t.request.sent.drop t.text.length :=
          (List.take_append_drop _ _).symm
      _ = t.text ++ t.app.sent := by rw [htext, hbehind]
  · have hdown := hresponse.externalDown
    unfold Pump.Carried at hdown
    rw [hnil (show t.externalDown.buf.length = 0 by omega), List.append_nil, hfrom,
      List.drop_zero] at hdown
    obtain ⟨-, hdead⟩ | ⟨k, hpos, hmax, -, hcarried⟩ := hresponse.internalDown
    · -- a stream that is open was not read past its end
      have hended := Pipe.ended_of_dead (hdead hf.internal)
      rw [hf.response] at hended
      cases hended
    · obtain ⟨k, rfl⟩ : ∃ k', k = k' + 1 := ⟨k - 1, by omega⟩
      refine ⟨k, hmax, ?_⟩
      unfold Pump.Carried at hcarried
      rw [hnil (show t.internalDown.buf.length = 0 by omega), List.append_nil, hresp,
        List.drop_zero, Nat.add_comm, ← List.drop_drop, hdown] at hcarried
      exact hcarried

/-! ## Main result -/

theorem loopsExcused_run (env : TunnelEnv) (es : List TunnelEvent) :
    LoopsExcused (Trace.run (Tunnel.step env) (Tunnel.start env) es) := by
  have hstep : ∀ t e, Control t ∧ LoopsExcused t →
      Control (t.step env e) ∧ LoopsExcused (t.step env e) :=
    fun t e hI => ⟨control_step env t e hI.1, loopsExcused_step env t e hI.1 hI.2⟩
  have hstart : LoopsExcused (Tunnel.start env) := ⟨nofun, nofun, nofun, nofun⟩
  exact (@Trace.run_invariant _ _ _ _ es _ hstep ⟨control_start env, hstart⟩).2

/-- From every state that a run of a tunnel reaches with both handlers relaying and all
    connections open: after as many rounds as there are reads and writes ahead of the
    bytes on their way, each with a step of all four loops in any order, everything
    that was sent has arrived. -/
theorem relay_delivers (env : TunnelEnv) (es : List TunnelEvent)
    (rounds : List (List TunnelEvent))
    (hflows : (Trace.run (Tunnel.step env) (Tunnel.start env) es).Flows)
    (hround : ∀ r ∈ rounds, ∀ loop, ∃ n, .copy n loop ∈ r)
    (hcopies : Trace.Along (Tunnel.step env) (fun t e => t.copies e = true)
      (Trace.run (Tunnel.step env) (Tunnel.start env) es) rounds.flatten)
    (hlength : (Trace.run (Tunnel.step env) (Tunnel.start env) es).backlog ≤ rounds.length) :
    (Trace.run (Tunnel.step env) (Tunnel.start env) (es ++ rounds.flatten)).Delivered := by
  have hstep : ∀ t e, t.Flows ∧ LoopsExcused t ∧ Control t → t.copies e = true →
      (t.step env e).Flows ∧ LoopsExcused (t.step env e) ∧ Control (t.step env e) := by
    rintro t e ⟨hf, hx, hc⟩ hcopy
    refine ⟨?_, loopsExcused_step env t e hc hx, control_step env t e hc⟩
    cases e with
    | copy n loop => exact (advances_copy hf hx hcopy).1
    | _ => cases hcopy
  have hkeep : ∀ t e, t.Flows ∧ LoopsExcused t ∧ Control t → t.copies e = true →
      (t.step env e).backlog < t.backlog ∨
        ((t.step env e).backlog = t.backlog ∧ ¬ t.Waits e ∧
          ∀ e', t.Waits e' → (t.step env e).Waits e') := by
    rintro t e ⟨hf, hx, hc⟩ hcopy
    cases e with
    | copy n loop =>
      obtain hlt | ⟨hzero, hsame⟩ := (advances_copy hf hx hcopy).2
      · exact Or.inl hlt
      · have hnot : ¬ t.Waits (.copy n loop) := Nat.not_lt.mpr (Nat.le_of_eq hzero)
        exact Or.inr ⟨hsame.backlog, hnot, hsame.waits⟩
    | _ => cases hcopy
  have hwork : ∀ t, t.Flows ∧ LoopsExcused t ∧ Control t → 0 < t.backlog →
      ∀ r ∈ rounds, ∃ e ∈ r, t.Waits e := by
    intro t hI hpos r hr
    obtain ⟨loop, hloop⟩ := exists_waiting hpos
    obtain ⟨n, hmem⟩ := hround r hr loop
    exact ⟨_, hmem, hloop⟩
  have hstart := And.intro hflows (And.intro (loopsExcused_run env es) (requestBytes_run env es).1)
  have hend := Trace.run_of_along hstep hstart hcopies
  have hle := Trace.run_rounds_le hstep hkeep hwork hstart hcopies
  rw [← Trace.run_append] at hend hle
  obtain ⟨hc, hrequest⟩ := requestBytes_run env (es ++ rounds.flatten)
  have hresponse := (responseBytes_run env (es ++ rounds.flatten)).2
  exact delivered_of_backlog hc hrequest hresponse hend.1 (by omega)

/-! ## One byte each way -/

/-- The handlers connect for 10.0.0.1:8080 and agree; then the application and the
    target send a byte. -/
def oneByteEachWay : List TunnelEvent :=
  [.connect (.target (some ⟨0x0a000001, 8080⟩)), .connect (.done true), .connect (.done true),
    .writeDestination 256, .readDestination 256, .dialTarget true, .writeAck 1, .readAck 256,
    .appSends [71], .targetSends [72]]

/-- The loops in an order in which each byte moves once in a round. -/
def slowRound : List TunnelEvent :=
  [.copy 256 .externalUp, .copy 256 .internalUp, .copy 256 .internalDown, .copy 256 .externalDown]

theorem relay_delivers_oneByteEachWay :
    (Trace.run (Tunnel.step plainEnv) (Tunnel.start plainEnv)
      (oneByteEachWay ++ (List.replicate 8 slowRound).flatten)).Delivered := by
  refine relay_delivers plainEnv oneByteEachWay (List.replicate 8 slowRound)
    ⟨rfl, rfl, rfl, rfl, rfl, rfl, rfl, rfl⟩ ?_ (by decide) (by decide)
  intro r hr loop
  obtain rfl := List.eq_of_mem_replicate hr
  cases loop <;> exact ⟨256, by decide⟩

end KubeGateway.Gateway

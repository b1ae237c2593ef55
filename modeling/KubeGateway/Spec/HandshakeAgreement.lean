import KubeGateway.Spec.TunnelControl

/-!
# What the two gateways of a tunnel agree on

The internal handler writes the original destination without a frame, ignores
whether that worked, reads once and ignores that too.  The external handler
reads once and dials what it got.  `agreed_iff` says on which runs the two agree
all the same: the external handler's read gives the whole destination, and the
internal handler's read gives an acknowledgement.
-/

namespace KubeGateway.Gateway

/-! ## The property -/

/-- The text of the original destination, once it is known. -/
def Tunnel.text (t : Tunnel) : GoString :=
  match t.dst with
  | none => []
  | some dst => dst.text

/-- The gateways agree: the internal handler relays only after an acknowledgement
    from a peer that has dialled the original destination, the peer dials nothing
    else, and what the target gets is a prefix of what the application sent. -/
structure Agreed (t : Tunnel) : Prop where
  relays : t.internal.relays = true → t.dialled = some t.text ∧ 1 ≤ t.response.taken
  dials : ∀ a, t.external = some (.dial a) → a = t.text
  payload : t.toTarget.sent <+: t.app.sent

/-! ## The condition -/

/-- What the external handler's read gives it, where it reads: an error gives it
    nothing, and a read that waits is not over. -/
def Tunnel.destinationData (t : Tunnel) : TunnelEvent → Option GoString
  | .readDestination n =>
    if t.external = some .readDestination then
      if t.request.dead then some []
      else if t.request.chunk (min n tmpSize) = [] then none
      else some (t.request.chunk (min n tmpSize))
    else none
  | _ => none

/-- The internal handler's read of the acknowledgement fails. -/
def Tunnel.ackFails (t : Tunnel) : TunnelEvent → Bool
  | .readAck _ =>
    match t.internal with
    | .readAck _ _ _ => t.response.dead
    | _ => false
  | _ => false

/-- A read of the destination gives all of it, or the handler's own address,
    which it refuses; and a read of the acknowledgement does not fail. -/
structure HandshakeWhole (env : TunnelEnv) (t : Tunnel) (e : TunnelEvent) : Prop where
  destination : ∀ data, t.destinationData e = some data →
    data = t.text ∨ data = hostPort env.peer.address env.peer.proxyPort
  acknowledged : t.ackFails e = false

/-! ## The invariant -/

/-- The handler has written nothing yet. -/
def Internal.unwritten : Internal → Bool
  | .writeDestination _ _ _ => true
  | h => h.connecting

/-- The handler has written the destination. -/
def Internal.wrote : Internal → Bool
  | .readAck _ _ _ => true
  | .relay _ _ _ => true
  | _ => false

/-- The peer has not read the destination, or is not there. -/
def Tunnel.destinationUnread (t : Tunnel) : Bool :=
  match t.external with
  | none => true
  | some .readDestination => true
  | _ => false

/-- The peer has read the destination, and serves the connection. -/
def External.hasRead : External → Bool
  | .dial _ => true
  | .writeAck _ => true
  | .relay _ => true
  | _ => false

/-- The request stream is the destination and then what the application sent;
    the peer has read the destination off it and copies the rest. -/
structure RequestInvariant (t : Tunnel) : Prop where
  unwritten : t.internal.unwritten = true → t.request.sent = []
  written : t.internal.wrote = true →
    t.text.length ≤ t.request.sent.length ∨ t.request.ended = true
  handshake : t.dialled = none → t.request.sent <+: t.text
  unread : t.destinationUnread = true → t.request.taken = 0
  read : ∀ x, t.external = some x → x.hasRead = true → t.text.length ≤ t.request.taken
  dials : ∀ a, t.external = some (.dial a) → a = t.text
  dialled : ∀ a, t.dialled = some a → a = t.text
  relays : t.internal.relays = true → t.dialled ≠ none ∧ 1 ≤ t.response.taken
  internalUp : t.internalUp.Carried t.app 0 t.request t.text.length
  externalUp : t.externalUp.Carried t.request t.text.length t.toTarget 0

theorem requestInvariant_start (env : TunnelEnv) : RequestInvariant (Tunnel.start env) where
  unwritten := fun _ => rfl
  written := nofun
  handshake := fun _ => List.prefix_refl _
  unread := fun _ => rfl
  read := nofun
  dials := nofun
  dialled := nofun
  relays := nofun
  internalUp := rfl
  externalUp := rfl

/-- Under the invariant the gateways agree. -/
theorem RequestInvariant.agreed {t : Tunnel} (h : RequestInvariant t) : Agreed t where
  relays := by
    intro hr
    obtain ⟨hdialled, htaken⟩ := h.relays hr
    -- whatever the peer has dialled is the destination
    obtain ⟨a, ha⟩ := Option.ne_none_iff_exists'.mp hdialled
    rw [ha, h.dialled a ha]
    exact ⟨rfl, htaken⟩
  dials := h.dials
  payload := by
    -- every stage of the way is a prefix of the one before it
    have htarget : t.toTarget.sent <+: t.request.received.drop t.text.length := h.externalUp.prefix
    have hrequest : t.request.received.drop t.text.length <+: t.request.sent.drop t.text.length :=
      t.request.drop_received_prefix _
    have happ : t.request.sent.drop t.text.length <+: t.app.received := h.internalUp.prefix
    exact ((htarget.trans hrequest).trans happ).trans t.app.received_prefix

/-- The loops are as before, and so are the application's and the target's ends;
    more of the response stream may have been read. -/
structure SameLoops (t t' : Tunnel) : Prop where
  dst : t'.dst = t.dst := by rfl
  dialled : t'.dialled = t.dialled := by rfl
  internalUp : t'.internalUp = t.internalUp := by rfl
  externalUp : t'.externalUp = t.externalUp := by rfl
  app : t'.app.received = t.app.received := by rfl
  toTarget : t'.toTarget.sent = t.toTarget.sent := by rfl
  response : t.response.taken ≤ t'.response.taken := by exact Nat.le_refl _

/-- The request stream is as before, too, or has ended. -/
structure SameRequest (t t' : Tunnel) : Prop extends SameLoops t t' where
  sent : t'.request.sent = t.request.sent := by rfl
  taken : t'.request.taken = t.request.taken := by rfl
  ended : t.request.ended = true → t'.request.ended = true := by exact id

theorem SameLoops.text {t t' : Tunnel} (h : SameLoops t t') : t'.text = t.text := by
  unfold Tunnel.text
  rw [h.dst]

private theorem RequestInvariant.congr {t t' : Tunnel} (h : RequestInvariant t)
    (hunwritten : t'.internal.unwritten = true → t.internal.unwritten = true)
    (hwrote : t'.internal.wrote = true → t.internal.wrote = true)
    (hrelays : t'.internal.relays = true → t.internal.relays = true)
    (hunread : t'.destinationUnread = true → t.destinationUnread = true)
    (hread : ∀ x, t'.external = some x → x.hasRead = true →
      ∃ y, t.external = some y ∧ y.hasRead = true)
    (hdials : ∀ a, t'.external = some (.dial a) → t.external = some (.dial a))
    (hsame : SameRequest t t') : RequestInvariant t' := by
  constructor
  · intro hu
    rw [hsame.sent]
    exact h.unwritten (hunwritten hu)
  · intro hw
    rw [hsame.text, hsame.sent]
    exact (h.written (hwrote hw)).imp id hsame.ended
  · rw [hsame.dialled, hsame.sent, hsame.text]
    exact h.handshake
  · intro hu
    rw [hsame.taken]
    exact h.unread (hunread hu)
  · intro x hx hr
    obtain ⟨y, hy, hyr⟩ := hread x hx hr
    rw [hsame.text, hsame.taken]
    exact h.read y hy hyr
  · intro a ha
    rw [hsame.text]
    exact h.dials a (hdials a ha)
  · rw [hsame.dialled, hsame.text]
    exact h.dialled
  · intro hr
    obtain ⟨hd, ht⟩ := h.relays (hrelays hr)
    rw [hsame.dialled]
    exact ⟨hd, Nat.le_trans ht hsame.response⟩
  · have hup := h.internalUp
    unfold Pump.Carried at hup ⊢
    rw [hsame.internalUp, hsame.text, hsame.sent, hsame.app]
    exact hup
  · have hup := h.externalUp
    unfold Pump.Carried at hup ⊢
    rw [hsame.externalUp, hsame.text, hsame.toTarget, Pipe.received_congr hsame.sent hsame.taken]
    exact hup

/-- The handlers are as before, too. -/
private theorem RequestInvariant.frame {t t' : Tunnel} (h : RequestInvariant t)
    (hint : t'.internal = t.internal) (hext : t'.external = t.external)
    (hsame : SameRequest t t') : RequestInvariant t' := by
  have hunread : t'.destinationUnread = t.destinationUnread := by
    unfold Tunnel.destinationUnread
    rw [hext]
  apply h.congr _ _ _ _ _ _ hsame
  · rw [hint]; exact id
  · rw [hint]; exact id
  · rw [hint]; exact id
  · rw [hunread]; exact id
  · intro x hx hr
    exact ⟨x, by rw [← hext]; exact hx, hr⟩
  · rw [hext]; exact fun _ => id

/-- Before the peer reads the destination nothing is on its way to the target. -/
private theorem RequestInvariant.nothing_forwarded {t : Tunnel} (h : RequestInvariant t)
    (htaken : t.request.taken = 0) : t.toTarget.sent ++ t.externalUp.buf = [] := by
  have hup := h.externalUp
  unfold Pump.Carried Pipe.received at hup
  rw [htaken, List.take_zero, List.drop_nil, List.drop_zero] at hup
  exact hup

/-- Before anything is written the application's bytes are still with the loop. -/
private theorem RequestInvariant.nothing_written {t : Tunnel} (h : RequestInvariant t)
    (hsent : t.request.sent = []) : t.internalUp.buf = t.app.received := by
  have hup := h.internalUp
  unfold Pump.Carried at hup
  rw [hsent, List.drop_nil, List.nil_append, List.drop_zero] at hup
  exact hup

/-- The destination becomes known, while nothing has been sent. -/
private theorem RequestInvariant.targetFound {t : Tunnel} (h : RequestInvariant t) (hc : Control t)
    (fn : InternalFn) (dst : Target) (hint : t.internal = .findTarget fn) :
    RequestInvariant { t with internal := .testCertificates fn dst, dst := some dst } := by
  -- the text changes here, so every fact about it has to hold of the empty streams
  have hext : t.external = none := hc.alone (by rw [hint]; rfl)
  have hsent : t.request.sent = [] := h.unwritten (by rw [hint]; rfl)
  have hunread : t.destinationUnread = true := by unfold Tunnel.destinationUnread; rw [hext]
  have hdialled : t.dialled = none := hc.notDialled (by unfold Tunnel.undialled; rw [hext])
  have htaken : t.request.taken = 0 := h.unread hunread
  exact {
    unwritten := fun _ => hsent
    written := nofun
    handshake := by
      intro _
      show t.request.sent <+: _
      rw [hsent]
      exact List.nil_prefix
    unread := fun _ => htaken
    read := by
      intro x hx
      rw [hext] at hx
      exact nomatch hx
    dials := by
      intro a ha
      rw [hext] at ha
      exact nomatch ha
    dialled := by
      intro a ha
      rw [hdialled] at ha
      exact nomatch ha
    relays := nofun
    internalUp := by
      unfold Pump.Carried
      rw [hsent, List.drop_nil, List.nil_append, List.drop_zero]
      exact h.nothing_written hsent
    externalUp := by
      unfold Pump.Carried Pipe.received
      rw [htaken, List.take_zero, List.drop_nil, List.drop_zero]
      exact h.nothing_forwarded htaken }

/-- The destination is written, whole or up to an error. -/
private theorem RequestInvariant.wroteDestination {t : Tunnel} (h : RequestInvariant t)
    (hc : Control t) (n : Nat) (fn : InternalFn) (dst : Target) (wire : Wire)
    (hint : t.internal = .writeDestination fn dst wire) :
    RequestInvariant
      { t with internal := .readAck fn dst wire, request := t.request.write dst.text n } := by
  have hsent : t.request.sent = [] := h.unwritten (by rw [hint]; rfl)
  have htext : t.text = dst.text := by
    have hdst := hc.known dst (by rw [hint]; rfl)
    unfold Tunnel.text
    rw [hdst]
  -- the stream holds the destination, or the part of it before the error
  have hprefix : (t.request.write dst.text n).sent <+: t.text := by
    cases hend : t.request.ended with
    | true => rw [Pipe.write_of_ended hend, hsent]; exact List.nil_prefix
    | false =>
      rw [Pipe.sent_write_of_not_ended hend, hsent, List.nil_append, htext]
      exact List.take_prefix _ _
  exact {
    unwritten := nofun
    written := by
      intro _
      show t.text.length ≤ (t.request.write dst.text n).sent.length ∨
        (t.request.write dst.text n).ended = true
      cases hend : t.request.ended with
      | true => rw [Pipe.write_of_ended hend]; exact Or.inr hend
      | false =>
        rw [Pipe.sent_write_of_not_ended hend, Pipe.ended_write_of_not_ended hend, hsent, htext]
        simp only [List.nil_append, List.length_take, decide_eq_true_eq]
        omega
    handshake := fun _ => hprefix
    unread := by
      intro hu
      show (t.request.write dst.text n).taken = 0
      rw [Pipe.taken_write]
      exact h.unread hu
    read := by
      intro x hx hr
      show t.text.length ≤ (t.request.write dst.text n).taken
      rw [Pipe.taken_write]
      exact h.read x hx hr
    dials := h.dials
    dialled := h.dialled
    relays := nofun
    internalUp := by
      show (t.request.write dst.text n).sent.drop t.text.length ++ t.internalUp.buf = _
      rw [List.drop_eq_nil_iff.mpr hprefix.length_le, List.nil_append, List.drop_zero]
      exact h.nothing_written hsent
    externalUp := by
      have hup := h.externalUp
      unfold Pump.Carried at hup ⊢
      rw [Pipe.received_write]
      exact hup }

/-! ## The peer's read -/

/-- What a read of an untouched request stream leaves. -/
theorem ReadsDestination.facts {t : Tunnel} {n : Nat} {data : GoString}
    {request : Pipe UInt8} (h : ReadsDestination t n data request) (htaken : t.request.taken = 0) :
    request.sent = t.request.sent ∧ request.ended = t.request.ended ∧ request.received = data ∧
      request.taken = data.length := by
  -- nothing was read before, so what was read is the read's data
  have hnone : t.request.received = [] := by
    unfold Pipe.received
    rw [htaken, List.take_zero]
  obtain ⟨_, rfl, rfl⟩ | ⟨_, rfl, _, rfl⟩ := h
  · exact ⟨rfl, rfl, hnone, htaken⟩
  · refine ⟨rfl, rfl, ?_, ?_⟩
    · rw [Pipe.received_read, hnone, List.nil_append]
    · show t.request.taken + _ = _
      rw [htaken, Nat.zero_add]

/-- A read of the destination is what the condition looks at. -/
private theorem ReadsDestination.destinationData {t : Tunnel} {n : Nat} {data : GoString}
    {request : Pipe UInt8} (h : ReadsDestination t n data request)
    (hext : t.external = some .readDestination) :
    t.destinationData (.readDestination n) = some data := by
  unfold Tunnel.destinationData
  dsimp only
  rw [if_pos hext]
  obtain ⟨hdead, rfl, _⟩ | ⟨hdead, rfl, hdata, _⟩ := h
  · rw [if_pos hdead]
  · rw [if_neg (by rw [hdead]; decide), if_neg hdata]

/-- The peer has read: everything it read was part of the destination. -/
private theorem RequestInvariant.readDestination {t t' : Tunnel} (h : RequestInvariant t)
    {n : Nat} {data : GoString} {request : Pipe UInt8} (hext : t.external = some .readDestination)
    (hread : ReadsDestination t n data request) (hdialled : t.dialled = none)
    (hint : t'.internal = t.internal) (hrequest : t'.request = request) (hsame : SameLoops t t')
    (hlen : data.length ≤ t.text.length)
    (hnext : t'.external = some .returned ∨
      (t'.external = some (.dial data) ∧ data = t.text)) : RequestInvariant t' := by
  have htaken : t.request.taken = 0 := h.unread (by unfold Tunnel.destinationUnread; rw [hext])
  obtain ⟨hsent, hended, hreceived, hcount⟩ := hread.facts htaken
  constructor
  · rw [hint, hrequest, hsent]
    exact h.unwritten
  · rw [hint, hsame.text, hrequest, hsent, hended]
    exact h.written
  · rw [hsame.dialled, hrequest, hsent, hsame.text]
    exact h.handshake
  · -- whether it returns or dials, the peer is past its read
    intro hu
    unfold Tunnel.destinationUnread at hu
    obtain hret | ⟨hdials, _⟩ := hnext
    · rw [hret] at hu; exact nomatch hu
    · rw [hdials] at hu; exact nomatch hu
  · intro x hx hr
    obtain hret | ⟨_, hdata⟩ := hnext
    · rw [hret] at hx
      obtain rfl := Option.some.inj hx
      exact nomatch hr
    · rw [hsame.text, hrequest, hcount, hdata]
  · intro a ha
    obtain hret | ⟨hdials, hdata⟩ := hnext
    · rw [hret] at ha
      exact nomatch ha
    · rw [hdials] at ha
      obtain rfl : data = a := External.dial.inj (Option.some.inj ha)
      rw [hsame.text]
      exact hdata
  · rw [hsame.dialled, hdialled]
    exact nofun
  · intro hr
    rw [hint] at hr
    exact absurd hdialled (h.relays hr).1
  · have hup := h.internalUp
    unfold Pump.Carried at hup ⊢
    rw [hsame.internalUp, hsame.text, hrequest, hsent, hsame.app]
    exact hup
  · -- all that was read is the handshake's, so the loop still has nothing
    unfold Pump.Carried
    rw [hsame.externalUp, hsame.text, hsame.toTarget, hrequest, hreceived,
      List.drop_eq_nil_iff.mpr hlen, List.drop_zero]
    exact h.nothing_forwarded htaken

/-! ## The relays -/

/-- The internal handler starts to relay, after an acknowledgement. -/
private theorem RequestInvariant.acked {t : Tunnel} (h : RequestInvariant t) (hc : Control t)
    (n : Nat) (fn : InternalFn) (dst : Target) (wire : Wire)
    (hint : t.internal = .readAck fn dst wire) (hdata : t.response.chunk n ≠ []) :
    RequestInvariant { t with internal := .relay fn dst wire, response := t.response.read n } where
  unwritten := nofun
  written := fun _ => h.written (by rw [hint]; rfl)
  handshake := h.handshake
  unread := h.unread
  read := h.read
  dials := h.dials
  dialled := h.dialled
  relays := by
    intro _
    constructor
    · -- an acknowledgement comes from a peer that has dialled
      intro hnone
      have hsent := hc.silent hnone
      have hempty : t.response.chunk n = [] := by
        unfold Pipe.chunk Pipe.pending
        rw [hsent, List.drop_nil, List.take_nil, ite_self]
      exact hdata hempty
    · have hpos := List.length_pos_of_ne_nil hdata
      show 1 ≤ t.response.taken + (t.response.chunk n).length
      omega
  internalUp := h.internalUp
  externalUp := h.externalUp

/-- The internal loop writes to the request stream. -/
private theorem RequestInvariant.internalUpStep {t : Tunnel} (h : RequestInvariant t) (n : Nat)
    (hrelay : t.internal.relays = true) :
    RequestInvariant
      { t with
        internalUp := (t.internalUp.step n t.app t.request).1
        app := (t.internalUp.step n t.app t.request).2.1
        request := (t.internalUp.step n t.app t.request).2.2 } := by
  -- the loop starts behind the destination: it has been written, or the stream
  -- has ended and takes nothing more
  have hwrote : t.internal.wrote = true := by
    cases hint : t.internal with
    | relay fn dst wire => rfl
    | _ => rw [hint] at hrelay; exact nomatch hrelay
  have htaken := t.internalUp.taken_dst_step n t.app t.request
  exact {
    unwritten := by
      intro hu
      cases hint : t.internal with
      | relay fn dst wire => rw [hint] at hu; exact nomatch hu
      | _ => rw [hint] at hrelay; exact nomatch hrelay
    written := by
      intro _
      have hlen := (t.internalUp.sent_prefix_dst_step n t.app t.request).length_le
      obtain hsent | hend := h.written hwrote
      · exact Or.inl (Nat.le_trans hsent hlen)
      · right
        show (t.internalUp.step n t.app t.request).2.2.ended = true
        rw [Pump.dst_step_of_ended _ _ _ hend]
        exact hend
    handshake := fun hnone => absurd hnone (h.relays hrelay).1
    unread := by
      intro hu
      show (t.internalUp.step n t.app t.request).2.2.taken = 0
      rw [htaken]
      exact h.unread hu
    read := by
      intro x hx hr
      show t.text.length ≤ (t.internalUp.step n t.app t.request).2.2.taken
      rw [htaken]
      exact h.read x hx hr
    dials := h.dials
    dialled := h.dialled
    relays := h.relays
    internalUp := Pump.carried_step n (Or.inl (Nat.zero_le _)) (h.written hwrote) h.internalUp
    externalUp := by
      have hup := h.externalUp
      unfold Pump.Carried at hup ⊢
      rw [Pump.received_dst_step]
      exact hup }

/-- The external loop reads from the request stream. -/
private theorem RequestInvariant.externalUpStep {t : Tunnel} (h : RequestInvariant t) (n : Nat)
    (a : GoString) (hext : t.external = some (.relay a)) :
    RequestInvariant
      { t with
        externalUp := (t.externalUp.step n t.request t.toTarget).1
        request := (t.externalUp.step n t.request t.toTarget).2.1
        toTarget := (t.externalUp.step n t.request t.toTarget).2.2 } where
  unwritten := by
    rw [Pump.sent_src_step]
    exact h.unwritten
  written := by
    rw [Pump.sent_src_step, Pump.ended_src_step]
    exact h.written
  handshake := by
    rw [Pump.sent_src_step]
    exact h.handshake
  unread := by
    unfold Tunnel.destinationUnread
    rw [hext]
    exact nofun
  read := by
    intro x hx hr
    -- the destination has been read before, and the loop only reads on
    have hle := t.externalUp.taken_le_src_step n t.request t.toTarget
    exact Nat.le_trans (h.read x hx hr) hle
  dials := h.dials
  dialled := h.dialled
  relays := h.relays
  internalUp := by
    have hup := h.internalUp
    unfold Pump.Carried at hup ⊢
    rw [Pump.sent_src_step]
    exact hup
  externalUp :=
    Pump.carried_step n (Or.inl (h.read _ hext rfl)) (Or.inl (Nat.zero_le _)) h.externalUp

/-! ## The step -/

/-- A step keeps the invariant, if its handshake read is whole. -/
theorem requestInvariant_step (env : TunnelEnv) (t : Tunnel) (e : TunnelEvent)
    (hc : Control t) (h : RequestInvariant t) (hwhole : HandshakeWhole env t e) :
    RequestInvariant (t.step env e) := by
  have hstep := tunnelStep_step env e hc.tunnelled
  have hsame : ∀ x, t.external = some x → x.hasRead = true →
      ∃ y, t.external = some y ∧ y.hasRead = true := fun x hx hr => ⟨x, hx, hr⟩
  -- a peer that returns has nothing left to read or dial
  have hreturned : ∀ x, some External.returned = some x → x.hasRead = true →
      ∃ y, t.external = some y ∧ y.hasRead = true := by
    intro x hx hr
    obtain rfl := Option.some.inj hx
    exact nomatch hr
  generalize t.step env e = t' at hstep
  cases hstep with
  | idle => exact h
  | targetFound fn dst hint => exact h.targetFound hc fn dst hint
  | connectEnds r h' hcon hend =>
    obtain rfl | rfl := hend
    · exact h.congr nofun nofun nofun id hsame (fun _ => id) {}
    · exact h.congr nofun nofun nofun id hsame (fun _ => id) {}
  | tested r fn dst wire endpoint hint =>
    -- still unwritten: the certificates were tested before anything was sent
    exact h.congr (fun _ => by rw [hint]; rfl) nofun nofun id hsame (fun _ => id) {}
  | connected fn dst wire endpoint hint =>
    -- the peer starts with its read of the destination
    have hext : t.external = none := hc.alone (by rw [hint]; rfl)
    have hunread : t.destinationUnread = true := by unfold Tunnel.destinationUnread; rw [hext]
    have hread : ∀ x, some External.readDestination = some x → x.hasRead = true →
        ∃ y, t.external = some y ∧ y.hasRead = true := by
      intro x hx hr
      obtain rfl := Option.some.inj hx
      exact nomatch hr
    exact h.congr (fun _ => by rw [hint]; rfl) nofun nofun (fun _ => hunread) hread nofun {}
  | wroteDestination n fn dst wire hint => exact h.wroteDestination hc n fn dst wire hint
  | ackFailed n fn dst wire hint hdead =>
    -- excluded: the read of the acknowledgement fails
    have hfails := hwhole.acknowledged
    unfold Tunnel.ackFails at hfails
    rw [hint] at hfails
    dsimp only at hfails
    exact absurd hdead (by rw [hfails]; decide)
  | acked n fn dst wire hint hdead hdata => exact h.acked hc _ fn dst wire hint hdata
  | peerRefuses n data request hext hread hself =>
    have hdialled : t.dialled = none := hc.notDialled (by unfold Tunnel.undialled; rw [hext])
    have htaken : t.request.taken = 0 := h.unread (by unfold Tunnel.destinationUnread; rw [hext])
    -- what the peer read is still part of the destination
    have hlen : data.length ≤ t.text.length := by
      obtain ⟨hsent, _, hreceived, _⟩ := hread.facts htaken
      have hprefix : data <+: t.text := by
        rw [← hreceived]
        exact request.received_prefix.trans (by rw [hsent]; exact h.handshake hdialled)
      exact hprefix.length_le
    exact h.readDestination hext hread hdialled rfl rfl {} hlen (Or.inl rfl)
  | peerReads n data request hext hread hself =>
    have hdialled : t.dialled = none := hc.notDialled (by unfold Tunnel.undialled; rw [hext])
    -- the condition, with its other case excluded by the test above
    have hdata : data = t.text :=
      (hwhole.destination data (hread.destinationData hext)).resolve_right hself
    exact h.readDestination hext hread hdialled rfl rfl {}
      (Nat.le_of_eq (congrArg List.length hdata)) (Or.inr ⟨rfl, hdata⟩)
  | targetDialled a hext =>
    -- the peer dialled what it read, and it read the destination
    exact {
      unwritten := h.unwritten
      written := h.written
      handshake := nofun
      unread := nofun
      read := fun _ _ _ => h.read _ hext rfl
      dials := nofun
      dialled := by
        intro a' ha
        rw [← Option.some.inj ha]
        exact h.dials a hext
      relays := fun hr => ⟨nofun, (h.relays hr).2⟩
      internalUp := h.internalUp
      externalUp := h.externalUp }
  | dialFailed a hext => exact h.congr id id id nofun hreturned nofun {}
  | wroteAck n a hext =>
    have hread : ∀ x, some (External.relay a) = some x → x.hasRead = true →
        ∃ y, t.external = some y ∧ y.hasRead = true := fun _ _ _ => ⟨_, hext, rfl⟩
    have htaken := t.response.taken_write [ackByte] n
    exact h.congr id id id nofun hread nofun { response := Nat.le_of_eq htaken.symm }
  | internalUp n hrelay => exact h.internalUpStep n hrelay
  | internalDown n hrelay =>
    have hle := t.internalDown.taken_le_src_step n t.response t.answer
    exact h.frame rfl rfl { response := hle }
  | externalUp n a hext => exact h.externalUpStep n a hext
  | externalDown n a hext =>
    have htaken := t.externalDown.taken_dst_step n t.fromTarget t.response
    exact h.frame rfl rfl { response := Nat.le_of_eq htaken.symm }
  | internalReturned hrelay =>
    exact h.congr nofun nofun nofun id hsame (fun _ => id) { ended := fun _ => rfl }
  | externalReturned a hext => exact h.congr id id id nofun hreturned nofun {}
  | appSent bytes =>
    have happ := t.app.received_write bytes bytes.length
    exact h.frame rfl rfl { app := happ }
  | appRead n => exact h.frame rfl rfl {}
  | appClosed => exact h.frame rfl rfl {}
  | targetSent bytes hdial => exact h.frame rfl rfl {}
  | targetRead n => exact h.frame rfl rfl {}
  | targetClosed => exact h.frame rfl rfl {}
  | brokenRedirected => exact h.frame rfl rfl {}
  | brokenGateways => exact h.frame rfl rfl { ended := fun _ => rfl }
  | brokenTarget => exact h.frame rfl rfl {}

/-- A handler that goes on to dial what it read. -/
private theorem external_readDestination (env : TunnelEnv) {t : Tunnel} {n : Nat} {data : GoString}
    (hdata : t.destinationData (.readDestination n) = some data)
    (hself : data ≠ hostPort env.peer.address env.peer.proxyPort) :
    (t.step env (.readDestination n)).external = some (.dial data) ∧
      (t.step env (.readDestination n)).dst = t.dst := by
  -- the test for the own address fails, so the handler dials what it read
  have hset : ∀ (t' : Tunnel) ok, t'.setExternal
      (External.next env.peer .readDestination (.data data ok)) =
        { t' with external := some (.dial data) } := by
    intro t' ok
    show t'.setExternal (if data = hostPort env.peer.address env.peer.proxyPort then .returned
      else .dial data) = _
    rw [if_neg hself]
    rfl
  unfold Tunnel.destinationData at hdata
  dsimp only at hdata
  split at hdata
  · rename_i hext
    show (t.readDestination env n).external = _ ∧ (t.readDestination env n).dst = _
    unfold Tunnel.readDestination
    rw [hext]
    dsimp only
    split at hdata
    · rename_i hdead
      obtain rfl := Option.some.inj hdata
      rw [if_pos hdead, hset]
      exact ⟨rfl, rfl⟩
    · rename_i hdead
      split at hdata
      · exact nomatch hdata
      · rename_i hchunk
        obtain rfl := Option.some.inj hdata
        rw [if_neg hdead, if_neg hchunk, hset]
        exact ⟨rfl, rfl⟩
  · exact nomatch hdata

/-- A step after which the gateways agree had a whole handshake read. -/
private theorem handshakeWhole_of_agreed (env : TunnelEnv) (t : Tunnel) (e : TunnelEvent)
    (hc : Control t) (h : Agreed (t.step env e)) : HandshakeWhole env t e where
  destination := by
    intro data hdata
    by_cases hself : data = hostPort env.peer.address env.peer.proxyPort
    · exact Or.inr hself
    · left
      cases e with
      | readDestination n =>
        -- it will dial the data, which agreement says is the destination
        obtain ⟨hext, hdst⟩ := external_readDestination env hdata hself
        rw [h.dials data hext]
        unfold Tunnel.text
        rw [hdst]
      | _ => exact nomatch hdata
  acknowledged := by
    cases e with
    | readAck n =>
      unfold Tunnel.ackFails
      cases hint : t.internal with
      | readAck fn dst wire =>
        dsimp only
        cases hdead : t.response.dead with
        | false => rfl
        | true =>
          -- the handler would relay with nothing read
          have hstep : t.step env (.readAck n) = { t with internal := .relay fn dst wire } := by
            show t.readAck env n = _
            unfold Tunnel.readAck
            rw [hint]
            dsimp only
            rw [if_pos hdead]
            rfl
          have hrelays := (h.relays (by rw [hstep]; rfl)).2
          rw [hstep, hc.unacked (by rw [hint]; rfl)] at hrelays
          exact absurd hrelays (by decide)
      | _ => rfl
    | _ => rfl

/-! ## Main results -/

/-- On every run of a tunnel the gateways agree, exactly when the external
    handler's read of the destination gives it the whole destination or its own
    address, and the internal handler's read of the acknowledgement does not
    fail.  The reads and writes split and join the bytes in any way, and every
    call can fail. -/
theorem agreed_iff (env : TunnelEnv) (es : List TunnelEvent) :
    Trace.Along (Tunnel.step env) (fun t e => Agreed (t.step env e)) (Tunnel.start env) es ↔
      Trace.Along (Tunnel.step env) (HandshakeWhole env) (Tunnel.start env) es := by
  have hwhole : ∀ t e, Control t ∧ RequestInvariant t → HandshakeWhole env t e →
      RequestInvariant (t.step env e) :=
    fun t e hI hw => requestInvariant_step env t e hI.1 hI.2 hw
  apply Trace.along_iff_of_invariant (I := fun t => Control t ∧ RequestInvariant t)
  · intro t e hI hagreed
    exact ⟨control_step env t e hI.1, hwhole t e hI (handshakeWhole_of_agreed env t e hI.1 hagreed)⟩
  · intro t e hI
    exact ⟨handshakeWhole_of_agreed env t e hI.1, fun hw => (hwhole t e hI hw).agreed⟩
  · exact ⟨control_start env, requestInvariant_start env⟩

/-! ## A destination that arrives in two pieces -/

/-- The handlers connect for 10.0.0.1:8080; the external handler's read gives the
    first eleven bytes of it. -/
def shortRead : List TunnelEvent :=
  [.connect (.target (some ⟨0x0a000001, 8080⟩)), .connect (.done true), .connect (.done true),
    .writeDestination 256, .readDestination 11]

/-- The gateways do not always agree: after a short read the peer dials port 80
    for a connection to port 8080. -/
theorem not_agreed :
    ¬ ∀ (env : TunnelEnv) (es : List TunnelEvent),
      Trace.Along (Tunnel.step env) (fun t e => Agreed (t.step env e)) (Tunnel.start env) es := by
  intro hclaim
  obtain ⟨_, _, _, _, hagreed, _⟩ := hclaim plainEnv shortRead
  -- the text read is that of another port, and the handler is about to dial it
  have hdials := hagreed.dials (goString "10.0.0.1:80") (by decide)
  exact absurd hdials (by decide)

end KubeGateway.Gateway

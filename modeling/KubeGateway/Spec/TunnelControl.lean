import KubeGateway.ForStd.Trace
import KubeGateway.Native.Tunnel

/-!
# Where the two handlers of a tunnel can be

What the phases of the two handlers say about each other, on every run: a
handler that has no peer yet is alone, the peer has dialled what it says it has,
and nothing is on its way back before the peer acknowledges.
-/

namespace KubeGateway.Gateway

/-- The function a handler runs. -/
def Internal.fn? : Internal → Option InternalFn
  | .findTarget fn => some fn
  | .testCertificates fn _ => some fn
  | .dial fn _ _ _ => some fn
  | .writeDestination fn _ _ => some fn
  | .readAck fn _ _ => some fn
  | .relay fn _ _ => some fn
  | .returned => none
  | .exited => none

/-- The original destination, once a handler knows it. -/
def Internal.dst? : Internal → Option Target
  | .findTarget _ => none
  | .testCertificates _ dst => some dst
  | .dial _ dst _ _ => some dst
  | .writeDestination _ dst _ => some dst
  | .readAck _ dst _ => some dst
  | .relay _ dst _ => some dst
  | .returned => none
  | .exited => none

/-- The handler has no peer yet. -/
def Internal.connecting : Internal → Bool
  | .findTarget _ => true
  | .testCertificates _ _ => true
  | .dial _ _ _ _ => true
  | _ => false

/-- The handler has not read its acknowledgement yet. -/
def Internal.unacked : Internal → Bool
  | .writeDestination _ _ _ => true
  | .readAck _ _ _ => true
  | h => h.connecting

/-- The address a peer has dialled and not returned from. -/
def External.serving : External → Option GoString
  | .writeAck remoteAddress => some remoteAddress
  | .relay remoteAddress => some remoteAddress
  | _ => none

/-- The peer has not dialled yet, or is not there. -/
def Tunnel.undialled (t : Tunnel) : Bool :=
  match t.external with
  | none => true
  | some .readDestination => true
  | some (.dial _) => true
  | _ => false

/-- The peer has not written its acknowledgement yet, or is not there. -/
def Tunnel.unanswered (t : Tunnel) : Bool :=
  match t.external with
  | some (.writeAck _) => true
  | _ => t.undialled

/-! ## What a step can do -/

/-- What the external handler's `Read` gives it, and what it leaves: an error of
    the read is no data. -/
def ReadsDestination (t : Tunnel) (n : Nat) (data : GoString) (request : Pipe UInt8) : Prop :=
  (t.request.dead = true ∧ data = [] ∧ request = t.request) ∨
  (t.request.dead = false ∧ data = t.request.chunk (min n tmpSize) ∧ data ≠ [] ∧
    request = t.request.read (min n tmpSize))

/-- The transitions of a tunnel whose internal handler is not `directConnect`. -/
inductive TunnelStep (env : TunnelEnv) (t : Tunnel) : TunnelEvent → Tunnel → Prop where
  | idle (e : TunnelEvent) : TunnelStep env t e t
  | targetFound (fn : InternalFn) (dst : Target) (h : t.internal = .findTarget fn) :
      TunnelStep env t (.connect (.target (some dst)))
        { t with internal := .testCertificates fn dst, dst := some dst }
  | connectEnds (r : Reply) (h' : Internal) (hcon : t.internal.connecting = true)
      (hend : h' = .returned ∨ h' = .exited) :
      TunnelStep env t (.connect r) { t with internal := h' }
  | tested (r : Reply) (fn : InternalFn) (dst : Target) (wire : Wire) (endpoint : GoString)
      (h : t.internal = .testCertificates fn dst) :
      TunnelStep env t (.connect r) { t with internal := .dial fn dst wire endpoint }
  | connected (fn : InternalFn) (dst : Target) (wire : Wire) (endpoint : GoString)
      (h : t.internal = .dial fn dst wire endpoint) :
      TunnelStep env t (.connect (.done true))
        { t with internal := .writeDestination fn dst wire, external := some .readDestination }
  | wroteDestination (n : Nat) (fn : InternalFn) (dst : Target) (wire : Wire)
      (h : t.internal = .writeDestination fn dst wire) :
      TunnelStep env t (.writeDestination n)
        { t with internal := .readAck fn dst wire, request := t.request.write dst.text n }
  | ackFailed (n : Nat) (fn : InternalFn) (dst : Target) (wire : Wire)
      (h : t.internal = .readAck fn dst wire) (hdead : t.response.dead = true) :
      TunnelStep env t (.readAck n) { t with internal := .relay fn dst wire }
  | acked (n : Nat) (fn : InternalFn) (dst : Target) (wire : Wire)
      (h : t.internal = .readAck fn dst wire) (hdead : t.response.dead = false)
      (hdata : t.response.chunk (min n tmpSize) ≠ []) :
      TunnelStep env t (.readAck n)
        { t with internal := .relay fn dst wire, response := t.response.read (min n tmpSize) }
  | peerRefuses (n : Nat) (data : GoString) (request : Pipe UInt8)
      (h : t.external = some .readDestination) (hread : ReadsDestination t n data request)
      (hself : data = hostPort env.peer.address env.peer.proxyPort) :
      TunnelStep env t (.readDestination n)
        { t with
          request := request, external := some .returned
          response := t.response.finish, toTarget := t.toTarget.finish }
  | peerReads (n : Nat) (data : GoString) (request : Pipe UInt8)
      (h : t.external = some .readDestination) (hread : ReadsDestination t n data request)
      (hself : data ≠ hostPort env.peer.address env.peer.proxyPort) :
      TunnelStep env t (.readDestination n)
        { t with request := request, external := some (.dial data) }
  | targetDialled (a : GoString) (h : t.external = some (.dial a)) :
      TunnelStep env t (.dialTarget true)
        { t with external := some (.writeAck a), dialled := some a }
  | dialFailed (a : GoString) (h : t.external = some (.dial a)) :
      TunnelStep env t (.dialTarget false)
        { t with
          external := some .returned
          response := t.response.finish, toTarget := t.toTarget.finish }
  | wroteAck (n : Nat) (a : GoString) (h : t.external = some (.writeAck a)) :
      TunnelStep env t (.writeAck n)
        { t with external := some (.relay a), response := t.response.write [ackByte] n }
  | internalUp (n : Nat) (h : t.internal.relays = true) :
      TunnelStep env t (.copy n .internalUp)
        { t with
          internalUp := (t.internalUp.step n t.app t.request).1
          app := (t.internalUp.step n t.app t.request).2.1
          request := (t.internalUp.step n t.app t.request).2.2 }
  | internalDown (n : Nat) (h : t.internal.relays = true) :
      TunnelStep env t (.copy n .internalDown)
        { t with
          internalDown := (t.internalDown.step n t.response t.answer).1
          response := (t.internalDown.step n t.response t.answer).2.1
          answer := (t.internalDown.step n t.response t.answer).2.2 }
  | externalUp (n : Nat) (a : GoString) (h : t.external = some (.relay a)) :
      TunnelStep env t (.copy n .externalUp)
        { t with
          externalUp := (t.externalUp.step n t.request t.toTarget).1
          request := (t.externalUp.step n t.request t.toTarget).2.1
          toTarget := (t.externalUp.step n t.request t.toTarget).2.2 }
  | externalDown (n : Nat) (a : GoString) (h : t.external = some (.relay a)) :
      TunnelStep env t (.copy n .externalDown)
        { t with
          externalDown := (t.externalDown.step n t.fromTarget t.response).1
          fromTarget := (t.externalDown.step n t.fromTarget t.response).2.1
          response := (t.externalDown.step n t.fromTarget t.response).2.2 }
  | internalReturned (h : t.internal.relays = true) :
      TunnelStep env t .internalReturns
        { t with internal := .returned, request := t.request.finish, answer := t.answer.finish }
  | externalReturned (a : GoString) (h : t.external = some (.relay a)) :
      TunnelStep env t .externalReturns
        { t with
          external := some .returned
          response := t.response.finish, toTarget := t.toTarget.finish }
  | appSent (bytes : List UInt8) :
      TunnelStep env t (.appSends bytes) { t with app := t.app.write bytes bytes.length }
  | appRead (n : Nat) : TunnelStep env t (.appReads n) { t with answer := t.answer.read n }
  | appClosed : TunnelStep env t .appCloses { t with app := t.app.finish }
  | targetSent (bytes : List UInt8) (h : t.dialled.isSome = true) :
      TunnelStep env t (.targetSends bytes)
        { t with fromTarget := t.fromTarget.write bytes bytes.length }
  | targetRead (n : Nat) :
      TunnelStep env t (.targetReads n) { t with toTarget := t.toTarget.read n }
  | targetClosed : TunnelStep env t .targetCloses { t with fromTarget := t.fromTarget.finish }
  | brokenRedirected : TunnelStep env t (.reset .redirected)
      { t with app := t.app.reset, answer := t.answer.reset }
  | brokenGateways : TunnelStep env t (.reset .gateways)
      { t with request := t.request.reset, response := t.response.reset }
  | brokenTarget : TunnelStep env t (.reset .target)
      { t with toTarget := t.toTarget.reset, fromTarget := t.fromTarget.reset }

/-- The calls before there is a peer. -/
private theorem connect_cases (env : TunnelEnv) {t : Tunnel} (r : Reply)
    (hfn : t.internal.fn? ≠ some .directConnect) :
    TunnelStep env t (.connect r) (t.connect env r) := by
  -- with the handler a variable, each phase computes to its own transition
  obtain ⟨internal, _, _, _, _, _, _, _, _, _, _, _, _, _⟩ := t
  cases internal with
  | findTarget fn =>
    cases r with
    | target found =>
      cases found with
      | none => exact .connectEnds _ _ rfl (Or.inl rfl)
      | some dst =>
        cases fn with
        -- `directConnect` would dial the target itself; the others test first
        | directConnect => exact absurd rfl hfn
        | internalProxy => exact .targetFound _ dst rfl
        | internalkTLSProxy => exact .targetFound _ dst rfl
    | data bytes ok => exact .idle _
    | done ok => exact .idle _
  | testCertificates fn dst =>
    cases r with
    | target found => exact .idle _
    | data bytes ok => exact .idle _
    | done ok =>
      dsimp only [Tunnel.connect, Internal.next]
      obtain hend | ⟨wire, endpoint, hdial⟩ := Internal.afterTest_cases env.pki env.config fn dst
      · rw [hend]
        exact .connectEnds _ _ rfl (Or.inr rfl)
      · rw [hdial]
        exact .tested _ fn dst wire endpoint rfl
  | dial fn dst wire endpoint =>
    cases r with
    | target found => cases fn <;> exact .idle _
    | data bytes ok => cases fn <;> exact .idle _
    | done ok =>
      cases ok with
      | true =>
        cases fn with
        | directConnect => exact absurd rfl hfn
        | internalProxy => exact .connected _ dst wire endpoint rfl
        | internalkTLSProxy => exact .connected _ dst wire endpoint rfl
      | false =>
        cases fn with
        | directConnect => exact absurd rfl hfn
        | internalProxy =>
          -- the panic of a plain dial
          cases wire with
          | plain => exact .connectEnds _ _ rfl (Or.inr rfl)
          | tls => exact .connectEnds _ _ rfl (Or.inl rfl)
        | internalkTLSProxy => exact .connectEnds _ _ rfl (Or.inl rfl)
  | writeDestination fn dst wire => exact .idle _
  | readAck fn dst wire => exact .idle _
  | relay fn dst wire => exact .idle _
  | returned => exact .idle _
  | exited => exact .idle _

/-- The internal handler's read of its acknowledgement. -/
private theorem readAck_cases (env : TunnelEnv) (t : Tunnel) (n : Nat) :
    TunnelStep env t (.readAck n) (t.readAck env n) := by
  unfold Tunnel.readAck
  split
  · rename_i fn dst wire hint
    -- whatever the read returns, the handler goes on to relay
    have hnext : ∀ bytes ok, Internal.next env.pki env.config t.internal (.data bytes ok) =
        .relay fn dst wire := by
      intro bytes ok
      rw [hint]
      rfl
    rw [hnext, hnext]
    split
    · rename_i hdead
      exact .ackFailed n fn dst wire hint hdead
    · rename_i hdead
      split
      · exact .idle _
      · rename_i hdata
        exact .acked n fn dst wire hint (Bool.not_eq_true _ ▸ hdead) hdata
  · exact .idle _

/-- The external handler's read of the destination, and its test for itself. -/
private theorem readDestination_cases (env : TunnelEnv) (t : Tunnel) (n : Nat) :
    TunnelStep env t (.readDestination n) (t.readDestination env n) := by
  -- the result of the read is ignored, and the text compared with the handler's
  -- own address; a match returns, which closes both connections
  have hset : ∀ (t' : Tunnel) data ok,
      t'.setExternal (External.next env.peer .readDestination (.data data ok)) =
        if data = hostPort env.peer.address env.peer.proxyPort then
          { t' with
            external := some .returned
            response := t'.response.finish, toTarget := t'.toTarget.finish }
        else { t' with external := some (.dial data) } := by
    intro t' data ok
    show t'.setExternal (if data = hostPort env.peer.address env.peer.proxyPort then .returned
      else .dial data) = _
    split <;> rfl
  unfold Tunnel.readDestination
  split
  · rename_i hext
    rw [hset, hset]
    split
    · rename_i hdead
      split
      · rename_i hself
        exact .peerRefuses n [] t.request hext (Or.inl ⟨hdead, rfl, rfl⟩) hself
      · rename_i hself
        exact .peerReads n [] t.request hext (Or.inl ⟨hdead, rfl, rfl⟩) hself
    · rename_i hdead
      split
      · exact .idle _
      · rename_i hdata
        have hread : ReadsDestination t n (t.request.chunk (min n tmpSize))
            (t.request.read (min n tmpSize)) :=
          Or.inr ⟨Bool.not_eq_true _ ▸ hdead, rfl, hdata, rfl⟩
        split
        · rename_i hself
          exact .peerRefuses n _ _ hext hread hself
        · rename_i hself
          exact .peerReads n _ _ hext hread hself
  · exact .idle _

private theorem dialTarget_cases (env : TunnelEnv) (t : Tunnel) (ok : Bool) :
    TunnelStep env t (.dialTarget ok) (t.dialTarget env ok) := by
  unfold Tunnel.dialTarget
  split
  · rename_i a hext
    cases ok with
    | true => exact .targetDialled a hext
    | false => exact .dialFailed a hext
  · exact .idle _

/-- A copy loop runs only while its handler relays. -/
private theorem copy_cases (env : TunnelEnv) (t : Tunnel) (n : Nat) (loop : Loop) :
    TunnelStep env t (.copy n loop) (t.copy n loop) := by
  -- the external loops run under `relay`, which knows the address it dialled
  have hserving : t.external.any External.relays = true → ∃ a, t.external = some (.relay a) := by
    intro h
    cases hext : t.external with
    | none => rw [hext] at h; exact nomatch h
    | some x =>
      rw [hext] at h
      cases x with
      | relay a => exact ⟨a, rfl⟩
      | readDestination => exact nomatch h
      | dial a => exact nomatch h
      | writeAck a => exact nomatch h
      | returned => exact nomatch h
  cases loop with
  | internalUp =>
    unfold Tunnel.copy
    dsimp only
    split
    · rename_i h
      exact .internalUp n h
    · exact .idle _
  | internalDown =>
    unfold Tunnel.copy
    dsimp only
    split
    · rename_i h
      exact .internalDown n h
    · exact .idle _
  | externalUp =>
    unfold Tunnel.copy
    dsimp only
    split
    · rename_i h
      obtain ⟨a, hext⟩ := hserving h
      exact .externalUp n a hext
    · exact .idle _
  | externalDown =>
    unfold Tunnel.copy
    dsimp only
    split
    · rename_i h
      obtain ⟨a, hext⟩ := hserving h
      exact .externalDown n a hext
    · exact .idle _

/-- Every step of a tunnel is one of the transitions. -/
theorem tunnelStep_step (env : TunnelEnv) {t : Tunnel} (e : TunnelEvent)
    (hfn : t.internal.fn? ≠ some .directConnect) : TunnelStep env t e (t.step env e) := by
  cases e with
  | connect r => exact connect_cases env r hfn
  | writeDestination n =>
    show TunnelStep env t _ (t.writeDestination env n)
    unfold Tunnel.writeDestination
    split
    · rename_i fn dst wire hint
      -- a short or failed write is ignored
      have hnext : Internal.next env.pki env.config t.internal
          (.done (decide (dst.text.length ≤ n))) = .readAck fn dst wire := by
        rw [hint]
        rfl
      rw [hnext]
      exact .wroteDestination n fn dst wire hint
    · exact .idle _
  | readAck n => exact readAck_cases env t n
  | readDestination n => exact readDestination_cases env t n
  | dialTarget ok => exact dialTarget_cases env t ok
  | writeAck n =>
    show TunnelStep env t _ (t.writeAck env n)
    unfold Tunnel.writeAck
    split
    · rename_i a hext
      exact .wroteAck n a hext
    · exact .idle _
  | copy n loop => exact copy_cases env t n loop
  | internalReturns =>
    show TunnelStep env t _ (t.internalReturns env)
    unfold Tunnel.internalReturns
    split
    · rename_i h
      -- a handler returns from its relay only, when both of its loops have ended
      have hrelay := (Bool.and_eq_true_iff.mp h).1
      have hnext : Internal.next env.pki env.config t.internal (.done true) = .returned := by
        cases hint : t.internal with
        | relay fn dst wire => rfl
        | _ => rw [hint] at hrelay; exact nomatch hrelay
      rw [hnext]
      exact .internalReturned hrelay
    · exact .idle _
  | externalReturns =>
    show TunnelStep env t _ (t.externalReturns env)
    unfold Tunnel.externalReturns
    split
    · rename_i a hext
      split
      · exact .externalReturned a hext
      · exact .idle _
    · exact .idle _
  | appSends bytes => exact .appSent bytes
  | appReads n => exact .appRead n
  | appCloses => exact .appClosed
  | targetSends bytes =>
    show TunnelStep env t _ (if t.dialled.isSome = true then
      { t with fromTarget := t.fromTarget.write bytes bytes.length } else t)
    split
    · rename_i h
      exact .targetSent bytes h
    · exact .idle _
  | targetReads n => exact .targetRead n
  | targetCloses => exact .targetClosed
  | reset link =>
    cases link with
    | redirected => exact .brokenRedirected
    | gateways => exact .brokenGateways
    | target => exact .brokenTarget

/-! ## The invariant -/

/-- What the phases say about each other. -/
structure Control (t : Tunnel) : Prop where
  tunnelled : t.internal.fn? ≠ some .directConnect
  known : ∀ dst, t.internal.dst? = some dst → t.dst = some dst
  alone : t.internal.connecting = true → t.external = none
  notDialled : t.undialled = true → t.dialled = none
  serving : ∀ a, t.external.bind External.serving = some a → t.dialled = some a
  notAnswered : t.unanswered = true → t.response.sent = []
  silent : t.dialled = none → t.response.sent = []
  unacked : t.internal.unacked = true → t.response.taken = 0

theorem control_start (env : TunnelEnv) : Control (Tunnel.start env) where
  tunnelled := by
    unfold Tunnel.start TunnelEnv.internalFn
    split <;> exact nofun
  known := nofun
  alone := fun _ => rfl
  notDialled := fun _ => rfl
  serving := nofun
  notAnswered := fun _ => rfl
  silent := fun _ => rfl
  unacked := fun _ => rfl

/-- The peer and what it sent are as before. -/
structure SamePeer (t t' : Tunnel) : Prop where
  external : t'.external = t.external := by rfl
  dialled : t'.dialled = t.dialled := by rfl
  sent : t'.response.sent = t.response.sent := by rfl

/-- The internal handler moves on, with the same function and destination. -/
private theorem Control.internal {t t' : Tunnel} (h : Control t)
    (hfn : t'.internal.fn? = t.internal.fn? ∨ t'.internal.fn? = none)
    (hdst : t'.internal.dst? = none ∨ t'.internal.dst? = t'.dst)
    (hcon : t'.internal.connecting = true → t.internal.connecting = true)
    (hpeer : SamePeer t t')
    (hunacked : t'.internal.unacked = true → t'.response.taken = 0) : Control t' := by
  obtain ⟨hext, hdial, hsent⟩ := hpeer
  have hund : t'.undialled = t.undialled := by unfold Tunnel.undialled; rw [hext]
  have huna : t'.unanswered = t.unanswered := by unfold Tunnel.unanswered; rw [hext, hund]
  constructor
  · obtain hsame | hnone := hfn
    · rw [hsame]; exact h.tunnelled
    · rw [hnone]; exact nofun
  · intro dst heq
    obtain hnone | hsome := hdst
    · rw [hnone] at heq; exact nomatch heq
    · rw [← hsome]; exact heq
  · intro hc
    rw [hext]
    exact h.alone (hcon hc)
  · rw [hund, hdial]; exact h.notDialled
  · rw [hext, hdial]; exact h.serving
  · rw [huna, hsent]; exact h.notAnswered
  · rw [hdial, hsent]; exact h.silent
  · exact hunacked

/-- Nothing that `Control` looks at has changed, but for what the internal handler
    has read of its acknowledgement. -/
structure SameControl (t t' : Tunnel) : Prop extends SamePeer t t' where
  internal : t'.internal = t.internal := by rfl
  dst : t'.dst = t.dst := by rfl

private theorem Control.congr {t t' : Tunnel} (h : Control t) (hsame : SameControl t t')
    (hunacked : t'.internal.unacked = true → t'.response.taken = 0) : Control t' := by
  have hint := hsame.internal
  apply h.internal (Or.inl (by rw [hint])) _ (by rw [hint]; exact id) hsame.toSamePeer hunacked
  rw [hint, hsame.dst]
  cases hd : t.internal.dst? with
  | none => exact Or.inl rfl
  | some dst => exact Or.inr (h.known dst hd).symm

/-- A peer that is there has an internal handler that is past connecting. -/
theorem Control.connecting_eq_false {t : Tunnel} (h : Control t) {x : External}
    (hext : t.external = some x) : t.internal.connecting = false := by
  cases hcon : t.internal.connecting with
  | false => rfl
  | true => rw [h.alone hcon] at hext; exact nomatch hext

/-- A handler that relays has read its acknowledgement. -/
theorem unacked_of_relays {h : Internal} (hrelay : h.relays = true) : h.unacked = false := by
  cases h <;> first | rfl | exact nomatch hrelay

/-- The internal handler is as before, and so is what the peer dialled and sent. -/
structure SameHandler (t t' : Tunnel) : Prop where
  internal : t'.internal = t.internal := by rfl
  dst : t'.dst = t.dst := by rfl
  dialled : t'.dialled = t.dialled := by rfl
  sent : t'.response.sent = t.response.sent := by rfl
  taken : t'.response.taken = t.response.taken := by rfl

/-- The peer returns: what it sent stays. -/
private theorem Control.returns {t t' : Tunnel} (h : Control t) {x : External}
    (hext : t.external = some x) (hret : t'.external = some .returned)
    (hsame : SameHandler t t') : Control t' where
  tunnelled := by rw [hsame.internal]; exact h.tunnelled
  known := by rw [hsame.internal, hsame.dst]; exact h.known
  alone := by
    rw [hsame.internal, h.connecting_eq_false hext]
    exact fun hfalse => absurd hfalse Bool.false_ne_true
  notDialled := by unfold Tunnel.undialled; rw [hret]; exact nofun
  serving := by rw [hret]; exact nofun
  notAnswered := by unfold Tunnel.unanswered Tunnel.undialled; rw [hret]; exact nofun
  silent := by rw [hsame.dialled, hsame.sent]; exact h.silent
  unacked := by rw [hsame.internal, hsame.taken]; exact h.unacked

/-- Every step keeps the phases in order. -/
theorem control_step (env : TunnelEnv) (t : Tunnel) (e : TunnelEvent) (h : Control t) :
    Control (t.step env e) := by
  have hstep := tunnelStep_step env e h.tunnelled
  generalize t.step env e = t' at hstep
  cases hstep with
  | idle => exact h
  | targetFound fn dst hint =>
    have hfn := h.tunnelled
    rw [hint] at hfn
    exact {
      tunnelled := hfn
      known := fun _ heq => heq
      alone := fun _ => h.alone (by rw [hint]; rfl)
      notDialled := h.notDialled
      serving := h.serving
      notAnswered := h.notAnswered
      silent := h.silent
      unacked := fun _ => h.unacked (by rw [hint]; rfl) }
  | connectEnds r h' hcon hend =>
    obtain rfl | rfl := hend
    · exact h.internal (Or.inr rfl) (Or.inl rfl) nofun {} nofun
    · exact h.internal (Or.inr rfl) (Or.inl rfl) nofun {} nofun
  | tested r fn dst wire endpoint hint =>
    have hdst : t.dst = some dst := h.known dst (by rw [hint]; rfl)
    exact h.internal (Or.inl (by rw [hint]; rfl)) (Or.inr hdst.symm) (fun _ => by rw [hint]; rfl)
      {} (fun _ => h.unacked (by rw [hint]; rfl))
  | connected fn dst wire endpoint hint =>
    -- the peer starts here: it has dialled nothing and sent nothing
    have hnone : t.external = none := h.alone (by rw [hint]; rfl)
    have hund : t.undialled = true := by unfold Tunnel.undialled; rw [hnone]
    have hfn := h.tunnelled
    have hdst := h.known
    rw [hint] at hfn hdst
    exact {
      tunnelled := hfn
      known := hdst
      alone := nofun
      notDialled := fun _ => h.notDialled hund
      serving := nofun
      notAnswered := fun _ => h.silent (h.notDialled hund)
      silent := h.silent
      unacked := fun _ => h.unacked (by rw [hint]; rfl) }
  | wroteDestination n fn dst wire hint =>
    have hdst : t.dst = some dst := h.known dst (by rw [hint]; rfl)
    exact h.internal (Or.inl (by rw [hint]; rfl)) (Or.inr hdst.symm) nofun {}
      (fun _ => h.unacked (by rw [hint]; rfl))
  | ackFailed n fn dst wire hint =>
    have hdst : t.dst = some dst := h.known dst (by rw [hint]; rfl)
    exact h.internal (Or.inl (by rw [hint]; rfl)) (Or.inr hdst.symm) nofun {} nofun
  | acked n fn dst wire hint =>
    have hdst : t.dst = some dst := h.known dst (by rw [hint]; rfl)
    exact h.internal (Or.inl (by rw [hint]; rfl)) (Or.inr hdst.symm) nofun {} nofun
  | peerRefuses n data request hext => exact h.returns hext rfl {}
  | peerReads n data request hext =>
    have hund : t.undialled = true := by unfold Tunnel.undialled; rw [hext]
    exact {
      tunnelled := h.tunnelled
      known := h.known
      alone := by
        rw [h.connecting_eq_false hext]
        exact fun hfalse => absurd hfalse Bool.false_ne_true
      notDialled := fun _ => h.notDialled hund
      serving := nofun
      notAnswered := fun _ => h.silent (h.notDialled hund)
      silent := h.silent
      unacked := h.unacked }
  | targetDialled a hext =>
    have hund : t.undialled = true := by unfold Tunnel.undialled; rw [hext]
    -- dialling answers nothing yet
    have hsent : t.response.sent = [] := h.silent (h.notDialled hund)
    exact {
      tunnelled := h.tunnelled
      known := h.known
      alone := by
        rw [h.connecting_eq_false hext]
        exact fun hfalse => absurd hfalse Bool.false_ne_true
      notDialled := nofun
      serving := fun _ heq => heq
      notAnswered := fun _ => hsent
      silent := fun _ => hsent
      unacked := h.unacked }
  | dialFailed a hext => exact h.returns hext rfl {}
  | wroteAck n a hext =>
    have hdial : t.dialled = some a := h.serving a (by rw [hext]; rfl)
    exact {
      tunnelled := h.tunnelled
      known := h.known
      alone := by
        rw [h.connecting_eq_false hext]
        exact fun hfalse => absurd hfalse Bool.false_ne_true
      notDialled := nofun
      serving := by
        intro a' heq
        rw [← heq]
        exact hdial
      notAnswered := nofun
      silent := by
        rw [hdial]
        exact nofun
      unacked := by
        rw [Pipe.taken_write]
        exact h.unacked }
  | internalUp n hrelay => exact h.congr {} h.unacked
  | internalDown n hrelay =>
    have hsent := t.internalDown.sent_src_step n t.response t.answer
    -- the loop reads the response, but its handler is past the acknowledgement
    have hacked := unacked_of_relays hrelay
    exact h.congr { sent := hsent } (fun hu => absurd hu (by rw [hacked]; decide))
  | externalUp n a hext => exact h.congr {} h.unacked
  | externalDown n a hext =>
    have hdial : t.dialled = some a := h.serving a (by rw [hext]; rfl)
    exact {
      tunnelled := h.tunnelled
      known := h.known
      alone := h.alone
      notDialled := h.notDialled
      serving := h.serving
      notAnswered := by
        unfold Tunnel.unanswered Tunnel.undialled
        rw [hext]
        exact nofun
      silent := by
        rw [hdial]
        exact nofun
      unacked := by
        rw [Pump.taken_dst_step]
        exact h.unacked }
  | internalReturned hrelay =>
    exact h.internal (Or.inr rfl) (Or.inl rfl) nofun {} nofun
  | externalReturned a hext => exact h.returns hext rfl {}
  | appSent bytes => exact h.congr {} h.unacked
  | appRead n => exact h.congr {} h.unacked
  | appClosed => exact h.congr {} h.unacked
  | targetSent bytes hdial => exact h.congr {} h.unacked
  | targetRead n => exact h.congr {} h.unacked
  | targetClosed => exact h.congr {} h.unacked
  | brokenRedirected => exact h.congr {} h.unacked
  | brokenGateways => exact h.congr {} h.unacked
  | brokenTarget => exact h.congr {} h.unacked

end KubeGateway.Gateway

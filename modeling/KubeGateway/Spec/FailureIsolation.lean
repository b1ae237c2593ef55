import KubeGateway.ForStd.Trace
import KubeGateway.Native.Sessions

/-!
# Isolation of failures

Where `internalProxy` cannot dial a peer without TLS it panics; its siblings return.
Where the certificates cannot be used, the handlers of internal connections call
`log.Fatalf`.  And in tunnel mode they call a `ProxyFunc` that nothing sets.  Each
ends the process with all its connections; everything else that fails closes the
connection that it concerns, and no other.
-/

namespace KubeGateway.Gateway

/-- The process stays up, and every other connection stays as it is. -/
def FailureContained (pki : Pki) (g : Sessions) (e : SessionEvent) : Prop :=
  (g.step pki e).exited = false ∧
    ∀ j, e.session ≠ some j → (g.step pki e).table j = g.table j

/-- The certificates can be used and the gateway is no tunnel where a handler is to choose
    its endpoint, and a dial without TLS succeeds where `internalProxy` makes it. -/
def Internal.Survives (pki : Pki) (c : Config) : Internal → Reply → Prop
  | .testCertificates _ _, .done _ =>
    c.tunnel = false ∧
      ∀ certs, c.certificates = some certs →
        pki.appendCertsFromPEM certs.ca = true ∧ pki.x509KeyPair certs.cert certs.key = true
  | .dial .internalProxy _ .plain _, .done ok => ok = true
  | _, _ => True

/-- The reply to a handler of an internal connection is not fatal. -/
def NoFatalReply (pki : Pki) (g : Sessions) : SessionEvent → Prop
  | .reply i r =>
    ∀ s h, g.table i = some s → s.handler = .internal h → h.Survives pki g.config r
  | _ => True

/-- What holds in every run so far. -/
structure SessionsInvariant (g : Sessions) : Prop where
  running : g.exited = false
  proxyFunc : g.config.proxyFunc = none
  handlers : ∀ i s, g.table i = some s → s.handler ≠ .internal .exited

/-! ## Handlers that end the process -/

section

variable {pki : Pki} {c : Config}

/-- Without a `ProxyFunc` it is the tunnel mode that has no endpoint. -/
private theorem endpointFor_eq_none_iff (hproxy : c.proxyFunc = none) (port : Int)
    (dest : GoString) :
    c.endpointFor port dest = none ↔ c.tunnel = true := by
  unfold Config.endpointFor
  cases c.tunnel with
  | true => simp [hproxy]
  | false =>
    simp only [Bool.false_eq_true, if_false, iff_false]
    split <;> exact Option.some_ne_none _

private theorem afterTest_eq_exited_iff (hproxy : c.proxyFunc = none) (fn : InternalFn)
    (dst : Target) :
    Internal.afterTest pki c fn dst = .exited ↔
      ¬ (Internal.testCertificates fn dst).Survives pki c (.done true) := by
  have hendpoint := endpointFor_eq_none_iff hproxy
  unfold Internal.afterTest
  simp only [Internal.Survives]
  cases hcerts : c.certificates with
  | none =>
    dsimp only
    cases htunnel : c.endpointFor c.clusterPort dst.host with
    | none => simp [(hendpoint _ _).mp htunnel]
    | some endpoint =>
      have hplain : c.tunnel ≠ true := fun h => by
        rw [(hendpoint _ _).mpr h] at htunnel
        exact nomatch htunnel
      simp [hplain]
  | some certs =>
    dsimp only
    cases hca : pki.appendCertsFromPEM certs.ca with
    | false => simp [hca]
    | true =>
      cases hpair : pki.x509KeyPair certs.cert certs.key with
      | false => simp [hpair]
      | true =>
        cases htunnel : c.endpointFor c.clusterTLSPort dst.host with
        | none => simp [(hendpoint _ _).mp htunnel]
        | some endpoint =>
          have hplain : c.tunnel ≠ true := fun h => by
            rw [(hendpoint _ _).mpr h] at htunnel
            exact nomatch htunnel
          simp [hplain, hca, hpair]

/-- A handler ends the process on a fatal reply, and on no other. -/
theorem Internal.next_eq_exited_iff (pki : Pki) (hproxy : c.proxyFunc = none) {h : Internal}
    (hh : h ≠ .exited) (r : Reply) : Internal.next pki c h r = .exited ↔ ¬ h.Survives pki c r := by
  cases h with
  | testCertificates fn dst =>
    cases r with
    | done ok => exact afterTest_eq_exited_iff hproxy fn dst
    | target dst => simp [Internal.next, Internal.Survives]
    | data bytes ok => simp [Internal.next, Internal.Survives]
  | dial fn dst wire endpoint =>
    cases r with
    | done ok => cases fn <;> cases wire <;> cases ok <;> simp [Internal.next, Internal.Survives]
    | target dst => simp [Internal.next, Internal.Survives]
    | data bytes ok => simp [Internal.next, Internal.Survives]
  | findTarget fn =>
    rcases r with (_ | dst) | ⟨bytes, ok⟩ | ok
    all_goals cases fn <;> simp [Internal.next, Internal.Survives]
  | writeDestination fn dst wire => cases r <;> simp [Internal.next, Internal.Survives]
  | readAck fn dst wire => cases r <;> simp [Internal.next, Internal.Survives]
  | relay fn dst wire => cases r <;> simp [Internal.next, Internal.Survives]
  | returned => simp [Internal.next, Internal.Survives]
  | exited => exact absurd rfl hh

/-- No handler goes on after a panic. -/
private theorem Handler.ne_exited_of_next {h h' : Handler} {r : Reply}
    (hnext : h.next pki c r = some h') : h' ≠ .internal .exited := by
  cases h with
  | external fn h =>
    rintro rfl
    simp [Handler.next] at hnext
  | internal h =>
    simp only [Handler.next] at hnext
    split at hnext
    · exact nomatch hnext
    · rename_i hgoes
      rintro rfl
      rw [Option.some.injEq, Handler.internal.injEq] at hnext
      exact hgoes hnext

/-! ## One step -/

private theorem Session.handler_setHandler (s : Session) (h : Handler) :
    (s.setHandler h).handler = h := by
  simp only [setHandler]
  split <;> rfl

/-- A step of a relay does not end the process, or leave a handler that has ended it. -/
private theorem Session.handler_relay_ne_exited {s : Session} (hs : s.handler ≠ .internal .exited)
    (e : RelayStep) : (s.relay pki c e).handler ≠ .internal .exited := by
  cases e with
  | copyUp n =>
    simp only [relay]
    split <;> exact hs
  | copyDown n =>
    simp only [relay]
    split <;> exact hs
  | returns =>
    simp only [relay]
    split
    · split
      · rename_i hnext
        rw [handler_setHandler]
        exact Handler.ne_exited_of_next hnext
      · exact hs
    · exact hs
  | connSends | connCloses | connBreaks | targetSends | targetCloses | targetBreaks => exact hs

private theorem noFatalReply_iff (pki : Pki) {g : Sessions} {i : Nat} {s : Session}
    (hs : g.table i = some s) (r : Reply) :
    NoFatalReply pki g (.reply i r) ↔ ∀ h, s.handler = .internal h → h.Survives pki g.config r := by
  unfold NoFatalReply
  constructor
  · intro hreply h hh
    exact hreply s h hs hh
  · intro hreply s' h hs' hh
    rw [hs, Option.some.injEq] at hs'
    exact hreply h (hs' ▸ hh)

private theorem Internal.survives_of_relays {h : Internal}
    (hrelays : (Handler.internal h).relays = true) (r : Reply) : h.Survives pki c r := by
  cases h with
  | relay fn dst wire => trivial
  | findTarget | testCertificates | dial | writeDestination | readAck | returned | exited =>
    exact nomatch hrelays

/-- The transitions of the gateway: nothing happens, certificates are loaded, one connection
    changes, or a fatal reply ends the process. -/
private inductive SessionStep (pki : Pki) (g : Sessions) (e : SessionEvent) : Sessions → Prop where
  | same (hreply : NoFatalReply pki g e) : SessionStep pki g e g
  | loaded (certs : Option Certs) (hreply : NoFatalReply pki g e) :
    SessionStep pki g e { g with config := { g.config with certificates := certs } }
  | changed (i : Nat) (s : Session) (hsession : e.session = some i)
    (hhandler : s.handler ≠ .internal .exited) (hreply : NoFatalReply pki g e) :
    SessionStep pki g e (g.set i s)
  | exited (hfatal : ¬ NoFatalReply pki g e) : SessionStep pki g e g.exit

/-- A reply to a handler. -/
private theorem reply_cases (pki : Pki) {g : Sessions} (h : SessionsInvariant g) (i : Nat)
    (r : Reply) :
    SessionStep pki g (.reply i r) (g.step pki (.reply i r)) := by
  have hrunning : ¬ g.exited = true := by simp [h.running]
  cases hs : g.table i with
  | none =>
    simp only [Sessions.step, if_neg hrunning, hs]
    refine .same fun s h' hs' => ?_
    rw [hs] at hs'
    exact nomatch hs'
  | some s =>
    have hreply := noFatalReply_iff pki hs r
    by_cases hrelays : s.handler.relays = true
    · -- the relay goes on
      simp only [Sessions.step, if_neg hrunning, hs, if_pos hrelays]
      refine .same (hreply.mpr fun h' hinternal => ?_)
      rw [hinternal] at hrelays
      exact Internal.survives_of_relays hrelays r
    · simp only [Sessions.step, if_neg hrunning, hs, if_neg hrelays]
      cases hkind : s.handler with
      | external fn h' =>
        refine .changed i _ rfl ?_ (hreply.mpr fun h'' hinternal => ?_)
        · rw [Session.handler_setHandler]
          nofun
        · rw [hkind] at hinternal
          exact nomatch hinternal
      | internal h' =>
        rw [hkind] at hreply
        simp only [Handler.internal.injEq, forall_eq'] at hreply
        have hgoes : h' ≠ .exited := fun heq => h.handlers i s hs (by rw [hkind, heq])
        have hexited := Internal.next_eq_exited_iff pki h.proxyFunc hgoes r
        simp only [Handler.next]
        by_cases hfatal : Internal.next pki g.config h' r = .exited
        · rw [if_pos hfatal]
          exact .exited (hreply.not.mpr (hexited.mp hfatal))
        · rw [if_neg hfatal]
          refine .changed i _ rfl ?_ (hreply.mpr (not_not.mp (hexited.not.mp hfatal)))
          rw [Session.handler_setHandler]
          exact fun heq => hfatal (Handler.internal.inj heq)

/-- Every step of the gateway is one of the transitions. -/
private theorem sessionStep_step (pki : Pki) {g : Sessions} (h : SessionsInvariant g)
    (e : SessionEvent) : SessionStep pki g e (g.step pki e) := by
  have hrunning : ¬ g.exited = true := by simp [h.running]
  cases e with
  | loads certs =>
    simp only [Sessions.step, if_neg hrunning]
    split
    · exact .loaded certs trivial
    · exact .same trivial
  | accept i fn =>
    simp only [Sessions.step, if_neg hrunning]
    split
    · exact .same trivial
    · split
      · exact .changed i (.start fn) rfl (by cases fn <;> nofun) trivial
      · exact .same trivial
  | relay i e =>
    simp only [Sessions.step, if_neg hrunning]
    split
    · exact .same trivial
    · rename_i s hs
      exact .changed i _ rfl (Session.handler_relay_ne_exited (h.handlers i s hs) e) trivial
  | reply i r => exact reply_cases pki h i r

/-- A step is contained unless a reply is fatal. -/
private theorem failureContained_iff {g : Sessions} (h : SessionsInvariant g) (e : SessionEvent) :
    FailureContained pki g e ↔ NoFatalReply pki g e := by
  have hstep := sessionStep_step pki h e
  unfold FailureContained
  generalize g.step pki e = g' at hstep
  cases hstep with
  | same hreply => exact iff_of_true ⟨h.running, fun _ _ => rfl⟩ hreply
  | loaded certs hreply => exact iff_of_true ⟨h.running, fun _ _ => rfl⟩ hreply
  | changed i s hsession hhandler hreply =>
    refine iff_of_true ⟨h.running, fun j hj => g.table_set_of_ne (fun hji => hj ?_) s⟩ hreply
    rw [hsession, hji]
  | exited hfatal => exact iff_of_false (fun hcontained => nomatch hcontained.1) hfatal

/-- A step that is contained keeps the invariant. -/
private theorem sessionsInvariant_step {g : Sessions} (h : SessionsInvariant g) (e : SessionEvent)
    (hcontained : FailureContained pki g e) : SessionsInvariant (g.step pki e) := by
  have hstep := sessionStep_step pki h e
  have hreply := (failureContained_iff h e).mp hcontained
  generalize g.step pki e = g' at hstep
  cases hstep with
  | same => exact h
  | loaded certs => exact ⟨h.running, h.proxyFunc, h.handlers⟩
  | changed i s hsession hhandler =>
    refine ⟨h.running, h.proxyFunc, fun j s' hj => ?_⟩
    by_cases hji : j = i
    · rw [hji, Sessions.table_set_self, Option.some.injEq] at hj
      exact hj ▸ hhandler
    · rw [Sessions.table_set_of_ne g hji] at hj
      exact h.handlers j s' hj
  | exited hfatal => exact absurd hreply hfatal

/-- `Setup` sets no `ProxyFunc`. -/
private theorem sessionsInvariant_start {flags : Flags} {env : String → Option GoString}
    {resolveIPAddr : GoString → Option GoString} (hsetup : Setup flags env resolveIPAddr = some c) :
    SessionsInvariant (.start c) := by
  refine ⟨rfl, ?_, fun i s hs => ?_⟩
  · simp only [Setup] at hsetup
    split at hsetup
    · exact nomatch hsetup
    · rw [Option.some.injEq] at hsetup
      rw [← hsetup]
      rfl
  · exact absurd hs (Option.some_ne_none s).symm

end

/-- For all connections handled at once, in any order of their steps, under any
    configuration of `Setup` and whatever certificates are loaded: in every step of the run
    the process stays up and the other connections stay as they are, if and only if no
    reply is fatal to a handler of an internal connection. -/
theorem contained_iff_no_fatal_reply (pki : Pki) {flags : Flags} {env : String → Option GoString}
    {resolveIPAddr : GoString → Option GoString} {c : Config}
    (hsetup : Setup flags env resolveIPAddr = some c) (events : List SessionEvent) :
    Trace.Along (Sessions.step pki) (FailureContained pki) (.start c) events ↔
      Trace.Along (Sessions.step pki) (NoFatalReply pki) (.start c) events :=
  Trace.along_iff_of_invariant (I := SessionsInvariant)
    (fun _ e h hcontained => sessionsInvariant_step h e hcontained)
    (fun _ e h => failureContained_iff h e) (sessionsInvariant_start hsetup)

/-! ## A peer that is not ready -/

/-- A connection of a peer, and one of an application whose target's gateway does not
    accept it. -/
def peerNotReady : List SessionEvent :=
  [.accept 0 (.external .handleExternalConnection), .accept 1 (.internal .internalProxy),
    .reply 1 (.target (some ⟨0x0af40005, 80⟩)), .reply 1 (.done true), .reply 1 (.done false)]

/-- With the defaults of the command line. -/
theorem contained_iff_no_fatal_reply_defaults :
    ∃ c, Setup {} (fun _ => none) some = some c ∧
      (Trace.Along (Sessions.step ⟨fun _ => true, fun _ _ => true⟩)
          (FailureContained ⟨fun _ => true, fun _ _ => true⟩) (.start c) peerNotReady ↔
        Trace.Along (Sessions.step ⟨fun _ => true, fun _ _ => true⟩)
          (NoFatalReply ⟨fun _ => true, fun _ _ => true⟩) (.start c) peerNotReady) :=
  ⟨_, rfl, @contained_iff_no_fatal_reply _ {} (fun _ => none) some _ rfl peerNotReady⟩

/-- `internalProxy` panics, and the connection of the peer is closed, too. -/
theorem not_contained :
    ¬ ∀ (pki : Pki) (flags : Flags) (env : String → Option GoString)
      (resolveIPAddr : GoString → Option GoString) (c : Config),
      Setup flags env resolveIPAddr = some c → ∀ events : List SessionEvent,
        Trace.Along (Sessions.step pki) (FailureContained pki) (.start c) events := by
  intro h
  have hbad := h ⟨fun _ => true, fun _ _ => true⟩ {} (fun _ => none) some _ rfl peerNotReady
  obtain ⟨-, -, -, -, ⟨hexited, -⟩, -⟩ := hbad
  exact absurd hexited (by decide)

end KubeGateway.Gateway

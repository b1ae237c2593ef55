import KubeGateway.ForStd.Trace
import KubeGateway.Native.Start

/-!
# What an encrypting gateway forwards

Whether an internal handler uses TLS is decided twice: by the choice of the
handler, where `directConnect` never does, and by the handler's own test of
`Config.Certificates`, which fails before the certificates are loaded and when
both loaders fail.  Nothing else decides it: `encrypted_of_certificates` says
that a run in which both decisions go the right way forwards no byte in plain.
-/

namespace KubeGateway.Gateway

/-! ## The property -/

/-- Every application byte forwarded so far went over TLS. -/
def Process.Encrypted (p : Process) : Prop :=
  ∀ f ∈ p.forwarded, f.bytes ≠ [] → f.wire = .tls

/-- After the step every forwarded byte went over TLS. -/
def KeepsEncrypted (pki : Pki) (p : Process) (e : ProcessEvent) : Prop :=
  (p.step pki e).Encrypted

/-! ## The condition -/

/-- Both decisions for TLS: no connection is accepted for `directConnect`, and a
    handler tests the certificates when they are loaded. -/
def DecidesTls (p : Process) : ProcessEvent → Prop
  | .start _ => True
  | .accept _ => p.exited = false → p.accepting = true → p.config.internalFn ≠ .directConnect
  | .handler conn _ => p.exited = false → ∀ fn dst,
      p.handlers conn = some (.testCertificates fn dst) → p.config.certificates.isSome
  | .forward _ _ => True

/-! ## The invariant -/

/-- The handler will not relay over a plain connection, unless it still has to
    test the certificates. -/
def Internal.Sealed : Internal → Prop
  | .findTarget fn => fn ≠ .directConnect
  | .testCertificates _ _ => True
  | .dial _ _ wire _ => wire = .tls
  | .writeDestination _ _ wire => wire = .tls
  | .readAck _ _ wire => wire = .tls
  | .relay _ _ wire => wire = .tls
  | .returned => True
  | .exited => True

/-- With certificates a handler dials TLS, or the process ends. -/
private theorem sealed_afterTest (pki : Pki) {c : Config} (fn : InternalFn) (dst : Target)
    (hcerts : c.certificates.isSome) : (Internal.afterTest pki c fn dst).Sealed := by
  -- only the branch with certificates is left, and it dials TLS or ends the process
  obtain ⟨certs, hcerts⟩ := Option.isSome_iff_exists.mp hcerts
  unfold Internal.afterTest
  rw [hcerts]
  dsimp only
  split
  · trivial
  · split
    · trivial
    · cases c.endpointFor c.clusterTLSPort dst.host with
      | none => trivial
      | some endpoint => exact rfl

/-- A call keeps a handler sealed, if a test meets the certificates. -/
private theorem sealed_next (pki : Pki) {c : Config} {h : Internal} (r : Reply) (hsealed : h.Sealed)
    (hcerts : ∀ fn dst, h = .testCertificates fn dst → c.certificates.isSome) :
    (Internal.next pki c h r).Sealed := by
  unfold Internal.next
  split
  -- a found target: `directConnect` is excluded, the others go on to their test
  case h_2 => exact absurd rfl hsealed
  case h_4 fn dst _ => exact sealed_afterTest pki fn dst (hcerts fn dst rfl)
  -- a connected handler keeps its connection, and the rest is not connected
  all_goals first
    | exact hsealed
    | trivial

/-- Every handler is sealed and every byte so far went over TLS. -/
structure SealedProcess (p : Process) : Prop where
  handlers : ∀ conn h, p.handlers conn = some h → h.Sealed
  encrypted : p.Encrypted

theorem sealedProcess_initial (c : Config) : SealedProcess (Process.initial c) where
  handlers := nofun
  encrypted := nofun

/-- A process with the same handlers and the same record is as sealed. -/
private theorem SealedProcess.congr {p q : Process} (h : SealedProcess p)
    (hhandlers : q.handlers = p.handlers) (hforwarded : q.forwarded = p.forwarded) :
    SealedProcess q where
  handlers := by rw [hhandlers]; exact h.handlers
  encrypted := by unfold Process.Encrypted; rw [hforwarded]; exact h.encrypted

private theorem SealedProcess.setHandler {p : Process} (h : SealedProcess p) (conn : Nat)
    {handler : Internal} (hsealed : handler.Sealed) :
    SealedProcess (p.setHandler conn handler) where
  handlers := by
    intro conn' h' hlook
    dsimp only [Process.setHandler] at hlook
    split at hlook
    · obtain rfl := Option.some.inj hlook
      exact hsealed
    · exact h.handlers conn' h' hlook
  encrypted := h.encrypted

/-- `Start` touches neither the handlers nor the record. -/
private theorem startNext_frame (pki : Pki) (p : Process) (r : StartReply) :
    (p.startNext pki r).handlers = p.handlers ∧ (p.startNext pki r).forwarded = p.forwarded := by
  unfold Process.startNext
  -- every stage of `Start` sets fields of its own, whatever its calls return
  repeat' split
  all_goals exact ⟨rfl, rfl⟩

/-- A step that decides for TLS keeps the process sealed. -/
private theorem sealedProcess_step (pki : Pki) (p : Process) (e : ProcessEvent)
    (h : SealedProcess p) (hdec : DecidesTls p e) : SealedProcess (p.step pki e) := by
  unfold Process.step
  split
  · exact h
  · rename_i hexit
    have hrun : p.exited = false := Bool.not_eq_true _ ▸ hexit
    cases e with
    | start r =>
      obtain ⟨hhandlers, hforwarded⟩ := startNext_frame pki p r
      exact h.congr hhandlers hforwarded
    | accept conn =>
      dsimp only
      cases p.handlers conn with
      | some _ => exact h
      | none =>
        dsimp only
        split
        · rename_i hacc
          exact h.setHandler conn (hdec hrun hacc)
        · exact h
    | handler conn r =>
      dsimp only
      cases hlook : p.handlers conn with
      | none => exact h
      | some handler =>
        dsimp only
        -- a handler keeps what it decided; the certificates matter at its test alone
        have hnext : (Internal.next pki p.config handler r).Sealed := by
          apply sealed_next pki r (h.handlers conn handler hlook)
          intro fn dst heq
          exact hdec hrun fn dst (heq ▸ hlook)
        split
        · exact h.congr rfl rfl
        · exact h.setHandler conn hnext
    | forward conn bytes =>
      dsimp only
      split
      · rename_i fn dst wire hlook
        -- only a relaying handler forwards, and a sealed one relays over TLS
        have hwire : wire = .tls := h.handlers conn _ hlook
        exact {
          handlers := h.handlers
          encrypted := by
            intro f hf hbytes
            obtain rfl | hold := List.mem_cons.mp hf
            · exact hwire
            · exact h.encrypted f hold hbytes }
      · exact h

/-! ## Main results -/

/-- In every run of the gateway, whatever its flags and however its start-up,
    its connections and their calls interleave: if no connection is accepted for
    `directConnect` and no handler tests the certificates while there are none,
    then no byte of an application is forwarded in plain. -/
theorem encrypted_of_certificates (pki : Pki) (c : Config) (es : List ProcessEvent)
    (hdec : Trace.Along (Process.step pki) DecidesTls (Process.initial c) es) :
    Trace.Along (Process.step pki) (KeepsEncrypted pki) (Process.initial c) es := by
  apply Trace.along_of_invariant (I := SealedProcess) _ _ (sealedProcess_initial c) hdec
  · intro p e h hd
    exact sealedProcess_step pki p e h hd
  · intro p e h hd
    exact (sealedProcess_step pki p e h hd).encrypted

/-! ## A run over TLS, and one in plain -/

/-- A PKI that accepts every certificate. -/
def lenientPki : Pki := ⟨fun _ => true, fun _ _ => true⟩

/-- The configuration `Setup` returns for a sidecar with only `ENCRYPT` set. -/
def encryptConfig : Config :=
  { proxyPort := 18000, clusterPort := 18001, clusterTLSPort := 18443
    address := goString "127.0.0.1", clusterAddress := []
    cgroupOverride := goString "/sys/fs/cgroup"
    podCIDR := goString "10.244.0.0/16", certificates := none, proxyFunc := none
    endpoint := false, tunnel := false, encrypt := true, ktls := false, flush := false
    ai := false }

/-- The environment of such a sidecar, before the secret's variables. -/
def encryptEnv (name : String) : Option GoString :=
  if name = "ENCRYPT" then some (goString "TRUE") else none

theorem setup_encryptConfig : Setup {} encryptEnv some = some encryptConfig := rfl

/-- A call of `Start` that can listen, in a pod with the secret's variables. -/
def pass : StartReply := ⟨true, fun _ => some [], fun _ => none⟩

/-- One connection is accepted, dials its peer and forwards a byte. -/
def serveOne : List ProcessEvent :=
  [.accept 0, .handler 0 (.target (some ⟨0x0af40105, 80⟩)), .handler 0 (.done true),
    .handler 0 (.done true), .handler 0 (.done true), .handler 0 (.data [89] true), .forward 0 [71]]

/-- A connection that comes after the start-up is forwarded over TLS. -/
theorem encrypted_afterStart :
    Trace.Along (Process.step lenientPki) (KeepsEncrypted lenientPki)
      (Process.initial encryptConfig) ([pass, pass, pass, pass, pass].map .start ++ serveOne) :=
  encrypted_of_certificates lenientPki encryptConfig _ (by
    -- the accepted connection gets `internalProxy`, and the certificates are there
    have hcerts : ∀ (p : Process) conn r, p.config.certificates.isSome →
        DecidesTls p (.handler conn r) := fun _ _ _ h _ _ _ _ => h
    refine ⟨trivial, trivial, trivial, trivial, trivial, ?_, ?_⟩
    · exact fun _ _ => by decide
    · exact ⟨hcerts _ _ _ rfl, hcerts _ _ _ rfl, hcerts _ _ _ rfl, hcerts _ _ _ rfl,
        hcerts _ _ _ rfl, trivial, trivial⟩)

/-- Encryption can fail open: a connection that is accepted before the
    certificates are loaded is forwarded in plain. -/
theorem not_keepsEncrypted :
    ¬ ∀ (pki : Pki) (flags : Flags) (env : String → Option GoString)
        (resolveIPAddr : GoString → Option GoString) (c : Config) (es : List ProcessEvent),
      Setup flags env resolveIPAddr = some c → c.encrypt = true →
      Trace.Along (Process.step pki) (KeepsEncrypted pki) (Process.initial c) es := by
  intro hclaim
  have hrun := hclaim lenientPki {} encryptEnv some encryptConfig (.start pass :: serveOne)
    setup_encryptConfig rfl
  -- one step of `Start` has made the listener; the loaders have not run yet
  obtain ⟨_, _, _, _, _, _, _, hforward, _⟩ := hrun
  have := hforward ⟨0, .plain, [71]⟩ List.mem_cons_self (by decide)
  exact nomatch this

end KubeGateway.Gateway

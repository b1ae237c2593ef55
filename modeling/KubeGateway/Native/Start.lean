import KubeGateway.Native.Connection

/-!
# The gateway process

`Start` of `gateway/pkg/manager`, the loaders of the certificates, and the
internal handlers that run next to it.  `Start` starts the internal listener's
goroutine before it loads the certificates, so a handler reads
`Config.Certificates` at any moment of the start-up.

`forwarded` records what the handlers wrote to remote peers of the bytes their
applications sent; no code reads it.
-/

namespace KubeGateway.Gateway

/-! ## Certificates -/

/-- `GetEnvCerts` -/
def GetEnvCerts (env : String → Option GoString) : Option Certs := do
  let envca ← env "SMESH-CA"
  let envcert ← env "SMESH-CERT"
  let envkey ← env "SMESH-KEY"
  return { ca := envca, key := envkey, cert := envcert }

/-- `GetFSCerts`, with what `os.ReadFile` returns. -/
def GetFSCerts (readFile : String → Option GoString) : Option Certs := do
  let envca ← readFile "/tmp/ca.crt"
  let envcert ← readFile "/tmp/cert.crt"
  let envkey ← readFile "/tmp/key.crt"
  return { ca := envca, key := envkey, cert := envcert }

/-! ## The process -/

/-- What `Start` does next. -/
inductive StartPc where
  | createInternalListener
  | createExternalListener
  | getEnvCerts
  | getFSCerts
  | startExternalTLSListener
  | startListeners
  | waiting
  deriving DecidableEq, Repr

/-- What a call of `Start` meets: whether it can listen, and the environment and
    files the loaders read. -/
structure StartReply where
  listens : Bool
  env : String → Option GoString
  readFile : String → Option GoString

/-- Bytes of an application that its handler wrote to a remote peer. -/
structure Forward where
  conn : Nat
  wire : Wire
  bytes : List UInt8
  deriving DecidableEq, Repr

/-- The gateway process.  `accepting` says that the internal listener's
    goroutine runs; a connection without handler has not been accepted. -/
structure Process where
  config : Config
  start : StartPc
  accepting : Bool
  handlers : Nat → Option Internal
  exited : Bool
  forwarded : List Forward

/-- The process before `Start`. -/
def Process.initial (c : Config) : Process :=
  { config := c, start := .createInternalListener, accepting := false
    handlers := fun _ => none, exited := false, forwarded := [] }

/-- One step of `Start`. -/
def Process.startNext (pki : Pki) (p : Process) (r : StartReply) : Process :=
  match p.start with
  | .createInternalListener =>
    -- the goroutine that accepts runs from here on
    if r.listens then { p with start := .createExternalListener, accepting := true }
    else { p with exited := true }
  | .createExternalListener =>
    if r.listens then
      { p with start := if p.config.encrypt then .getEnvCerts else .startListeners }
    else { p with exited := true }
  | .getEnvCerts =>
    let certs := GetEnvCerts r.env
    { p with
      config := { p.config with certificates := certs }
      start := if certs.isSome then .startExternalTLSListener else .getFSCerts }
  | .getFSCerts =>
    -- an error is only logged
    let certs := GetFSCerts r.readFile
    { p with
      config := { p.config with certificates := certs }
      start := if certs.isSome then .startExternalTLSListener else .startListeners }
  | .startExternalTLSListener =>
    match p.config.certificates with
    | none => p
    | some certs =>
      -- every failure of the TLS listener is fatal
      if pki.appendCertsFromPEM certs.ca && pki.x509KeyPair certs.cert certs.key && r.listens then
        { p with start := .startListeners }
      else { p with exited := true }
  | .startListeners => { p with start := .waiting }
  | .waiting => p

/-- A step of the process: of `Start`, an accepted internal connection, the
    reply to a handler's call, or bytes that a relaying handler forwards. -/
inductive ProcessEvent where
  | start (r : StartReply)
  | accept (conn : Nat)
  | handler (conn : Nat) (r : Reply)
  | forward (conn : Nat) (bytes : List UInt8)

/-- The handler of `conn` is now `h`. -/
def Process.setHandler (p : Process) (conn : Nat) (h : Internal) : Process :=
  { p with handlers := fun c => if c = conn then some h else p.handlers c }

/-- One step; a process that has exited takes none. -/
def Process.step (pki : Pki) (p : Process) (e : ProcessEvent) : Process :=
  if p.exited then p
  else
    match e with
    | .start r => p.startNext pki r
    | .accept conn =>
      match p.handlers conn with
      | some _ => p
      | none =>
        -- the flags choose the handler; the certificates are not looked at
        if p.accepting then p.setHandler conn (.findTarget p.config.internalFn) else p
    | .handler conn r =>
      match p.handlers conn with
      | none => p
      | some h =>
        match Internal.next pki p.config h r with
        | .exited => { p with exited := true }
        | h' => p.setHandler conn h'
    | .forward conn bytes =>
      match p.handlers conn with
      | some (.relay _ _ wire) => { p with forwarded := ⟨conn, wire, bytes⟩ :: p.forwarded }
      | _ => p

end KubeGateway.Gateway

import KubeGateway.ForStd.Trace
import KubeGateway.Native.Certs
import Mathlib.Logic.Function.Basic

/-!
# The command line of the watcher

`main` of `watcher/main.go` and the rest of `watcher/certs.go`: the modes that
make an authority and keep it in files, load it into a secret, sign a
certificate with it, and start to watch with it.

One invocation is the list of the calls that its flags ask for, in the order of
`main`.  A call that fails where `main` panics ends the process, and the calls
after it do nothing; a process that is killed is one whose next call fails.
-/

namespace KubeGateway.Watcher

/-- A watcher that has started to watch, with its authority, and whether that came
    from the environment. -/
structure Started where
  certs : Certs
  fromEnv : Bool

/-- What outlives a process: the files (of their contents only whole PEM data
    counts), the `ca-cert` and `ca-key` of the secret `watcher` in the default
    namespace, the other API objects, and the keys generated so far.  `started`
    records the watchers; no code reads it. -/
structure Machine where
  files : String → Option Pem
  caSecret : Option (Pem × Pem)
  cluster : Cluster
  generated : Nat
  started : List Started

/-- Before anything was created. -/
def Machine.bare : Machine :=
  { files := fun _ => none, caSecret := none, cluster := ⟨∅, [], ∅⟩, generated := 0, started := [] }

/-- What `os.Create` and the `Write` after it come to.  The error of `Write` is
    dropped, so a file that was cut short looks like a whole one to the caller. -/
inductive Written where
  | refused
  | cut
  | whole
  deriving DecidableEq, Repr

/-- One invocation of the program: its `certCollection`, and whether it has panicked. -/
structure Process where
  machine : Machine
  certs : Certs
  fromEnv : Bool
  crashed : Bool

def Process.start (m : Machine) : Process :=
  { machine := m
    certs := { cacert := .empty, cakey := .empty, key := .empty, cert := .empty, token := "" }
    fromEnv := false
    crashed := false }

def Process.panics (p : Process) : Process := { p with crashed := true }

/-- `os.Create(path)`, `Write(data)` and `Close`. -/
def Process.create (p : Process) (path : String) (w : Written) (data : Pem) : Process :=
  match w with
  | .refused => p.panics
  | .cut => { p with machine.files := Function.update p.machine.files path (some .empty) }
  | .whole => { p with machine.files := Function.update p.machine.files path (some data) }

/-- `os.ReadFile(path)`, which can also fail where there is a file. -/
def Process.readFile (p : Process) (path : String) (reads : Bool) : Option Pem :=
  if reads then p.machine.files path else none

/-- A call of `main`, with its outcome. -/
inductive Call where
  | generateCA (signs : Bool)
  | writeCACert (folder : String) (w : Written)
  | writeCAKey (folder : String) (w : Written)
  | readCACert (folder : String) (reads : Bool)
  | readCAKey (folder : String) (reads : Bool)
  /-- `getEnvCerts`, with the two variables -/
  | getEnvCerts (folder : String) (env : Option Pem × Option Pem) (readsCert readsKey : Bool)
  /-- `client`, which also stands for the panic of a nil `kubeconfig` -/
  | client (connects : Bool)
  | loadCA (fails : Bool)
  | createCertificate (name ip : String)
  | writeCert (name : String) (w : Written)
  | writeKey (name : String) (w : Written)
  | loadSecret (name : String) (fails : Bool)
  | watcher
  deriving DecidableEq, Repr

/-- `generateCA`: the certificate is signed with its own key. -/
def Process.generateCA (p : Process) (signs : Bool) : Process :=
  let priv := p.machine.generated
  let p := { p with machine.generated := priv + 1 }
  if signs then
    { p with certs.cacert := .certificate [] [] priv priv, certs.cakey := .rsaPrivateKey priv }
  else p.panics

/-- `readCACert` -/
def Process.readCACert (p : Process) (folder : String) (reads : Bool) : Process :=
  match p.readFile (folder ++ "ca.crt") reads with
  | none => p.panics
  | some data => { p with certs.cacert := data }

/-- `readCAKey` -/
def Process.readCAKey (p : Process) (folder : String) (reads : Bool) : Process :=
  match p.readFile (folder ++ "ca.key") reads with
  | none => p.panics
  | some data => { p with certs.cakey := data }

/-- `getEnvCerts`, and where a variable is missing the files. -/
def Process.getEnvCerts (p : Process) (folder : String) (env : Option Pem × Option Pem)
    (readsCert readsKey : Bool) : Process :=
  match env with
  | (some envcert, some envkey) =>
    { p with certs.cacert := envcert, certs.cakey := envkey, fromEnv := true }
  | _ =>
    let p := { p with fromEnv := false }.readCACert folder readsCert
    if p.crashed then p else p.readCAKey folder readsKey

/-- `loadCA`: a secret that exists is an error, and stays as it is. -/
def Process.loadCA (p : Process) (fails : Bool) : Process :=
  if fails || p.machine.caSecret.isSome then p.panics
  else { p with machine.caSecret := some (p.certs.cacert, p.certs.cakey) }

/-- `createCertificate` -/
def Process.createCertificate (p : Process) (name ip : String) : Process :=
  match p.certs.createCertificate p.machine.generated name ip with
  | none => p.panics
  | some certs => { p with certs := certs, machine.generated := p.machine.generated + 1 }

/-- `loadSecret(*certName, "kube-gateway", c)`: an error is only logged. -/
def Process.loadSecret (p : Process) (name : String) (fails : Bool) : Process :=
  { p with
    machine.cluster := (p.machine.cluster.createSecret fails "kube-gateway" (podSecretName name)
      p.certs.secretMap).2 }

/-- One call. -/
def Process.make (p : Process) : Call → Process
  | .generateCA signs => p.generateCA signs
  | .writeCACert folder w => p.create (folder ++ "ca.crt") w p.certs.cacert
  | .writeCAKey folder w => p.create (folder ++ "ca.key") w p.certs.cakey
  | .readCACert folder reads => p.readCACert folder reads
  | .readCAKey folder reads => p.readCAKey folder reads
  | .getEnvCerts folder env readsCert readsKey => p.getEnvCerts folder env readsCert readsKey
  | .client connects => if connects then p else p.panics
  | .loadCA fails => p.loadCA fails
  | .createCertificate name ip => p.createCertificate name ip
  | .writeCert name w => p.create (name ++ ".crt") w p.certs.cert
  | .writeKey name w => p.create (name ++ ".key") w p.certs.key
  | .loadSecret name fails => p.loadSecret name fails
  | .watcher =>
    { p with machine.started := { certs := p.certs, fromEnv := p.fromEnv } :: p.machine.started }

/-- After a panic there are no calls. -/
def Process.call (p : Process) (c : Call) : Process := if p.crashed then p else p.make c

/-- The flags of `main` that choose what it does. -/
structure Command where
  ca : Bool := false
  loadCA : Bool := false
  certName : String := ""
  certIP : String := "192.168.0.1"
  certFolder : String := ""
  certSecret : Bool := false
  watch : Bool := false

/-- How the calls of one invocation turn out. -/
structure CommandOutcome where
  signs : Bool := true
  caCert : Written := .whole
  caKey : Written := .whole
  readsCert : Bool := true
  readsKey : Bool := true
  connects : Bool := true
  loadCAFails : Bool := false
  cert : Written := .whole
  key : Written := .whole
  certConnects : Bool := true
  loadSecretFails : Bool := false
  env : Option Pem × Option Pem := (none, none)
  watchReadsCert : Bool := true
  watchReadsKey : Bool := true
  watchConnects : Bool := true

/-- `-ca` -/
def Command.caCalls (c : Command) (o : CommandOutcome) : List Call :=
  [.generateCA o.signs, .writeCACert c.certFolder o.caCert, .writeCAKey c.certFolder o.caKey]

/-- `-loadca` -/
def Command.loadCACalls (c : Command) (o : CommandOutcome) : List Call :=
  [.readCACert c.certFolder o.readsCert, .readCAKey c.certFolder o.readsKey, .client o.connects,
    .loadCA o.loadCAFails]

/-- `-cert` -/
def Command.certCalls (c : Command) (o : CommandOutcome) : List Call :=
  [.createCertificate c.certName c.certIP, .writeCert c.certName o.cert,
    .writeKey c.certName o.key]

/-- `-cert` with `-load` -/
def Command.certSecretCalls (c : Command) (o : CommandOutcome) : List Call :=
  [.client o.certConnects, .loadSecret c.certName o.loadSecretFails]

/-- `-watch` -/
def Command.watchCalls (c : Command) (o : CommandOutcome) : List Call :=
  [.getEnvCerts c.certFolder o.env o.watchReadsCert o.watchReadsKey, .client o.watchConnects,
    .watcher]

/-- `main` -/
def Command.calls (c : Command) (o : CommandOutcome) : List Call :=
  (if c.ca then c.caCalls o else []) ++
  ((if c.loadCA then c.loadCACalls o else []) ++
  ((if c.certName ≠ "" then
    c.certCalls o ++ (if c.certSecret then c.certSecretCalls o else []) else []) ++
  (if c.watch then c.watchCalls o else [])))

end KubeGateway.Watcher

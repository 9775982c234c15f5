import Rustica.Signing

/-!
# The server's data: requests, the authorizer, log events, the server record

* the protobuf messages the handlers read and answer;
* `AuthorizationMechanism` : the authorization backend (local database or remote service, not
  among the sources), as the answers it gives;
* `Log` : what the handlers send on `log_sender`;
* `Effect` : what a handler sends out, in order: a call to the authorizer or to a signer, or a log
  event;
* `RusticaServer` : the state fixed at startup.
-/

namespace Rustica

/-! ## Messages -/

/-- The peer's address: `remote_addr().ip().to_string()` and `remote_addr().to_string()`. -/
structure SocketAddr where
  ip : String
  text : String
  deriving DecidableEq, Repr

/-- `Challenge`. -/
structure Challenge where
  challengeTime : String
  pubkey : String
  challenge : String
  deriving DecidableEq, Repr

/-- `ChallengeRequest`. -/
structure ChallengeRequest where
  pubkey : String
  deriving DecidableEq, Repr

/-- `ChallengeResponse`. -/
structure ChallengeResponse where
  time : String
  challenge : String
  noSignatureRequired : Bool
  deriving DecidableEq, Repr

/-- `CertificateRequest`; `cert_type` is the proto's `uint32`. -/
structure CertificateRequest where
  challenge : Option Challenge
  certType : Nat
  keyId : String
  principals : List String
  servers : List String
  validBefore : U64
  validAfter : U64
  deriving DecidableEq, Repr

/-- `CertificateResponse`; `error_code` is the `RusticaServerError` it encodes. -/
structure CertificateResponse where
  certificate : String
  error : String
  errorCode : RusticaServerError
  newClientCertificate : String
  newClientKey : String
  deriving DecidableEq, Repr

/-- `RegisterKeyRequest`. -/
structure RegisterKeyRequest where
  challenge : Option Challenge
  certificate : Bytes
  intermediate : Bytes
  deriving DecidableEq, Repr

/-- `RegisterU2fKeyRequest`. -/
structure RegisterU2fKeyRequest where
  challenge : Option Challenge
  attestation : U2fAttestation
  deriving DecidableEq, Repr

/-- `AttestedX509CertificateRequest`. -/
structure AttestedX509CertificateRequest where
  csr : Bytes
  attestation : Bytes
  attestationIntermediate : Bytes
  keyId : String
  deriving DecidableEq, Repr

/-- `AttestedX509CertificateResponse`. -/
structure AttestedX509CertificateResponse where
  certificate : Bytes
  error : String
  errorCode : Int
  deriving DecidableEq, Repr

/-! ## The authorization backend -/

/-- `SshAuthorizationRequestProperties`. -/
structure SshAuthorizationRequestProperties where
  fingerprint : String
  mtlsIdentities : List String
  requesterIp : String
  principals : List String
  servers : List String
  certType : CertType
  validAfter : U64
  validBefore : U64
  authority : String
  deriving DecidableEq, Repr

/-- The SSH `Authorization` the backend grants. -/
structure Authorization where
  serial : U64
  validBefore : U64
  validAfter : U64
  principals : List String
  hosts : Option (List String)
  extensions : Extensions
  forceCommand : Option String
  forceSourceIp : Bool
  authority : String
  deriving DecidableEq, Repr

/-- `RegisterKeyRequestProperties`. -/
structure RegisterKeyRequestProperties where
  fingerprint : String
  pubkey : String
  mtlsIdentities : List String
  requesterIp : String
  attestation : Option KeyAttestation
  deriving DecidableEq, Repr

/-- `X509AuthorizationRequestProperties`. -/
structure X509AuthorizationRequestProperties where
  authority : String
  mtlsIdentities : List String
  requesterIp : String
  attestation : Bytes
  attestationIntermediate : Bytes
  key : AttestedKey
  deriving DecidableEq, Repr

/-- The X.509 authorization the backend grants for an attested key. -/
structure X509Authorization where
  authority : String
  commonName : String
  serial : U64
  validAfter : U64
  validBefore : U64
  extensions : List CustomExtension
  deriving DecidableEq, Repr

/-- `AllowedSigner`, one entry of the backend's `get_allowed_signers` answer. -/
structure AllowedSigner where
  identity : String
  pubkey : String
  deriving DecidableEq, Repr

/-- The authorization backend, as the answer it gives to each request. Errors of
`authorize_ssh_cert` are already converted to `RusticaServerError` (`From<AuthorizationError>`). -/
structure AuthorizationMechanism where
  authorizeSshCert : SshAuthorizationRequestProperties → Except RusticaServerError Authorization
  /-- A refusal is one of the backends' failures (`AuthorizationError` in `auth/mod.rs`: a
  certificate type, not authorized, an authorizer error), never the code `Success`. -/
  authorizeSshCert_ne_success : ∀ p, authorizeSshCert p ≠ .error .success
  registerKey : RegisterKeyRequestProperties → Except String Unit
  /-- `authorize_attested_x509_cert`; its error as `Display` writes it. -/
  authorizeAttestedX509Cert : X509AuthorizationRequestProperties → Except String X509Authorization

/-! ## Log events -/

/-- `Severity` of an `InternalMessage`. -/
inductive Severity
  | error
  | warning
  | info
  deriving DecidableEq, Repr

/-- `CertificateIssued`. -/
structure CertificateIssued where
  fingerprint : String
  signedBy : String
  authority : String
  serial : U64
  certificateType : String
  mtlsIdentities : List String
  principals : List String
  extensions : Extensions
  criticalOptions : List (String × String)
  validAfter : U64
  validBefore : U64
  newAccessCertificateIssued : Bool
  deriving DecidableEq, Repr

/-- `X509CertificateIssued`; each extension as its dotted OID and its hex content. -/
structure X509CertificateIssued where
  authority : String
  mtlsIdentities : List String
  extensions : List (String × String)
  validAfter : U64
  validBefore : U64
  serial : U64
  deriving DecidableEq, Repr

/-- `KeyInfo`. -/
structure KeyInfo where
  fingerprint : String
  mtlsIdentities : List String
  deriving DecidableEq, Repr

/-- What the handlers send on `log_sender`. -/
inductive Log
  | certificateIssued (event : CertificateIssued)
  | x509CertificateIssued (event : X509CertificateIssued)
  | keyRegistered (info : KeyInfo)
  | keyRegistrationFailure (info : KeyInfo) (message : String)
  | internalMessage (severity : Severity) (message : String)
  deriving DecidableEq, Repr

/-- What a handler sends out. -/
inductive Effect
  | authorizeSshCert (props : SshAuthorizationRequestProperties)
  | registerKey (props : RegisterKeyRequestProperties)
  | authorizeAttestedX509Cert (props : X509AuthorizationRequestProperties)
  | sign (authority : String) (cert : Certificate)
  | log (event : Log)
  deriving DecidableEq, Repr

/-- The effects are log events only: neither the authorizer nor a signer was called. -/
def OnlyLogs (effects : List Effect) : Prop := ∀ e ∈ effects, ∃ l, e = .log l

/-- `rustica_warning!`. -/
def rusticaWarning (message : String) : Emit Effect Unit :=
  .call (.log (.internalMessage .warning message)) ()

/-- `rustica_error!`. -/
def rusticaError (message : String) : Emit Effect Unit :=
  .call (.log (.internalMessage .error message)) ()

/-! ## The server -/

/-- `ClientAuthorityConfiguration`. -/
structure ClientAuthorityConfiguration where
  authority : String
  validityLength : U64
  expirationRenewalPeriod : U64
  deriving DecidableEq, Repr

/-- `AllowedSignersConfiguration`; the limiter's size is a `NonZeroUsize`. -/
structure AllowedSignersConfiguration where
  cacheValidityLength : Duration
  lruRateLimiterSize : Nat
  lruRateLimiterSize_pos : 0 < lruRateLimiterSize
  rateLimitCooldown : Duration

/-- `AllowedSignersCache`, behind the server's read-write lock. -/
structure AllowedSignersCache where
  compressedAllowedSigners : Bytes
  expiryTimestamp : Duration
  deriving DecidableEq, Repr

/-- `RusticaServer`, less its allowed-signers configuration and the two locked caches, which the
allowed-signers handler takes on their own. -/
structure RusticaServer where
  hmacKey : HmacKey
  challengeKey : PrivateKey
  authorizer : AuthorizationMechanism
  signer : SigningMechanism
  requireRusticaProof : Bool
  requireAttestationChain : Bool
  clientAuthority : ClientAuthorityConfiguration

/-- A backend holding the SSH keys `user` and `host` that signs as `sshcerts` does: a certificate
whose signature key is its key for the certificate's type gets the signature `signature`, and any
other fails, since `add_signature` verifies the signature against the certificate's signature key. -/
def Signer.ofKeys (user host : PublicKey) (signature : Bytes) (clientCa : Option CaCertificate) :
    Signer :=
  let key : CertType → PublicKey
    | .user => user
    | .host => host
  { sign := fun c => if c.signatureKey = key c.certType then .ok { c with signature }
      else .error .signingFailure
    signerPublicKey := fun t => some (key t)
    attestedX509CertificateAuthority := none
    clientCertificateAuthority := clientCa }

theorem Signer.ofKeys_sign_eq_ok {user host : PublicKey} {signature : Bytes}
    {clientCa : Option CaCertificate} {c c' : Certificate}
    (h : (Signer.ofKeys user host signature clientCa).sign c = .ok c') :
    (Signer.ofKeys user host signature clientCa).signerPublicKey c.certType = some c.signatureKey ∧
      c' = { c with signature } := by
  simp only [Signer.ofKeys] at h ⊢
  split at h
  next hk => cases h; exact ⟨congrArg some hk.symm, rfl⟩
  next => cases h

/-- A backend holding SSH keys `[8]` (user) and `[9]` (host) and a client authority, signing with
the signature `[2]`. -/
def Signer.sample : Signer :=
  Signer.ofKeys ⟨"ssh-ed25519", [8], none⟩ ⟨"ssh-ed25519", [9], none⟩ [2] (some ⟨"client"⟩)

/-- A second backend, holding SSH keys `[10]` (user) and `[11]` (host), signing with `[3]`. -/
def Signer.second : Signer :=
  Signer.ofKeys ⟨"ssh-ed25519", [10], none⟩ ⟨"ssh-ed25519", [11], none⟩ [3] none

/-- A server whose challenge key is `Libraries.sampleKey`, with the one authority `default`
backed by `Signer.sample`, and an authorizer that grants what is asked. -/
def RusticaServer.sample : RusticaServer where
  hmacKey := ⟨[42]⟩
  challengeKey := ⟨Libraries.sampleKey, [3]⟩
  authorizer :=
    { authorizeSshCert := fun p => .ok
        { serial := 1, validBefore := p.validBefore, validAfter := p.validAfter,
          principals := p.principals, hosts := none, extensions := .standard,
          forceCommand := none, forceSourceIp := false, authority := p.authority }
      registerKey := fun _ => .ok ()
      authorizeSshCert_ne_success := fun _ h => by cases h
      authorizeAttestedX509Cert := fun p => .ok
        { authority := p.authority, commonName := "host.example", serial := 7, validAfter := 100,
          validBefore := 200, extensions := [] } }
  signer := { defaultAuthority := "default", authorities := [("default", Signer.sample)] }
  requireRusticaProof := false
  requireAttestationChain := false
  clientAuthority :=
    { authority := "default", validityLength := 3600, expirationRenewalPeriod := 600 }

/-- A caller's address. -/
def SocketAddr.sample : SocketAddr := ⟨"10.0.0.1", "10.0.0.1:4000"⟩

end Rustica

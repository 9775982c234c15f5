import Rustica.Libraries

/-!
# The signing registry (`signing/mod.rs`)

* `Signer` : a backend (file, Yubikey, KMS) as what it offers: `sign`, the SSH public keys it
  holds, and its two X.509 authorities;
* `SigningMechanism` : the named backends and the default authority, with `sign`,
  `get_signer_public_key` and the two authority getters, dispatching on the authority name;
* `SigningConfiguration.convertToSigningMechanism` : the startup loop that converts each
  configured backend and refuses a fingerprint seen twice, against the accumulating map
  `public_keys`.
-/

namespace Rustica

/-- `SigningError`. -/
inductive SigningError
  | accessError (message : String)
  | signingFailure
  | parsingError
  | unknownAuthority (authority : String)
  | duplicatedKey (a1 a2 : String)
  | identicalUserAndHostKey (authority : String)
  | signerDoesNotHaveSSHKeys
  | signerDoesNotAllRequiredSSHKeys
  deriving DecidableEq, Repr

/-- `SigningError` through `Display`. -/
def SigningError.toString : SigningError → String
  | .accessError e => "Could not access the private key material: " ++ e
  | .signingFailure => "The signing operation on the provided certificate failed"
  | .parsingError => "The signature could not be parsed"
  | .unknownAuthority a => "Unknown authority was requested for a signing operation: " ++ a
  | .duplicatedKey a1 a2 => "Authorities " ++ a1 ++ " and " ++ a2 ++ " share at least one key. This is not allowed as it almost always a misconfiguration leading to access that is not correctly restricted"
  | .identicalUserAndHostKey a => "Authority " ++ a ++ " has an identical key for both user and host certificates. This is not allowed as it's much safer to use separate keys for both."
  | .signerDoesNotHaveSSHKeys => "Signer was not configured with SSH keys so it cannot create an SSH certificate"
  | .signerDoesNotAllRequiredSSHKeys => "Signer did not have both user and host keys defined"

/-- A signing backend, through the `Signer` trait. -/
structure Signer where
  sign : Certificate → Except SigningError Certificate
  signerPublicKey : CertType → Option PublicKey
  attestedX509CertificateAuthority : Option CaCertificate
  clientCertificateAuthority : Option CaCertificate

/-- `SigningMechanism`: the `HashMap` of backends, as its entries. -/
structure SigningMechanism where
  defaultAuthority : String
  authorities : List (String × Signer)

namespace SigningMechanism

variable (m : SigningMechanism) (authority : String)

/-- `authorities.get(authority)`. -/
def get : Option Signer := m.authorities.lookup authority

/-- `SigningMechanism::sign`. -/
def sign (cert : Certificate) : Except SigningError Certificate :=
  match m.get authority with
  | some s => s.sign cert
  | none => .error (.unknownAuthority authority)

/-- `SigningMechanism::get_signer_public_key`. -/
def getSignerPublicKey (certType : CertType) : Except SigningError PublicKey :=
  match m.get authority with
  | some s => match s.signerPublicKey certType with
    | some k => .ok k
    | none => .error .signerDoesNotHaveSSHKeys
  | none => .error (.unknownAuthority authority)

/-- `SigningMechanism::get_attested_x509_certificate_authority`. -/
def getAttestedX509CertificateAuthority : Except SigningError (Option CaCertificate) :=
  match m.get authority with
  | some s => .ok s.attestedX509CertificateAuthority
  | none => .error (.unknownAuthority authority)

/-- `SigningMechanism::get_client_certificate_authority`. -/
def getClientCertificateAuthority : Except SigningError (Option CaCertificate) :=
  match m.get authority with
  | some s => .ok s.clientCertificateAuthority
  | none => .error (.unknownAuthority authority)

/-- `SigningMechanism::get_authorities`. -/
def getAuthorities : List String := m.authorities.map Prod.fst

variable {m authority}

theorem sign_eq_ok {cert c : Certificate} (h : m.sign authority cert = .ok c) :
    ∃ s, m.get authority = some s ∧ s.sign cert = .ok c := by
  unfold sign at h
  split at h
  next s hs => exact ⟨s, hs, h⟩
  next => cases h

theorem getSignerPublicKey_eq_ok {ct : CertType} {k : PublicKey} :
    m.getSignerPublicKey authority ct = .ok k ↔
      ∃ s, m.get authority = some s ∧ s.signerPublicKey ct = some k := by
  unfold getSignerPublicKey
  split
  next s hs => split <;> simp_all
  next hs => simp [hs]

end SigningMechanism

/-! ## Startup -/

/-- A backend's configuration (`SignerType`), tagged by its `kind`. -/
inductive SignerType
  | file (config : String)
  | yubikey (config : String)
  | amazonKms (config : String)
  deriving DecidableEq, Repr

/-- `SigningConfiguration`; the `HashMap` of backends is the list of its entries, in the order it
iterates them, with distinct names. -/
structure SigningConfiguration where
  defaultAuthority : String
  authorityConfigurations : List (String × SignerType)
  nodup : (authorityConfigurations.map Prod.fst).Nodup

/-- Refuse a backend whose user and host keys have the same fingerprint. -/
def checkIdentical (authority : String) : Option String → Option String → Except SigningError Unit
  | some u, some h => if u = h then .error (.identicalUserAndHostKey authority) else .ok ()
  | _, _ => .ok ()

/-- Record `hash` as seen in `authority`, unless another authority already holds it. -/
def checkFingerprint (publicKeys : List (String × String)) (authority : String) :
    Option String → Except SigningError (List (String × String))
  | none => .ok publicKeys
  | some hash => match publicKeys.lookup hash with
    | some existing => .error (.duplicatedKey authority existing)
    | none => .ok ((hash, authority) :: publicKeys)

/-- The body of `convert_to_signing_mechanism`'s loop, from the authorities still to convert,
the converted ones and the map `public_keys` from fingerprint to authority. -/
def convertLoop (lib : Libraries) (intoSigner : SignerType → Except SigningError Signer) :
    List (String × SignerType) → List (String × Signer) → List (String × String) →
      Except SigningError (List (String × Signer))
  | [], converted, _ => .ok converted
  | (name, config) :: rest, converted, publicKeys => do
    let signer ← intoSigner config
    let userHash := (signer.signerPublicKey .user).map lib.fingerprint
    let hostHash := (signer.signerPublicKey .host).map lib.fingerprint
    checkIdentical name userHash hostHash
    let publicKeys ← checkFingerprint publicKeys name userHash
    let publicKeys ← checkFingerprint publicKeys name hostHash
    convertLoop lib intoSigner rest (converted ++ [(name, signer)]) publicKeys

/-- `SigningConfiguration::convert_to_signing_mechanism`. -/
def SigningConfiguration.convertToSigningMechanism (lib : Libraries)
    (intoSigner : SignerType → Except SigningError Signer) (config : SigningConfiguration) :
    Except SigningError SigningMechanism := do
  let authorities ← convertLoop lib intoSigner config.authorityConfigurations [] []
  pure { defaultAuthority := config.defaultAuthority, authorities }

end Rustica

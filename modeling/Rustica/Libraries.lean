import Rustica.Basic

/-!
# The libraries Rustica calls

Rustica's logic sits between `ring` (HMAC), `sshcerts` (SSH keys and certificates),
`x509-parser` (the peer's mTLS certificate), `zstd` and its own attestation verifiers (the
`verification` module, not among the sources). Their results are Lean data here, with the fields
Rustica reads; the functions themselves are the fields of `Libraries`, and every handler is defined
over an arbitrary `Libraries`, so that what is proved holds whatever they compute.

* `PublicKey`, `PrivateKey`, `Certificate`, `CertType`, `SshSignature` : `sshcerts`' types;
* `X509Certificate` : what `parse_x509_certificate` yields that Rustica reads;
* `CaCertificate`, `ClientCertificateParams` : `rcgen`'s certificates and parameters;
* `CertificateParams`, `CertificateSigningRequest` : a parsed certificate signing request, with
  `rcgen`'s types for its fields, and `DistinguishedName.push`;
* `AttestedKey` : the result of a verified attestation chain;
* `Libraries` : the functions, and `Libraries.sample`, a small instance to run the handlers on.
-/

namespace Rustica

/-! ## `sshcerts` -/

/-- `sshcerts::ssh::CertType`; the request's `cert_type` is `1` for `User` and `2` for `Host`. -/
inductive CertType
  | user
  | host
  deriving DecidableEq, Repr

/-- `sshcerts::PublicKey`: its key type, its key material and the comment after it. -/
structure PublicKey where
  keyType : String
  kind : Bytes
  comment : Option String
  deriving DecidableEq, Repr

/-- `sshcerts::PrivateKey`, of which Rustica reads the public half. -/
structure PrivateKey where
  pubkey : PublicKey
  secret : Bytes
  deriving DecidableEq, Repr

/-- `sshcerts::ssh::Extensions`. -/
inductive Extensions
  | standard
  | custom (entries : List (String × String))
  deriving DecidableEq, Repr

/-- `sshcerts::Certificate`, with the fields Rustica sets or reads. The critical options are the
`HashMap` given to `set_critical_options`, as the list of its entries. -/
structure Certificate where
  key : PublicKey
  serial : U64
  certType : CertType
  keyId : String
  principals : List String
  validAfter : U64
  validBefore : U64
  criticalOptions : List (String × String)
  extensions : Extensions
  signatureKey : PublicKey
  signature : Bytes
  deriving DecidableEq, Repr

/-- `sshcerts::ssh::SshSignature`, an SSHSIG signature: the signer's public key and the rest of
the blob. -/
structure SshSignature where
  pubkey : PublicKey
  signature : Bytes
  deriving DecidableEq, Repr

/-! ## `x509-parser` -/

/-- The OID of an X.509 `CommonName` attribute, `2.5.4.3`. -/
def commonNameOid : List Nat := [2, 5, 4, 3]

/-- One attribute of a relative distinguished name: its type, and its value as a string when
`attr_value().as_str()` succeeds. -/
structure AttributeTypeAndValue where
  attrType : List Nat
  attrValue : Option String
  deriving DecidableEq, Repr

/-- A parsed X.509 certificate: the `i64` of `validity().not_after.timestamp()`, the subject's
relative distinguished names in order, and the subject public key info. -/
structure X509Certificate where
  notAfter : U64
  subject : List (List AttributeTypeAndValue)
  subjectPki : Bytes
  deriving DecidableEq, Repr

/-! ## Attestation -/

/-- The attestation data a verified chain carries to the authorizer. -/
structure KeyAttestation where
  certificate : Bytes
  intermediate : Bytes
  deriving DecidableEq, Repr

/-- A key whose attestation chain verified: its SSH fingerprint and its attestation. -/
structure AttestedKey where
  fingerprint : String
  attestation : Option KeyAttestation
  deriving DecidableEq, Repr

/-- The fields of a `RegisterU2fKeyRequest` that `verify_u2f_certificate_chain` reads. -/
structure U2fAttestation where
  authData : Bytes
  authDataSignature : Bytes
  intermediate : Bytes
  alg : Int
  u2fChallenge : Bytes
  skApplication : Bytes
  u2fChallengeHashed : Bool
  deriving DecidableEq, Repr

/-! ## `rcgen` -/

/-- The CA certificate of an X.509 authority (an `rcgen::Certificate`), by name. -/
structure CaCertificate where
  name : String
  deriving DecidableEq, Repr

/-- The `rcgen::CertificateParams` of a renewed mTLS client certificate, as the certificate handler
sets them: `CertificateParams::new(subject_alt_names)`, the validity, and the `CommonName` pushed on
the distinguished name. -/
structure ClientCertificateParams where
  subjectAltNames : List String
  notBefore : U64
  notAfter : U64
  commonName : String
  deriving DecidableEq, Repr

/-- `rcgen::SanType`, a subject alternative name. -/
inductive SanType
  | rfc822Name (name : String)
  | dnsName (name : String)
  | uri (uri : String)
  | ipAddress (address : Bytes)
  deriving DecidableEq, Repr

/-- `rcgen::DnType`, the type of a distinguished name's entry. -/
inductive DnType
  | countryName
  | localityName
  | stateOrProvinceName
  | organizationName
  | organizationalUnitName
  | commonName
  | customDnType (oid : List Nat)
  deriving DecidableEq, Repr

/-- `rcgen::DistinguishedName`: its entries, in the order their types were first pushed. -/
structure DistinguishedName where
  entries : List (DnType × String)
  deriving DecidableEq, Repr

/-- `DistinguishedName::new()`. -/
def DistinguishedName.new : DistinguishedName := ⟨[]⟩

/-- `DistinguishedName::push(ty, s)`: a new type goes last, a type already present gets the new
value in its place (the `HashMap` insert behind the `order` vector). -/
def DistinguishedName.push (dn : DistinguishedName) (ty : DnType) (s : String) :
    DistinguishedName :=
  if dn.entries.any (·.1 == ty) then ⟨dn.entries.map fun e => if e.1 = ty then (ty, s) else e⟩
  else ⟨dn.entries ++ [(ty, s)]⟩

/-- `rcgen::BasicConstraints`. -/
inductive BasicConstraints
  | unconstrained
  | constrained (pathLength : UInt8)
  deriving DecidableEq, Repr

/-- `rcgen::IsCa`. -/
inductive IsCa
  | noCa
  | explicitNoCa
  | ca (constraints : BasicConstraints)
  deriving DecidableEq, Repr

/-- `rcgen::KeyUsagePurpose`. -/
inductive KeyUsagePurpose
  | digitalSignature
  | contentCommitment
  | keyEncipherment
  | dataEncipherment
  | keyAgreement
  | keyCertSign
  | crlSign
  | encipherOnly
  | decipherOnly
  deriving DecidableEq, Repr

/-- `rcgen::ExtendedKeyUsagePurpose`. -/
inductive ExtendedKeyUsagePurpose
  | any
  | serverAuth
  | clientAuth
  | codeSigning
  | emailProtection
  | timeStamping
  | ocspSigning
  | other (oid : List Nat)
  deriving DecidableEq, Repr

/-- `rcgen::GeneralSubtree`, one subtree of a name constraint. -/
inductive GeneralSubtree
  | rfc822Name (name : String)
  | dnsName (name : String)
  | directoryName (name : DistinguishedName)
  | ipAddress (subnet : Bytes)
  deriving DecidableEq, Repr

/-- `rcgen::NameConstraints`. -/
structure NameConstraints where
  permittedSubtrees : List GeneralSubtree
  excludedSubtrees : List GeneralSubtree
  deriving DecidableEq, Repr

/-- `rcgen::CustomExtension`: its OID, its criticality and its DER content. -/
structure CustomExtension where
  oid : List Nat
  critical : Bool
  content : Bytes
  deriving DecidableEq, Repr

/-- `rcgen::CrlDistributionPoint`. -/
structure CrlDistributionPoint where
  uris : List String
  deriving DecidableEq, Repr

/-- `rcgen::CertificateParams`, with the fields a certificate is written from; the validity is in
seconds since the epoch. Left out: `alg`, which a parsed request keeps with its key (`publicKey`
below) and which the CA's replaces in the signature; `key_pair`, `None` in a parsed request; and
`key_identifier_method`, which `rcgen` reads only for a CA certificate's key identifier. -/
structure CertificateParams where
  notBefore : U64
  notAfter : U64
  serialNumber : Option Bytes
  subjectAltNames : List SanType
  distinguishedName : DistinguishedName
  isCa : IsCa
  keyUsages : List KeyUsagePurpose
  extendedKeyUsages : List ExtendedKeyUsagePurpose
  nameConstraints : Option NameConstraints
  crlDistributionPoints : List CrlDistributionPoint
  customExtensions : List CustomExtension
  useAuthorityKeyIdentifierExtension : Bool
  deriving DecidableEq, Repr

/-- `rcgen::CertificateSigningRequest`: the parameters the request carries, and its public key as
the `SubjectPublicKeyInfo` the certificate gets. -/
structure CertificateSigningRequest where
  params : CertificateParams
  publicKey : Bytes
  deriving DecidableEq, Repr

/-- A `ring::hmac::Key`. -/
structure HmacKey where
  secret : Bytes
  deriving DecidableEq, Repr

/-! ## The functions -/

/-- The library functions the handlers call. -/
structure Libraries where
  /-- `ring::hmac::sign(key, msg.as_bytes())`, the HMAC-SHA256 tag. -/
  hmacSign : HmacKey → String → Bytes
  /-- `x509_parser::parse_x509_certificate`. -/
  parseX509 : Bytes → Option X509Certificate
  /-- `PublicKey::from_string`. -/
  publicKeyFromString : String → Option PublicKey
  /-- `PublicKey` through `Display`. -/
  publicKeyToString : PublicKey → String
  /-- `PublicKey::fingerprint().hash`. -/
  fingerprint : PublicKey → String
  /-- `Certificate::from_string`, which checks the certificate's signature as it parses; its error
  as `Display` writes it. -/
  certificateFromString : String → Except String Certificate
  /-- `Certificate` through `Display`. -/
  certificateToString : Certificate → String
  /-- Whether `Certificate::builder` finds a certificate key type for the key's type. -/
  hasCertificateType : PublicKey → Bool
  /-- `Certificate::sign(&private_key)`: sets the signature key and the signature. -/
  signCertificate : PrivateKey → Certificate → Option Certificate
  /-- `CertType` through `Display`. -/
  certTypeName : CertType → String
  /-- `verify_piv_certificate_chain(certificate, intermediate)`. -/
  verifyPivCertificateChain : Bytes → Bytes → Option AttestedKey
  /-- `verify_u2f_certificate_chain(...)`. -/
  verifyU2fCertificateChain : U2fAttestation → Option AttestedKey
  /-- A `zstd` encoder at the default level: `new`, `write_all`, `finish`. -/
  zstdCompress : String → Option Bytes
  /-- A `zstd` decoder read to a `String` (which fails on bytes that are not UTF-8). -/
  zstdDecompress : Bytes → Option String
  /-- `SshSignature::from_armored_string`. -/
  sshSignatureFromArmoredString : String → Option SshSignature
  /-- `VerifiedSshSignature::from_ssh_signature(message, signature, namespace, Some(key))`
  succeeds: the signature is `key`'s, over the message in the namespace. -/
  verifySshSignature : Bytes → SshSignature → String → PublicKey → Bool
  /-- `rcgen::Certificate::from_params(params)`, then `serialize_pem_with_signer(ca)` and
  `serialize_private_key_pem()`: the new certificate's PEM and its key's PEM; `none` when one of the
  two `unwrap`s fails. -/
  issueClientCertificate : ClientCertificateParams → CaCertificate → Option (String × String)
  /-- `rcgen::CertificateSigningRequest::from_der`, which checks the request's signature; its error
  as `Display` writes it. -/
  csrFromDer : Bytes → Except String CertificateSigningRequest
  /-- `CertificateSigningRequest::serialize_der_with_signer(ca)`: the new certificate's DER. -/
  serializeCsrDerWithSigner : CertificateSigningRequest → CaCertificate → Except String Bytes
  /-- The `Display` of the error `X509Certificate::from_der` returns on bytes it does not parse. -/
  x509ParseError : Bytes → String

/-- `ring::hmac::verify`: the tag is the HMAC of the message, compared in constant time. -/
def hmacVerify (lib : Libraries) (key : HmacKey) (msg : String) (tag : Bytes) : Bool :=
  lib.hmacSign key msg == tag

/-- `Certificate::builder(pubkey, cert_type, signing_key)`: a certificate for `pubkey`, to be
signed by `signing_key`, with `sshcerts`' defaults for the rest (the standard extensions for a user
certificate, none for a host certificate); it fails when the key type has no certificate type. -/
def Certificate.builder (lib : Libraries) (pubkey : PublicKey) (certType : CertType)
    (signingKey : PublicKey) : Option Certificate :=
  if lib.hasCertificateType pubkey then
    some { key := pubkey, serial := 0, certType, keyId := "", principals := [], validAfter := 0,
           validBefore := BitVec.allOnes 64, criticalOptions := [],
           extensions := match certType with
             | .user => .standard
             | .host => .custom [],
           signatureKey := signingKey, signature := [] }
  else none

/-- A small instance of the interface, to run the handlers on concrete inputs: any nonempty DER
is a certificate of `alice`, a string parses as the certificate whose `key_id` it is, self-signed
by `Libraries.sampleKey`, keys are `ssh-ed25519` followed by their material, and an armored
signature is written as its key, and verifies; a certificate signing request's first byte is its
key, and its parameters ask for a CA. -/
def Libraries.sampleKey : PublicKey := ⟨"ssh-ed25519", [7], none⟩

@[inherit_doc Libraries.sampleKey]
def Libraries.sample : Libraries where
  hmacSign key msg := key.secret ++ [msg.length.toUInt8]
  parseX509
    | [] => none
    | b :: _ => some { notAfter := BitVec.ofNat 64 (1000 * b.toNat),
                       subject := [[⟨commonNameOid, some "alice"⟩]], subjectPki := [b] }
  publicKeyFromString s :=
    if s.data.take 12 = "ssh-ed25519 ".data then
      some ⟨"ssh-ed25519", (s.data.drop 12).map (·.toNat.toUInt8), none⟩
    else none
  publicKeyToString k := "ssh-ed25519 " ++ ⟨k.kind.map (Char.ofNat ·.toNat)⟩
  fingerprint k := "SHA256:" ++ hexEncode k.kind
  certificateFromString s :=
    .ok { key := Libraries.sampleKey, serial := 0, certType := .host, keyId := s,
           principals := [], validAfter := 0, validBefore := 0, criticalOptions := [],
           extensions := .standard, signatureKey := Libraries.sampleKey, signature := [] }
  certificateToString c := c.keyId
  hasCertificateType _ := true
  signCertificate priv c := some { c with signatureKey := priv.pubkey, signature := [1] }
  certTypeName
    | .user => "user"
    | .host => "host"
  verifyPivCertificateChain cert _ := if cert = [] then none else some ⟨"SHA256:07", none⟩
  verifyU2fCertificateChain _ := none
  zstdCompress s := some (s.data.map (·.toNat.toUInt8))
  zstdDecompress bs := some ⟨bs.map (Char.ofNat ·.toNat)⟩
  sshSignatureFromArmoredString s :=
    if s.data.take 12 = "ssh-ed25519 ".data then
      some ⟨⟨"ssh-ed25519", (s.data.drop 12).map (·.toNat.toUInt8), none⟩, []⟩
    else none
  verifySshSignature _ _ _ _ := true
  issueClientCertificate p ca := some (ca.name ++ ":" ++ p.commonName, "key")
  csrFromDer
    | [] => .error "empty request"
    | b :: rest => .ok
      { params :=
          { notBefore := 0, notAfter := BitVec.allOnes 64, serialNumber := some rest,
            subjectAltNames := [.dnsName "ca.example"],
            distinguishedName := ⟨[(.commonName, "root")]⟩, isCa := .ca .unconstrained,
            keyUsages := [.keyCertSign], extendedKeyUsages := [.serverAuth],
            nameConstraints := none, crlDistributionPoints := [],
            customExtensions := [⟨[1, 2, 3], true, rest⟩],
            useAuthorityKeyIdentifierExtension := true }
        publicKey := [b] }
  serializeCsrDerWithSigner csr _ :=
    match csr.publicKey with
    | [b] => .ok [b, csr.params.keyUsages.length.toUInt8]
    | _ => .error "unsupported key"
  x509ParseError _ := "Parsing Error"

end Rustica

import Rustica.Server.Validate

/-!
# Attested X.509 issuance (`Rustica::attested_x509_certificate`)

The handler checks its one peer certificate and the PIV attestation chain, asks the authorizer,
and has the authority's attested-X.509 CA sign the caller's certificate signing request once it has
set the request's parameters from the authorization (`attestedCsr`). Since `rcgen` gives no access
to a request's key before signing, the key is checked afterwards: the new certificate's
`SubjectPublicKeyInfo` must be the attestation leaf's.

* `attestedX509Certificate` : the handler; `leBytes_spec` : the serial is written as its eight
  base-256 digits, least significant first;
* `attestedCsr_params` : the rewritten parameters do not depend on the request's own, once its CRL
  distribution points are empty, which `rcgen` leaves them when it parses a request;
* `attestedX509Certificate_issued` : what an issued certificate was signed from;
* `attested_x509_csr_overwritten` : two issuances with one authorization and one attestation sign
  the same parameters and key with the same CA, whatever the two requests carried.
-/

namespace Rustica

/-- `u64::to_le_bytes`. -/
def leBytes (x : U64) : Bytes := (List.range 8).map fun i => UInt8.ofNat (x.toNat / 256 ^ i)

/-- `leBytes x` is the eight base-256 digits of `x`, least significant first. -/
theorem leBytes_spec (x : U64) :
    (leBytes x).length = 8 ∧ Nat.ofDigits 256 ((leBytes x).map UInt8.toNat) = x.toNat := by
  refine ⟨by simp [leBytes], ?_⟩
  rw [leBytes, List.map_map, Function.comp_def, ofDigits_map_range_div,
    Nat.mod_eq_of_lt (lt_of_lt_of_eq x.isLt (by norm_num))]

/-- The certificate signing request as the handler rewrites it before signing: the names, the
serial, the constraints, the usages, the extensions and the validity all from the authorization;
only the key, and the CRL distribution points the handler does not touch, are the request's. -/
def attestedCsr (authorization : X509Authorization) (csr : CertificateSigningRequest) :
    CertificateSigningRequest :=
  { csr with params :=
    { csr.params with
      subjectAltNames := [.rfc822Name authorization.commonName]
      serialNumber := some (leBytes authorization.serial)
      isCa := .noCa
      keyUsages := [.digitalSignature]
      extendedKeyUsages := []
      nameConstraints := none
      customExtensions := authorization.extensions
      distinguishedName :=
        (DistinguishedName.new.push .organizationName ("Rustica-" ++ authorization.authority)).push
          .commonName authorization.commonName
      useAuthorityKeyIdentifierExtension := false
      notBefore := authorization.validAfter
      notAfter := authorization.validBefore } }

/-- An extension as `X509CertificateIssued` logs it: its OID's components joined with dots, and
its content in hex. -/
def extensionLogEntry (e : CustomExtension) : String × String :=
  (".".intercalate (e.oid.map toString), hexEncode e.content)

/-- `Rustica::attested_x509_certificate`. -/
def attestedX509Certificate (lib : Libraries) (srv : RusticaServer)
    (remoteAddr : Option SocketAddr) (peerCerts : Option (List Bytes))
    (request : AttestedX509CertificateRequest) :
    Emit Effect (Except Status AttestedX509CertificateResponse) := do
  let some remoteAddr := remoteAddr | return .error (Status.permissionDenied "")
  let some peerCerts := peerCerts | return .error (Status.permissionDenied "")
  let peer ← match peerCerts.head? with
    | some peer =>
      if peerCerts.length ≠ 1 then
        rusticaWarning ("Received request with multiple peer identities from " ++ remoteAddr.text)
        return .error (Status.permissionDenied "")
      pure peer
    | none => do
      rusticaError "No peer certificate was presented. Tonic issue?"
      return .error (Status.permissionDenied "")
  let .ok certInfo := extractCertificateInformation lib peer
    | return .error (Status.permissionDenied "")
  let ids := joinIdentities certInfo.identities
  let some key := lib.verifyPivCertificateChain request.attestation request.attestationIntermediate
    | return .error (Status.permissionDenied "Invalid attestation chain")
  let authority := if request.keyId.isEmpty then srv.signer.defaultAuthority else request.keyId
  let authProps : X509AuthorizationRequestProperties :=
    { authority, mtlsIdentities := certInfo.identities, requesterIp := remoteAddr.text,
      attestation := request.attestation,
      attestationIntermediate := request.attestationIntermediate, key }
  let authorization ← match ← Emit.call (.authorizeAttestedX509Cert authProps)
      (srv.authorizer.authorizeAttestedX509Cert authProps) with
    | .ok auth => pure auth
    | .error e => do
      rusticaWarning ("Authorizer rejected [" ++ ids ++
        "] from fetching new X509 certificate. Error: [" ++ e ++ "]")
      return .error (Status.permissionDenied "Not authorized")
  let csr ← match lib.csrFromDer request.csr with
    | .ok csr => pure csr
    | .error e => do
      rusticaWarning ("Invalid CSR was provided by [" ++ ids ++ "]. Error: [" ++ e ++ "]")
      return .error (Status.permissionDenied "")
  let csr := attestedCsr authorization csr
  let caCert ← match srv.signer.getAttestedX509CertificateAuthority authorization.authority with
    | .ok caCert => pure caCert
    | .error _ => return .error (Status.permissionDenied "message")
  let caCert ← match caCert with
    | some caCert => pure caCert
    | none => do
      rusticaError ("The requested authority " ++ authorization.authority ++
        " does not exist or is not configured")
      return .error (Status.permissionDenied "")
  let cert ← match lib.serializeCsrDerWithSigner csr caCert with
    | .ok cert => pure cert
    | .error _ => do
      rusticaError
        ("Could not serialize attested x509 certificate for " ++ authorization.commonName)
      return .error (Status.permissionDenied "")
  let newCertificate ← match lib.parseX509 cert with
    | some c => pure c
    | none => do
      rusticaError ("Could not parse new certificate for [" ++ ids ++ "]. Error: [" ++
        lib.x509ParseError cert ++ "]")
      return .error (Status.permissionDenied "")
  let leaf ← match lib.parseX509 request.attestation with
    | some l => pure l
    | none => do
      rusticaError ("Could not parse provided attestation for [" ++ ids ++ "]. Error: [" ++
        lib.x509ParseError request.attestation ++ "]")
      return .error (Status.permissionDenied "")
  if newCertificate.subjectPki ≠ leaf.subjectPki then
    rusticaError
      ("A CSR was submitted that didn't match their attestation chain by [" ++ ids ++ "]")
    return .error (Status.permissionDenied "")
  Emit.call (.log (.x509CertificateIssued
    { authority, mtlsIdentities := certInfo.identities,
      extensions := authorization.extensions.map extensionLogEntry,
      validAfter := authorization.validAfter, validBefore := authorization.validBefore,
      serial := authorization.serial })) ()
  return .ok { certificate := cert, error := "", errorCode := 0 }

/-! ## What is signed -/

/-- The parameters an attested certificate for the authorization `auth` is written from: the
subject `O = Rustica-` and the authority, `CN` the authorized common name, which is also the only
alternative name (an e-mail name); not a CA; digital signatures only; no extended usage, name
constraint, CRL distribution point or authority key identifier; the authorization's serial (its
little-endian bytes), extensions and validity. -/
def attestedParams (auth : X509Authorization) : CertificateParams where
  notBefore := auth.validAfter
  notAfter := auth.validBefore
  serialNumber := some (leBytes auth.serial)
  subjectAltNames := [.rfc822Name auth.commonName]
  distinguishedName :=
    ⟨[(.organizationName, "Rustica-" ++ auth.authority), (.commonName, auth.commonName)]⟩
  isCa := .noCa
  keyUsages := [.digitalSignature]
  extendedKeyUsages := []
  nameConstraints := none
  crlDistributionPoints := []
  customExtensions := auth.extensions
  useAuthorityKeyIdentifierExtension := false

/-- The handler's rewrite leaves nothing of the request's parameters but its CRL points. -/
theorem attestedCsr_params (auth : X509Authorization) (csr : CertificateSigningRequest)
    (hcrl : csr.params.crlDistributionPoints = []) :
    (attestedCsr auth csr).params = attestedParams auth := by
  simp [attestedCsr, attestedParams, DistinguishedName.push, DistinguishedName.new, hcrl]

/-- An issued certificate is signed from the authorization, the rewritten request and its CA. -/
theorem attestedX509Certificate_issued {lib : Libraries} {srv : RusticaServer}
    {remoteAddr : Option SocketAddr} {peerCerts : Option (List Bytes)}
    {request : AttestedX509CertificateRequest} {resp : AttestedX509CertificateResponse}
    (h : (attestedX509Certificate lib srv remoteAddr peerCerts request).result = .ok resp) :
    ∃ auth csr ca c leaf,
      (∃ p, Effect.authorizeAttestedX509Cert p ∈
          (attestedX509Certificate lib srv remoteAddr peerCerts request).effects ∧
        srv.authorizer.authorizeAttestedX509Cert p = .ok auth) ∧
      lib.csrFromDer request.csr = .ok csr ∧
      srv.signer.getAttestedX509CertificateAuthority auth.authority = .ok (some ca) ∧
      lib.serializeCsrDerWithSigner (attestedCsr auth csr) ca = .ok resp.certificate ∧
      lib.parseX509 resp.certificate = some c ∧ lib.parseX509 request.attestation = some leaf ∧
      c.subjectPki = leaf.subjectPki := by
  unfold attestedX509Certificate at h ⊢
  rcases remoteAddr with _ | addr
  · simp at h
  rcases peerCerts with _ | peers
  · simp at h
  rcases hp : peers.head? with _ | peer
  · simp [hp, rusticaError] at h
  by_cases hl : peers.length ≠ 1
  · simp [hp, hl, rusticaWarning] at h
  push_neg at hl
  simp only [hp, hl, ne_eq, not_true_eq_false, ↓reduceIte, Emit.bind_result, Emit.bind_effects,
    Emit.pure_result, Emit.pure_effects, List.nil_append] at h ⊢
  rcases hi : extractCertificateInformation lib peer with _ | info
  · simp [hi] at h
  rcases hk : lib.verifyPivCertificateChain request.attestation request.attestationIntermediate with
    _ | key
  · simp [hi, hk] at h
  simp only [hi, hk, Emit.bind_result, Emit.call_result, Emit.pure_result] at h
  split at h
  on_goal 2 => simp [rusticaWarning] at h
  rename_i auth ha
  simp only [Emit.bind_result, Emit.pure_result] at h
  split at h
  on_goal 2 => simp [rusticaWarning] at h
  rename_i csr hcsr
  simp only [Emit.bind_result, Emit.pure_result] at h
  split at h
  on_goal 2 => simp at h
  rename_i oca hca
  simp only [Emit.bind_result, Emit.pure_result] at h
  split at h
  on_goal 2 => simp [rusticaError] at h
  rename_i ca
  simp only [Emit.bind_result, Emit.pure_result] at h
  split at h
  on_goal 2 => simp [rusticaError] at h
  rename_i der hder
  simp only [Emit.bind_result, Emit.pure_result] at h
  split at h
  on_goal 2 => simp [rusticaError] at h
  rename_i c hc
  simp only [Emit.bind_result, Emit.pure_result] at h
  split at h
  on_goal 2 => simp [rusticaError] at h
  rename_i leaf hleaf
  simp only [Emit.bind_result, Emit.pure_result] at h
  split at h
  on_goal 1 => simp [rusticaError] at h
  rename_i hpki
  simp only [Emit.bind_result, Emit.call_result, Emit.pure_result, Except.ok.injEq] at h
  subst h
  refine ⟨auth, csr, ca, c, leaf, ⟨_, ?_, ha⟩, hcsr, hca, hder, hc, hleaf, not_not.mp hpki⟩
  simp
/-- A request without CRL points and with key `spki` is signed as `attestedParams` with `spki`. -/
theorem attestedCsr_eq (auth : X509Authorization) {csr : CertificateSigningRequest} {spki : Bytes}
    (hcrl : csr.params.crlDistributionPoints = []) (hkey : csr.publicKey = spki) :
    attestedCsr auth csr = ⟨attestedParams auth, spki⟩ := by
  rw [← attestedCsr_params auth csr hcrl, ← hkey]
  rfl

/-- Attested issuance keeps only the request's key: one authorization, one signed content. -/
theorem attested_x509_csr_overwritten (lib : Libraries) (srv : RusticaServer)
    (hcrl : ∀ der csr, lib.csrFromDer der = .ok csr → csr.params.crlDistributionPoints = [])
    (hspki : ∀ csr ca der c, lib.serializeCsrDerWithSigner csr ca = .ok der →
      lib.parseX509 der = some c → c.subjectPki = csr.publicKey)
    {remoteAddr₁ remoteAddr₂ : Option SocketAddr} {peerCerts₁ peerCerts₂ : Option (List Bytes)}
    {request₁ request₂ : AttestedX509CertificateRequest}
    {resp₁ resp₂ : AttestedX509CertificateResponse}
    (h₁ : (attestedX509Certificate lib srv remoteAddr₁ peerCerts₁ request₁).result = .ok resp₁)
    (h₂ : (attestedX509Certificate lib srv remoteAddr₂ peerCerts₂ request₂).result = .ok resp₂)
    (hatt : request₁.attestation = request₂.attestation) :
    ∃ leaf auth₁ auth₂ ca₁ ca₂ csr₁ csr₂,
      lib.parseX509 request₁.attestation = some leaf ∧
      (∃ p, Effect.authorizeAttestedX509Cert p ∈
          (attestedX509Certificate lib srv remoteAddr₁ peerCerts₁ request₁).effects ∧
        srv.authorizer.authorizeAttestedX509Cert p = .ok auth₁) ∧
      (∃ p, Effect.authorizeAttestedX509Cert p ∈
          (attestedX509Certificate lib srv remoteAddr₂ peerCerts₂ request₂).effects ∧
        srv.authorizer.authorizeAttestedX509Cert p = .ok auth₂) ∧
      lib.serializeCsrDerWithSigner csr₁ ca₁ = .ok resp₁.certificate ∧
      lib.serializeCsrDerWithSigner csr₂ ca₂ = .ok resp₂.certificate ∧
      csr₁ = ⟨attestedParams auth₁, leaf.subjectPki⟩ ∧
      csr₂ = ⟨attestedParams auth₂, leaf.subjectPki⟩ ∧
      (∃ bs, (attestedParams auth₁).serialNumber = some bs ∧ bs.length = 8 ∧
        Nat.ofDigits 256 (bs.map UInt8.toNat) = auth₁.serial.toNat) ∧
      (∃ bs, (attestedParams auth₂).serialNumber = some bs ∧ bs.length = 8 ∧
        Nat.ofDigits 256 (bs.map UInt8.toNat) = auth₂.serial.toNat) ∧
      (auth₁ = auth₂ → csr₁ = csr₂ ∧ ca₁ = ca₂) := by
  obtain ⟨auth₁, csr₁, ca₁, c₁, leaf, ha₁, hcsr₁, hca₁, hs₁, hc₁, hleaf, hpki₁⟩ :=
    attestedX509Certificate_issued h₁
  obtain ⟨auth₂, csr₂, ca₂, c₂, leaf₂, ha₂, hcsr₂, hca₂, hs₂, hc₂, hleaf₂, hpki₂⟩ :=
    attestedX509Certificate_issued h₂
  rw [← hatt, hleaf, Option.some.injEq] at hleaf₂
  subst hleaf₂
  have e₁ := attestedCsr_eq auth₁ (hcrl _ _ hcsr₁) ((hspki _ _ _ _ hs₁ hc₁).symm.trans hpki₁)
  have e₂ := attestedCsr_eq auth₂ (hcrl _ _ hcsr₂) ((hspki _ _ _ _ hs₂ hc₂).symm.trans hpki₂)
  refine ⟨leaf, auth₁, auth₂, ca₁, ca₂, _, _, hleaf, ha₁, ha₂, hs₁, hs₂, e₁, e₂,
    ⟨_, rfl, leBytes_spec auth₁.serial⟩, ⟨_, rfl, leBytes_spec auth₂.serial⟩, ?_⟩
  rintro rfl
  rw [hca₁, Except.ok.injEq, Option.some.injEq] at hca₂
  exact ⟨e₁.trans e₂.symm, hca₂⟩
/-- `RusticaServer.sample` whose authority `default` also has an attested-X.509 CA. -/
def RusticaServer.attestedSample : RusticaServer :=
  { RusticaServer.sample with
    signer := { defaultAuthority := "default",
                authorities := [("default", { Signer.sample with
                  attestedX509CertificateAuthority := some ⟨"attested"⟩ })] } }

/-- `Libraries.sample` parses requests as `rcgen` does, without CRL distribution points. -/
theorem sample_csrFromDer_crl :
    ∀ der csr, Libraries.sample.csrFromDer der = .ok csr → csr.params.crlDistributionPoints = []
  | [], _, h => by cases h
  | _ :: _, _, h => by cases h; rfl

/-- `Libraries.sample` writes the request's key into the certificate. -/
theorem sample_serialize_spki :
    ∀ csr ca der c, Libraries.sample.serializeCsrDerWithSigner csr ca = .ok der →
      Libraries.sample.parseX509 der = some c → c.subjectPki = csr.publicKey := by
  intro csr ca der c h hc
  simp only [Libraries.sample] at h
  split at h
  · rename_i b hb
    cases h
    simp only [Libraries.sample, Option.some.injEq] at hc
    rw [← hc, hb]
  · cases h

/-- Two requests with one attestation and different CSRs get the same certificate. -/
theorem attested_x509_csr_overwritten_sample :
    (∀ der csr, Libraries.sample.csrFromDer der = .ok csr →
      csr.params.crlDistributionPoints = []) ∧
    (∀ csr ca der c, Libraries.sample.serializeCsrDerWithSigner csr ca = .ok der →
      Libraries.sample.parseX509 der = some c → c.subjectPki = csr.publicKey) ∧
    (attestedX509Certificate Libraries.sample RusticaServer.attestedSample (some SocketAddr.sample)
      (some [[1]]) ⟨[5, 1], [5], [6], ""⟩).result = .ok ⟨[5, 1], "", 0⟩ ∧
    (attestedX509Certificate Libraries.sample RusticaServer.attestedSample (some SocketAddr.sample)
      (some [[1]]) ⟨[5, 2, 2], [5], [6], ""⟩).result = .ok ⟨[5, 1], "", 0⟩ ∧
    ∃ leaf auth₁ auth₂ ca₁ ca₂ csr₁ csr₂,
      Libraries.sample.parseX509 [5] = some leaf ∧
      (∃ p, Effect.authorizeAttestedX509Cert p ∈
          (attestedX509Certificate Libraries.sample RusticaServer.attestedSample
            (some SocketAddr.sample) (some [[1]]) ⟨[5, 1], [5], [6], ""⟩).effects ∧
        RusticaServer.attestedSample.authorizer.authorizeAttestedX509Cert p = .ok auth₁) ∧
      (∃ p, Effect.authorizeAttestedX509Cert p ∈
          (attestedX509Certificate Libraries.sample RusticaServer.attestedSample
            (some SocketAddr.sample) (some [[1]]) ⟨[5, 2, 2], [5], [6], ""⟩).effects ∧
        RusticaServer.attestedSample.authorizer.authorizeAttestedX509Cert p = .ok auth₂) ∧
      Libraries.sample.serializeCsrDerWithSigner csr₁ ca₁ = .ok [5, 1] ∧
      Libraries.sample.serializeCsrDerWithSigner csr₂ ca₂ = .ok [5, 1] ∧
      csr₁ = ⟨attestedParams auth₁, leaf.subjectPki⟩ ∧
      csr₂ = ⟨attestedParams auth₂, leaf.subjectPki⟩ ∧
      (∃ bs, (attestedParams auth₁).serialNumber = some bs ∧ bs.length = 8 ∧
        Nat.ofDigits 256 (bs.map UInt8.toNat) = auth₁.serial.toNat) ∧
      (∃ bs, (attestedParams auth₂).serialNumber = some bs ∧ bs.length = 8 ∧
        Nat.ofDigits 256 (bs.map UInt8.toNat) = auth₂.serial.toNat) ∧
      (auth₁ = auth₂ → csr₁ = csr₂ ∧ ca₁ = ca₂) :=
  have h₁ : (attestedX509Certificate Libraries.sample RusticaServer.attestedSample
      (some SocketAddr.sample) (some [[1]]) ⟨[5, 1], [5], [6], ""⟩).result = .ok ⟨[5, 1], "", 0⟩ :=
    rfl
  have h₂ : (attestedX509Certificate Libraries.sample RusticaServer.attestedSample
      (some SocketAddr.sample) (some [[1]]) ⟨[5, 2, 2], [5], [6], ""⟩).result =
      .ok ⟨[5, 1], "", 0⟩ := rfl
  ⟨sample_csrFromDer_crl, sample_serialize_spki, h₁, h₂,
    attested_x509_csr_overwritten _ _ sample_csrFromDer_crl sample_serialize_spki h₁ h₂ rfl⟩

end Rustica

import Rustica.Server.Validate
import Rustica.Registry

/-!
# The SSH certificate endpoint (`Rustica::certificate`)

`certificate` is cut where the source's checks end and the issuance begins:

* `checkCertificateRequest` : the checks between `validate_request` and the authorizer, in order:
  the validity window against the clock, the certificate type, the authority's SSH key;
* `issueCertificate` : the authorizer call, the certificate composed from the authorization, the
  signer call and the self-check parse, the renewed mTLS certificate, the `CertificateIssued` event;
* `certificate_gating` : the authorizer is reached exactly when every check passes, and a failed
  check answers with its own error code having called nothing;
* `certificate_success` : what a `Success` response carries;
* `certificate_issued_log` : what it signed and logged; `certificate_issuer_consistent` : for
  backends that sign as `sshcerts` does, in a registry `convert_to_signing_mechanism` built, the
  certificate, the backend that signed it and the event all name the authorization's authority;
* `issueCertificate_eq_ok` : what an answer of the issuance can be, from which both what a
  `Success` signed and where a renewed mTLS certificate comes from are read;
* `renewed_certificate_identities` : the renewed mTLS certificate names the caller's first identity
  as its `CommonName` and all of them as its alternative names, so it reads back as the caller's
  identity list only when that list has one name.
-/

namespace Rustica

/-- `create_response(e)`: an error response, with the code and its `Debug` name. -/
def createResponse (e : RusticaServerError) : CertificateResponse :=
  ⟨"", e.debug, e, "", ""⟩

/-- The request's `cert_type`: `1` is `User`, `2` is `Host`. -/
def certTypeOfNat : Nat → Option CertType
  | 1 => some .user
  | 2 => some .host
  | _ => none

/-- The authority a request names: its `key_id`, or the default authority when that is empty. -/
def selectedAuthority (srv : RusticaServer) (request : CertificateRequest) : String :=
  if request.keyId.isEmpty then srv.signer.defaultAuthority else request.keyId

/-- The checks of `certificate` after `validate_request`, at the clock reading `now`; on success
the certificate type, the selected authority and its SSH key of that type. -/
def checkCertificateRequest (srv : RusticaServer) (request : CertificateRequest) (now : U64) :
    Except RusticaServerError (CertType × String × PublicKey) :=
  if request.validBefore < request.validAfter || now > request.validBefore then
    .error .badCertOptions
  else match certTypeOfNat request.certType with
    | none => .error .badCertOptions
    | some certType =>
      let authority := selectedAuthority srv request
      match srv.signer.getSignerPublicKey authority certType with
      | .ok caCert => .ok (certType, authority, caCert)
      | .error _ => .error .notAuthorized

/-- The `critical_options` map, as its entries: `force-command` when the authorization forces a
command, `source-address` (the caller's IP) when it forces the source address. -/
def criticalOptions (authorization : Authorization) (ip : String) : List (String × String) :=
  (authorization.forceCommand.map ("force-command", ·)).toList ++
    if authorization.forceSourceIp then [("source-address", ip)] else []

/-- `Certificate::builder(pubkey, cert_type, ca_cert)` and its setters, from the authorization. -/
def composeCertificate (lib : Libraries) (pubkey : PublicKey) (certType : CertType)
    (caCert : PublicKey) (authorization : Authorization) (fingerprint : String)
    (criticalOptions : List (String × String)) : Option Certificate :=
  (Certificate.builder lib pubkey certType caCert).map fun cert =>
    { cert with serial := authorization.serial, keyId := "Rustica-JITC-for-" ++ fingerprint,
                principals := authorization.principals, validAfter := authorization.validAfter,
                validBefore := authorization.validBefore, criticalOptions,
                extensions := authorization.extensions }

/-- The renewed mTLS certificate, when `validate_request` asked for one and the client authority
has a CA: `none` when `rcgen` fails (an `unwrap` that panics). -/
def renewClientCertificate (lib : Libraries) (srv : RusticaServer) (identities : List String)
    (refresh : Option CertificateRefreshSettings) (reply : CertificateResponse) :
    Option CertificateResponse :=
  match refresh, srv.signer.getClientCertificateAuthority srv.clientAuthority.authority with
  | some settings, .ok (some ca) =>
    (lib.issueClientCertificate
        { subjectAltNames := identities, notBefore := settings.notBefore,
          notAfter := settings.notAfter, commonName := identities.head?.getD "" } ca).map
      fun (pem, key) => { reply with newClientKey := key, newClientCertificate := pem }
  | _, _ => some reply

/-- The properties sent to `authorize_ssh_cert`. -/
def sshAuthorizationProperties (lib : Libraries) (addr : SocketAddr) (request : CertificateRequest)
    (sshPubkey : PublicKey) (identities : List String) (certType : CertType) (authority : String) :
    SshAuthorizationRequestProperties :=
  { fingerprint := lib.fingerprint sshPubkey, mtlsIdentities := identities, requesterIp := addr.text,
    principals := request.principals, servers := request.servers, certType,
    validAfter := request.validAfter, validBefore := request.validBefore, authority }

/-- The part of `certificate` from the authorizer call on, once every check has passed. -/
def issueCertificate (lib : Libraries) (srv : RusticaServer) (addr : SocketAddr)
    (request : CertificateRequest) (sshPubkey : PublicKey) (mtlsIdentities : List String)
    (mtlsRefresh : Option CertificateRefreshSettings) (reqCertType : CertType) (authority : String)
    (caCert : PublicKey) : Emit Effect (Except Status CertificateResponse) := do
  let fingerprint := lib.fingerprint sshPubkey
  let authProps :=
    sshAuthorizationProperties lib addr request sshPubkey mtlsIdentities reqCertType authority
  let authorization ← match ← Emit.call (.authorizeSshCert authProps)
      (srv.authorizer.authorizeSshCert authProps) with
    | .ok auth => pure auth
    | .error e => return .ok (createResponse e)
  let options := criticalOptions authorization addr.ip
  let some cert := composeCertificate lib sshPubkey reqCertType caCert authorization fingerprint
      options | return .error (Status.permissionDenied "")
  let serializedCert ← match ← Emit.call (.sign authorization.authority cert)
      (srv.signer.sign authorization.authority cert) with
    | .ok cert =>
      let serialized := lib.certificateToString cert
      match lib.certificateFromString serialized with
      | .ok _ => pure serialized
      | .error e => do
        rusticaError ("Couldn't deserialize certificate: " ++ e)
        return .ok (createResponse .badCertOptions)
    | .error e => do
      rusticaError ("Creating certificate failed: " ++ e.toString)
      return .ok (createResponse .badChallenge)
  let reply : CertificateResponse :=
    { certificate := serializedCert, error := "", errorCode := .success,
      newClientCertificate := "", newClientKey := "" }
  let some reply := renewClientCertificate lib srv mtlsIdentities mtlsRefresh reply
    | return .error Status.panic
  Emit.call (.log (.certificateIssued
    { fingerprint, signedBy := lib.fingerprint caCert, authority, serial := authorization.serial,
      certificateType := lib.certTypeName reqCertType, mtlsIdentities,
      principals := authorization.principals, extensions := authorization.extensions,
      criticalOptions := options, validAfter := authorization.validAfter,
      validBefore := authorization.validBefore,
      newAccessCertificateIssued := mtlsRefresh.isSome })) ()
  return .ok reply

/-- The handler's clock reading in seconds, `u64::MAX` when the clock is before the epoch. -/
def currentTimestamp (clock : Option U64) : U64 := clock.getD (BitVec.allOnes 64)

/-- `Rustica::certificate`. `validateClock` is the clock as `validate_request` reads it, `clock` as
the handler reads it after (`none` before the epoch). -/
def certificate (lib : Libraries) (srv : RusticaServer) (remoteAddr : Option SocketAddr)
    (peerCerts : Option (List Bytes)) (request : CertificateRequest)
    (validateClock clock : Option U64) : Emit Effect (Except Status CertificateResponse) := do
  let some addr := remoteAddr | return .error (Status.permissionDenied "")
  let (some challenge, some peer) := (request.challenge, peerCerts)
    | return .ok (createResponse .badRequest)
  match ← validateRequest lib srv srv.hmacKey peer challenge validateClock with
  | .error e => return .ok (createResponse e)
  | .ok (sshPubkey, mtlsIdentities, mtlsRefresh) =>
    match checkCertificateRequest srv request (currentTimestamp clock) with
    | .error e => return .ok (createResponse e)
    | .ok (reqCertType, authority, caCert) =>
      issueCertificate lib srv addr request sshPubkey mtlsIdentities mtlsRefresh reqCertType
        authority caCert

/-! ## Samples -/

/-- The challenge `validateRequest_sound_alice` accepts. -/
def Challenge.sample : Challenge := ⟨"100", "ssh-ed25519 k", "2a17"⟩

/-- `alice`'s request for a user certificate valid from `100` to `200`, answering
`Challenge.sample`. -/
def CertificateRequest.sample : CertificateRequest :=
  ⟨some Challenge.sample, 1, "", ["alice"], [], 200, 100⟩

/-! ## The checks before the authorizer -/

theorem certTypeOfNat_eq_none {n : Nat} : certTypeOfNat n = none ↔ ¬(n = 1 ∨ n = 2) := by
  unfold certTypeOfNat
  split <;> simp_all

section Check
variable {srv : RusticaServer} {request : CertificateRequest} {now : U64}

theorem checkCertificateRequest_window
    (hw : ¬(request.validAfter ≤ request.validBefore ∧ now ≤ request.validBefore)) :
    checkCertificateRequest srv request now = .error .badCertOptions := by
  have : (decide (request.validBefore < request.validAfter) || decide (now > request.validBefore))
      = true := by
    simp only [Bool.or_eq_true, decide_eq_true_eq]
    rw [not_and_or] at hw
    exact hw.imp BitVec.not_le.mp BitVec.not_le.mp
  rw [checkCertificateRequest, if_pos this]

theorem checkCertificateRequest_of_window
    (hw : request.validAfter ≤ request.validBefore ∧ now ≤ request.validBefore) :
    checkCertificateRequest srv request now =
      match certTypeOfNat request.certType with
      | none => .error .badCertOptions
      | some certType =>
        match srv.signer.getSignerPublicKey (selectedAuthority srv request) certType with
        | .ok caCert => .ok (certType, selectedAuthority srv request, caCert)
        | .error _ => .error .notAuthorized := by
  have : ¬(decide (request.validBefore < request.validAfter) || decide (now > request.validBefore))
      = true := by simpa using hw
  rw [checkCertificateRequest, if_neg this]

theorem checkCertificateRequest_eq_ok {ct : CertType} {authority : String} {caCert : PublicKey} :
    checkCertificateRequest srv request now = .ok (ct, authority, caCert) ↔
      request.validAfter ≤ request.validBefore ∧ now ≤ request.validBefore ∧
      certTypeOfNat request.certType = some ct ∧ authority = selectedAuthority srv request ∧
      srv.signer.getSignerPublicKey authority ct = .ok caCert := by
  by_cases hw : request.validAfter ≤ request.validBefore ∧ now ≤ request.validBefore
  · simp only [checkCertificateRequest_of_window hw, hw, true_and]
    rcases certTypeOfNat request.certType with _ | c
    · simp
    simp only [Option.some.injEq]
    split
    next k hk =>
      simp only [Except.ok.injEq, Prod.mk.injEq]
      constructor
      · rintro ⟨rfl, rfl, rfl⟩; exact ⟨rfl, rfl, hk⟩
      · rintro ⟨rfl, rfl, h⟩; rw [hk] at h; cases h; exact ⟨rfl, rfl, rfl⟩
    next hk =>
      simp only [reduceCtorEq, false_iff, not_and]
      rintro rfl rfl h; rw [hk] at h; cases h
  · simp only [checkCertificateRequest_window hw, reduceCtorEq, false_iff]
    exact fun h => hw ⟨h.1, h.2.1⟩

theorem checkCertificateRequest_ne_success (srv : RusticaServer) (request : CertificateRequest)
    (now : U64) : checkCertificateRequest srv request now ≠ .error .success := by
  by_cases hw : request.validAfter ≤ request.validBefore ∧ now ≤ request.validBefore
  · rw [checkCertificateRequest_of_window hw]
    rcases certTypeOfNat request.certType with _ | c
    · simp
    dsimp only
    split <;> simp
  · simp [checkCertificateRequest_window hw]

theorem composeCertificate_eq_some {lib : Libraries} {pubkey : PublicKey} {ct : CertType}
    {caCert : PublicKey} {auth : Authorization} {fp : String} {opts : List (String × String)}
    {cert : Certificate} (h : composeCertificate lib pubkey ct caCert auth fp opts = some cert) :
    cert = { key := pubkey, serial := auth.serial, certType := ct, keyId := "Rustica-JITC-for-" ++ fp,
             principals := auth.principals, validAfter := auth.validAfter,
             validBefore := auth.validBefore, criticalOptions := opts, extensions := auth.extensions,
             signatureKey := caCert, signature := [] } := by
  unfold composeCertificate Certificate.builder at h
  split at h
  · simp only [Option.map_some', Option.some.injEq] at h
    exact h.symm
  · cases h

end Check

/-! ## The handler up to the authorizer -/

section Handler
variable {lib : Libraries} {srv : RusticaServer} {addr : SocketAddr} {peer : List Bytes}
  {request : CertificateRequest} {ch : Challenge} {vclock clock : Option U64}

theorem certificate_of_validate_error (hch : request.challenge = some ch) {e : RusticaServerError}
    (hv : (validateRequest lib srv srv.hmacKey peer ch vclock).result = .error e) :
    (certificate lib srv (some addr) (some peer) request vclock clock).effects =
      (validateRequest lib srv srv.hmacKey peer ch vclock).effects ∧
    (certificate lib srv (some addr) (some peer) request vclock clock).result =
      .ok (createResponse e) := by
  simp [certificate, hch, hv]

theorem certificate_of_check_error (hch : request.challenge = some ch) {x : ValidatedRequest}
    (hv : (validateRequest lib srv srv.hmacKey peer ch vclock).result = .ok x)
    {e : RusticaServerError}
    (hc : checkCertificateRequest srv request (currentTimestamp clock) = .error e) :
    (certificate lib srv (some addr) (some peer) request vclock clock).effects =
      (validateRequest lib srv srv.hmacKey peer ch vclock).effects ∧
    (certificate lib srv (some addr) (some peer) request vclock clock).result =
      .ok (createResponse e) := by
  simp [certificate, hch, hv, hc]

theorem certificate_of_check_ok (hch : request.challenge = some ch) {k : PublicKey}
    {ids : List String} {r : Option CertificateRefreshSettings}
    (hv : (validateRequest lib srv srv.hmacKey peer ch vclock).result = .ok (k, ids, r))
    {ct : CertType} {authority : String} {caCert : PublicKey}
    (hc : checkCertificateRequest srv request (currentTimestamp clock) = .ok (ct, authority, caCert)) :
    (certificate lib srv (some addr) (some peer) request vclock clock).effects =
      (validateRequest lib srv srv.hmacKey peer ch vclock).effects ++
        (issueCertificate lib srv addr request k ids r ct authority caCert).effects ∧
    (certificate lib srv (some addr) (some peer) request vclock clock).result =
      (issueCertificate lib srv addr request k ids r ct authority caCert).result := by
  simp [certificate, hch, hv, hc]

/-- A failed check answers with its code, having only logged. -/
theorem certificate_rejects (hch : request.challenge = some ch) {e : RusticaServerError}
    (he : (validateRequest lib srv srv.hmacKey peer ch vclock).result = .error e ∨
      ∃ x, (validateRequest lib srv srv.hmacKey peer ch vclock).result = .ok x ∧
        checkCertificateRequest srv request (currentTimestamp clock) = .error e) :
    OnlyLogs (certificate lib srv (some addr) (some peer) request vclock clock).effects ∧
    (certificate lib srv (some addr) (some peer) request vclock clock).result =
      .ok (createResponse e) := by
  have key : (certificate lib srv (some addr) (some peer) request vclock clock).effects =
        (validateRequest lib srv srv.hmacKey peer ch vclock).effects ∧
      (certificate lib srv (some addr) (some peer) request vclock clock).result =
        .ok (createResponse e) := by
    rcases he with hv | ⟨x, hv, hc⟩
    · exact certificate_of_validate_error hch hv
    · exact certificate_of_check_error hch hv hc
  exact ⟨key.1 ▸ validateRequest_onlyLogs lib srv srv.hmacKey peer ch vclock, key.2⟩

theorem issueCertificate_calls_authorizer {k : PublicKey} {ids : List String}
    {r : Option CertificateRefreshSettings} {ct : CertType} {authority : String}
    {caCert : PublicKey} :
    ∃ rest, (issueCertificate lib srv addr request k ids r ct authority caCert).effects =
      .authorizeSshCert (sshAuthorizationProperties lib addr request k ids ct authority) :: rest :=
  ⟨_, rfl⟩

/-- The authorizer is reached exactly when every check passes; a failed check answers with its code. -/
theorem certificate_gating (lib : Libraries) (srv : RusticaServer) (addr : SocketAddr)
    (peer : List Bytes) (request : CertificateRequest) (ch : Challenge) (vclock clock : Option U64)
    (hch : request.challenge = some ch) :
    ((∃ p, Effect.authorizeSshCert p ∈
        (certificate lib srv (some addr) (some peer) request vclock clock).effects) →
      (∃ x, (validateRequest lib srv srv.hmacKey peer ch vclock).result = .ok x) ∧
      request.validAfter ≤ request.validBefore ∧ currentTimestamp clock ≤ request.validBefore ∧
      (request.certType = 1 ∨ request.certType = 2) ∧
      ∃ ct k, certTypeOfNat request.certType = some ct ∧
        srv.signer.getSignerPublicKey
          (if request.keyId.isEmpty then srv.signer.defaultAuthority else request.keyId) ct = .ok k) ∧
    (∀ e, (validateRequest lib srv srv.hmacKey peer ch vclock).result = .error e →
      OnlyLogs (certificate lib srv (some addr) (some peer) request vclock clock).effects ∧
      (certificate lib srv (some addr) (some peer) request vclock clock).result =
        .ok (createResponse e)) ∧
    (∀ x, (validateRequest lib srv srv.hmacKey peer ch vclock).result = .ok x →
      (¬(request.validAfter ≤ request.validBefore ∧ currentTimestamp clock ≤ request.validBefore) →
        OnlyLogs (certificate lib srv (some addr) (some peer) request vclock clock).effects ∧
        (certificate lib srv (some addr) (some peer) request vclock clock).result =
          .ok (createResponse .badCertOptions)) ∧
      (request.validAfter ≤ request.validBefore → currentTimestamp clock ≤ request.validBefore →
        ¬(request.certType = 1 ∨ request.certType = 2) →
        OnlyLogs (certificate lib srv (some addr) (some peer) request vclock clock).effects ∧
        (certificate lib srv (some addr) (some peer) request vclock clock).result =
          .ok (createResponse .badCertOptions)) ∧
      (request.validAfter ≤ request.validBefore → currentTimestamp clock ≤ request.validBefore →
        ∀ ct, certTypeOfNat request.certType = some ct →
        (∀ k, srv.signer.getSignerPublicKey
          (if request.keyId.isEmpty then srv.signer.defaultAuthority else request.keyId) ct ≠ .ok k) →
        OnlyLogs (certificate lib srv (some addr) (some peer) request vclock clock).effects ∧
        (certificate lib srv (some addr) (some peer) request vclock clock).result =
          .ok (createResponse .notAuthorized)) ∧
      (request.validAfter ≤ request.validBefore → currentTimestamp clock ≤ request.validBefore →
        ∀ ct k, certTypeOfNat request.certType = some ct →
        srv.signer.getSignerPublicKey
          (if request.keyId.isEmpty then srv.signer.defaultAuthority else request.keyId) ct = .ok k →
        ∃ p, Effect.authorizeSshCert p ∈
          (certificate lib srv (some addr) (some peer) request vclock clock).effects)) := by
  refine ⟨fun ⟨p, hp⟩ => ?_, fun e hv => certificate_rejects hch (.inl hv),
    fun x hv => ⟨fun hw => certificate_rejects hch (.inr ⟨x, hv, checkCertificateRequest_window hw⟩),
      fun h1 h2 ht => certificate_rejects hch (.inr ⟨x, hv, ?_⟩),
      fun h1 h2 ct hct hk => certificate_rejects hch (.inr ⟨x, hv, ?_⟩), fun h1 h2 ct k hct hk => ?_⟩⟩
  · rcases hv : (validateRequest lib srv srv.hmacKey peer ch vclock).result with e | ⟨k, ids, r⟩
    · exact absurd hp (not_authorizeSshCert_mem_of_onlyLogs (certificate_rejects hch (.inl hv)).1 p)
    rcases hc : checkCertificateRequest srv request (currentTimestamp clock) with e | ⟨ct, a, ca⟩
    · exact absurd hp (not_authorizeSshCert_mem_of_onlyLogs
        (certificate_rejects hch (.inr ⟨_, hv, hc⟩)).1 p)
    obtain ⟨hw1, hw2, hct, rfl, hk⟩ := checkCertificateRequest_eq_ok.mp hc
    refine ⟨⟨_, rfl⟩, hw1, hw2, ?_, ct, ca, hct, hk⟩
    by_contra hn
    rw [← certTypeOfNat_eq_none] at hn
    simp [hn] at hct
  · rw [checkCertificateRequest_of_window ⟨h1, h2⟩, certTypeOfNat_eq_none.mpr ht]
  · rw [checkCertificateRequest_of_window ⟨h1, h2⟩, hct]
    dsimp only
    split
    next k' hk' => exact absurd hk' (hk k')
    next => rfl
  · obtain ⟨k', ids, r⟩ := x
    have hc := checkCertificateRequest_eq_ok.mpr ⟨h1, h2, hct, rfl, hk⟩
    obtain ⟨rest, hrest⟩ :=
      @issueCertificate_calls_authorizer lib srv addr request k' ids r ct (selectedAuthority srv request) k
    refine ⟨sshAuthorizationProperties lib addr request k' ids ct (selectedAuthority srv request), ?_⟩
    rw [(certificate_of_check_ok hch hv hc).1, hrest]
    exact List.mem_append_right _ (List.mem_cons_self _ _)

/-- `alice`'s request of the samples, which passes every check. -/
theorem certificate_gating_alice :
    CertificateRequest.sample.challenge = some Challenge.sample ∧
    ((∃ p, Effect.authorizeSshCert p ∈
        (certificate Libraries.sample RusticaServer.sample (some SocketAddr.sample) (some [[1]])
          CertificateRequest.sample (some 102) (some 150)).effects) →
      (∃ x, (validateRequest Libraries.sample RusticaServer.sample RusticaServer.sample.hmacKey [[1]]
          Challenge.sample (some 102)).result = .ok x) ∧
      CertificateRequest.sample.validAfter ≤ CertificateRequest.sample.validBefore ∧
      currentTimestamp (some 150) ≤ CertificateRequest.sample.validBefore ∧
      (CertificateRequest.sample.certType = 1 ∨ CertificateRequest.sample.certType = 2) ∧
      ∃ ct k, certTypeOfNat CertificateRequest.sample.certType = some ct ∧
        RusticaServer.sample.signer.getSignerPublicKey
          (if CertificateRequest.sample.keyId.isEmpty then
            RusticaServer.sample.signer.defaultAuthority else CertificateRequest.sample.keyId) ct = .ok k) ∧
    (∀ e, (validateRequest Libraries.sample RusticaServer.sample RusticaServer.sample.hmacKey [[1]]
          Challenge.sample (some 102)).result = .error e →
      OnlyLogs (certificate Libraries.sample RusticaServer.sample (some SocketAddr.sample) (some [[1]])
          CertificateRequest.sample (some 102) (some 150)).effects ∧
      (certificate Libraries.sample RusticaServer.sample (some SocketAddr.sample) (some [[1]])
          CertificateRequest.sample (some 102) (some 150)).result = .ok (createResponse e)) ∧
    (∀ x, (validateRequest Libraries.sample RusticaServer.sample RusticaServer.sample.hmacKey [[1]]
          Challenge.sample (some 102)).result = .ok x →
      (¬(CertificateRequest.sample.validAfter ≤ CertificateRequest.sample.validBefore ∧
          currentTimestamp (some 150) ≤ CertificateRequest.sample.validBefore) →
        OnlyLogs (certificate Libraries.sample RusticaServer.sample (some SocketAddr.sample) (some [[1]])
          CertificateRequest.sample (some 102) (some 150)).effects ∧
        (certificate Libraries.sample RusticaServer.sample (some SocketAddr.sample) (some [[1]])
          CertificateRequest.sample (some 102) (some 150)).result = .ok (createResponse .badCertOptions)) ∧
      (CertificateRequest.sample.validAfter ≤ CertificateRequest.sample.validBefore →
        currentTimestamp (some 150) ≤ CertificateRequest.sample.validBefore →
        ¬(CertificateRequest.sample.certType = 1 ∨ CertificateRequest.sample.certType = 2) →
        OnlyLogs (certificate Libraries.sample RusticaServer.sample (some SocketAddr.sample) (some [[1]])
          CertificateRequest.sample (some 102) (some 150)).effects ∧
        (certificate Libraries.sample RusticaServer.sample (some SocketAddr.sample) (some [[1]])
          CertificateRequest.sample (some 102) (some 150)).result = .ok (createResponse .badCertOptions)) ∧
      (CertificateRequest.sample.validAfter ≤ CertificateRequest.sample.validBefore →
        currentTimestamp (some 150) ≤ CertificateRequest.sample.validBefore →
        ∀ ct, certTypeOfNat CertificateRequest.sample.certType = some ct →
        (∀ k, RusticaServer.sample.signer.getSignerPublicKey
          (if CertificateRequest.sample.keyId.isEmpty then
            RusticaServer.sample.signer.defaultAuthority else CertificateRequest.sample.keyId) ct ≠ .ok k) →
        OnlyLogs (certificate Libraries.sample RusticaServer.sample (some SocketAddr.sample) (some [[1]])
          CertificateRequest.sample (some 102) (some 150)).effects ∧
        (certificate Libraries.sample RusticaServer.sample (some SocketAddr.sample) (some [[1]])
          CertificateRequest.sample (some 102) (some 150)).result = .ok (createResponse .notAuthorized)) ∧
      (CertificateRequest.sample.validAfter ≤ CertificateRequest.sample.validBefore →
        currentTimestamp (some 150) ≤ CertificateRequest.sample.validBefore →
        ∀ ct k, certTypeOfNat CertificateRequest.sample.certType = some ct →
        RusticaServer.sample.signer.getSignerPublicKey
          (if CertificateRequest.sample.keyId.isEmpty then
            RusticaServer.sample.signer.defaultAuthority else CertificateRequest.sample.keyId) ct = .ok k →
        ∃ p, Effect.authorizeSshCert p ∈ (certificate Libraries.sample RusticaServer.sample (some SocketAddr.sample) (some [[1]])
          CertificateRequest.sample (some 102) (some 150)).effects)) :=
  ⟨rfl, certificate_gating _ _ _ _ _ _ _ _ rfl⟩

end Handler

/-! ## Issuance -/

section Issue
variable {lib : Libraries} {srv : RusticaServer} {addr : SocketAddr} {request : CertificateRequest}
  {k : PublicKey} {ids : List String} {r : Option CertificateRefreshSettings} {ct : CertType}
  {authority : String} {caCert : PublicKey}

theorem renewClientCertificate_eq_some {reply reply' : CertificateResponse}
    (h : renewClientCertificate lib srv ids r reply = some reply') :
    reply'.certificate = reply.certificate ∧ reply'.errorCode = reply.errorCode := by
  unfold renewClientCertificate at h
  split at h
  · obtain ⟨_, -, rfl⟩ := Option.map_eq_some'.mp h
    exact ⟨rfl, rfl⟩
  · cases h; exact ⟨rfl, rfl⟩

theorem renewClientCertificate_new {reply reply' : CertificateResponse}
    (h : renewClientCertificate lib srv ids r reply = some reply')
    (hnew : reply'.newClientCertificate ≠ reply.newClientCertificate) :
    ∃ settings ca, r = some settings ∧
      srv.signer.getClientCertificateAuthority srv.clientAuthority.authority = .ok (some ca) ∧
      lib.issueClientCertificate
          { subjectAltNames := ids, notBefore := settings.notBefore, notAfter := settings.notAfter,
            commonName := ids.head?.getD "" } ca =
        some (reply'.newClientCertificate, reply'.newClientKey) := by
  unfold renewClientCertificate at h
  split at h
  · rename_i settings ca hca
    obtain ⟨⟨pem, key⟩, hi, rfl⟩ := Option.map_eq_some'.mp h
    exact ⟨settings, ca, rfl, hca, hi⟩
  · cases h; exact absurd rfl hnew

/-- The issuance answers an error response or the signed certificate's reply. -/
theorem issueCertificate_eq_ok {resp : CertificateResponse}
    (h : (issueCertificate lib srv addr request k ids r ct authority caCert).result = .ok resp) :
    (∃ e, resp = createResponse e ∧ (srv.authorizer.authorizeSshCert
      (sshAuthorizationProperties lib addr request k ids ct authority) = .error e ∨ e ≠ .success)) ∨
    ∃ auth cert signed c,
      srv.authorizer.authorizeSshCert (sshAuthorizationProperties lib addr request k ids ct authority) =
        .ok auth ∧
      composeCertificate lib k ct caCert auth (lib.fingerprint k) (criticalOptions auth addr.ip) =
        some cert ∧
      srv.signer.sign auth.authority cert = .ok signed ∧
      lib.certificateFromString (lib.certificateToString signed) = .ok c ∧
      renewClientCertificate lib srv ids r
        { certificate := lib.certificateToString signed, error := "", errorCode := .success,
          newClientCertificate := "", newClientKey := "" } = some resp := by
  unfold issueCertificate at h
  rcases ha : srv.authorizer.authorizeSshCert
      (sshAuthorizationProperties lib addr request k ids ct authority) with e | auth
  · simp only [ha, Emit.bind_result, Emit.call_result, Emit.pure_result, Except.ok.injEq] at h
    exact .inl ⟨e, h.symm, .inl rfl⟩
  simp only [ha, Emit.bind_result, Emit.call_result, Emit.pure_result] at h
  rcases hc : composeCertificate lib k ct caCert auth (lib.fingerprint k)
      (criticalOptions auth addr.ip) with _ | cert
  · simp [hc] at h
  simp only [hc, Emit.bind_result, Emit.call_result, Emit.pure_result] at h
  rcases hsg : srv.signer.sign auth.authority cert with e | signed
  · simp only [hsg, rusticaError, Emit.bind_result, Emit.call_result, Emit.pure_result,
      Except.ok.injEq] at h
    exact .inl ⟨_, h.symm, .inr (by decide)⟩
  simp only [hsg, Emit.bind_result, Emit.call_result, Emit.pure_result] at h
  rcases hp : lib.certificateFromString (lib.certificateToString signed) with e | c
  · simp only [hp, rusticaError, Emit.bind_result, Emit.call_result, Emit.pure_result,
      Except.ok.injEq] at h
    exact .inl ⟨_, h.symm, .inr (by decide)⟩
  simp only [hp, Emit.bind_result, Emit.call_result, Emit.pure_result] at h
  split at h
  next reply hr =>
    simp only [Emit.bind_result, Emit.call_result, Emit.pure_result, Except.ok.injEq] at h
    exact .inr ⟨auth, cert, signed, c, rfl, hc, hsg, hp, h ▸ hr⟩
  next => cases h

theorem issueCertificate_success {resp : CertificateResponse}
    (h : (issueCertificate lib srv addr request k ids r ct authority caCert).result = .ok resp)
    (hs : resp.errorCode = .success) :
    ∃ auth cert signed,
      srv.authorizer.authorizeSshCert (sshAuthorizationProperties lib addr request k ids ct authority) =
        .ok auth ∧
      composeCertificate lib k ct caCert auth (lib.fingerprint k) (criticalOptions auth addr.ip) =
        some cert ∧
      srv.signer.sign auth.authority cert = .ok signed ∧
      (∃ c, lib.certificateFromString (lib.certificateToString signed) = .ok c) ∧
      resp.certificate = lib.certificateToString signed := by
  rcases issueCertificate_eq_ok h with ⟨e, rfl, he⟩ | ⟨auth, cert, signed, c, ha, hc, hsg, hp, hr⟩
  · cases (hs : e = .success)
    exact (he.elim (srv.authorizer.authorizeSshCert_ne_success _) fun he => he rfl).elim
  · exact ⟨auth, cert, signed, ha, hc, hsg, ⟨c, hp⟩, (renewClientCertificate_eq_some hr).1⟩

/-- A renewed client certificate is `rcgen`'s, for the validated identities and window. -/
theorem issueCertificate_renewed {resp : CertificateResponse}
    (h : (issueCertificate lib srv addr request k ids r ct authority caCert).result = .ok resp)
    (hnew : resp.newClientCertificate ≠ "") :
    ∃ settings ca, r = some settings ∧
      srv.signer.getClientCertificateAuthority srv.clientAuthority.authority = .ok (some ca) ∧
      lib.issueClientCertificate
          { subjectAltNames := ids, notBefore := settings.notBefore, notAfter := settings.notAfter,
            commonName := ids.head?.getD "" } ca =
        some (resp.newClientCertificate, resp.newClientKey) := by
  rcases issueCertificate_eq_ok h with ⟨e, rfl, -⟩ | ⟨_, _, _, _, -, -, -, -, hr⟩
  · exact absurd rfl hnew
  · exact renewClientCertificate_new hr hnew

/-- What a `Success` issuance sent out: the authorizer call, the signing, the event. -/
theorem issueCertificate_success_effects {resp : CertificateResponse}
    (h : (issueCertificate lib srv addr request k ids r ct authority caCert).result = .ok resp)
    (hs : resp.errorCode = .success) :
    ∃ auth cert signed ev,
      srv.authorizer.authorizeSshCert (sshAuthorizationProperties lib addr request k ids ct authority) =
        .ok auth ∧
      composeCertificate lib k ct caCert auth (lib.fingerprint k) (criticalOptions auth addr.ip) =
        some cert ∧
      srv.signer.sign auth.authority cert = .ok signed ∧
      resp.certificate = lib.certificateToString signed ∧
      (issueCertificate lib srv addr request k ids r ct authority caCert).effects =
        [.authorizeSshCert (sshAuthorizationProperties lib addr request k ids ct authority),
          .sign auth.authority cert, .log (.certificateIssued ev)] ∧
      ev.authority = authority ∧ ev.signedBy = lib.fingerprint caCert := by
  obtain ⟨auth, cert, signed, ha, hc, hsg, ⟨c, hp⟩, hcert⟩ := issueCertificate_success h hs
  refine ⟨auth, cert, signed,
    { fingerprint := lib.fingerprint k, signedBy := lib.fingerprint caCert, authority,
      serial := auth.serial, certificateType := lib.certTypeName ct, mtlsIdentities := ids,
      principals := auth.principals, extensions := auth.extensions,
      criticalOptions := criticalOptions auth addr.ip, validAfter := auth.validAfter,
      validBefore := auth.validBefore, newAccessCertificateIssued := r.isSome },
    ha, hc, hsg, hcert, ?_, rfl, rfl⟩
  unfold issueCertificate at h ⊢
  simp only [ha, hc, hsg, hp, Emit.bind_result, Emit.call_result, Emit.pure_result,
    Emit.bind_effects, Emit.call_effects, Emit.pure_effects] at h ⊢
  split at h
  next reply hr => simp [hr]
  next => cases h

end Issue

/-- An error response is neither `Success` nor carries a new client certificate. -/
theorem createResponse_not_issued {e : RusticaServerError} (he : e ≠ .success) :
    ¬((createResponse e).errorCode = .success ∨ (createResponse e).newClientCertificate ≠ "") := by
  simp [createResponse, he]

/-- A `Success` or renewing answer passed validation and the checks, and is the issuance's. -/
theorem certificate_success_issue {lib : Libraries} {srv : RusticaServer}
    {remoteAddr : Option SocketAddr} {peerCerts : Option (List Bytes)}
    {request : CertificateRequest} {vclock clock : Option U64} {resp : CertificateResponse}
    (h : (certificate lib srv remoteAddr peerCerts request vclock clock).result = .ok resp)
    (hs : resp.errorCode = .success ∨ resp.newClientCertificate ≠ "") :
    ∃ addr ch peer k ids r ct caCert, remoteAddr = some addr ∧ request.challenge = some ch ∧
      peerCerts = some peer ∧
      (validateRequest lib srv srv.hmacKey peer ch vclock).result = .ok (k, ids, r) ∧
      certTypeOfNat request.certType = some ct ∧
      srv.signer.getSignerPublicKey (selectedAuthority srv request) ct = .ok caCert ∧
      (certificate lib srv remoteAddr peerCerts request vclock clock).effects =
        (validateRequest lib srv srv.hmacKey peer ch vclock).effects ++
          (issueCertificate lib srv addr request k ids r ct (selectedAuthority srv request)
            caCert).effects ∧
      (certificate lib srv remoteAddr peerCerts request vclock clock).result =
        (issueCertificate lib srv addr request k ids r ct (selectedAuthority srv request)
          caCert).result := by
  rcases remoteAddr with _ | addr
  · simp [certificate] at h
  rcases hch : request.challenge with _ | ch
  · simp only [certificate, hch, Emit.pure_result, Except.ok.injEq] at h
    exact absurd (h ▸ hs) (createResponse_not_issued (by decide))
  rcases peerCerts with _ | peer
  · simp only [certificate, hch, Emit.pure_result, Except.ok.injEq] at h
    exact absurd (h ▸ hs) (createResponse_not_issued (by decide))
  rcases hv : (validateRequest lib srv srv.hmacKey peer ch vclock).result with e | ⟨k, ids, r⟩
  · rw [(certificate_of_validate_error hch hv).2, Except.ok.injEq] at h
    exact absurd (h ▸ hs) (createResponse_not_issued
      fun he => validateRequest_ne_success _ _ _ _ _ _ (he ▸ hv))
  rcases hc : checkCertificateRequest srv request (currentTimestamp clock) with e | ⟨ct, a, ca⟩
  · rw [(certificate_of_check_error hch hv hc).2, Except.ok.injEq] at h
    exact absurd (h ▸ hs) (createResponse_not_issued
      fun he => checkCertificateRequest_ne_success _ _ _ (he ▸ hc))
  obtain ⟨-, -, hct, rfl, hk⟩ := checkCertificateRequest_eq_ok.mp hc
  exact ⟨addr, ch, peer, k, ids, r, ct, ca, rfl, rfl, rfl, hv, hct, hk,
    certificate_of_check_ok hch hv hc⟩

/-- A `Success` answer signs with the authorization's signer and logs the selected authority. -/
theorem certificate_issued_log (lib : Libraries) (srv : RusticaServer)
    {remoteAddr : Option SocketAddr} {peerCerts : Option (List Bytes)}
    {request : CertificateRequest} {vclock clock : Option U64} {resp : CertificateResponse}
    (h : (certificate lib srv remoteAddr peerCerts request vclock clock).result = .ok resp)
    (hs : resp.errorCode = .success) :
    ∃ ct caCert auth cert signed ev, certTypeOfNat request.certType = some ct ∧
      srv.signer.getSignerPublicKey (selectedAuthority srv request) ct = .ok caCert ∧
      (∃ p, Effect.authorizeSshCert p ∈
          (certificate lib srv remoteAddr peerCerts request vclock clock).effects ∧
        srv.authorizer.authorizeSshCert p = .ok auth) ∧
      Effect.sign auth.authority cert ∈
        (certificate lib srv remoteAddr peerCerts request vclock clock).effects ∧
      srv.signer.sign auth.authority cert = .ok signed ∧
      resp.certificate = lib.certificateToString signed ∧
      cert.signatureKey = caCert ∧ cert.certType = ct ∧
      Effect.log (.certificateIssued ev) ∈
        (certificate lib srv remoteAddr peerCerts request vclock clock).effects ∧
      ev.authority = selectedAuthority srv request ∧ ev.signedBy = lib.fingerprint caCert := by
  obtain ⟨addr, ch, peer, k, ids, r, ct, ca, rfl, -, rfl, -, hct, hk, he, hr⟩ :=
    certificate_success_issue h (.inl hs)
  obtain ⟨auth, cert, signed, ev, ha, hc, hsg, hresp, hie, hauthority, hsigned⟩ :=
    issueCertificate_success_effects (hr ▸ h) hs
  have hcert := composeCertificate_eq_some hc
  refine ⟨ct, ca, auth, cert, signed, ev, hct, hk, ⟨_, ?_, ha⟩, ?_, hsg, hresp, by rw [hcert],
    by rw [hcert], ?_, hauthority, hsigned⟩ <;> simp [he, hie]

/-- A `Success` answer carries the certificate composed from the attested key and the authorization. -/
theorem certificate_success (lib : Libraries) (srv : RusticaServer)
    (hsign : ∀ a c c', srv.signer.sign a c = .ok c' → ∃ sig, c' = { c with signature := sig })
    {remoteAddr : Option SocketAddr} {peerCerts : Option (List Bytes)}
    {request : CertificateRequest} {vclock clock : Option U64} {resp : CertificateResponse}
    (h : (certificate lib srv remoteAddr peerCerts request vclock clock).result = .ok resp)
    (hs : resp.errorCode = .success) :
    ∃ addr ch peer k ids r auth C, remoteAddr = some addr ∧ request.challenge = some ch ∧
      peerCerts = some peer ∧
      (validateRequest lib srv srv.hmacKey peer ch vclock).result = .ok (k, ids, r) ∧
      srv.authorizer.authorizeSshCert (sshAuthorizationProperties lib addr request k ids C.certType
        (if request.keyId.isEmpty then srv.signer.defaultAuthority else request.keyId)) = .ok auth ∧
      resp.certificate = lib.certificateToString C ∧
      (∃ c, lib.certificateFromString resp.certificate = .ok c) ∧
      ((∀ c c', lib.certificateFromString (lib.certificateToString c) = .ok c' → c' = c) →
        lib.certificateFromString resp.certificate = .ok C) ∧
      C.key = k ∧ certTypeOfNat request.certType = some C.certType ∧
      C.keyId = "Rustica-JITC-for-" ++ lib.fingerprint k ∧
      C.serial = auth.serial ∧ C.principals = auth.principals ∧
      C.validAfter = auth.validAfter ∧ C.validBefore = auth.validBefore ∧
      C.extensions = auth.extensions ∧
      C.criticalOptions = (auth.forceCommand.map ("force-command", ·)).toList ++
        (if auth.forceSourceIp then [("source-address", addr.ip)] else []) := by
  obtain ⟨addr, ch, peer, k, ids, r, ct, ca, rfl, hch, rfl, hv, hct, -, -, hr⟩ :=
    certificate_success_issue h (.inl hs)
  obtain ⟨auth, cert, signed, ha, hcomp, hsg, ⟨c, hc⟩, hcert⟩ := issueCertificate_success (hr ▸ h) hs
  obtain ⟨sig, rfl⟩ := hsign _ _ _ hsg
  cases composeCertificate_eq_some hcomp
  exact ⟨addr, ch, peer, k, ids, r, auth, _, rfl, hch, rfl, hv, ha, hcert, ⟨c, hcert ▸ hc⟩,
    fun hrt => by rw [hcert, hc, hrt _ _ hc], rfl, hct, rfl, rfl, rfl, rfl, rfl, rfl, rfl⟩

/-- The sample backends sign as `sshcerts` does. -/
theorem sample_backends_sign {s : Signer} (hs : s = Signer.sample ∨ s = Signer.second)
    {c c' : Certificate} (h : s.sign c = .ok c') :
    s.signerPublicKey c.certType = some c.signatureKey ∧ ∃ sig, c' = { c with signature := sig } := by
  rcases hs with rfl | rfl <;> exact (Signer.ofKeys_sign_eq_ok h).imp_right fun h => ⟨_, h⟩

theorem sample_signer_attaches_signature :
    ∀ a c c', RusticaServer.sample.signer.sign a c = .ok c' →
      ∃ sig, c' = { c with signature := sig } := fun _ _ _ h => by
  obtain ⟨s, hs, h⟩ := SigningMechanism.sign_eq_ok h
  have hm : (_, s) ∈ [("default", Signer.sample)] := mem_of_lookup_eq_some hs
  exact (sample_backends_sign (.inl (Prod.mk.inj (List.mem_singleton.mp hm)).2) h).2

theorem certificate_success_alice :
    (∀ a c c', RusticaServer.sample.signer.sign a c = .ok c' →
      ∃ sig, c' = { c with signature := sig }) ∧
    (certificate Libraries.sample RusticaServer.sample (some SocketAddr.sample) (some [[1]])
      CertificateRequest.sample (some 102) (some 150)).result =
      .ok ⟨"Rustica-JITC-for-SHA256:6b", "", .success, "", ""⟩ ∧
    ∃ addr ch peer k ids r auth C, some SocketAddr.sample = some addr ∧
      CertificateRequest.sample.challenge = some ch ∧ some [[(1 : UInt8)]] = some peer ∧
      (validateRequest Libraries.sample RusticaServer.sample RusticaServer.sample.hmacKey peer ch
        (some 102)).result = .ok (k, ids, r) ∧
      RusticaServer.sample.authorizer.authorizeSshCert (sshAuthorizationProperties Libraries.sample
        addr CertificateRequest.sample k ids C.certType
        (if CertificateRequest.sample.keyId.isEmpty then
          RusticaServer.sample.signer.defaultAuthority
        else CertificateRequest.sample.keyId)) = .ok auth ∧
      "Rustica-JITC-for-SHA256:6b" = Libraries.sample.certificateToString C ∧
      (∃ c, Libraries.sample.certificateFromString "Rustica-JITC-for-SHA256:6b" = .ok c) ∧
      ((∀ c c', Libraries.sample.certificateFromString (Libraries.sample.certificateToString c) =
          .ok c' → c' = c) →
        Libraries.sample.certificateFromString "Rustica-JITC-for-SHA256:6b" = .ok C) ∧
      C.key = k ∧ certTypeOfNat CertificateRequest.sample.certType = some C.certType ∧
      C.keyId = "Rustica-JITC-for-" ++ Libraries.sample.fingerprint k ∧
      C.serial = auth.serial ∧ C.principals = auth.principals ∧
      C.validAfter = auth.validAfter ∧ C.validBefore = auth.validBefore ∧
      C.extensions = auth.extensions ∧
      C.criticalOptions = (auth.forceCommand.map ("force-command", ·)).toList ++
        (if auth.forceSourceIp then [("source-address", addr.ip)] else []) :=
  have h : (certificate Libraries.sample RusticaServer.sample (some SocketAddr.sample) (some [[1]])
      CertificateRequest.sample (some 102) (some 150)).result =
      .ok ⟨"Rustica-JITC-for-SHA256:6b", "", .success, "", ""⟩ := rfl
  ⟨sample_signer_attaches_signature, h,
    certificate_success _ _ sample_signer_attaches_signature h rfl⟩

/-- A single-instant window passes every check, and the authorizer is called. -/
theorem certificate_gating_equal_window :
    ¬(200 : U64) < 200 ∧
    ∃ p, Effect.authorizeSshCert p ∈
      (certificate Libraries.sample RusticaServer.sample (some ⟨"10.0.0.1", "10.0.0.1:4000"⟩)
        (some [[1]]) ⟨some ⟨"100", "ssh-ed25519 k", "2a17"⟩, 1, "", ["alice"], [], 200, 200⟩
        (some 102) (some 150)).effects := by
  have hv : (validateRequest Libraries.sample RusticaServer.sample ⟨[42]⟩ [[1]]
      ⟨"100", "ssh-ed25519 k", "2a17"⟩ (some 102)).result =
      .ok (⟨"ssh-ed25519", [107], none⟩, ["alice"], none) := rfl
  have hc : checkCertificateRequest RusticaServer.sample
      ⟨some ⟨"100", "ssh-ed25519 k", "2a17"⟩, 1, "", ["alice"], [], 200, 200⟩
      (currentTimestamp (some 150)) = .ok (.user, "default", ⟨"ssh-ed25519", [8], none⟩) := rfl
  exact ⟨by decide, _, by
    rw [(certificate_of_check_ok rfl hv hc).1]
    exact List.mem_append_right _ (List.mem_cons_self _ _)⟩

/-! ## The authority that signs -/

/-- Signature key, signing backend and log event designate the authorization's authority. -/
theorem certificate_issuer_consistent (lib : Libraries) (srv : RusticaServer)
    (intoSigner : SignerType → Except SigningError Signer) (config : SigningConfiguration)
    (hreg : config.convertToSigningMechanism lib intoSigner = .ok srv.signer)
    (hsign : ∀ a s, srv.signer.get a = some s → ∀ c c', s.sign c = .ok c' →
      s.signerPublicKey c.certType = some c.signatureKey ∧ ∃ sig, c' = { c with signature := sig })
    {remoteAddr : Option SocketAddr} {peerCerts : Option (List Bytes)}
    {request : CertificateRequest} {vclock clock : Option U64} {resp : CertificateResponse}
    (h : (certificate lib srv remoteAddr peerCerts request vclock clock).result = .ok resp)
    (hs : resp.errorCode = .success) :
    ∃ auth cert signed ev,
      (∃ p, Effect.authorizeSshCert p ∈
          (certificate lib srv remoteAddr peerCerts request vclock clock).effects ∧
        srv.authorizer.authorizeSshCert p = .ok auth) ∧
      Effect.sign auth.authority cert ∈
        (certificate lib srv remoteAddr peerCerts request vclock clock).effects ∧
      srv.signer.sign auth.authority cert = .ok signed ∧
      resp.certificate = lib.certificateToString signed ∧
      certTypeOfNat request.certType = some signed.certType ∧
      srv.signer.getSignerPublicKey auth.authority signed.certType = .ok signed.signatureKey ∧
      Effect.log (.certificateIssued ev) ∈
        (certificate lib srv remoteAddr peerCerts request vclock clock).effects ∧
      ev.authority = auth.authority ∧ ev.signedBy = lib.fingerprint signed.signatureKey := by
  obtain ⟨ct, ca, auth, cert, signed, ev, hct, hk, hauth, hsignEff, hsg, hresp, hkey, htype, hlog,
    hauthority, hsigned⟩ := certificate_issued_log lib srv h hs
  obtain ⟨s, hs', hss⟩ := SigningMechanism.sign_eq_ok hsg
  obtain ⟨hsk, sig, rfl⟩ := hsign _ _ hs' _ _ hss
  subst hkey htype
  -- the backend that signed holds the composed certificate's key, which names one authority
  have hauthk : srv.signer.getSignerPublicKey auth.authority cert.certType = .ok cert.signatureKey :=
    SigningMechanism.getSignerPublicKey_eq_ok.mpr ⟨s, hs', hsk⟩
  exact ⟨auth, cert, _, ev, hauth, hsignEff, hsg, hresp, hct, hauthk, hlog,
    hauthority.trans (convertToSigningMechanism_key_authority hreg hk hauthk rfl), hsigned⟩

/-- `RusticaServer.sample` with the registry of `SigningConfiguration.sample`: `default`, and
`other` holding `Signer.second`'s keys. -/
def RusticaServer.twoAuthorities : RusticaServer :=
  { RusticaServer.sample with
    signer := ⟨"default", [("default", Signer.sample), ("other", Signer.second)]⟩ }

theorem twoAuthorities_sign : ∀ a s, RusticaServer.twoAuthorities.signer.get a = some s →
    ∀ c c', s.sign c = .ok c' →
      s.signerPublicKey c.certType = some c.signatureKey ∧ ∃ sig, c' = { c with signature := sig } :=
  fun _ _ hs _ _ h => by
    have hm : (_, _) ∈ [("default", Signer.sample), ("other", Signer.second)] :=
      mem_of_lookup_eq_some hs
    simp only [List.mem_cons, Prod.mk.injEq, List.mem_singleton, List.not_mem_nil, or_false] at hm
    exact sample_backends_sign (hm.imp And.right And.right) h

/-- `alice` asks `other` for a user certificate, which `other`'s backend signs with its key `[10]`. -/
theorem certificate_issuer_consistent_other :
    SigningConfiguration.sample.convertToSigningMechanism Libraries.sample SignerType.intoSample =
      .ok RusticaServer.twoAuthorities.signer ∧
    (certificate Libraries.sample RusticaServer.twoAuthorities (some SocketAddr.sample) (some [[1]])
        { CertificateRequest.sample with keyId := "other" } (some 102) (some 150)).result =
      .ok ⟨"Rustica-JITC-for-SHA256:6b", "", .success, "", ""⟩ ∧
    ∃ auth cert signed ev,
      (∃ p, Effect.authorizeSshCert p ∈
          (certificate Libraries.sample RusticaServer.twoAuthorities (some SocketAddr.sample)
            (some [[1]]) { CertificateRequest.sample with keyId := "other" } (some 102)
            (some 150)).effects ∧
        RusticaServer.twoAuthorities.authorizer.authorizeSshCert p = .ok auth) ∧
      Effect.sign auth.authority cert ∈
        (certificate Libraries.sample RusticaServer.twoAuthorities (some SocketAddr.sample)
          (some [[1]]) { CertificateRequest.sample with keyId := "other" } (some 102)
          (some 150)).effects ∧
      RusticaServer.twoAuthorities.signer.sign auth.authority cert = .ok signed ∧
      "Rustica-JITC-for-SHA256:6b" = Libraries.sample.certificateToString signed ∧
      certTypeOfNat 1 = some signed.certType ∧
      RusticaServer.twoAuthorities.signer.getSignerPublicKey auth.authority signed.certType =
        .ok signed.signatureKey ∧
      Effect.log (.certificateIssued ev) ∈
        (certificate Libraries.sample RusticaServer.twoAuthorities (some SocketAddr.sample)
          (some [[1]]) { CertificateRequest.sample with keyId := "other" } (some 102)
          (some 150)).effects ∧
      ev.authority = auth.authority ∧ ev.signedBy = Libraries.sample.fingerprint signed.signatureKey :=
  have hreg : SigningConfiguration.sample.convertToSigningMechanism Libraries.sample
      SignerType.intoSample = .ok RusticaServer.twoAuthorities.signer := rfl
  have h : (certificate Libraries.sample RusticaServer.twoAuthorities (some SocketAddr.sample)
      (some [[1]]) { CertificateRequest.sample with keyId := "other" } (some 102) (some 150)).result =
      .ok ⟨"Rustica-JITC-for-SHA256:6b", "", .success, "", ""⟩ := rfl
  ⟨hreg, h, certificate_issuer_consistent _ _ _ _ hreg twoAuthorities_sign h rfl⟩

/-! ## The renewed mTLS certificate -/

/-- A renewed client certificate is issued for the peer's names and reads back as the first. -/
theorem renewed_certificate_identities (lib : Libraries) (srv : RusticaServer)
    (der : String → Bytes)
    (hrcgen : ∀ p ca pem key, lib.issueClientCertificate p ca = some (pem, key) →
      ∃ c, lib.parseX509 (der pem) = some c ∧ c.subject = [[⟨commonNameOid, some p.commonName⟩]])
    {remoteAddr : Option SocketAddr} {peerCerts : Option (List Bytes)}
    {request : CertificateRequest} {vclock clock : Option U64} {resp : CertificateResponse}
    (h : (certificate lib srv remoteAddr peerCerts request vclock clock).result = .ok resp)
    (hnew : resp.newClientCertificate ≠ "") :
    ∃ peers first info p ca renewed, peerCerts = some peers ∧ peers.head? = some first ∧
      extractCertificateInformation lib first = .ok info ∧
      lib.issueClientCertificate p ca = some (resp.newClientCertificate, resp.newClientKey) ∧
      p.subjectAltNames = info.identities ∧ p.commonName = info.identities.head?.getD "" ∧
      extractCertificateInformation lib (der resp.newClientCertificate) = .ok renewed ∧
      renewed.identities = [info.identities.head?.getD ""] ∧
      (renewed.identities = info.identities ↔ ∃ name, info.identities = [name]) := by
  obtain ⟨addr, ch, peers, k, ids, r, ct, ca, -, -, rfl, hv, -, -, -, hr⟩ :=
    certificate_success_issue h (.inr hnew)
  obtain ⟨settings, cca, -, -, hissue⟩ := issueCertificate_renewed (hr ▸ h) hnew
  obtain ⟨first, info, t, now, c', k', hfirst, hi, -, -, -, -, -, -, -, -, hres⟩ :=
    (validateRequest_eq_ok lib srv srv.hmacKey).mp hv
  obtain ⟨-, rfl, -⟩ := Prod.mk.inj_iff.mp hres
  obtain ⟨c, hc, hsub⟩ := hrcgen _ _ _ _ hissue
  refine ⟨peers, first, info, _, cca, _, rfl, hfirst, hi, hissue, rfl, rfl,
    extractCertificateInformation_single hc hsub, rfl, ?_⟩
  rcases info.identities with _ | ⟨a, _ | ⟨b, l⟩⟩ <;> simp

/-- Libraries whose `x509-parser` reads `[2]` as a certificate of `alice` and `bob` that expired
at the epoch, and whose `rcgen` issues for the `CommonName` `alice` only. -/
def Libraries.renewalSample : Libraries :=
  { Libraries.sample with
    parseX509 := fun der => if der = [2] then
        some ⟨0, [[⟨commonNameOid, some "alice"⟩], [⟨commonNameOid, some "bob"⟩]], [2]⟩
      else Libraries.sample.parseX509 der
    issueClientCertificate := fun p ca =>
      if p.commonName = "alice" then some (ca.name ++ ":alice", "key") else none }

/-- The sample's `rcgen` certificates read back with their `CommonName` as subject. -/
theorem renewalSample_issue_subject : ∀ p ca pem key,
    Libraries.renewalSample.issueClientCertificate p ca = some (pem, key) →
    ∃ c, Libraries.renewalSample.parseX509 [1] = some c ∧
      c.subject = [[⟨commonNameOid, some p.commonName⟩]] := by
  intro p ca pem key h
  by_cases hp : p.commonName = "alice"
  · exact ⟨_, rfl, by rw [hp]⟩
  · simp [Libraries.renewalSample, hp] at h

theorem renewed_certificate_identities_alice :
    (certificate Libraries.renewalSample RusticaServer.sample (some SocketAddr.sample) (some [[0]])
        CertificateRequest.sample (some 102) (some 150)).result =
      .ok ⟨"Rustica-JITC-for-SHA256:6b", "", .success, "client:alice", "key"⟩ ∧
    ∃ peers first info p ca renewed, some [[(0 : UInt8)]] = some peers ∧
      peers.head? = some first ∧
      extractCertificateInformation Libraries.renewalSample first = .ok info ∧
      Libraries.renewalSample.issueClientCertificate p ca = some ("client:alice", "key") ∧
      p.subjectAltNames = info.identities ∧ p.commonName = info.identities.head?.getD "" ∧
      extractCertificateInformation Libraries.renewalSample [1] = .ok renewed ∧
      renewed.identities = [info.identities.head?.getD ""] ∧
      (renewed.identities = info.identities ↔ ∃ name, info.identities = [name]) :=
  have h : (certificate Libraries.renewalSample RusticaServer.sample (some SocketAddr.sample)
      (some [[0]]) CertificateRequest.sample (some 102) (some 150)).result =
      .ok ⟨"Rustica-JITC-for-SHA256:6b", "", .success, "client:alice", "key"⟩ := rfl
  ⟨h, (renewed_certificate_identities _ _ (fun _ => [1]) renewalSample_issue_subject h
    (by decide) :)⟩

/-- A caller named `alice` and `bob` is renewed as `alice` only. -/
theorem renewed_certificate_drops_bob :
    extractCertificateInformation Libraries.renewalSample [2] = .ok ⟨["alice", "bob"], 0⟩ ∧
    (certificate Libraries.renewalSample RusticaServer.sample (some SocketAddr.sample) (some [[2]])
        { CertificateRequest.sample with challenge := some ⟨"100", "ssh-ed25519 k", "2a1b"⟩ }
        (some 102) (some 150)).result =
      .ok ⟨"Rustica-JITC-for-SHA256:6b", "", .success, "client:alice", "key"⟩ ∧
    extractCertificateInformation Libraries.renewalSample [1] = .ok ⟨["alice"], 1000⟩ ∧
    (∀ p ca pem key, Libraries.renewalSample.issueClientCertificate p ca = some (pem, key) →
      ∃ c, Libraries.renewalSample.parseX509 [1] = some c ∧
        c.subject = [[⟨commonNameOid, some p.commonName⟩]]) :=
  ⟨rfl, rfl, rfl, renewalSample_issue_subject⟩

end Rustica

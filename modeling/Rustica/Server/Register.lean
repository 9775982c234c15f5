import Rustica.Server.Validate

/-!
# Key registration (`Rustica::register_key`, `Rustica::register_u2f_key`)

The two handlers are one procedure, `registerKeyWith`, applied to their own attestation verifier
(PIV or U2F) and to what each does when `validate_request` fails: `register_key` logs the error
and cancels with an empty message, `register_u2f_key` cancels with the error's name.

* `registerKeyWith_registers` : the authorizer's `register_key` is called exactly with the
  properties of the HMAC-attested key, and with the attestation the verified chain carries, or
  none when the chain fails and no chain is required;
* `register_calls_authorizer` : the same for both handlers.
-/

namespace Rustica

/-- `remote_addr().to_string()`, or the empty string without an address. -/
def requesterIpOf : Option SocketAddr → String
  | some x => x.text
  | none => ""

/-- The properties sent to the authorizer's `register_key`. -/
def registerProperties (lib : Libraries) (fingerprint : String) (sshPubkey : PublicKey)
    (identities : List String) (requesterIp : String) (attestation : Option KeyAttestation) :
    RegisterKeyRequestProperties :=
  { fingerprint, pubkey := lib.publicKeyToString sshPubkey, mtlsIdentities := identities,
    requesterIp, attestation }

/-- The end of both handlers: the authorizer's `register_key`, and the event its answer leads to. -/
def submitRegistration (srv : RusticaServer) (props : RegisterKeyRequestProperties) :
    Emit Effect (Except Status Unit) := do
  match ← Emit.call (.registerKey props) (srv.authorizer.registerKey props) with
  | .ok _ =>
    Emit.call (.log (.keyRegistered ⟨props.fingerprint, props.mtlsIdentities⟩)) ()
    return .ok ()
  | .error e =>
    Emit.call (.log (.keyRegistrationFailure ⟨props.fingerprint, props.mtlsIdentities⟩ e)) ()
    return .error (Status.unavailable "Could not register new key")

/-- The body the two registration handlers share: `verified` is the attestation verifier's
answer (`none` when the chain does not verify), `onInvalid` what the handler does with an error
of `validate_request`. -/
def registerKeyWith (lib : Libraries) (srv : RusticaServer) (verified : Option AttestedKey)
    (onInvalid : RusticaServerError → Emit Effect Status) (remoteAddr : Option SocketAddr)
    (peerCerts : Option (List Bytes)) (challenge : Option Challenge) (clock : Option U64) :
    Emit Effect (Except Status Unit) := do
  let requesterIp := requesterIpOf remoteAddr
  let (some challenge, some peer) := (challenge, peerCerts)
    | return .error (Status.permissionDenied "")
  let (sshPubkey, mtlsIdentities, _) ← match ← validateRequest lib srv srv.hmacKey peer challenge
      clock with
    | .ok x => pure x
    | .error e => return .error (← onInvalid e)
  let (fingerprint, attestation) ← match verified with
    | some key => do
      if lib.fingerprint sshPubkey ≠ key.fingerprint then
        rusticaWarning ("Attestation fingerprint did not match challenge from host [" ++
          requesterIp ++ "]. Attestation: [" ++ lib.fingerprint sshPubkey ++ "] Challenge: [" ++
          key.fingerprint ++ "]")
        return .error (Status.invalidArgument "Attestation did not match challenge")
      pure (key.fingerprint, key.attestation)
    | none => do
      if !srv.requireAttestationChain then pure (lib.fingerprint sshPubkey, none)
      else
        Emit.call (.log (.keyRegistrationFailure ⟨lib.fingerprint sshPubkey, mtlsIdentities⟩
          "Attempt to register a key with an invalid attestation chain")) ()
        return .error (Status.unavailable "Could not register a key without valid attestation data")
  submitRegistration srv
    (registerProperties lib fingerprint sshPubkey mtlsIdentities requesterIp attestation)

/-- `Rustica::register_key`: a PIV attestation chain; a failed validation is logged and the call
cancelled with no message. -/
def registerKey (lib : Libraries) (srv : RusticaServer) (remoteAddr : Option SocketAddr)
    (peerCerts : Option (List Bytes)) (request : RegisterKeyRequest) (clock : Option U64) :
    Emit Effect (Except Status Unit) :=
  registerKeyWith lib srv (lib.verifyPivCertificateChain request.certificate request.intermediate)
    (fun e => do
      rusticaError ("Could not validate request: " ++ e.debug)
      pure (Status.cancelled ""))
    remoteAddr peerCerts request.challenge clock

/-- `Rustica::register_u2f_key`: a U2F attestation; a failed validation cancels the call with the
error's name. -/
def registerU2fKey (lib : Libraries) (srv : RusticaServer) (remoteAddr : Option SocketAddr)
    (peerCerts : Option (List Bytes)) (request : RegisterU2fKeyRequest) (clock : Option U64) :
    Emit Effect (Except Status Unit) :=
  registerKeyWith lib srv (lib.verifyU2fCertificateChain request.attestation)
    (fun e => pure (Status.cancelled e.debug)) remoteAddr peerCerts request.challenge clock

/-! ## What the authorizer is asked to register -/

theorem registerKey_mem_append {A B : List Effect} (hA : OnlyLogs A) {p : RegisterKeyRequestProperties} :
    Effect.registerKey p ∈ A ++ B ↔ Effect.registerKey p ∈ B := by
  refine ⟨fun h => (List.mem_append.mp h).resolve_left fun hp => ?_, List.mem_append_right _⟩
  obtain ⟨l, hl⟩ := hA _ hp
  cases hl

@[simp] theorem registerKey_mem_submitRegistration {srv : RusticaServer}
    {props p : RegisterKeyRequestProperties} :
    Effect.registerKey p ∈ (submitRegistration srv props).effects ↔ p = props := by
  unfold submitRegistration
  cases srv.authorizer.registerKey props <;> simp

section Register
variable {lib : Libraries} {srv : RusticaServer} {verified : Option AttestedKey}
  {onInvalid : RusticaServerError → Emit Effect Status} {remoteAddr : Option SocketAddr}
  {peerCerts : Option (List Bytes)} {challenge : Option Challenge} {clock : Option U64}

theorem registerKeyWith_registers (honInvalid : ∀ e, OnlyLogs (onInvalid e).effects)
    (p : RegisterKeyRequestProperties) :
    Effect.registerKey p ∈
        (registerKeyWith lib srv verified onInvalid remoteAddr peerCerts challenge clock).effects ↔
      ∃ ch peer k ids r attestation, challenge = some ch ∧ peerCerts = some peer ∧
        (validateRequest lib srv srv.hmacKey peer ch clock).result = .ok (k, ids, r) ∧
        ((∃ key, verified = some key ∧ key.fingerprint = lib.fingerprint k ∧
            attestation = key.attestation) ∨
          (verified = none ∧ srv.requireAttestationChain = false ∧ attestation = none)) ∧
        p = registerProperties lib (lib.fingerprint k) k ids (requesterIpOf remoteAddr) attestation := by
  rcases challenge with _ | ch
  · exact iff_of_false (by simp only [registerKeyWith, Emit.pure_effects, List.not_mem_nil,
      not_false_eq_true]) fun ⟨_, _, _, _, _, _, h, _⟩ => nomatch h
  rcases peerCerts with _ | peer
  · exact iff_of_false (by simp only [registerKeyWith, Emit.pure_effects, List.not_mem_nil,
      not_false_eq_true]) fun ⟨_, _, _, _, _, _, _, h, _⟩ => nomatch h
  rcases hv : (validateRequest lib srv srv.hmacKey peer ch clock).result with e | ⟨k, ids, r⟩
  · refine iff_of_false ?_ fun ⟨_, _, _, _, _, _, h1, h2, h3, _⟩ => ?_
    · simp only [registerKeyWith, hv, Emit.bind_effects, Emit.bind_result,
        registerKey_mem_append (validateRequest_onlyLogs lib srv srv.hmacKey peer ch clock),
        registerKey_mem_append (honInvalid e), Emit.pure_effects, List.not_mem_nil,
        not_false_eq_true]
    · cases h1; cases h2; rw [hv] at h3; cases h3
  simp only [registerKeyWith, hv, Emit.bind_effects, Emit.bind_result,
    registerKey_mem_append (validateRequest_onlyLogs lib srv srv.hmacKey peer ch clock)]
  rcases verified with _ | key
  · cases hreq : srv.requireAttestationChain
    · simp only [Emit.pure_effects, Bool.not_false, ↓reduceIte, Emit.pure_result, Emit.bind_effects,
        List.nil_append, registerKey_mem_submitRegistration, Option.some.injEq, reduceCtorEq,
        false_and, exists_false, true_and, false_or, exists_and_left, exists_eq_left,
        exists_and_right, exists_eq_left', hv, Except.ok.injEq, Prod.mk.injEq, exists_eq', and_true,
        and_assoc]
    · simp only [Emit.pure_effects, Bool.not_true, Bool.false_eq_true, ↓reduceIte, Emit.pure_result,
        Emit.bind_effects, Emit.call_effects, List.singleton_append, List.nil_append,
        List.mem_singleton, reduceCtorEq, Option.some.injEq, false_and, exists_false,
        Bool.true_eq_false, and_false, or_self, exists_const]
  · by_cases hfp : lib.fingerprint k = key.fingerprint
    · simp only [Emit.pure_effects, Emit.pure_result, hfp, ne_eq, not_true_eq_false, ↓reduceIte,
        Emit.bind_effects, List.nil_append, registerKey_mem_submitRegistration, Option.some.injEq,
        exists_eq_left', reduceCtorEq, false_and, or_false, and_assoc, exists_and_left,
        exists_eq_left, exists_and_right, hv, Except.ok.injEq, Prod.mk.injEq, exists_eq', and_true,
        true_and]
    · simp only [Emit.pure_effects, Emit.pure_result, ne_eq, hfp, not_false_eq_true, ↓reduceIte,
        rusticaWarning, Emit.bind_effects, Emit.call_effects, List.singleton_append,
        List.nil_append, List.mem_singleton, reduceCtorEq, Option.some.injEq, exists_eq_left',
        false_and, or_false, exists_and_left, exists_and_right, hv, Except.ok.injEq, Prod.mk.injEq,
        exists_eq', and_true, false_iff, not_exists, not_and, and_imp, forall_eq_apply_imp_iff,
        forall_apply_eq_imp_iff, forall_eq', Ne.symm hfp, IsEmpty.forall_iff]

end Register

/-- Key registration registers only the challenge-attested key, in both handlers. -/
theorem register_calls_authorizer (lib : Libraries) (srv : RusticaServer)
    (remoteAddr : Option SocketAddr) (peerCerts : Option (List Bytes)) (clock : Option U64)
    (request : RegisterKeyRequest) (u2fRequest : RegisterU2fKeyRequest)
    (p : RegisterKeyRequestProperties) :
    (Effect.registerKey p ∈ (registerKey lib srv remoteAddr peerCerts request clock).effects ↔
      ∃ ch peer k ids r attestation, request.challenge = some ch ∧ peerCerts = some peer ∧
        (validateRequest lib srv srv.hmacKey peer ch clock).result = .ok (k, ids, r) ∧
        ((∃ key, lib.verifyPivCertificateChain request.certificate request.intermediate = some key ∧
            key.fingerprint = lib.fingerprint k ∧ attestation = key.attestation) ∨
          (lib.verifyPivCertificateChain request.certificate request.intermediate = none ∧
            srv.requireAttestationChain = false ∧ attestation = none)) ∧
        p = { fingerprint := lib.fingerprint k, pubkey := lib.publicKeyToString k,
              mtlsIdentities := ids, requesterIp := (remoteAddr.map SocketAddr.text).getD "",
              attestation }) ∧
    (Effect.registerKey p ∈ (registerU2fKey lib srv remoteAddr peerCerts u2fRequest clock).effects ↔
      ∃ ch peer k ids r attestation, u2fRequest.challenge = some ch ∧ peerCerts = some peer ∧
        (validateRequest lib srv srv.hmacKey peer ch clock).result = .ok (k, ids, r) ∧
        ((∃ key, lib.verifyU2fCertificateChain u2fRequest.attestation = some key ∧
            key.fingerprint = lib.fingerprint k ∧ attestation = key.attestation) ∨
          (lib.verifyU2fCertificateChain u2fRequest.attestation = none ∧
            srv.requireAttestationChain = false ∧ attestation = none)) ∧
        p = { fingerprint := lib.fingerprint k, pubkey := lib.publicKeyToString k,
              mtlsIdentities := ids, requesterIp := (remoteAddr.map SocketAddr.text).getD "",
              attestation }) := by
  have hip : requesterIpOf remoteAddr = (remoteAddr.map SocketAddr.text).getD "" := by
    cases remoteAddr <;> rfl
  simp only [← hip]
  exact ⟨registerKeyWith_registers (fun _ => by simp [OnlyLogs, rusticaError]) p,
    registerKeyWith_registers (fun _ => by simp [OnlyLogs]) p⟩

end Rustica

import Rustica.Server.Types

/-!
# Challenge validation (`extract_certificate_information`, `validate_request`)

`validateRequest` runs the checks of `validate_request` in its order: one peer certificate and its
`CommonName`s, the freshness window (a wrapping `u64` subtraction), the size cap, the certificate
parse, the HMAC tag in its `key_id`, the requested key, the mTLS refresh hint, and the signing key
(the challenge key, or in proof mode the caller's own key).

`validateRequest_eq_ok` says exactly when it accepts and what it returns; the handlers' theorems all
go through it. `refresh_hint_integer` reads the refresh hint in integers, through the `u64` reading
of a negative expiry; `refresh_hint_negative_expiry` : a certificate that expired before the epoch
gets no hint.
-/

namespace Rustica

/-- `MtlsCertificateInfo`; the expiry is the `i64` timestamp, as its 64 bits. -/
structure MtlsCertificateInfo where
  identities : List String
  expiryTimestamp : U64
  deriving DecidableEq, Repr

/-- `CertificateRefreshSettings`. -/
structure CertificateRefreshSettings where
  notAfter : U64
  notBefore : U64
  deriving DecidableEq, Repr

/-- The loops of `extract_certificate_information` over the subject's attributes, in order: each
`CommonName` is pushed, and one whose value is not a string fails the extraction. -/
def commonNames : List AttributeTypeAndValue → Except RusticaServerError (List String)
  | [] => .ok []
  | attr :: rest =>
    if attr.attrType = commonNameOid then
      match attr.attrValue with
      | some s => (s :: ·) <$> commonNames rest
      | none => .error .notAuthorized
    else commonNames rest

/-- `extract_certificate_information`. -/
def extractCertificateInformation (lib : Libraries) (peer : Bytes) :
    Except RusticaServerError MtlsCertificateInfo :=
  match lib.parseX509 peer with
  | none => .error .notAuthorized
  | some cert =>
    (fun identities => { identities, expiryTimestamp := cert.notAfter }) <$>
      commonNames cert.subject.flatten

/-- The comma-joined identities, as every message and the HMAC input write them. -/
def joinIdentities (identities : List String) : String := ",".intercalate identities

/-- The string `validate_request` and `challenge` give to the HMAC. -/
def hmacInput (time : U64) (pubkey : String) (identities : List String) : String :=
  decimal time ++ "-" ++ pubkey ++ "-" ++ joinIdentities identities

/-- The mTLS refresh hint of `validate_request`, from the peer certificate's expiry and the time:
the `i64` expiry is read as a `u64`, and the subtraction is only reached when it cannot wrap. -/
def certificateRefreshSettings (srv : RusticaServer) (expiry time : U64) :
    Option CertificateRefreshSettings :=
  if time > expiry || expiry - time < srv.clientAuthority.expirationRenewalPeriod then
    some { notAfter := time + srv.clientAuthority.validityLength, notBefore := time }
  else none

/-- What `validate_request` returns: the HMAC-attested key, the identities, the refresh hint. -/
abbrev ValidatedRequest := PublicKey × List String × Option CertificateRefreshSettings

/-- `validate_request`, reading the clock once (`clock` is `none` when it is before the epoch). -/
def validateRequest (lib : Libraries) (srv : RusticaServer) (hmacKey : HmacKey)
    (peerCerts : List Bytes) (challenge : Challenge) (clock : Option U64) :
    Emit Effect (Except RusticaServerError ValidatedRequest) := do
  let some cert := peerCerts.head? | return .error .badRequest
  let certInfo ← match extractCertificateInformation lib cert with
    | .ok info => pure info
    | .error e => return .error e
  let ids := joinIdentities certInfo.identities
  let (some requestTime, some time) := (parseU64 challenge.challengeTime, clock)
    | return .error .unknown
  if time - requestTime > 5 then
    rusticaWarning ("Expired challenge received from: " ++ ids)
    return .error .timeExpired
  if challenge.challenge.utf8ByteSize > 1024 then
    rusticaWarning ("Received a certificate that is far too large from from: " ++ ids)
    return .error .unknown
  let parsedCertificate ← match lib.certificateFromString challenge.challenge with
    | .ok c => pure c
    | .error _ => do
      rusticaWarning ("Received a bad certificate from: " ++ ids)
      return .error .badChallenge
  let hmacVerification := hmacInput requestTime challenge.pubkey certInfo.identities
  let some decodedChallenge := hexDecode parsedCertificate.keyId | return .error .badChallenge
  if !hmacVerify lib hmacKey hmacVerification decodedChallenge then
    rusticaWarning ("Received a bad challenge from: " ++ ids)
    return .error .badChallenge
  let hmacSshPubkey ← match lib.publicKeyFromString challenge.pubkey with
    | some k => pure k
    | none => do
      rusticaError ("Public key was invalid when negotiating with [" ++ ids ++
        "]. Public key: [" ++ challenge.pubkey ++ "]")
      return .error .badChallenge
  let refresh := certificateRefreshSettings srv certInfo.expiryTimestamp time
  if !srv.requireRusticaProof then
    if lib.fingerprint parsedCertificate.signatureKey ≠ lib.fingerprint srv.challengeKey.pubkey then
      rusticaWarning ("Received an incorrect certificate from " ++ ids)
      return .error .badChallenge
    return .ok (hmacSshPubkey, certInfo.identities, refresh)
  if lib.fingerprint parsedCertificate.key ≠ lib.fingerprint parsedCertificate.signatureKey then
    rusticaWarning ("User key did not equal CA key when talking to: " ++ ids)
    return .error .badChallenge
  if lib.fingerprint parsedCertificate.key ≠ lib.fingerprint hmacSshPubkey then
    rusticaWarning ("User key did not equal HMAC validated public key: " ++ ids)
    return .error .badChallenge
  return .ok (hmacSshPubkey, certInfo.identities, refresh)

/-! ## When `validate_request` accepts -/

section Accept
variable (lib : Libraries) (srv : RusticaServer) (hmacKey : HmacKey)

/-- The last check of `validate_request` on the returned certificate `c` and the attested key
`k`: signed by the challenge key, or in proof mode self-signed by a key of `k`'s fingerprint. -/
def SignedAsRequired (c : Certificate) (k : PublicKey) : Prop :=
  if srv.requireRusticaProof then
    lib.fingerprint c.key = lib.fingerprint c.signatureKey ∧ lib.fingerprint c.key = lib.fingerprint k
  else lib.fingerprint c.signatureKey = lib.fingerprint srv.challengeKey.pubkey

theorem validateRequest_eq_ok {peerCerts : List Bytes} {challenge : Challenge}
    {clock : Option U64} {r : ValidatedRequest} :
    (validateRequest lib srv hmacKey peerCerts challenge clock).result = .ok r ↔
      ∃ cert info t now c k,
        peerCerts.head? = some cert ∧ extractCertificateInformation lib cert = .ok info ∧
        parseU64 challenge.challengeTime = some t ∧ clock = some now ∧ now - t ≤ 5 ∧
        challenge.challenge.utf8ByteSize ≤ 1024 ∧
        lib.certificateFromString challenge.challenge = .ok c ∧
        hexDecode c.keyId = some (lib.hmacSign hmacKey (hmacInput t challenge.pubkey info.identities)) ∧
        lib.publicKeyFromString challenge.pubkey = some k ∧ SignedAsRequired lib srv c k ∧
        r = (k, info.identities, certificateRefreshSettings srv info.expiryTimestamp now) := by
  unfold validateRequest
  rcases peerCerts.head? with _ | cert <;>
    simp only [Option.some.injEq, reduceCtorEq, false_and, exists_false, Emit.pure_result,
      exists_and_left, exists_eq_left']
  rcases extractCertificateInformation lib cert with e | info <;>
    simp only [Emit.bind_result, Emit.pure_result, reduceCtorEq, false_and, exists_false,
      exists_and_left, Except.ok.injEq, exists_eq_left']
  rcases parseU64 challenge.challengeTime with _ | t <;> rcases clock with _ | now <;>
    simp only [reduceCtorEq, false_and, exists_false, Emit.pure_result, Option.some.injEq,
      exists_eq_left']
  by_cases h1 : now - t > 5
  · simp only [h1, ↓reduceIte, Emit.bind_result, Emit.pure_result, reduceCtorEq, false_iff, not_and]
    exact fun h => absurd h (BitVec.not_le.mpr h1)
  by_cases h2 : challenge.challenge.utf8ByteSize > 1024
  · simp only [h1, h2, ↓reduceIte, Emit.bind_result, Emit.pure_result, reduceCtorEq, false_iff,
      not_and]
    omega
  simp only [h1, h2, ↓reduceIte, Emit.bind_result, Emit.pure_result, BitVec.not_lt.mp h1,
    Nat.le_of_not_lt h2, true_and]
  rcases lib.certificateFromString challenge.challenge with _ | c
  · simp [rusticaWarning]
  simp only [Emit.bind_result, Emit.pure_result, Except.ok.injEq, exists_eq_left']
  rcases hexDecode c.keyId with _ | d
  · simp
  simp only [hmacVerify, Option.some.injEq]
  by_cases h3 : lib.hmacSign hmacKey (hmacInput t challenge.pubkey info.identities) = d
  swap
  · simp [h3, Ne.symm h3, rusticaWarning]
  simp only [h3, beq_self_eq_true, Bool.not_true, Bool.false_eq_true, ↓reduceIte,
    Emit.bind_result, Emit.pure_result, true_and]
  rcases lib.publicKeyFromString challenge.pubkey with _ | k
  · simp [rusticaError]
  simp only [Emit.bind_result, Emit.pure_result, Option.some.injEq, exists_eq_left',
    SignedAsRequired]
  cases srv.requireRusticaProof <;>
    simp only [Bool.not_false, Bool.not_true, ↓reduceIte, Bool.false_eq_true]
  · by_cases h4 : lib.fingerprint c.signatureKey = lib.fingerprint srv.challengeKey.pubkey <;>
      simp [h4, rusticaWarning, eq_comm]
  · by_cases h4 : lib.fingerprint c.key = lib.fingerprint c.signatureKey
    · by_cases h5 : lib.fingerprint c.key = lib.fingerprint k
      · simp [h4, h4.symm.trans h5, eq_comm]
      · have h6 : lib.fingerprint c.signatureKey ≠ lib.fingerprint k := fun h => h5 (h4.trans h)
        simp [h4, h6, rusticaWarning]
    · simp [h4, rusticaWarning]

/-- A fresh challenge over the cap fails with `Unknown` before it is parsed. -/
theorem validateRequest_too_large {peerCerts : List Bytes} {challenge : Challenge} {cert : Bytes}
    {info : MtlsCertificateInfo} {t now : U64} (hc : peerCerts.head? = some cert)
    (hi : extractCertificateInformation lib cert = .ok info)
    (ht : parseU64 challenge.challengeTime = some t) (hfresh : now - t ≤ 5)
    (hs : 1024 < challenge.challenge.utf8ByteSize) :
    (validateRequest lib srv hmacKey peerCerts challenge (some now)).result = .error .unknown := by
  have h5 : ¬ now - t > 5 := BitVec.not_lt.mpr hfresh
  simp only [validateRequest, hc, hi, ht, Emit.bind_result, Emit.pure_result]
  rw [if_neg h5]
  simp [hs, rusticaWarning]

/-- For `now ≥ 5`, the wrapping check `now - t ≤ 5` admits exactly `t ≤ now ≤ t + 5`. -/
theorem fresh_iff {t now : U64} (hnow : 5 ≤ now.toNat) :
    now - t ≤ 5 ↔ t.toNat ≤ now.toNat ∧ now.toNat ≤ t.toNat + 5 := by
  constructor
  · intro h
    by_cases hle : t.toNat ≤ now.toNat
    · exact ⟨hle, by bv_omega⟩
    · exfalso; bv_omega
  · rintro ⟨h1, h2⟩
    bv_omega

theorem validateRequest_sound {peerCerts : List Bytes} {challenge : Challenge} {now : U64}
    {k : PublicKey} {identities : List String} {refresh : Option CertificateRefreshSettings}
    (hnow : 5 ≤ now.toNat)
    (h : (validateRequest lib srv hmacKey peerCerts challenge (some now)).result =
      .ok (k, identities, refresh)) :
    (∃ cert info, peerCerts.head? = some cert ∧ extractCertificateInformation lib cert = .ok info ∧
      info.identities = identities) ∧
    ∃ t, parseU64 challenge.challengeTime = some t ∧ t.toNat ≤ now.toNat ∧
      now.toNat ≤ t.toNat + 5 ∧ challenge.challenge.utf8ByteSize ≤ 1024 ∧
      ∃ c, lib.certificateFromString challenge.challenge = .ok c ∧
        (∃ tag, hexDecode c.keyId = some tag ∧
          lib.hmacSign hmacKey (decimal t ++ "-" ++ challenge.pubkey ++ "-" ++
            ",".intercalate identities) = tag) ∧
        lib.publicKeyFromString challenge.pubkey = some k ∧
        ((srv.requireRusticaProof = false ∧
            lib.fingerprint c.signatureKey = lib.fingerprint srv.challengeKey.pubkey) ∨
          (srv.requireRusticaProof = true ∧ lib.fingerprint c.key = lib.fingerprint c.signatureKey ∧
            lib.fingerprint c.signatureKey = lib.fingerprint k)) := by
  obtain ⟨cert, info, t, now', c, k', hc, he, ht, hnow', hfresh, hsize, hcert, htag, hk, hsig, hr⟩ :=
    (validateRequest_eq_ok lib srv hmacKey).mp h
  cases hnow'
  simp only [Prod.mk.injEq] at hr
  obtain ⟨rfl, rfl, -⟩ := hr
  refine ⟨⟨cert, info, hc, he, rfl⟩, t, ht, (fresh_iff hnow).mp hfresh |>.1,
    (fresh_iff hnow).mp hfresh |>.2, hsize, c, hcert, ⟨_, htag, rfl⟩, hk, ?_⟩
  unfold SignedAsRequired at hsig
  cases hp : srv.requireRusticaProof <;> simp only [hp, ↓reduceIte] at hsig
  · exact .inl ⟨rfl, hsig⟩
  · exact .inr ⟨rfl, hsig.1, hsig.1.symm.trans hsig.2⟩

/-- `alice` answers at time `102` a challenge of time `100` whose `key_id` is the sample tag. -/
theorem validateRequest_sound_alice :
    5 ≤ (102 : U64).toNat ∧
    (validateRequest Libraries.sample RusticaServer.sample ⟨[42]⟩ [[1]]
        ⟨"100", "ssh-ed25519 k", "2a17"⟩ (some 102)).result =
      .ok (⟨"ssh-ed25519", [107], none⟩, ["alice"], none) ∧
    ((∃ cert info, [[(1 : UInt8)]].head? = some cert ∧
        extractCertificateInformation Libraries.sample cert = .ok info ∧
        info.identities = ["alice"]) ∧
      ∃ t, parseU64 "100" = some t ∧ t.toNat ≤ (102 : U64).toNat ∧
        (102 : U64).toNat ≤ t.toNat + 5 ∧ "2a17".utf8ByteSize ≤ 1024 ∧
        ∃ c, Libraries.sample.certificateFromString "2a17" = .ok c ∧
          (∃ tag, hexDecode c.keyId = some tag ∧ Libraries.sample.hmacSign ⟨[42]⟩
            (decimal t ++ "-" ++ "ssh-ed25519 k" ++ "-" ++ ",".intercalate ["alice"]) = tag) ∧
          Libraries.sample.publicKeyFromString "ssh-ed25519 k" = some ⟨"ssh-ed25519", [107], none⟩ ∧
          ((RusticaServer.sample.requireRusticaProof = false ∧
              Libraries.sample.fingerprint c.signatureKey =
                Libraries.sample.fingerprint RusticaServer.sample.challengeKey.pubkey) ∨
            (RusticaServer.sample.requireRusticaProof = true ∧
              Libraries.sample.fingerprint c.key = Libraries.sample.fingerprint c.signatureKey ∧
              Libraries.sample.fingerprint c.signatureKey =
                Libraries.sample.fingerprint ⟨"ssh-ed25519", [107], none⟩))) :=
  have h : (validateRequest Libraries.sample RusticaServer.sample ⟨[42]⟩ [[1]]
      ⟨"100", "ssh-ed25519 k", "2a17"⟩ (some 102)).result =
      .ok (⟨"ssh-ed25519", [107], none⟩, ["alice"], none) := rfl
  ⟨by decide, h, validateRequest_sound _ _ _ (by decide) h⟩

end Accept

/-! ## The mTLS refresh hint -/

/-- The refresh hint in `u64` arithmetic, whose subtraction never wraps. -/
theorem certificateRefreshSettings_eq (srv : RusticaServer) (expiry time : U64) :
    certificateRefreshSettings srv expiry time =
      if expiry.toNat < time.toNat ∨
          expiry.toNat - time.toNat < srv.clientAuthority.expirationRenewalPeriod.toNat then
        some { notAfter := time + srv.clientAuthority.validityLength, notBefore := time }
      else none := by
  unfold certificateRefreshSettings
  by_cases h : time > expiry
  · have : expiry.toNat < time.toNat := h
    simp [h, this]
  · have hle : time ≤ expiry := BitVec.not_lt.mp h
    have : ¬ expiry.toNat < time.toNat := Nat.not_lt.mpr hle
    simp only [gt_iff_lt, h, decide_False, Bool.false_or, this, false_or, BitVec.lt_def,
      BitVec.toNat_sub_of_le hle, decide_eq_true_eq]

/-- The extracted expiry is the parsed certificate's `not_after`. -/
theorem extractCertificateInformation_eq_ok {lib : Libraries} {peer : Bytes}
    {info : MtlsCertificateInfo} (h : extractCertificateInformation lib peer = .ok info) :
    ∃ c, lib.parseX509 peer = some c ∧ info.expiryTimestamp = c.notAfter := by
  unfold extractCertificateInformation at h
  split at h
  · cases h
  · rename_i c hc
    cases hn : commonNames c.subject.flatten <;> rw [hn] at h <;> cases h
    exact ⟨c, hc, rfl⟩

/-- A certificate whose subject is a single `CommonName` carries exactly that one identity. -/
theorem extractCertificateInformation_single {lib : Libraries} {der : Bytes} {c : X509Certificate}
    {name : String} (hc : lib.parseX509 der = some c)
    (hs : c.subject = [[⟨commonNameOid, some name⟩]]) :
    extractCertificateInformation lib der = .ok ⟨[name], c.notAfter⟩ := by
  simp [extractCertificateInformation, hc, hs, commonNames]

/-- The refresh hint in integers: as stated for `E ≥ 0`, through `E + 2^64` for `E < 0`. -/
theorem refresh_hint_integer (lib : Libraries) (srv : RusticaServer) (hmacKey : HmacKey)
    {peerCerts : List Bytes} {challenge : Challenge} {now : U64} {k : PublicKey}
    {ids : List String} {r : Option CertificateRefreshSettings} {der : Bytes} {c : X509Certificate}
    (hder : peerCerts.head? = some der) (hc : lib.parseX509 der = some c)
    (h : (validateRequest lib srv hmacKey peerCerts challenge (some now)).result = .ok (k, ids, r))
    (hV : now.toNat + srv.clientAuthority.validityLength.toNat < 2 ^ 64) :
    (0 ≤ c.notAfter.toInt → r = if c.notAfter.toInt < now.toNat ∨
          c.notAfter.toInt - now.toNat < srv.clientAuthority.expirationRenewalPeriod.toNat then
        some { notAfter := now + srv.clientAuthority.validityLength, notBefore := now }
      else none) ∧
    (c.notAfter.toInt < 0 → r = if now.toNat + srv.clientAuthority.expirationRenewalPeriod.toNat ≤
          c.notAfter.toInt + 2 ^ 64 then none
      else some { notAfter := now + srv.clientAuthority.validityLength, notBefore := now }) ∧
    (now + srv.clientAuthority.validityLength).toNat =
      now.toNat + srv.clientAuthority.validityLength.toNat := by
  obtain ⟨cert, info, t, now', c', k', hcert, hi, -, hnow, -, -, -, -, -, -, hr⟩ :=
    (validateRequest_eq_ok lib srv hmacKey).mp h
  obtain ⟨c'', hc'', he⟩ := extractCertificateInformation_eq_ok hi
  rw [hder, Option.some.injEq] at hcert
  subst hcert
  rw [hc, Option.some.injEq] at hc''
  subst hc''
  cases hnow
  simp only [Prod.mk.injEq] at hr
  rw [hr.2.2, he, certificateRefreshSettings_eq, BitVec.toInt_eq_toNat_cond]
  refine ⟨fun hE => ?_, fun hE => ?_, by rw [BitVec.toNat_add, Nat.mod_eq_of_lt hV]⟩ <;>
    split_ifs at hE ⊢ <;> first | rfl | omega

/-- `Libraries.sample` whose certificates expired before the epoch: `not_after` is the `i64` `-1`. -/
def Libraries.preEpochSample : Libraries :=
  { Libraries.sample with
    parseX509 := fun der =>
      (Libraries.sample.parseX509 der).map fun c => { c with notAfter := BitVec.allOnes 64 } }

/-- An expiry at the epoch gets a hint at `102`; one at `-1` gets none. -/
theorem refresh_hint_integer_renewal :
    (validateRequest Libraries.sample RusticaServer.sample ⟨[42]⟩ [[0]]
        ⟨"100", "ssh-ed25519 k", "2a17"⟩ (some 102)).result =
      .ok (⟨"ssh-ed25519", [107], none⟩, ["alice"], some ⟨3702, 102⟩) ∧
    (some ⟨3702, 102⟩ : Option CertificateRefreshSettings) =
      (if (0 : U64).toInt < (102 : U64).toNat ∨
          (0 : U64).toInt - (102 : U64).toNat < (600 : U64).toNat then
        some { notAfter := 102 + 3600, notBefore := 102 }
      else none) ∧
    (validateRequest Libraries.preEpochSample RusticaServer.sample ⟨[42]⟩ [[1]]
        ⟨"100", "ssh-ed25519 k", "2a17"⟩ (some 102)).result =
      .ok (⟨"ssh-ed25519", [107], none⟩, ["alice"], none) ∧
    (none : Option CertificateRefreshSettings) =
      (if (102 : U64).toNat + (600 : U64).toNat ≤ (BitVec.allOnes 64 : U64).toInt + 2 ^ 64 then
        none
      else some { notAfter := 102 + 3600, notBefore := 102 }) :=
  have h₀ : (validateRequest Libraries.sample RusticaServer.sample ⟨[42]⟩ [[0]]
      ⟨"100", "ssh-ed25519 k", "2a17"⟩ (some 102)).result =
      .ok (⟨"ssh-ed25519", [107], none⟩, ["alice"], some ⟨3702, 102⟩) := rfl
  have h₁ : (validateRequest Libraries.preEpochSample RusticaServer.sample ⟨[42]⟩ [[1]]
      ⟨"100", "ssh-ed25519 k", "2a17"⟩ (some 102)).result =
      .ok (⟨"ssh-ed25519", [107], none⟩, ["alice"], none) := rfl
  have hd₀ : [[(0 : UInt8)]].head? = some [0] := rfl
  have hd₁ : [[(1 : UInt8)]].head? = some [1] := rfl
  have hc₀ : Libraries.sample.parseX509 [0] =
      some ⟨0, [[⟨commonNameOid, some "alice"⟩]], [0]⟩ := rfl
  have hc₁ : Libraries.preEpochSample.parseX509 [1] =
      some ⟨BitVec.allOnes 64, [[⟨commonNameOid, some "alice"⟩]], [1]⟩ := rfl
  ⟨h₀, (refresh_hint_integer _ _ _ hd₀ hc₀ h₀ (by decide)).1 (by decide), h₁,
    (refresh_hint_integer _ _ _ hd₁ hc₁ h₁ (by decide)).2.1 (by decide)⟩

/-- A certificate that expired at `-1`, before the epoch, gets no hint at `102`, read as `2^64 - 1`. -/
theorem refresh_hint_negative_expiry :
    Libraries.preEpochSample.parseX509 [1] =
      some ⟨BitVec.allOnes 64, [[⟨commonNameOid, some "alice"⟩]], [1]⟩ ∧
    (BitVec.allOnes 64 : U64).toInt = -1 ∧
    (validateRequest Libraries.preEpochSample RusticaServer.sample ⟨[42]⟩ [[1]]
        ⟨"100", "ssh-ed25519 k", "2a17"⟩ (some 102)).result =
      .ok (⟨"ssh-ed25519", [107], none⟩, ["alice"], none) ∧
    (BitVec.allOnes 64 : U64).toInt < (102 : U64).toNat :=
  ⟨rfl, by decide, rfl, by decide⟩

/-! ## What `validate_request` sends and how it fails -/

theorem not_authorizeSshCert_mem_of_onlyLogs {effects : List Effect} (h : OnlyLogs effects)
    (p : SshAuthorizationRequestProperties) : Effect.authorizeSshCert p ∉ effects := fun hp => by
  obtain ⟨l, hl⟩ := h _ hp
  cases hl

theorem commonNames_eq_error {e : RusticaServerError} :
    ∀ {attrs : List AttributeTypeAndValue}, commonNames attrs = .error e → e = .notAuthorized
  | [], h => by cases h
  | attr :: rest, h => by
    unfold commonNames at h
    split at h
    · split at h
      · cases hr : commonNames rest <;> rw [hr] at h <;> cases h
        exact commonNames_eq_error hr
      · cases h; rfl
    · exact commonNames_eq_error h

theorem extractCertificateInformation_eq_error {lib : Libraries} {peer : Bytes}
    {e : RusticaServerError} (h : extractCertificateInformation lib peer = .error e) :
    e = .notAuthorized := by
  unfold extractCertificateInformation at h
  split at h
  · cases h; rfl
  · cases hr : commonNames _ <;> rw [hr] at h <;> cases h
    exact commonNames_eq_error hr

/-- The errors `validate_request` returns. -/
def ValidateError (e : RusticaServerError) : Prop :=
  e = .badRequest ∨ e = .notAuthorized ∨ e = .unknown ∨ e = .timeExpired ∨ e = .badChallenge

/-- On every path `validate_request` only logs, and fails with one of its five codes. -/
theorem validateRequest_fails (lib : Libraries) (srv : RusticaServer) (hmacKey : HmacKey)
    (peerCerts : List Bytes) (challenge : Challenge) (clock : Option U64) :
    OnlyLogs (validateRequest lib srv hmacKey peerCerts challenge clock).effects ∧
      ∀ e, (validateRequest lib srv hmacKey peerCerts challenge clock).result = .error e →
        ValidateError e := by
  unfold validateRequest
  rcases peerCerts.head? with _ | cert
  · simp [OnlyLogs, ValidateError]
  rcases hx : extractCertificateInformation lib cert with e | info
  · simp [hx, OnlyLogs, ValidateError, extractCertificateInformation_eq_error hx]
  simp only [hx, Emit.bind_effects, Emit.bind_result, Emit.pure_effects, Emit.pure_result,
    List.nil_append]
  rcases parseU64 challenge.challengeTime with _ | t
  · simp [OnlyLogs, ValidateError]
  rcases clock with _ | now
  · simp [OnlyLogs, ValidateError]
  by_cases h1 : now - t > 5
  · simp only [h1, ↓reduceIte]
    simp [OnlyLogs, ValidateError, rusticaWarning]
  by_cases h2 : challenge.challenge.utf8ByteSize > 1024
  · simp only [h1, h2, ↓reduceIte]
    simp [OnlyLogs, ValidateError, rusticaWarning]
  simp only [h1, h2, ↓reduceIte, Emit.bind_effects, Emit.bind_result, Emit.pure_effects,
    Emit.pure_result, List.nil_append]
  rcases lib.certificateFromString challenge.challenge with _ | c
  · simp [OnlyLogs, ValidateError, rusticaWarning]
  simp only [Emit.bind_effects, Emit.bind_result, Emit.pure_effects, Emit.pure_result,
    List.nil_append]
  rcases hexDecode c.keyId with _ | d
  · simp [OnlyLogs, ValidateError]
  by_cases h3 : hmacVerify lib hmacKey (hmacInput t challenge.pubkey info.identities) d
  swap
  · simp [h3, OnlyLogs, ValidateError, rusticaWarning]
  simp only [h3, Bool.not_true, Bool.false_eq_true, ↓reduceIte, Emit.bind_effects,
    Emit.bind_result, Emit.pure_effects, Emit.pure_result, List.nil_append]
  rcases lib.publicKeyFromString challenge.pubkey with _ | k
  · simp [OnlyLogs, ValidateError, rusticaError]
  cases srv.requireRusticaProof <;>
    simp only [Bool.not_false, Bool.not_true, ↓reduceIte, Bool.false_eq_true, Emit.bind_effects,
      Emit.bind_result, Emit.pure_effects, Emit.pure_result, List.nil_append] <;>
    repeat' split
  all_goals simp [OnlyLogs, ValidateError, rusticaWarning]

theorem validateRequest_onlyLogs (lib : Libraries) (srv : RusticaServer) (hmacKey : HmacKey)
    (peerCerts : List Bytes) (challenge : Challenge) (clock : Option U64) :
    OnlyLogs (validateRequest lib srv hmacKey peerCerts challenge clock).effects :=
  (validateRequest_fails lib srv hmacKey peerCerts challenge clock).1

theorem validateRequest_ne_success (lib : Libraries) (srv : RusticaServer) (hmacKey : HmacKey)
    (peerCerts : List Bytes) (challenge : Challenge) (clock : Option U64) :
    (validateRequest lib srv hmacKey peerCerts challenge clock).result ≠ .error .success := fun h => by
  rcases (validateRequest_fails lib srv hmacKey peerCerts challenge clock).2 _ h with h | h | h | h | h <;>
    cases h

end Rustica

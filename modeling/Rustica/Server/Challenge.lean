import Rustica.Server.Validate
import Rustica.OpenSsh

/-!
# Minting challenges (`Rustica::challenge`)

`challenge` checks the caller's mTLS certificate and the requested key, and answers with an SSH
host certificate for that key, signed by the challenge key, whose `key_id` is the hex HMAC tag of
`hmacInput time pubkey identities`: the same string `validate_request` recomputes.

* `challenge_eq_ok` : what a minted challenge is;
* `challenge_answerable` : sent back within five seconds by the same peer, unmodified or re-signed
  by the requested key in proof mode, it passes `validate_request`, when its text is within the
  1024-byte cap and the library parses back the certificate it wrote (`Libraries.openSsh` does);
* `challenge_exceeds_cap` : for an RSA-4096 key, whose text is 724 bytes, the minted certificate's
  text exceeds the cap, so the challenge can never be answered;
* `hmacInput_eq_iff` : the HMAC input determines the time, and the pubkey and identities only
  through `pubkey ++ "-" ++ join(identities)`;
* `hmacInput_binding` : the time always, and the pubkey for one identity list.
-/

namespace Rustica

/-- The challenge certificate: `Certificate::builder(pubkey, Host, challenge_key.pubkey)` with the
sentinel serial, the tag as `key_id`, a zero validity window, signed by the challenge key. -/
def challengeCertificate (lib : Libraries) (srv : RusticaServer) (sshPubkey : PublicKey)
    (tag : Bytes) : Option Certificate := do
  let cert ← Certificate.builder lib sshPubkey .host srv.challengeKey.pubkey
  lib.signCertificate srv.challengeKey
    { cert with serial := 0xFEFEFEFEFEFEFEFE, keyId := hexEncode tag, validAfter := 0,
                validBefore := 0 }

/-- `Rustica::challenge`, reading the clock once (`none` before the epoch, where the handler's
`expect` panics). -/
def challenge (lib : Libraries) (srv : RusticaServer) (remoteAddr : Option SocketAddr)
    (peerCerts : Option (List Bytes)) (request : ChallengeRequest) (clock : Option U64) :
    Emit Effect (Except Status ChallengeResponse) := do
  let some _ := remoteAddr | return .error (Status.permissionDenied "")
  let some peerCerts := peerCerts | return .error (Status.permissionDenied "")
  let some peer := peerCerts.head? | return .error (Status.permissionDenied "")
  let .ok info := extractCertificateInformation lib peer
    | return .error (Status.permissionDenied "")
  let mtlsIdentities := info.identities
  if request.pubkey.utf8ByteSize > 1024 then
    rusticaWarning ("The pubkey size is too large (" ++ toString request.pubkey.utf8ByteSize ++
      " chars) for a challenge request from [" ++ joinIdentities mtlsIdentities ++ "]")
    return .error (Status.permissionDenied "")
  let some sshPubkey := lib.publicKeyFromString request.pubkey
    | return .error (Status.permissionDenied "")
  let some time := clock | return .error Status.panic
  let tag := lib.hmacSign srv.hmacKey (hmacInput time request.pubkey mtlsIdentities)
  let some cert := challengeCertificate lib srv sshPubkey tag
    | return .error (Status.permissionDenied "")
  return .ok { time := decimal time, challenge := lib.certificateToString cert,
               noSignatureRequired := !srv.requireRusticaProof }

/-! ## What a minted challenge is -/

section Minted
variable {lib : Libraries} {srv : RusticaServer}

theorem challenge_eq_ok {remoteAddr : Option SocketAddr} {peerCerts : Option (List Bytes)}
    {request : ChallengeRequest} {clock : Option U64} {resp : ChallengeResponse}
    (h : (challenge lib srv remoteAddr peerCerts request clock).result = .ok resp) :
    ∃ peers cert info k t c, peerCerts = some peers ∧ peers.head? = some cert ∧
      extractCertificateInformation lib cert = .ok info ∧ request.pubkey.utf8ByteSize ≤ 1024 ∧
      lib.publicKeyFromString request.pubkey = some k ∧ clock = some t ∧
      challengeCertificate lib srv k
        (lib.hmacSign srv.hmacKey (hmacInput t request.pubkey info.identities)) = some c ∧
      resp = { time := decimal t, challenge := lib.certificateToString c,
               noSignatureRequired := !srv.requireRusticaProof } := by
  unfold challenge at h
  rcases remoteAddr with _ | _ <;> rcases peerCerts with _ | peers <;>
    simp only [Emit.pure_result, reduceCtorEq] at h
  rcases hc : peers.head? with _ | cert <;> simp only [hc, Emit.pure_result, reduceCtorEq] at h
  rcases hi : extractCertificateInformation lib cert with _ | info <;>
    simp only [hi, Emit.pure_result, reduceCtorEq] at h
  by_cases hs : request.pubkey.utf8ByteSize > 1024
  · simp [hs] at h
  rcases hk : lib.publicKeyFromString request.pubkey with _ | k <;>
    simp only [hs, hk, ↓reduceIte, Emit.pure_result, reduceCtorEq] at h
  rcases clock with _ | t <;> simp only [Emit.pure_result, reduceCtorEq] at h
  rcases hcert : challengeCertificate lib srv k
      (lib.hmacSign srv.hmacKey (hmacInput t request.pubkey info.identities)) with _ | c <;>
    simp only [hcert, Emit.bind_result, Emit.pure_result, reduceCtorEq, Except.ok.injEq] at h
  exact ⟨peers, cert, info, k, t, c, rfl, hc, hi, Nat.le_of_not_lt hs, rfl, rfl, hcert, h.symm⟩

theorem challenge_minted {addr : SocketAddr} {peers : List Bytes} {request : ChallengeRequest}
    {t : U64} {cert : Bytes} {info : MtlsCertificateInfo} {k : PublicKey} {c : Certificate}
    (hc : peers.head? = some cert) (hi : extractCertificateInformation lib cert = .ok info)
    (hs : request.pubkey.utf8ByteSize ≤ 1024) (hk : lib.publicKeyFromString request.pubkey = some k)
    (hcert : challengeCertificate lib srv k
      (lib.hmacSign srv.hmacKey (hmacInput t request.pubkey info.identities)) = some c) :
    (challenge lib srv (some addr) (some peers) request (some t)).result =
      .ok { time := decimal t, challenge := lib.certificateToString c,
            noSignatureRequired := !srv.requireRusticaProof } := by
  simp [challenge, hc, hi, Nat.not_lt.mpr hs, hk, hcert]

/-- The challenge certificate: the requested key, the hex tag, the challenge key's signature. -/
theorem challengeCertificate_eq_some {k : PublicKey} {tag : Bytes} {c : Certificate}
    (hsign : ∀ priv b b', lib.signCertificate priv b = some b' →
      b'.key = b.key ∧ b'.keyId = b.keyId ∧ b'.signatureKey = priv.pubkey)
    (h : challengeCertificate lib srv k tag = some c) :
    c.key = k ∧ c.keyId = hexEncode tag ∧ c.signatureKey = srv.challengeKey.pubkey := by
  simp only [challengeCertificate, Certificate.builder, Option.bind_eq_bind] at h
  split at h
  · exact hsign _ _ _ h
  · cases h

end Minted

/-! ## Answering a challenge -/

/-- A minted challenge sent back in time as the mode asks passes when it fits and parses back. -/
theorem challenge_answerable (lib : Libraries) (srv : RusticaServer)
    (hsign : ∀ priv b b', lib.signCertificate priv b = some b' →
      b'.key = b.key ∧ b'.keyId = b.keyId ∧ b'.signatureKey = priv.pubkey)
    (remoteAddr : Option SocketAddr) (peers : List Bytes) (request : ChallengeRequest)
    (t now : U64) (resp : ChallengeResponse)
    (h : (challenge lib srv remoteAddr (some peers) request (some t)).result = .ok resp)
    (hnow : t.toNat ≤ now.toNat ∧ now.toNat ≤ t.toNat + 5) :
    ∃ k info c, lib.publicKeyFromString request.pubkey = some k ∧
      (∃ cert, peers.head? = some cert ∧ extractCertificateInformation lib cert = .ok info) ∧
      challengeCertificate lib srv k
        (lib.hmacSign srv.hmacKey (hmacInput t request.pubkey info.identities)) = some c ∧
      resp.time = decimal t ∧ resp.challenge = lib.certificateToString c ∧
      (srv.requireRusticaProof = false → resp.challenge.utf8ByteSize ≤ 1024 →
        lib.certificateFromString resp.challenge = .ok c →
        (validateRequest lib srv srv.hmacKey peers ⟨resp.time, request.pubkey, resp.challenge⟩
          (some now)).result =
            .ok (k, info.identities, certificateRefreshSettings srv info.expiryTimestamp now)) ∧
      (srv.requireRusticaProof = true → ∀ priv c', priv.pubkey = k →
        lib.signCertificate priv c = some c' → (lib.certificateToString c').utf8ByteSize ≤ 1024 →
        lib.certificateFromString (lib.certificateToString c') = .ok c' →
        (validateRequest lib srv srv.hmacKey peers
          ⟨resp.time, request.pubkey, lib.certificateToString c'⟩ (some now)).result =
            .ok (k, info.identities, certificateRefreshSettings srv info.expiryTimestamp now)) := by
  obtain ⟨peers', cert, info, k, t', c, hp, hc, hi, -, hk, ht, hcert, rfl⟩ := challenge_eq_ok h
  cases hp; cases ht
  obtain ⟨hkey, hid, hsig⟩ := challengeCertificate_eq_some hsign hcert
  have hfresh : now - t ≤ 5 := by bv_omega
  refine ⟨k, info, c, hk, ⟨cert, hc, hi⟩, hcert, rfl, rfl, fun hproof hsize hparse => ?_,
    fun hproof priv c' hpriv hc' hsize hparse => ?_⟩
  · refine (validateRequest_eq_ok lib srv srv.hmacKey).mpr ⟨cert, info, t, now, c, k, hc, hi,
      parseU64_decimal t, rfl, hfresh, hsize, hparse, ?_, hk, ?_, rfl⟩
    · rw [hid, hexDecode_hexEncode]
    · simp [SignedAsRequired, hproof, hsig]
  · obtain ⟨hkey', hid', hsig'⟩ := hsign _ _ _ hc'
    refine (validateRequest_eq_ok lib srv srv.hmacKey).mpr ⟨cert, info, t, now, c', k, hc, hi,
      parseU64_decimal t, rfl, hfresh, hsize, hparse, ?_, hk, ?_, rfl⟩
    · rw [hid', hid, hexDecode_hexEncode]
    · simp [SignedAsRequired, hproof, hsig', hkey', hkey, hpriv]

/-! ## With OpenSSH's formats -/

/-- The challenge certificate `Libraries.openSsh` mints for a key of a known type. -/
theorem openSsh_challengeCertificate (srv : RusticaServer) {k : PublicKey} (tag : Bytes)
    (hk : (keyParts k.keyType).isSome) :
    ∃ c, challengeCertificate Libraries.openSsh srv k tag = some c ∧ c.key = k ∧
      c.keyId = hexEncode tag ∧ c.principals = [] ∧ c.criticalOptions = [] ∧
      c.extensions = .custom [] ∧ c.signatureKey = srv.challengeKey.pubkey ∧
      c.signature = signatureOf c.signatureKey (certificateBody c) := by
  have hb : Libraries.openSsh.hasCertificateType k = true := hk
  simp only [challengeCertificate, Certificate.builder, hb, if_true, Option.bind_eq_bind,
    Option.some_bind]
  exact ⟨_, rfl, rfl, rfl, rfl, rfl, rfl, rfl, rfl⟩

/-- A signed host certificate with the challenge's empty fields reads back from its text. -/
theorem openSsh_certificateFromString_challenge {c : Certificate} (hk : WellFormedKey c.key)
    (hkc : c.key.comment = none) (hid : IsAscii c.keyId.data) (hp : c.principals = [])
    (ho : c.criticalOptions = []) (he : c.extensions = .custom [])
    (hsk : IsAscii c.signatureKey.keyType.data) (hskc : c.signatureKey.comment = none)
    (hsize : (certificateBlob c).length < 2 ^ 32)
    (hsig : c.signature = signatureOf c.signatureKey (certificateBody c)) :
    Libraries.openSsh.certificateFromString (Libraries.openSsh.certificateToString c) = .ok c :=
  openSsh_certificateFromString_certificateText
    ⟨hk, hkc, hid, by simp [hp], by simp [ho], by simp [he, extensionEntries],
      by simp [he, standardExtensions], hsk, hskc, hsize⟩ hsig

/-- An Ed25519 key as OpenSSH writes it. -/
def ed25519Sample : PublicKey := ⟨"ssh-ed25519", sshString (List.replicate 32 1), none⟩

/-- `RusticaServer.sample` in proof mode. -/
def RusticaServer.sampleProof : RusticaServer := { RusticaServer.sample with requireRusticaProof := true }

theorem wellFormedKey_ed25519Sample : WellFormedKey ed25519Sample :=
  ⟨by decide, by decide, by decide, [List.replicate 32 1], rfl, by simp, by simp [ed25519Sample]⟩

/-- An Ed25519 challenge certificate fits the cap and reads back from its text. -/
theorem openSsh_ed25519_fits {c : Certificate} {tag : Bytes} (hkey : c.key = ed25519Sample)
    (hid : c.keyId = hexEncode tag) (htag : tag.length = 32) (hp : c.principals = [])
    (ho : c.criticalOptions = []) (he : c.extensions = .custom [])
    (hsk : c.signatureKey.keyType = "ssh-ed25519") (hskc : c.signatureKey.comment = none)
    (hskl : c.signatureKey.kind.length ≤ 36)
    (hsig : c.signature = signatureOf c.signatureKey (certificateBody c)) :
    (certificateText c).utf8ByteSize ≤ 1024 ∧
      Libraries.openSsh.certificateFromString (certificateText c) = .ok c := by
  have hL : (certificateBlob c).length ≤ 362 := by
    rw [length_certificateBlob, hkey, hid, hp, ho, he, hsig, length_signatureOf, hsk]
    simp only [ed25519Sample, length_sshString, List.length_replicate, length_hexEncode, htag,
      principalsBlob, extensionEntries, List.flatMap_nil, List.length_nil, length_certKeyType]
    have h11 : "ssh-ed25519".length = 11 := rfl
    omega
  have hasc : IsAscii c.keyId.data := hid ▸ isAscii_hexEncode tag
  refine ⟨?_, openSsh_certificateFromString_challenge (hkey ▸ wellFormedKey_ed25519Sample)
    (by rw [hkey]; rfl) hasc hp ho he (hsk ▸ by decide) hskc (by omega) hsig⟩
  rw [utf8ByteSize_certificateText (hkey ▸ by decide) hasc, hkey, hid, length_hexEncode, htag]
  have h11 : ed25519Sample.keyType.length = 11 := rfl
  omega

/-- With OpenSSH's formats an Ed25519 key's challenge is answered in both modes. -/
theorem challenge_answerable_openSsh :
    ∃ c c', (challenge Libraries.openSsh RusticaServer.sample (some SocketAddr.sample) (some [[1]])
        ⟨keyText ed25519Sample⟩ (some 100)).result = .ok ⟨decimal 100, certificateText c, true⟩ ∧
      (validateRequest Libraries.openSsh RusticaServer.sample RusticaServer.sample.hmacKey [[1]]
        ⟨decimal 100, keyText ed25519Sample, certificateText c⟩ (some 102)).result =
          .ok (ed25519Sample, ["alice"], none) ∧
      (challenge Libraries.openSsh RusticaServer.sampleProof (some SocketAddr.sample) (some [[1]])
        ⟨keyText ed25519Sample⟩ (some 100)).result = .ok ⟨decimal 100, certificateText c, false⟩ ∧
      Libraries.openSsh.signCertificate ⟨ed25519Sample, [5]⟩ c = some c' ∧
      (validateRequest Libraries.openSsh RusticaServer.sampleProof RusticaServer.sample.hmacKey [[1]]
        ⟨decimal 100, keyText ed25519Sample, certificateText c'⟩ (some 102)).result =
          .ok (ed25519Sample, ["alice"], none) := by
  have hsign : ∀ priv b b', Libraries.openSsh.signCertificate priv b = some b' →
      b'.key = b.key ∧ b'.keyId = b.keyId ∧ b'.signatureKey = priv.pubkey := fun _ _ _ h => by
    cases Option.some.inj h
    exact ⟨rfl, rfl, rfl⟩
  have hk : Libraries.openSsh.publicKeyFromString (keyText ed25519Sample) = some ed25519Sample :=
    parseKey_keyText wellFormedKey_ed25519Sample rfl
  have hs : (keyText ed25519Sample).utf8ByteSize ≤ 1024 := by
    rw [utf8ByteSize_keyText (by decide) rfl]
    simp only [keyBlob, ed25519Sample, List.length_append, length_sshString, length_asciiBytes,
      List.length_replicate]
    decide
  have hi : extractCertificateInformation Libraries.openSsh [1] = .ok ⟨["alice"], 1000⟩ := rfl
  obtain ⟨c, hcert, hkey, hid, hp, ho, he, hsk, hsig⟩ := openSsh_challengeCertificate
    RusticaServer.sample (Libraries.openSsh.hmacSign RusticaServer.sample.hmacKey
      (hmacInput 100 (keyText ed25519Sample) ["alice"])) (k := ed25519Sample) rfl
  obtain ⟨hfit, hparse⟩ := openSsh_ed25519_fits hkey hid (length_openSsh_hmacSign _ _) hp ho he
    (by rw [hsk]; rfl) (by rw [hsk]; rfl) (by rw [hsk]; decide) hsig
  obtain ⟨c', hc'⟩ : ∃ c', Libraries.openSsh.signCertificate ⟨ed25519Sample, [5]⟩ c = some c' :=
    ⟨_, rfl⟩
  have hc'eq := (Option.some.inj hc').symm
  obtain ⟨hfit', hparse'⟩ := openSsh_ed25519_fits (c := c') (by rw [hc'eq]; exact hkey)
    (by rw [hc'eq]; exact hid) (length_openSsh_hmacSign _ _) (by rw [hc'eq]; exact hp)
    (by rw [hc'eq]; exact ho) (by rw [hc'eq]; exact he) (by rw [hc'eq]; rfl) (by rw [hc'eq]; rfl)
    (by rw [hc'eq]; simp [ed25519Sample]) (by rw [hc'eq]; rfl)
  have h₀ := @challenge_minted _ RusticaServer.sample SocketAddr.sample [[1]] _ _ _ _ _ _ rfl hi hs hk
    hcert
  have h₁ := @challenge_minted _ RusticaServer.sampleProof SocketAddr.sample [[1]] _ _ _ _ _ _ rfl hi hs
    hk hcert
  have hnow : (100 : U64).toNat ≤ (102 : U64).toNat ∧ (102 : U64).toNat ≤ (100 : U64).toNat + 5 := by
    decide
  obtain ⟨k, info, c₀, hk₀, ⟨cert, hc₀, hi₀⟩, hcert₀, -, -, hmode, -⟩ := challenge_answerable
    Libraries.openSsh RusticaServer.sample hsign _ [[1]] _ 100 102 _ h₀ hnow
  obtain ⟨k₁, info₁, c₁, hk₁, ⟨cert₁, hc₁, hi₁⟩, hcert₁, -, -, -, hproof⟩ := challenge_answerable
    Libraries.openSsh RusticaServer.sampleProof hsign _ [[1]] _ 100 102 _ h₁ hnow
  cases Option.some.inj (hk₀.symm.trans hk); cases Option.some.inj (hk₁.symm.trans hk)
  cases Option.some.inj hc₀; cases Option.some.inj hc₁
  cases Except.ok.inj (hi₀.symm.trans hi); cases Except.ok.inj (hi₁.symm.trans hi)
  cases Option.some.inj (hcert₀.symm.trans hcert); cases Option.some.inj (hcert₁.symm.trans hcert)
  exact ⟨c, c', h₀, hmode rfl hfit hparse, h₁, hc', hproof rfl ⟨ed25519Sample, [5]⟩ c' rfl hc' hfit'
    hparse'⟩

/-! ## The size cap -/

/-- An RSA-4096 key as OpenSSH writes it: the exponent 65537 and a 512-byte modulus `n`, each an
`mpint` (the modulus after a zero byte, its top bit being set). -/
def rsa4096Key (n : Bytes) : PublicKey := ⟨"ssh-rsa", sshString [1, 0, 1] ++ sshString (0 :: n), none⟩

theorem isAscii_rsa4096Key_keyType (n : Bytes) : IsAscii (rsa4096Key n).keyType.data :=
  show IsAscii "ssh-rsa".data by decide

theorem wellFormedKey_rsa4096Key {n : Bytes} (hn : n.length = 512) : WellFormedKey (rsa4096Key n) :=
  ⟨isAscii_rsa4096Key_keyType n, show ' ' ∉ "ssh-rsa".data by decide,
    show "ssh-rsa".length < 2 ^ 32 by decide, [[1, 0, 1], 0 :: n], rfl, by simp [hn],
    by simp [rsa4096Key]⟩

theorem utf8ByteSize_rsa4096Key {n : Bytes} (hn : n.length = 512) :
    (keyText (rsa4096Key n)).utf8ByteSize = 724 := by
  rw [utf8ByteSize_keyText (isAscii_rsa4096Key_keyType n) rfl]
  simp only [keyBlob, rsa4096Key, List.length_append, length_sshString, length_asciiBytes,
    List.length_cons, hn]
  decide

/-- An RSA-4096 certificate with a 64-character `key_id` has a text over 1024 bytes. -/
theorem cap_lt_utf8ByteSize_rsa4096 {c : Certificate} {n : Bytes} (hn : n.length = 512)
    (hk : c.key = rsa4096Key n) (hid : IsAscii c.keyId.data) (hl : c.keyId.length = 64) :
    1024 < (certificateText c).utf8ByteSize := by
  have hL := length_certificateBlob c
  rw [utf8ByteSize_certificateText (hk ▸ isAscii_rsa4096Key_keyType n) hid, hl]
  rw [hk] at hL ⊢
  simp only [rsa4096Key, List.length_append, length_sshString, List.length_cons, hn,
    length_certKeyType] at hL ⊢
  have h7 : "ssh-rsa".length = 7 := rfl
  omega

/-- An RSA-4096 key is accepted, but its challenge exceeds the cap and fails with `Unknown`. -/
theorem challenge_exceeds_cap (srv : RusticaServer) (addr : SocketAddr) (peers : List Bytes)
    (cert : Bytes) (info : MtlsCertificateInfo) (n : Bytes) (t now : U64) (hn : n.length = 512)
    (hc : peers.head? = some cert)
    (hi : extractCertificateInformation Libraries.openSsh cert = .ok info)
    (hnow : t.toNat ≤ now.toNat ∧ now.toNat ≤ t.toNat + 5) :
    (keyText (rsa4096Key n)).utf8ByteSize = 724 ∧
    Libraries.openSsh.publicKeyFromString (keyText (rsa4096Key n)) = some (rsa4096Key n) ∧
    ∃ c, (challenge Libraries.openSsh srv (some addr) (some peers) ⟨keyText (rsa4096Key n)⟩
        (some t)).result = .ok ⟨decimal t, certificateText c, !srv.requireRusticaProof⟩ ∧
      ∀ c', (c' = c ∨ ∃ priv, priv.pubkey = rsa4096Key n ∧
          Libraries.openSsh.signCertificate priv c = some c') →
        1024 < (certificateText c').utf8ByteSize ∧
        (validateRequest Libraries.openSsh srv srv.hmacKey peers
          ⟨decimal t, keyText (rsa4096Key n), certificateText c'⟩ (some now)).result =
            .error .unknown := by
  have hsize := utf8ByteSize_rsa4096Key hn
  have hk := parseKey_keyText (wellFormedKey_rsa4096Key hn) rfl
  obtain ⟨c, hcert, hkey, hid, -⟩ := openSsh_challengeCertificate srv
    (Libraries.openSsh.hmacSign srv.hmacKey (hmacInput t (keyText (rsa4096Key n)) info.identities))
    (k := rsa4096Key n) rfl
  have hfresh : now - t ≤ 5 := by bv_omega
  refine ⟨hsize, hk, c, challenge_minted hc hi (by rw [hsize]; decide) hk hcert, fun c' hc' => ?_⟩
  have hc'k : c'.key = rsa4096Key n ∧ c'.keyId = c.keyId := by
    rcases hc' with rfl | ⟨priv, -, h⟩
    · exact ⟨hkey, rfl⟩
    · obtain ⟨hc', -⟩ := openSsh_signCertificate_eq h
      rw [hc']
      exact ⟨hkey, rfl⟩
  have hcap := cap_lt_utf8ByteSize_rsa4096 hn hc'k.1 (hc'k.2 ▸ hid ▸ isAscii_hexEncode _)
    (by rw [hc'k.2, hid, length_hexEncode, length_openSsh_hmacSign])
  exact ⟨hcap, validateRequest_too_large _ _ _ hc hi (parseU64_decimal t) hfresh hcap⟩


theorem challenge_exceeds_cap_rsa4096 :
    (List.replicate 512 (255 : UInt8)).length = 512 ∧ [[(1 : UInt8)]].head? = some [1] ∧
    extractCertificateInformation Libraries.openSsh [1] = .ok ⟨["alice"], 1000⟩ ∧
    ((100 : U64).toNat ≤ (102 : U64).toNat ∧ (102 : U64).toNat ≤ (100 : U64).toNat + 5) ∧
    (keyText (rsa4096Key (List.replicate 512 255))).utf8ByteSize = 724 ∧
    Libraries.openSsh.publicKeyFromString (keyText (rsa4096Key (List.replicate 512 255))) =
      some (rsa4096Key (List.replicate 512 255)) ∧
    ∃ c, (challenge Libraries.openSsh RusticaServer.sample (some SocketAddr.sample) (some [[1]])
        ⟨keyText (rsa4096Key (List.replicate 512 255))⟩ (some 100)).result =
          .ok ⟨decimal 100, certificateText c, true⟩ ∧
      ∀ c', (c' = c ∨ ∃ priv, priv.pubkey = rsa4096Key (List.replicate 512 255) ∧
          Libraries.openSsh.signCertificate priv c = some c') →
        1024 < (certificateText c').utf8ByteSize ∧
        (validateRequest Libraries.openSsh RusticaServer.sample RusticaServer.sample.hmacKey [[1]]
          ⟨decimal 100, keyText (rsa4096Key (List.replicate 512 255)), certificateText c'⟩
            (some 102)).result = .error .unknown :=
  have hn : (List.replicate 512 (255 : UInt8)).length = 512 := List.length_replicate _ _
  have hi : extractCertificateInformation Libraries.openSsh [1] = .ok ⟨["alice"], 1000⟩ := rfl
  have hnow : (100 : U64).toNat ≤ (102 : U64).toNat ∧ (102 : U64).toNat ≤ (100 : U64).toNat + 5 := by
    decide
  ⟨hn, rfl, hi, hnow, challenge_exceeds_cap RusticaServer.sample SocketAddr.sample [[1]] [1] _ _ 100 102
    hn rfl hi hnow⟩

/-! ## The HMAC input -/

/-- Two strings with a first `-` at the same place. -/
theorem append_dash_inj : ∀ {a c b d : List Char}, '-' ∉ a → '-' ∉ c →
    a ++ '-' :: b = c ++ '-' :: d → a = c ∧ b = d
  | [], [], _, _, _, _, h => ⟨rfl, by simpa using h⟩
  | [], x :: c, _, _, _, hc, h => by
    simp only [List.nil_append, List.cons_append, List.cons.injEq] at h
    exact absurd (h.1 ▸ List.mem_cons_self _ _) hc
  | x :: a, [], _, _, ha, _, h => by
    simp only [List.nil_append, List.cons_append, List.cons.injEq] at h
    exact absurd (h.1 ▸ List.mem_cons_self _ _) ha
  | x :: a, y :: c, _, _, ha, hc, h => by
    simp only [List.cons_append, List.cons.injEq] at h
    obtain ⟨rfl, h⟩ := h
    obtain ⟨rfl, rfl⟩ := append_dash_inj (fun h' => ha (List.mem_cons_of_mem _ h'))
      (fun h' => hc (List.mem_cons_of_mem _ h')) h
    exact ⟨rfl, rfl⟩

theorem hmacInput_data (t : U64) (pubkey : String) (identities : List String) :
    (hmacInput t pubkey identities).data =
      (decimal t).data ++ '-' :: (pubkey ++ "-" ++ joinIdentities identities).data := by
  simp [hmacInput]

/-- The HMAC input fixes the time, and the pubkey and identities only through their join. -/
theorem hmacInput_eq_iff {t t' : U64} {pubkey pubkey' : String}
    {identities identities' : List String} :
    hmacInput t pubkey identities = hmacInput t' pubkey' identities' ↔
      t = t' ∧ pubkey ++ "-" ++ joinIdentities identities =
        pubkey' ++ "-" ++ joinIdentities identities' := by
  constructor
  · intro h
    have h' := congrArg String.data h
    rw [hmacInput_data, hmacInput_data] at h'
    obtain ⟨h1, h2⟩ := append_dash_inj (dash_not_mem_decimal t) (dash_not_mem_decimal t') h'
    exact ⟨decimal_injective (String.ext h1), String.ext h2⟩
  · rintro ⟨rfl, h⟩
    exact String.ext (by rw [hmacInput_data, hmacInput_data, h])

/-- The HMAC input binds the time, the pubkey for fixed identities, and both only joined. -/
theorem hmacInput_binding (t t' : U64) (pubkey pubkey' : String)
    (identities identities' : List String) :
    (hmacInput t pubkey identities = hmacInput t' pubkey' identities' ↔
      t = t' ∧ pubkey ++ "-" ++ joinIdentities identities =
        pubkey' ++ "-" ++ joinIdentities identities') ∧
    (hmacInput t pubkey identities = hmacInput t' pubkey' identities → t = t' ∧ pubkey = pubkey') := by
  refine ⟨hmacInput_eq_iff, fun h => ?_⟩
  obtain ⟨rfl, hs⟩ := hmacInput_eq_iff.mp h
  refine ⟨rfl, String.ext ?_⟩
  simpa using congrArg String.data hs

/-- A comma in a `CommonName` or a dash in a key comment: two triples, one HMAC input. -/
theorem hmacInput_collisions :
    hmacInput 100 "ssh-ed25519 k" ["a,b"] = hmacInput 100 "ssh-ed25519 k" ["a", "b"] ∧
    ["a,b"] ≠ ["a", "b"] ∧
    hmacInput 100 "ssh-ed25519 k c" ["d-e"] = hmacInput 100 "ssh-ed25519 k c-d" ["e"] ∧
    "ssh-ed25519 k c" ≠ "ssh-ed25519 k c-d" ∧
    (Libraries.sample.publicKeyFromString "ssh-ed25519 k c").isSome ∧
    (Libraries.sample.publicKeyFromString "ssh-ed25519 k c-d").isSome := by
  decide

end Rustica

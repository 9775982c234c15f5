import Rustica.Server.AllowedSigners
import Rustica.Agent.Fetch

/-!
# The agent's signature check (`rustica-agent`, `ffi/signing.rs`)

`ffi_verify_signed_data` reads the allowed-signers file the server's `allowed_signers` renders,
cuts it into lines with `str::lines`, parses each with `parse_allowed_signer`, and takes the first
entry whose key is the signature's.

* `strLines`, `parseAllowedSigner`, `ffiVerifySignedData` : the three steps;
* `strLines_intercalate` : the lines of text joined with newlines are the joined lines, when none
  holds a newline or ends with a carriage return;
* `parseAllowedSigner_line` : a rendered line parses to its key and identity when the identity has
  no space;
* `ffiVerifySignedData_some` : the identity returned is that of a parsed line whose key is the
  signature's.

`ffi_sign_data` signs with the key file at a path. A signature it made is checked against the
first line whose key is the signer's, and verifies there (`ffiVerifySignedData_signed`), when the
armored text parses back and `sshcerts` signs correctly. Joined with the agent's fetch and the
server's rendering, data the agent signs verifies against the file it fetched, as the identity of
the first signer the authorizer listed for the key (`signed_data_verified`).
-/

namespace Rustica

/-! ## Lines -/

/-- The carriage return that `str::lines` takes as part of a `\r\n` line ending. -/
def stripCr (line : List Char) : List Char :=
  if line.getLast? = some '\r' then line.dropLast else line

/-- `str::lines`: the text cut at each newline, each line that a newline ends losing a carriage
return before it; a final newline ends the last line instead of starting an empty one. -/
def strLines (s : String) : List String :=
  let pieces := s.data.splitOn '\n'
  (pieces.dropLast.map stripCr ++ (pieces.getLast?.filter (!·.isEmpty)).toList).map String.mk

theorem stripCr_of_getLast {line : List Char} (h : line.getLast? ≠ some '\r') :
    stripCr line = line := if_neg h

theorem strLines_intercalate {ls : List (List Char)} (hls : ls ≠ [])
    (hnl : ∀ l ∈ ls, '\n' ∉ l) (hcr : ∀ l ∈ ls, l.getLast? ≠ some '\r')
    (hlast : ls.getLast hls ≠ []) :
    strLines ⟨['\n'].intercalate ls⟩ = ls.map String.mk := by
  simp only [strLines, List.splitOn_intercalate _ '\n' hnl hls, List.getLast?_eq_getLast ls hls]
  have hdrop : ls.dropLast.map stripCr = ls.dropLast :=
    (List.map_congr_left fun l hl => stripCr_of_getLast (hcr l (List.dropLast_subset _ hl))).trans
      (List.map_id _)
  rw [hdrop, show Option.filter (fun l => !l.isEmpty) (some (ls.getLast hls)) = some (ls.getLast hls)
    by simp [Option.filter, hlast], Option.toList_some, List.dropLast_append_getLast]

example : strLines "a\r\nb\r\n\nc\r" = ["a", "b", "", "c\r"] := by decide

/-! ## One line -/

/-- `parse_allowed_signer`: the text after the first space is the public key, the text before it
the identity; a line without a space, or whose key does not parse, is skipped. -/
def parseAllowedSigner (lib : Libraries) (allowedSigner : String) : Option (PublicKey × String) :=
  match splitAtSpace allowedSigner.data with
  | none => none
  | some (identity, pubkey) => (lib.publicKeyFromString ⟨pubkey⟩).map (·, ⟨identity⟩)

/-- The characters of the line `allowed_signers` renders for one signer. -/
def signerLine (signer : AllowedSigner) : List Char := signer.identity.data ++ ' ' :: signer.pubkey.data

theorem parseAllowedSigner_line (lib : Libraries) {signer : AllowedSigner}
    (h : ' ' ∉ signer.identity.data) :
    parseAllowedSigner lib ⟨signerLine signer⟩ =
      (lib.publicKeyFromString signer.pubkey).map (·, signer.identity) := by
  simp only [parseAllowedSigner, signerLine, splitAtSpace_append _ _ h]

theorem renderAllowedSigners_data (signers : List AllowedSigner) :
    (renderAllowedSigners signers).data = ['\n'].intercalate (signers.map signerLine) := by
  simp only [renderAllowedSigners, intercalate_data, List.map_map]
  congr 1
  exact List.map_congr_left fun s _ => by simp [signerLine]

/-! ## The verification -/

/-- `ffi_verify_signed_data`, from the armored signature and the allowed-signers file's content
(`none` when it cannot be read): the first parsed line whose key is the signature's, then the
signature checked against that key, and the line's identity as a C string (which fails on a NUL).
The C strings' UTF-8 checks are not modelled: the arguments are Lean strings. -/
def ffiVerifySignedData (lib : Libraries) (allowedSigners : Option String) (signatureNamespace : String)
    (data : Bytes) (signatureContents : String) : Option String := do
  let sshSignature ← lib.sshSignatureFromArmoredString signatureContents
  let allowedSigners ← allowedSigners
  let (key, identity) ← ((strLines allowedSigners).filterMap (parseAllowedSigner lib)).find?
    fun x => sshSignature.pubkey == x.1
  if !lib.verifySshSignature data sshSignature signatureNamespace key then none
  else if '\x00' ∈ identity.data then none
  else some identity

theorem ffiVerifySignedData_some {lib : Libraries} {allowedSigners : Option String}
    {signatureNamespace : String} {data : Bytes} {signatureContents identity : String}
    (h : ffiVerifySignedData lib allowedSigners signatureNamespace data signatureContents =
      some identity) :
    ∃ sig text, lib.sshSignatureFromArmoredString signatureContents = some sig ∧
      allowedSigners = some text ∧
      (sig.pubkey, identity) ∈ (strLines text).filterMap (parseAllowedSigner lib) ∧
      lib.verifySshSignature data sig signatureNamespace sig.pubkey = true := by
  simp only [ffiVerifySignedData, Option.bind_eq_bind, Option.bind_eq_some] at h
  obtain ⟨sig, hsig, text, htext, ⟨key, identity'⟩, hfind, h⟩ := h
  have hkey : sig.pubkey = key := by simpa using List.find?_some hfind
  subst hkey
  split at h
  · cases h
  next hv =>
    split at h
    · cases h
    cases h
    exact ⟨sig, text, hsig, htext, List.mem_of_find?_eq_some hfind, by simpa using hv⟩

/-! ## Signing -/

/-- What `ffi_sign_data` meets outside its code, in `sshcerts`. -/
structure SshSigner where
  /-- `PrivateKey::from_path`: the key file read and parsed. -/
  privateKeyFromPath : String → Option PrivateKey
  /-- `VerifiedSshSignature::new_with_private_key(data, namespace, private_key, None)`. -/
  newWithPrivateKey : Bytes → String → PrivateKey → Option SshSignature
  /-- The signature through `Display`: its armored text. -/
  signatureToString : SshSignature → String

/-- `ffi_sign_data`: the key read from `key_path`, the data signed in the namespace, and the armored
signature as a C string (which fails on a NUL); every failure is the null pointer. As for
`ffiVerifySignedData`, the C strings' UTF-8 checks are not modelled. -/
def ffiSignData (signer : SshSigner) (keyPath signatureNamespace : String) (data : Bytes) :
    Option String := do
  let privateKey ← signer.privateKeyFromPath keyPath
  let signature ← signer.newWithPrivateKey data signatureNamespace privateKey
  let text := signer.signatureToString signature
  if '\x00' ∈ text.data then none else some text

theorem ffiSignData_eq_some {signer : SshSigner} {keyPath signatureNamespace text : String}
    {data : Bytes} (h : ffiSignData signer keyPath signatureNamespace data = some text) :
    ∃ key sig, signer.privateKeyFromPath keyPath = some key ∧
      signer.newWithPrivateKey data signatureNamespace key = some sig ∧
      text = signer.signatureToString sig := by
  simp only [ffiSignData, Option.bind_eq_bind, Option.bind_eq_some] at h
  obtain ⟨key, hkey, sig, hsig, h⟩ := h
  split at h
  · cases h
  · exact ⟨key, sig, hkey, hsig, (Option.some.inj h).symm⟩

/-- A signature `ffi_sign_data` made verifies against the first parsed line holding its key. -/
theorem ffiVerifySignedData_signed {lib : Libraries} {signer : SshSigner}
    (harmor : ∀ data ns key sig, signer.newWithPrivateKey data ns key = some sig →
      lib.sshSignatureFromArmoredString (signer.signatureToString sig) = some sig)
    (hsign : ∀ data ns key sig, signer.newWithPrivateKey data ns key = some sig →
      sig.pubkey = key.pubkey ∧ lib.verifySshSignature data sig ns key.pubkey = true)
    {keyPath signatureNamespace text allowedSigners : String} {data : Bytes} {key : PrivateKey}
    (hkey : signer.privateKeyFromPath keyPath = some key)
    (htext : ffiSignData signer keyPath signatureNamespace data = some text) :
    ffiVerifySignedData lib (some allowedSigners) signatureNamespace data text =
      (((strLines allowedSigners).filterMap (parseAllowedSigner lib)).find?
        fun x => key.pubkey == x.1).bind fun x => if '\x00' ∈ x.2.data then none else some x.2 := by
  obtain ⟨key', sig, hkey', hsig, rfl⟩ := ffiSignData_eq_some htext
  cases hkey.symm.trans hkey'
  obtain ⟨hpub, hverify⟩ := hsign _ _ _ _ hsig
  simp only [ffiVerifySignedData, harmor _ _ _ _ hsig, hpub, Option.bind_eq_bind, Option.some_bind]
  refine Option.bind_congr fun ⟨k, identity⟩ hfind => ?_
  have hk : k = key.pubkey :=
    (beq_iff_eq.mp (List.find?_some (p := fun x : PublicKey × String => key.pubkey == x.1) hfind)).symm
  subst hk
  simp [hverify]

/-! ## The file's round trip -/

/-- The agent reads back from the file exactly the signers whose key parses, in order. -/
theorem filterMap_strLines_render (lib : Libraries) {signers : List AllowedSigner}
    (hid : ∀ s ∈ signers, ' ' ∉ s.identity.data ∧ '\n' ∉ s.identity.data)
    (hkey : ∀ s ∈ signers, '\n' ∉ s.pubkey.data ∧ s.pubkey.data.getLast? ≠ some '\r') :
    (strLines (renderAllowedSigners signers)).filterMap (parseAllowedSigner lib) =
      signers.filterMap fun s => (lib.publicKeyFromString s.pubkey).map (·, s.identity) := by
  rcases eq_or_ne signers [] with rfl | hne
  · rfl
  have hnonempty : ∀ l ∈ signers.map signerLine, l ≠ [] := by
    simp only [List.mem_map]
    rintro _ ⟨s, -, rfl⟩
    simp [signerLine]
  have hlines : strLines (renderAllowedSigners signers) = (signers.map signerLine).map String.mk := by
    rw [show renderAllowedSigners signers = ⟨['\n'].intercalate (signers.map signerLine)⟩ from
      String.ext (renderAllowedSigners_data signers)]
    refine strLines_intercalate (by simpa using hne) ?_ ?_ (hnonempty _ (List.getLast_mem _))
    · simp only [List.mem_map]
      rintro _ ⟨s, hs, rfl⟩
      simp [signerLine, (hid s hs).2, (hkey s hs).1]
    · simp only [List.mem_map]
      rintro _ ⟨s, hs, rfl⟩
      have := (hkey s hs).2
      cases h : s.pubkey.data.getLast? <;> simp_all [signerLine, List.getLast?_cons]
  rw [hlines, List.map_map, List.filterMap_map]
  exact List.filterMap_congr fun s hs => parseAllowedSigner_line lib (hid s hs).1

/-- The file reads back as the signers whose key parses; a verified identity is such a signer's. -/
theorem allowed_signers_round_trip (lib : Libraries) (signers : List AllowedSigner)
    (hid : ∀ s ∈ signers, ' ' ∉ s.identity.data ∧ '\n' ∉ s.identity.data)
    (hkey : ∀ s ∈ signers, '\n' ∉ s.pubkey.data ∧ s.pubkey.data.getLast? ≠ some '\r') :
    (strLines (renderAllowedSigners signers)).filterMap (parseAllowedSigner lib) =
      signers.filterMap (fun s => (lib.publicKeyFromString s.pubkey).map (·, s.identity)) ∧
    ∀ signatureNamespace data signatureContents identity,
      ffiVerifySignedData lib (some (renderAllowedSigners signers)) signatureNamespace data
        signatureContents = some identity →
      ∃ sig s, lib.sshSignatureFromArmoredString signatureContents = some sig ∧ s ∈ signers ∧
        s.identity = identity ∧ lib.publicKeyFromString s.pubkey = some sig.pubkey := by
  have hparse := filterMap_strLines_render lib hid hkey
  refine ⟨hparse, fun signatureNamespace data signatureContents identity h => ?_⟩
  obtain ⟨sig, text, hsig, htext, hmem, -⟩ := ffiVerifySignedData_some h
  cases htext
  rw [hparse, List.mem_filterMap] at hmem
  obtain ⟨s, hs, hk⟩ := hmem
  obtain ⟨k, hpk, hks⟩ := Option.map_eq_some'.mp hk
  obtain ⟨rfl, rfl⟩ := Prod.mk.inj hks
  exact ⟨sig, s, hsig, hs, rfl, hpk⟩

/-- The key `alice`'s allowed-signers line `ssh-ed25519 k` parses to under `Libraries.sample`. -/
def aliceKey : PublicKey := ⟨"ssh-ed25519", ['k'.toNat.toUInt8], none⟩

/-- Three signers: `bob`'s key is of a type `Libraries.sample` does not parse, and `carol` holds
`alice`'s key. -/
def AllowedSigner.samples : List AllowedSigner :=
  [⟨"bob", "ssh-rsa b"⟩, ⟨"alice", "ssh-ed25519 k"⟩, ⟨"carol", "ssh-ed25519 k"⟩]

theorem allowed_signers_round_trip_alice :
    (∀ s ∈ AllowedSigner.samples, ' ' ∉ s.identity.data ∧ '\n' ∉ s.identity.data) ∧
    (∀ s ∈ AllowedSigner.samples, '\n' ∉ s.pubkey.data ∧ s.pubkey.data.getLast? ≠ some '\r') ∧
    AllowedSigner.samples.filterMap
        (fun s => (Libraries.sample.publicKeyFromString s.pubkey).map (·, s.identity)) =
      [(aliceKey, "alice"), (aliceKey, "carol")] ∧
    ((strLines (renderAllowedSigners AllowedSigner.samples)).filterMap
        (parseAllowedSigner Libraries.sample) =
      AllowedSigner.samples.filterMap
        (fun s => (Libraries.sample.publicKeyFromString s.pubkey).map (·, s.identity)) ∧
    ∀ signatureNamespace data signatureContents identity,
      ffiVerifySignedData Libraries.sample (some (renderAllowedSigners AllowedSigner.samples))
        signatureNamespace data signatureContents = some identity →
      ∃ sig s, Libraries.sample.sshSignatureFromArmoredString signatureContents = some sig ∧
        s ∈ AllowedSigner.samples ∧ s.identity = identity ∧
        Libraries.sample.publicKeyFromString s.pubkey = some sig.pubkey) :=
  ⟨by decide, by decide, by decide,
    allowed_signers_round_trip Libraries.sample _ (by decide) (by decide)⟩

/-- The file is not escaped: a space in an identity loses its line or forges one. -/
theorem allowed_signers_separators :
    (strLines (renderAllowedSigners [⟨"alice smith", "ssh-ed25519 k"⟩])).filterMap
        (parseAllowedSigner Libraries.sample) = [] ∧
    [AllowedSigner.mk "alice smith" "ssh-ed25519 k"].filterMap
        (fun s => (Libraries.sample.publicKeyFromString s.pubkey).map (·, s.identity)) ≠ [] ∧
    ffiVerifySignedData Libraries.sample
        (some (renderAllowedSigners [⟨"eve ssh-ed25519 x", "ssh-ed25519 y"⟩])) "file" []
        "ssh-ed25519 x ssh-ed25519 y" = some "eve" ∧
    Libraries.sample.publicKeyFromString "ssh-ed25519 y" ≠
      Libraries.sample.publicKeyFromString "ssh-ed25519 x ssh-ed25519 y" := by
  decide

/-! ## From the authorizer's signers to the agent's verification -/

/-- Looking a key up in the parsed signers gives the first signer whose key parses to it. -/
theorem find_parsed_signers {lib : Libraries} {signers : List AllowedSigner} {key : PublicKey}
    (hnul : ∀ s ∈ signers, '\x00' ∉ s.identity.data) :
    ((signers.filterMap fun s => (lib.publicKeyFromString s.pubkey).map (·, s.identity)).find?
        fun x => key == x.1).bind (fun x => if '\x00' ∈ x.2.data then none else some x.2) =
      (signers.find? fun s => lib.publicKeyFromString s.pubkey == some key).map (·.identity) := by
  have hp : (fun s : AllowedSigner => ((lib.publicKeyFromString s.pubkey).map (·, s.identity)).any
      fun x => key == x.1) = fun s => lib.publicKeyFromString s.pubkey == some key := by
    funext s
    cases lib.publicKeyFromString s.pubkey <;> simp [eq_comm]
  rw [List.find?_filterMap, hp]
  rcases hfind : signers.find? (fun s => lib.publicKeyFromString s.pubkey == some key) with _ | s
  · rw [hfind]; rfl
  · have hk : lib.publicKeyFromString s.pubkey = some key := by simpa using List.find?_some hfind
    simp [hfind, hk, hnul s (List.mem_of_find?_eq_some hfind)]

/-- Data the agent signs verifies against the fetched file, naming the first signer with its key. -/
theorem signed_data_verified (lib : Libraries) (signer : SshSigner)
    (harmor : ∀ data ns key sig, signer.newWithPrivateKey data ns key = some sig →
      lib.sshSignatureFromArmoredString (signer.signatureToString sig) = some sig)
    (hsign : ∀ data ns key sig, signer.newWithPrivateKey data ns key = some sig →
      sig.pubkey = key.pubkey ∧ lib.verifySshSignature data sig ns key.pubkey = true)
    (readToString : Bytes → Option String) (signers : List AllowedSigner)
    (hid : ∀ s ∈ signers,
      ' ' ∉ s.identity.data ∧ '\n' ∉ s.identity.data ∧ '\x00' ∉ s.identity.data)
    (hkeys : ∀ s ∈ signers, '\n' ∉ s.pubkey.data ∧ s.pubkey.data.getLast? ≠ some '\r')
    (hzstd : ∀ bs, refreshedPayload lib (.ok signers) = some bs →
      lib.zstdDecompress bs = some (renderAllowedSigners signers))
    (hread : readToString (asBytes (renderAllowedSigners signers)) =
      some (renderAllowedSigners signers))
    (env : AgentEnvironment) (outFile : Option Bytes)
    (hanswers : ∀ i server bs, (env.call i server).response = .ok bs →
      refreshedPayload lib (.ok signers) = some bs)
    (hfetch : (ffiGetAllowedSigners lib env outFile).1 = GetAllowedSignersStatus.success.toI32)
    (keyPath signatureNamespace : String) (data : Bytes) (key : PrivateKey) (text : String)
    (hkey : signer.privateKeyFromPath keyPath = some key)
    (htext : ffiSignData signer keyPath signatureNamespace data = some text) :
    ffiVerifySignedData lib ((ffiGetAllowedSigners lib env outFile).2.bind readToString)
        signatureNamespace data text =
      (signers.find? fun s => lib.publicKeyFromString s.pubkey == some key.pubkey).map
        (·.identity) := by
  obtain ⟨-, -, i, server, allowedSigners, -, -, -, hcall, hfile⟩ :=
    ffiGetAllowedSigners_success lib env outFile hfetch
  obtain ⟨compressed, hresp, -, hdecoded⟩ := getAllowedSignersAsync_eq_ok.mp hcall
  have hs : allowedSigners = renderAllowedSigners signers :=
    Option.some.inj (hdecoded.symm.trans (hzstd _ (hanswers i server _ hresp)))
  rw [hfile, hs, Option.some_bind, hread, ffiVerifySignedData_signed harmor hsign hkey htext,
    filterMap_strLines_render lib (fun s hs => ⟨(hid s hs).1, (hid s hs).2.1⟩) hkeys]
  exact find_parsed_signers fun s hs => (hid s hs).2.2

/-- A signer holding `alice`'s key at `id_ed25519`, which signs only with that key, and whose
armored signature is the key's text. -/
def SshSigner.sample : SshSigner where
  privateKeyFromPath path := if path = "id_ed25519" then some ⟨aliceKey, [1]⟩ else none
  newWithPrivateKey _ _ key := if key.pubkey = aliceKey then some ⟨key.pubkey, []⟩ else none
  signatureToString sig := "ssh-ed25519 " ++ ⟨sig.pubkey.kind.map (Char.ofNat ·.toNat)⟩

theorem SshSigner.sample_newWithPrivateKey {data : Bytes} {ns : String} {key : PrivateKey}
    {sig : SshSignature} (h : SshSigner.sample.newWithPrivateKey data ns key = some sig) :
    key.pubkey = aliceKey ∧ sig = ⟨aliceKey, []⟩ := by
  simp only [SshSigner.sample] at h
  split at h
  · cases h
    exact ⟨‹_›, by rw [‹key.pubkey = aliceKey›]⟩
  · cases h

/-- An agent with one server, which answers `Libraries.sample`'s payload of `AllowedSigner.samples`. -/
def AgentEnvironment.alice : AgentEnvironment where
  configPath := some "rustica-agent.toml"
  loadConfiguration _ := .ok ⟨[⟨"https://rustica.example:50052"⟩]⟩
  outPath := some "allowed_signers"
  runtimeStarts := true
  createOpens _ := true
  call _ _ := ⟨.ok ((renderAllowedSigners AllowedSigner.samples).data.map (·.toNat.toUInt8)), true⟩
  writeFailsAfter := none

/-- `alice` signs; `bob`'s key does not parse and `carol` shares `alice`'s: `alice` is answered. -/
theorem signed_data_verified_alice :
    ffiVerifySignedData Libraries.sample
        ((ffiGetAllowedSigners Libraries.sample AgentEnvironment.alice none).2.bind
          fun bs => some ⟨bs.map (Char.ofNat ·.toNat)⟩) "file" [1, 2, 3] "ssh-ed25519 k" =
      (AllowedSigner.samples.find?
        fun s => Libraries.sample.publicKeyFromString s.pubkey == some aliceKey).map (·.identity) ∧
    (AllowedSigner.samples.find?
        fun s => Libraries.sample.publicKeyFromString s.pubkey == some aliceKey).map (·.identity) =
      some "alice" :=
  ⟨signed_data_verified Libraries.sample SshSigner.sample
    (fun _ _ _ _ h => by obtain ⟨-, rfl⟩ := SshSigner.sample_newWithPrivateKey h; rfl)
    (fun _ _ _ _ h => by obtain ⟨hk, rfl⟩ := SshSigner.sample_newWithPrivateKey h; exact ⟨hk.symm, rfl⟩)
    _ AllowedSigner.samples (by decide) (by decide) (fun _ h => by cases h; rfl) (by decide)
    AgentEnvironment.alice none (fun _ _ _ h => by cases h; rfl) rfl "id_ed25519" "file" [1, 2, 3]
    ⟨aliceKey, [1]⟩ "ssh-ed25519 k" rfl (by decide), by decide⟩

end Rustica

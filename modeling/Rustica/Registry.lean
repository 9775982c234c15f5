import Rustica.Config
import Mathlib.Data.List.Forall2
import Mathlib.Data.List.Nodup

/-!
# The signing registry at startup

`convert_to_signing_mechanism` walks the configured backends in the map's iteration order (any
order: the configuration's list is arbitrary), converts each one, and refuses a backend whose user
and host keys share a fingerprint or whose keys already sit in the accumulating map `public_keys`.
The loop invariant is that `public_keys` maps exactly the fingerprints of the backends converted
so far to their authorities.

* `convertLoop_eq_ok` : the loop succeeds iff every backend converts and all the fingerprints are
  distinct, and then it returns the configured names with their signers;
* `convertLoop_duplicatedKey` : a `DuplicatedKey(a₁, a₂)` names two distinct configured
  authorities holding one fingerprint;
* `convertToSigningMechanism_key_authority` : in the registry built, an SSH key's fingerprint
  belongs to one authority;
* `configure_eq_ok` : what a successful `configure` has checked of the registry;
* `signing_registry_startup` : the four together.
-/

namespace Rustica

/-- The fingerprints of the SSH keys a signer holds: user, then host. -/
def keyFingerprints (lib : Libraries) (s : Signer) : List String :=
  ((s.signerPublicKey .user).map lib.fingerprint).toList ++
    ((s.signerPublicKey .host).map lib.fingerprint).toList

/-- Authority `a` of `configs` converts to a signer holding a key of fingerprint `f`. -/
def HoldsFingerprint (lib : Libraries) (intoSigner : SignerType → Except SigningError Signer)
    (configs : List (String × SignerType)) (a f : String) : Prop :=
  ∃ t s, (a, t) ∈ configs ∧ intoSigner t = .ok s ∧ f ∈ keyFingerprints lib s

/-- Every entry `(f, a)` of `public_keys` is a fingerprint of the signer converted for `a`, one of
the authorities `done`. -/
def KeysRecorded (lib : Libraries) (intoSigner : SignerType → Except SigningError Signer)
    (done : List (String × SignerType)) (pk : List (String × String)) : Prop :=
  ∀ f a, (f, a) ∈ pk → HoldsFingerprint lib intoSigner done a f

/-! ## The two checks -/

theorem lookup_eq_none_iff_not_mem {pk : List (String × String)} {x : String} :
    pk.lookup x = none ↔ x ∉ pk.map Prod.fst := by
  simp only [List.lookup_eq_none_iff, List.mem_map, not_exists, not_and, bne_iff_ne, ne_eq]
  exact ⟨fun h p hp e => h p hp e.symm, fun h p hp e => h p hp e.symm⟩

theorem mem_of_lookup_eq_some {β : Type} {pk : List (String × β)} {x : String} {v : β}
    (h : pk.lookup x = some v) : (x, v) ∈ pk := by
  obtain ⟨l₁, l₂, rfl, -⟩ := List.lookup_eq_some_iff.mp h
  simp

theorem checkIdentical_eq_ok {a : String} {u h : Option String} {r : Unit} :
    checkIdentical a u h = .ok r ↔ ∀ x ∈ u, h ≠ some x := by
  cases u <;> cases h <;> simp [checkIdentical, eq_comm]
  split <;> simp_all

theorem checkIdentical_ne_duplicatedKey {a a₁ a₂ : String} {u h : Option String} :
    checkIdentical a u h ≠ .error (.duplicatedKey a₁ a₂) := by
  cases u <;> cases h <;> simp only [checkIdentical] <;> (try split) <;> simp

theorem checkFingerprint_eq_ok {pk : List (String × String)} {a : String} {h : Option String}
    {pk' : List (String × String)} :
    checkFingerprint pk a h = .ok pk' ↔
      pk' = h.toList.map (·, a) ++ pk ∧ ∀ x ∈ h, x ∉ pk.map Prod.fst := by
  cases h with
  | none => simp only [checkFingerprint, Except.ok.injEq]; simp [eq_comm]
  | some x =>
    simp only [checkFingerprint, Option.mem_def, Option.some.injEq, forall_eq',
      ← lookup_eq_none_iff_not_mem]
    cases pk.lookup x <;> simp [eq_comm]

theorem checkFingerprint_eq_error {pk : List (String × String)} {a : String} {h : Option String}
    {e : SigningError} (he : checkFingerprint pk a h = .error e) :
    ∃ x existing, h = some x ∧ (x, existing) ∈ pk ∧ e = .duplicatedKey a existing := by
  cases h with
  | none => cases he
  | some x =>
    simp only [checkFingerprint] at he
    split at he
    · cases he; exact ⟨x, _, rfl, mem_of_lookup_eq_some ‹_›, rfl⟩
    · cases he

/-! ## The loop succeeds iff the fingerprints are distinct -/

theorem nodup_step (u h : Option String) (P : List String) :
    (h.toList ++ u.toList ++ P).Nodup ↔
      (∀ x ∈ u, h ≠ some x) ∧ (∀ x ∈ u, x ∉ P) ∧ (∀ x ∈ h, x ∉ u.toList ++ P) ∧ P.Nodup := by
  cases u <;> cases h <;> simp [List.nodup_cons]; tauto

theorem nodup_reorder (u h : Option String) (A P : List String) :
    (u.toList ++ h.toList ++ A ++ P).Nodup ↔ (A ++ (h.toList ++ u.toList ++ P)).Nodup := by
  refine List.Perm.nodup_iff ?_
  rw [List.append_assoc _ A P]
  exact (List.perm_append_comm_assoc _ _ _).trans
    ((List.perm_append_comm.append_right P).append_left A)

theorem convertLoop_eq_ok (lib : Libraries) (intoSigner : SignerType → Except SigningError Signer) :
    ∀ {rest : List (String × SignerType)} {conv : List (String × Signer)}
      {pk : List (String × String)} {res : List (String × Signer)}, (pk.map Prod.fst).Nodup →
    (convertLoop lib intoSigner rest conv pk = .ok res ↔
      ∃ signers, List.Forall₂ (fun e s => intoSigner e.2 = .ok s) rest signers ∧
        (signers.flatMap (keyFingerprints lib) ++ pk.map Prod.fst).Nodup ∧
        res = conv ++ (rest.map Prod.fst).zip signers)
  | [], conv, pk, res, hpk => by simp [convertLoop, List.forall₂_nil_left_iff, hpk, eq_comm]
  | (name, t) :: rest, conv, pk, res, hpk => by
    simp only [convertLoop, List.forall₂_cons_left_iff]
    rcases hs : intoSigner t with e | s
    · simp [hs, bind, Except.bind]
    simp only [hs, Except.ok.injEq, exists_eq_left', except_bind_eq_ok, checkIdentical_eq_ok,
      checkFingerprint_eq_ok, and_assoc, exists_eq_left, exists_const]
    have hkf : keyFingerprints lib s = (Option.map lib.fingerprint (s.signerPublicKey .user)).toList ++
        (Option.map lib.fingerprint (s.signerPublicKey .host)).toList := rfl
    generalize Option.map lib.fingerprint (s.signerPublicKey .user) = u at *
    generalize Option.map lib.fingerprint (s.signerPublicKey .host) = h at *
    have hkeys : ((h.toList.map (·, name) ++ (u.toList.map (·, name) ++ pk)).map Prod.fst) =
        h.toList ++ u.toList ++ pk.map Prod.fst := by simp [List.map_map, Function.comp_def]
    constructor
    · rintro ⟨hid, h1, h2, hloop⟩
      have hnd := (nodup_step u h _).mpr ⟨hid, h1, by simpa using h2, hpk⟩
      obtain ⟨ss, hss, hnd', rfl⟩ := (convertLoop_eq_ok lib intoSigner (by rwa [hkeys])).mp hloop
      refine ⟨s :: ss, ⟨s, ss, rfl, hss, rfl⟩, ?_, by simp⟩
      rw [List.flatMap_cons, hkf]
      exact (nodup_reorder u h _ _).mpr (by rwa [hkeys] at hnd')
    · rintro ⟨_, ⟨_, ss, rfl, hss, rfl⟩, hnd, rfl⟩
      rw [List.flatMap_cons, hkf, nodup_reorder] at hnd
      obtain ⟨hid, h1, h2, -⟩ := (nodup_step u h _).mp hnd.of_append_right
      have hnd2 := hnd.of_append_right
      rw [← hkeys] at hnd hnd2
      exact ⟨hid, h1, by simpa using h2,
        (convertLoop_eq_ok lib intoSigner hnd2).mpr ⟨ss, hss, hnd, by simp⟩⟩

theorem convertToSigningMechanism_eq_ok {lib : Libraries}
    {intoSigner : SignerType → Except SigningError Signer} {config : SigningConfiguration}
    {m : SigningMechanism} :
    config.convertToSigningMechanism lib intoSigner = .ok m ↔
      ∃ signers, List.Forall₂ (fun e s => intoSigner e.2 = .ok s) config.authorityConfigurations
          signers ∧ (signers.flatMap (keyFingerprints lib)).Nodup ∧
        m = ⟨config.defaultAuthority, (config.authorityConfigurations.map Prod.fst).zip signers⟩ := by
  have h0 : (([] : List (String × String)).map Prod.fst).Nodup := List.nodup_nil
  simp only [SigningConfiguration.convertToSigningMechanism, except_bind_eq_ok,
    convertLoop_eq_ok lib intoSigner h0, pure, Except.pure, Except.ok.injEq, List.map_nil,
    List.append_nil, List.nil_append]
  constructor
  · rintro ⟨_, ⟨ss, hss, hnd, rfl⟩, rfl⟩
    exact ⟨ss, hss, hnd, rfl⟩
  · rintro ⟨ss, hss, hnd, rfl⟩
    exact ⟨_, ⟨ss, hss, hnd, rfl⟩, rfl⟩

/-! ## One key, one authority -/

theorem mem_keyFingerprints {lib : Libraries} {s : Signer} {ct : CertType} {k : PublicKey}
    (h : s.signerPublicKey ct = some k) : lib.fingerprint k ∈ keyFingerprints lib s := by
  cases ct <;> simp [keyFingerprints, h]

/-- In a registry `convert_to_signing_mechanism` built, an SSH key has one authority. -/
theorem convertToSigningMechanism_key_authority {lib : Libraries}
    {intoSigner : SignerType → Except SigningError Signer} {config : SigningConfiguration}
    {m : SigningMechanism} (h : config.convertToSigningMechanism lib intoSigner = .ok m)
    {a b : String} {ct ct' : CertType} {k k' : PublicKey}
    (ha : m.getSignerPublicKey a ct = .ok k) (hb : m.getSignerPublicKey b ct' = .ok k')
    (hf : lib.fingerprint k = lib.fingerprint k') : a = b := by
  obtain ⟨ss, hss, hnd, rfl⟩ := convertToSigningMechanism_eq_ok.mp h
  obtain ⟨s, hs, hk⟩ := SigningMechanism.getSignerPublicKey_eq_ok.mp ha
  obtain ⟨s', hs', hk'⟩ := SigningMechanism.getSignerPublicKey_eq_ok.mp hb
  rw [← List.map_snd_zip (config.authorityConfigurations.map Prod.fst) ss
    (by simp [hss.length_eq]), List.flatMap_map] at hnd
  by_contra hne
  exact (List.nodup_flatMap.mp hnd).2.forall (fun _ _ h => h.symm) (mem_of_lookup_eq_some hs)
    (mem_of_lookup_eq_some hs') (by simp [hne]) (mem_keyFingerprints hk)
    (hf ▸ mem_keyFingerprints hk')

/-! ## A duplicated key names two authorities -/

section Duplicated

variable {lib : Libraries} {intoSigner : SignerType → Except SigningError Signer}

theorem HoldsFingerprint.mono {l l' : List (String × SignerType)} {a f : String}
    (hl : l ⊆ l') : HoldsFingerprint lib intoSigner l a f → HoldsFingerprint lib intoSigner l' a f
  | ⟨t, s, hm, hs, hf⟩ => ⟨t, s, hl hm, hs, hf⟩

/-- A fingerprint of the authority being converted, already recorded for another one. -/
theorem duplicate_found {done rest : List (String × SignerType)} {name x existing : String}
    {t : SignerType} {s : Signer} {pk : List (String × String)}
    (hpk : KeysRecorded lib intoSigner done pk)
    (hnames : ((done ++ (name, t) :: rest).map Prod.fst).Nodup)
    (hs : intoSigner t = .ok s) (hx : x ∈ keyFingerprints lib s) (hmem : (x, existing) ∈ pk) :
    name ≠ existing ∧ ∃ f, HoldsFingerprint lib intoSigner (done ++ (name, t) :: rest) name f ∧
      HoldsFingerprint lib intoSigner (done ++ (name, t) :: rest) existing f := by
  obtain ⟨t₂, s₂, hd, hs₂, hf₂⟩ := hpk _ _ hmem
  refine ⟨fun he => ?_, x, ⟨t, s, by simp, hs, hx⟩, ⟨t₂, s₂, by simp [hd], hs₂, hf₂⟩⟩
  subst he
  simp only [List.map_append, List.map_cons, List.nodup_append, List.nodup_cons] at hnames
  exact hnames.2.2 (List.mem_map_of_mem _ hd) (List.mem_cons_self _ _)

/-- A `DuplicatedKey` names an authority the loop converted earlier. -/
theorem convertLoop_duplicatedKey (hconv : ∀ t a b, intoSigner t ≠ .error (.duplicatedKey a b))
    {a₁ a₂ : String} :
    ∀ {rest done : List (String × SignerType)} {conv : List (String × Signer)}
      {pk : List (String × String)}, KeysRecorded lib intoSigner done pk →
      ((done ++ rest).map Prod.fst).Nodup →
      convertLoop lib intoSigner rest conv pk = .error (.duplicatedKey a₁ a₂) →
      a₁ ≠ a₂ ∧ ∃ f, HoldsFingerprint lib intoSigner (done ++ rest) a₁ f ∧
        HoldsFingerprint lib intoSigner (done ++ rest) a₂ f
  | [], _, _, _, _, _, h => by cases h
  | (name, t) :: rest, done, conv, pk, hpk, hnames, h => by
    simp only [convertLoop, except_bind_eq_error] at h
    rcases h with h | ⟨s, hs, h⟩
    · exact absurd h (hconv _ _ _)
    have hkf : keyFingerprints lib s = (Option.map lib.fingerprint (s.signerPublicKey .user)).toList ++
        (Option.map lib.fingerprint (s.signerPublicKey .host)).toList := rfl
    generalize Option.map lib.fingerprint (s.signerPublicKey .user) = u at *
    generalize Option.map lib.fingerprint (s.signerPublicKey .host) = v at *
    rcases h with h | ⟨_, hid, h | ⟨pk₁, h₁, h | ⟨pk₂, h₂, h⟩⟩⟩
    · exact absurd h checkIdentical_ne_duplicatedKey
    · -- the user key is already recorded
      obtain ⟨x, existing, rfl, hmem, he⟩ := checkFingerprint_eq_error h
      cases he
      exact duplicate_found hpk hnames hs (by simp [hkf]) hmem
    · -- the host key is already recorded, and not as this authority's user key
      obtain ⟨y, existing, rfl, hmem, he⟩ := checkFingerprint_eq_error h
      cases he
      obtain ⟨rfl, -⟩ := checkFingerprint_eq_ok.mp h₁
      rcases List.mem_append.mp hmem with hm | hm
      · rcases u with _ | x <;> simp at hm
        obtain ⟨rfl, -⟩ := hm
        exact absurd rfl ((checkIdentical_eq_ok.mp hid) y rfl)
      · exact duplicate_found hpk hnames hs (by simp [hkf]) hm
    · obtain ⟨rfl, -⟩ := checkFingerprint_eq_ok.mp h₁
      obtain ⟨rfl, -⟩ := checkFingerprint_eq_ok.mp h₂
      have hpk' : KeysRecorded lib intoSigner (done ++ [(name, t)])
          (v.toList.map (·, name) ++ (u.toList.map (·, name) ++ pk)) := by
        intro f a hfa
        simp only [List.mem_append, List.mem_map, Option.mem_toList, Prod.mk.injEq] at hfa
        rcases hfa with ⟨f', hf', rfl, rfl⟩ | ⟨f', hf', rfl, rfl⟩ | hfa
        · exact ⟨t, s, by simp, hs, by simp [hkf, hf']⟩
        · exact ⟨t, s, by simp, hs, by simp [hkf, hf']⟩
        · exact (hpk f a hfa).mono (List.subset_append_left _ _)
      simpa using convertLoop_duplicatedKey hconv hpk' (by simpa using hnames) h

end Duplicated

/-! ## `configure` -/

theorem exists_ok_of_toBool {ε α : Type} {x : Except ε α} (h : ¬x.toBool = false) :
    ∃ a, x = .ok a := by
  cases x <;> simp_all [Except.toBool]

theorem configure_eq_ok {lib : Libraries} {env : Startup} {st : RusticaSettings}
    (h : configure lib env = .ok st) :
    ∃ file config, env.configFile = some file ∧ env.parseConfiguration file = some config ∧
      config.signing.convertToSigningMechanism lib env.intoSigner = .ok st.server.signer ∧
      st.server.clientAuthority = config.clientAuthority ∧
      (∃ k, st.server.signer.getSignerPublicKey st.server.signer.defaultAuthority .user = .ok k) ∧
      ∃ ca, st.server.signer.getClientCertificateAuthority config.clientAuthority.authority =
        .ok (some ca) := by
  unfold configure at h
  split at h
  next file hfile =>
    split at h
    next config hconf =>
      simp only [bind, Except.bind, pure, Except.pure, throw, throwThe, MonadExceptOf.throw] at h
      refine ⟨file, config, hfile, hconf, ?_⟩
      repeat' split at h
      all_goals try cases h
      exact ⟨‹_›, rfl, exists_ok_of_toBool ‹_›, _, ‹_›⟩
    next => cases h
  next => cases h

/-- The signing registry's startup invariant, over any configuration and iteration order. -/
theorem signing_registry_startup (lib : Libraries)
    (intoSigner : SignerType → Except SigningError Signer)
    (hconv : ∀ t a b, intoSigner t ≠ .error (.duplicatedKey a b)) (config : SigningConfiguration) :
    (∀ m, config.convertToSigningMechanism lib intoSigner = .ok m ↔
      ∃ signers, List.Forall₂ (fun e s => intoSigner e.2 = .ok s) config.authorityConfigurations
          signers ∧
        (∀ s ∈ signers, (keyFingerprints lib s).Nodup) ∧
        signers.Pairwise (fun s₁ s₂ => (keyFingerprints lib s₁).Disjoint (keyFingerprints lib s₂)) ∧
        m = ⟨config.defaultAuthority, (config.authorityConfigurations.map Prod.fst).zip signers⟩) ∧
    (∀ m, config.convertToSigningMechanism lib intoSigner = .ok m →
      m.getAuthorities = config.authorityConfigurations.map Prod.fst) ∧
    (∀ a₁ a₂, config.convertToSigningMechanism lib intoSigner = .error (.duplicatedKey a₁ a₂) →
      a₁ ≠ a₂ ∧ ∃ f, HoldsFingerprint lib intoSigner config.authorityConfigurations a₁ f ∧
        HoldsFingerprint lib intoSigner config.authorityConfigurations a₂ f) ∧
    (∀ env st, configure lib env = .ok st →
      (∃ k, st.server.signer.getSignerPublicKey st.server.signer.defaultAuthority .user = .ok k) ∧
      ∃ ca, st.server.signer.getClientCertificateAuthority st.server.clientAuthority.authority =
        .ok (some ca)) := by
  refine ⟨fun m => ?_, fun m hm => ?_, fun a₁ a₂ h => ?_, fun env st h => ?_⟩
  · simp only [convertToSigningMechanism_eq_ok, List.nodup_flatMap, and_assoc]
  · obtain ⟨ss, hss, -, rfl⟩ := convertToSigningMechanism_eq_ok.mp hm
    exact List.map_fst_zip _ _ (by simp [hss.length_eq])
  · simp only [SigningConfiguration.convertToSigningMechanism, except_bind_eq_error] at h
    rcases h with h | ⟨_, -, h⟩
    · have hpk : KeysRecorded lib intoSigner [] [] := fun _ _ h => by cases h
      simpa using convertLoop_duplicatedKey hconv hpk (by simpa using config.nodup) h
    · cases h
  · obtain ⟨_, _, -, -, -, hca, hk, hcca⟩ := configure_eq_ok h
    exact ⟨hk, by rwa [hca]⟩

/-- The file backend `other.pem` holds the keys of `Signer.second`, any other those of
`Signer.sample`. -/
def SignerType.intoSample (t : SignerType) : Except SigningError Signer :=
  if t = .file "other.pem" then .ok Signer.second else .ok Signer.sample

/-- Two backends, `default` and `other`, with keys of their own. -/
def SigningConfiguration.sample : SigningConfiguration :=
  ⟨"default", [("default", .file "default.pem"), ("other", .file "other.pem")], by decide⟩

/-- Two backends, `other` configured with the key file of `default`. -/
def SigningConfiguration.sharedKey : SigningConfiguration :=
  ⟨"default", [("default", .file "default.pem"), ("other", .file "default.pem")], by decide⟩

theorem intoSample_ne_duplicatedKey :
    ∀ t a b, SignerType.intoSample t ≠ .error (.duplicatedKey a b) := fun t _ _ h => by
  unfold SignerType.intoSample at h
  split at h <;> cases h

/-- Two authorities with their own keys convert; two sharing a key file are refused. -/
theorem signing_registry_startup_sample :
    (∀ t a b, SignerType.intoSample t ≠ .error (.duplicatedKey a b)) ∧
    SigningConfiguration.sample.convertToSigningMechanism Libraries.sample SignerType.intoSample =
      .ok ⟨"default", [("default", Signer.sample), ("other", Signer.second)]⟩ ∧
    (∀ m, SigningConfiguration.sample.convertToSigningMechanism Libraries.sample
        SignerType.intoSample = .ok m → m.getAuthorities = ["default", "other"]) ∧
    SigningConfiguration.sharedKey.convertToSigningMechanism Libraries.sample
        SignerType.intoSample = .error (.duplicatedKey "other" "default") ∧
    "other" ≠ "default" ∧ ∃ f,
      HoldsFingerprint Libraries.sample SignerType.intoSample
        SigningConfiguration.sharedKey.authorityConfigurations "other" f ∧
      HoldsFingerprint Libraries.sample SignerType.intoSample
        SigningConfiguration.sharedKey.authorityConfigurations "default" f :=
  have hshared : SigningConfiguration.sharedKey.convertToSigningMechanism Libraries.sample
      SignerType.intoSample = .error (.duplicatedKey "other" "default") := rfl
  ⟨intoSample_ne_duplicatedKey, rfl,
    (signing_registry_startup Libraries.sample _ intoSample_ne_duplicatedKey
      SigningConfiguration.sample).2.1, hshared,
    (signing_registry_startup Libraries.sample _ intoSample_ne_duplicatedKey
      SigningConfiguration.sharedKey).2.2.1 _ _ hshared⟩

end Rustica

import Rustica.Libraries
import Mathlib.Data.String.Basic

/-!
# The OpenSSH formats `sshcerts` reads and writes

A key's text is its type, a space, and the base64 of its wire blob; a certificate's is its type,
the base64 of its blob, and its `key_id`. The blob is OpenSSH's wire encoding (`PROTOCOL.certkeys`):
`uint32` and `uint64` big-endian, a `string` as its `uint32` length and its bytes.
`Libraries.openSsh` is the library with these formats, and so gives the handlers the sizes the
real texts have.

* `base64Chars`, `base64DecodeChars` : RFC 4648 base64 with padding, and `base64DecodeChars_chars`;
* `u32`, `u64`, `sshString` and their readers, each of which reads back what was written in front
  of any rest;
* `keyText`, `parseKey` : a public key, and `parseKey_keyText`;
* `certificateText`, `parseCertificateText` : a certificate, `parseCertificateText_certificateText`,
  and the text's size from its fields (`utf8ByteSize_certificateText`);
* `Libraries.openSsh` : the library, whose `sign` attaches a signature that its parser checks.
-/

namespace Rustica

/-! ## ASCII text -/

/-- The bytes of a text, one per character. -/
def asciiBytes (s : String) : Bytes := s.data.map fun c => UInt8.ofNat c.toNat

/-- Bytes read back as text, one character per byte. -/
def asciiString (bs : Bytes) : String := ⟨bs.map fun b => Char.ofNat b.toNat⟩

/-- Every character is ASCII. -/
def IsAscii (cs : List Char) : Prop := ∀ c ∈ cs, c.toNat < 128

instance instDecidableIsAscii (cs : List Char) : Decidable (IsAscii cs) :=
  inferInstanceAs (Decidable (∀ c ∈ cs, c.toNat < 128))

@[simp] theorem length_asciiBytes (s : String) : (asciiBytes s).length = s.length := by
  rw [asciiBytes, List.length_map]; rfl

theorem asciiString_asciiBytes {s : String} (h : IsAscii s.data) : asciiString (asciiBytes s) = s := by
  refine String.ext ?_
  simp only [asciiString, asciiBytes, List.map_map]
  conv_rhs => rw [← List.map_id s.data]
  refine List.map_congr_left fun c hc => ?_
  have hc : c.toNat < 128 := h c hc
  simp only [Function.comp_apply, UInt8.toNat_ofNat_of_lt (show c.toNat < UInt8.size by
    simp [UInt8.size]; omega), Char.ofNat_toNat, id]

theorem utf8Len_of_isAscii : ∀ {cs : List Char}, IsAscii cs → String.utf8Len cs = cs.length
  | [], _ => rfl
  | c :: cs, h => by
    have hc : c.utf8Size = 1 := by
      unfold Char.utf8Size
      rw [if_pos]
      exact Nat.le_of_lt_succ (h c (List.mem_cons_self _ _))
    rw [String.utf8Len_cons, hc, utf8Len_of_isAscii fun c' hc' => h c' (List.mem_cons_of_mem _ hc'),
      List.length_cons]

theorem isAscii_append {a b : List Char} : IsAscii (a ++ b) ↔ IsAscii a ∧ IsAscii b := by
  simp only [IsAscii, List.mem_append]
  exact ⟨fun h => ⟨fun c hc => h c (.inl hc), fun c hc => h c (.inr hc)⟩,
    fun h c hc => hc.elim (h.1 c) (h.2 c)⟩

theorem isAscii_cons {c : Char} {cs : List Char} : IsAscii (c :: cs) ↔ c.toNat < 128 ∧ IsAscii cs :=
  List.forall_mem_cons

theorem isAscii_hexEncode (bs : Bytes) : IsAscii (hexEncode bs).data := by
  have hd : ∀ k : Fin 16, (Nat.digitChar k).toNat < 128 := by decide
  intro c hc
  simp only [hexEncode, List.mem_flatMap, List.mem_cons, List.mem_singleton,
    List.not_mem_nil, or_false] at hc
  obtain ⟨b, -, rfl | rfl⟩ := hc
  · exact hd ⟨_, Nat.div_lt_of_lt_mul b.toNat_lt_size⟩
  · exact hd ⟨_, Nat.mod_lt _ (by decide)⟩

@[simp] theorem length_hexEncode (bs : Bytes) : (hexEncode bs).length = 2 * bs.length := by
  induction bs with
  | nil => rfl
  | cons b bs ih =>
    simp only [hexEncode, String.length] at ih ⊢
    simp [ih]
    omega

/-! ## Base64 -/

/-- The base64 alphabet of RFC 4648. -/
def base64Alphabet : List Char :=
  "ABCDEFGHIJKLMNOPQRSTUVWXYZabcdefghijklmnopqrstuvwxyz0123456789+/".data

/-- The digit of value `n < 64`. -/
def base64Digit (n : Nat) : Char := base64Alphabet.getD n '='

/-- The value of a base64 digit. -/
def base64Index (c : Char) : Option Nat :=
  if c ∈ base64Alphabet then some (base64Alphabet.indexOf c) else none

/-- `base64::encode`: four digits for every three bytes, the last group padded with `=`. -/
def base64Chars : Bytes → List Char
  | a :: b :: c :: rest =>
    base64Digit (a.toNat / 4) :: base64Digit (a.toNat % 4 * 16 + b.toNat / 16) ::
      base64Digit (b.toNat % 16 * 4 + c.toNat / 64) :: base64Digit (c.toNat % 64) ::
        base64Chars rest
  | [a, b] =>
    [base64Digit (a.toNat / 4), base64Digit (a.toNat % 4 * 16 + b.toNat / 16),
      base64Digit (b.toNat % 16 * 4), '=']
  | [a] => [base64Digit (a.toNat / 4), base64Digit (a.toNat % 4 * 16), '=', '=']
  | [] => []

/-- One group of four digits, of which the last one or two may be padding. -/
def base64Group (w x y z : Char) : Option Bytes := do
  let a ← base64Index w
  let b ← base64Index x
  if y = '=' then
    if z = '=' then some [UInt8.ofNat (a * 4 + b / 16)] else none
  else
    let c ← base64Index y
    if z = '=' then some [UInt8.ofNat (a * 4 + b / 16), UInt8.ofNat (b % 16 * 16 + c / 4)]
    else
      let d ← base64Index z
      some [UInt8.ofNat (a * 4 + b / 16), UInt8.ofNat (b % 16 * 16 + c / 4),
        UInt8.ofNat (c % 4 * 64 + d)]

/-- `base64::decode`: groups of four digits, only the last one padded. -/
def base64DecodeChars : List Char → Option Bytes
  | w :: x :: y :: z :: rest => do
    let g ← base64Group w x y z
    if rest = [] then some g
    else if g.length = 3 then (g ++ ·) <$> base64DecodeChars rest else none
  | [] => some []
  | _ => none

theorem nodup_base64Alphabet : base64Alphabet.Nodup := by decide

theorem padding_not_mem_base64Alphabet : '=' ∉ base64Alphabet := by decide

theorem base64Index_digit {k : Nat} (hk : k < 64) :
    base64Index (base64Digit k) = some k ∧ base64Digit k ≠ '=' := by
  have hl : k < base64Alphabet.length := hk
  have hd : base64Digit k = base64Alphabet[k] := by
    rw [base64Digit, List.getD_eq_getElem?_getD, List.getElem?_eq_getElem hl]; rfl
  have hm : base64Alphabet[k] ∈ base64Alphabet := List.getElem_mem _
  rw [hd, base64Index, if_pos hm, List.indexOf_getElem nodup_base64Alphabet]
  exact ⟨rfl, fun h => padding_not_mem_base64Alphabet (h ▸ hm)⟩

theorem ofNat_eq_of_toNat {x : UInt8} {n : Nat} (h : n = x.toNat) : UInt8.ofNat n = x := by
  subst h; exact UInt8.toNat.inj (UInt8.toNat_ofNat_of_lt x.toNat_lt_size)

section Group
variable (a b c : UInt8)

theorem base64Group_three :
    base64Group (base64Digit (a.toNat / 4)) (base64Digit (a.toNat % 4 * 16 + b.toNat / 16))
      (base64Digit (b.toNat % 16 * 4 + c.toNat / 64)) (base64Digit (c.toNat % 64)) =
      some [a, b, c] := by
  have ha : a.toNat < 256 := a.toNat_lt_size
  have hb : b.toNat < 256 := b.toNat_lt_size
  have hc : c.toNat < 256 := c.toNat_lt_size
  obtain ⟨i1, -⟩ := base64Index_digit (k := a.toNat / 4) (by omega)
  obtain ⟨i2, -⟩ := base64Index_digit (k := a.toNat % 4 * 16 + b.toNat / 16) (by omega)
  obtain ⟨i3, n3⟩ := base64Index_digit (k := b.toNat % 16 * 4 + c.toNat / 64) (by omega)
  obtain ⟨i4, n4⟩ := base64Index_digit (k := c.toNat % 64) (by omega)
  simp only [base64Group, i1, i2, i3, i4, n3, n4, if_false, some_bind_eq]
  rw [ofNat_eq_of_toNat (x := a) (by omega), ofNat_eq_of_toNat (x := b) (by omega),
    ofNat_eq_of_toNat (x := c) (by omega)]

theorem base64Group_two :
    base64Group (base64Digit (a.toNat / 4)) (base64Digit (a.toNat % 4 * 16 + b.toNat / 16))
      (base64Digit (b.toNat % 16 * 4)) '=' = some [a, b] := by
  have ha : a.toNat < 256 := a.toNat_lt_size
  have hb : b.toNat < 256 := b.toNat_lt_size
  obtain ⟨i1, -⟩ := base64Index_digit (k := a.toNat / 4) (by omega)
  obtain ⟨i2, -⟩ := base64Index_digit (k := a.toNat % 4 * 16 + b.toNat / 16) (by omega)
  obtain ⟨i3, n3⟩ := base64Index_digit (k := b.toNat % 16 * 4) (by omega)
  simp only [base64Group, i1, i2, i3, n3, if_false, if_true, some_bind_eq]
  rw [ofNat_eq_of_toNat (x := a) (by omega), ofNat_eq_of_toNat (x := b) (by omega)]

theorem base64Group_one :
    base64Group (base64Digit (a.toNat / 4)) (base64Digit (a.toNat % 4 * 16)) '=' '=' =
      some [a] := by
  have ha : a.toNat < 256 := a.toNat_lt_size
  obtain ⟨i1, -⟩ := base64Index_digit (k := a.toNat / 4) (by omega)
  obtain ⟨i2, -⟩ := base64Index_digit (k := a.toNat % 4 * 16) (by omega)
  simp only [base64Group, i1, i2, if_true, some_bind_eq]
  rw [ofNat_eq_of_toNat (x := a) (by omega)]

end Group

theorem base64Chars_eq_nil {bs : Bytes} : base64Chars bs = [] ↔ bs = [] := by
  match bs with
  | _ :: _ :: _ :: _ | [_, _] | [_] | [] => simp [base64Chars]

/-- Decoding undoes encoding. -/
theorem base64DecodeChars_chars : ∀ bs : Bytes, base64DecodeChars (base64Chars bs) = some bs
  | a :: b :: c :: rest => by
    rw [base64Chars, base64DecodeChars, base64Group_three, some_bind_eq]
    by_cases hr : rest = []
    · subst hr; rfl
    · simp [base64Chars_eq_nil.not.mpr hr, hr, base64DecodeChars_chars rest]
  | [a, b] => by rw [base64Chars, base64DecodeChars, base64Group_two]; rfl
  | [a] => by rw [base64Chars, base64DecodeChars, base64Group_one]; rfl
  | [] => rfl

theorem length_base64Chars : ∀ bs : Bytes, (base64Chars bs).length = 4 * ((bs.length + 2) / 3)
  | _ :: _ :: _ :: rest => by
    simp only [base64Chars, List.length_cons, length_base64Chars rest]; omega
  | [_, _] | [_] | [] => by simp [base64Chars]

theorem isAscii_base64Chars (bs : Bytes) : IsAscii (base64Chars bs) := by
  have hd : ∀ n, (base64Digit n).toNat < 128 := fun n => by
    have hall : ∀ c ∈ base64Alphabet, c.toNat < 128 := by decide
    unfold base64Digit
    rw [List.getD_eq_getElem?_getD]
    cases h : base64Alphabet[n]? with
    | none => decide
    | some c => exact hall c (List.mem_iff_getElem?.mpr ⟨n, h⟩)
  induction bs using base64Chars.induct <;>
    simp_all [base64Chars, IsAscii, hd]

theorem space_not_mem_base64Chars (bs : Bytes) : ' ' ∉ base64Chars bs := by
  have hd : ∀ n, base64Digit n ≠ ' ' := fun n => by
    have hall : ' ' ∉ base64Alphabet := by decide
    unfold base64Digit
    rw [List.getD_eq_getElem?_getD]
    cases h : base64Alphabet[n]? with
    | none => decide
    | some c => exact fun hc => hall (hc ▸ List.mem_iff_getElem?.mpr ⟨n, h⟩)
  induction bs using base64Chars.induct <;>
    simp_all [base64Chars, hd, eq_comm]

/-! ## The wire encoding -/

/-- The `w` big-endian bytes of `n`. -/
def beBytes (w n : Nat) : Bytes := ((List.range w).map fun i => UInt8.ofNat (n / 256 ^ i)).reverse

/-- The value of big-endian bytes. -/
def beValue (bs : Bytes) : Nat := Nat.ofDigits 256 (bs.reverse.map UInt8.toNat)

@[simp] theorem length_beBytes (w n : Nat) : (beBytes w n).length = w := by simp [beBytes]

theorem beValue_beBytes (w n : Nat) : beValue (beBytes w n) = n % 256 ^ w := by
  simp only [beValue, beBytes, List.reverse_reverse, List.map_map, Function.comp_def,
    ofDigits_map_range_div]

/-- `uint32`. -/
def u32 (n : Nat) : Bytes := beBytes 4 n

/-- `uint64`. -/
def u64 (x : U64) : Bytes := beBytes 8 x.toNat

/-- `string`: its `uint32` length, then its bytes. -/
def sshString (b : Bytes) : Bytes := u32 b.length ++ b

/-- Read a `uint32`. -/
def readU32 (bs : Bytes) : Option (Nat × Bytes) :=
  if 4 ≤ bs.length then some (beValue (bs.take 4), bs.drop 4) else none

/-- Read a `uint64`. -/
def readU64 (bs : Bytes) : Option (U64 × Bytes) :=
  if 8 ≤ bs.length then some (BitVec.ofNat 64 (beValue (bs.take 8)), bs.drop 8) else none

/-- Read a `string`. -/
def readString (bs : Bytes) : Option (Bytes × Bytes) := do
  let (n, rest) ← readU32 bs
  if n ≤ rest.length then some (rest.take n, rest.drop n) else none

@[simp] theorem length_u32 (n : Nat) : (u32 n).length = 4 := length_beBytes 4 n

@[simp] theorem length_u64 (x : U64) : (u64 x).length = 8 := length_beBytes 8 _

@[simp] theorem length_sshString (b : Bytes) : (sshString b).length = 4 + b.length := by
  simp [sshString]

theorem readU32_u32 {n : Nat} (hn : n < 2 ^ 32) (r : Bytes) : readU32 (u32 n ++ r) = some (n, r) := by
  have hl : (u32 n).length = 4 := length_u32 n
  rw [readU32, List.length_append, hl, if_pos (Nat.le_add_right _ _), List.take_left' hl,
    List.drop_left' hl, u32, beValue_beBytes, Nat.mod_eq_of_lt (by omega)]

theorem readU64_u64 (x : U64) (r : Bytes) : readU64 (u64 x ++ r) = some (x, r) := by
  have hl : (u64 x).length = 8 := length_u64 x
  rw [readU64, List.length_append, hl, if_pos (Nat.le_add_right _ _), List.take_left' hl,
    List.drop_left' hl, u64, beValue_beBytes,
    Nat.mod_eq_of_lt (lt_of_lt_of_eq x.isLt (by norm_num))]
  simp

theorem readString_sshString {b : Bytes} (hb : b.length < 2 ^ 32) (r : Bytes) :
    readString (sshString b ++ r) = some (b, r) := by
  simp [readString, sshString, List.append_assoc, readU32_u32 hb]

/-! ## Public keys -/

/-- The key types `sshcerts` knows, with the number of `string` and `mpint` fields of each. -/
def keyParts : String → Option Nat
  | "ssh-ed25519" => some 1
  | "ssh-rsa" => some 2
  | "ecdsa-sha2-nistp256" => some 2
  | "ecdsa-sha2-nistp384" => some 2
  | "ecdsa-sha2-nistp521" => some 2
  | _ => none

/-- Read `n` fields, as the bytes they take. -/
def readParts : Nat → Bytes → Option (Bytes × Bytes)
  | 0, bs => some ([], bs)
  | n + 1, bs => do
    let (p, rest) ← readString bs
    let (ps, rest) ← readParts n rest
    some (sshString p ++ ps, rest)

/-- A key's blob: its type as a `string`, then its fields. -/
def keyBlob (k : PublicKey) : Bytes := sshString (asciiBytes k.keyType) ++ k.kind

/-- `PublicKey` through `Display`: the type, the base64 blob, and the comment if any. -/
def keyText (k : PublicKey) : String :=
  ⟨k.keyType.data ++ ' ' :: base64Chars (keyBlob k) ++
    match k.comment with
    | some c => ' ' :: c.data
    | none => []⟩

/-- `PublicKey::from_string`: a known type name, a space, the base64 of a blob of that type holding
exactly its fields, and an optional comment. -/
def parseKey (s : String) : Option PublicKey := do
  let (keyType, rest) ← splitAtSpace s.data
  let (data, comment) := match splitAtSpace rest with
    | some (data, comment) => (data, some (String.mk comment))
    | none => (rest, none)
  let (ty, kind) ← readString (← base64DecodeChars data)
  let n ← keyParts ⟨keyType⟩
  let (fields, extra) ← readParts n kind
  if asciiString ty = ⟨keyType⟩ ∧ fields = kind ∧ extra = [] then
    some ⟨⟨keyType⟩, kind, comment⟩
  else none

/-- A key of a known type whose material is that type's fields, each under `2 ^ 32` bytes. -/
def WellFormedKey (k : PublicKey) : Prop :=
  IsAscii k.keyType.data ∧ ' ' ∉ k.keyType.data ∧ k.keyType.length < 2 ^ 32 ∧
    ∃ parts : List Bytes, keyParts k.keyType = some parts.length ∧
      (∀ p ∈ parts, p.length < 2 ^ 32) ∧ k.kind = parts.flatMap sshString

theorem readParts_flatMap : ∀ (parts : List Bytes), (∀ p ∈ parts, p.length < 2 ^ 32) →
    ∀ r, readParts parts.length (parts.flatMap sshString ++ r) = some (parts.flatMap sshString, r)
  | [], _, r => rfl
  | p :: ps, h, r => by
    simp only [List.length_cons, List.flatMap_cons, List.append_assoc, readParts,
      readString_sshString (h p (List.mem_cons_self _ _)), some_bind_eq,
      readParts_flatMap ps (fun q hq => h q (List.mem_cons_of_mem _ hq)) r]

/-- A key's text parses back to the key. -/
theorem parseKey_keyText {k : PublicKey} (hk : WellFormedKey k) (hc : k.comment = none) :
    parseKey (keyText k) = some k := by
  obtain ⟨ha, hsp, hlen, parts, hn, hparts, hkind⟩ := hk
  have hblob : base64DecodeChars (base64Chars (keyBlob k)) = some (keyBlob k) :=
    base64DecodeChars_chars _
  have hr := readParts_flatMap parts hparts []
  rw [List.append_nil, ← hkind] at hr
  obtain ⟨t, kind, c⟩ := k
  simp only at hc ha hsp hlen hn hkind hr
  subst hc
  have hsplit := splitAtSpace_eq_none (space_not_mem_base64Chars (keyBlob ⟨t, kind, none⟩))
  simp only [keyText, parseKey, List.append_nil, splitAtSpace_append _ _ hsp, hsplit, hblob,
    some_bind_eq]
  simp only [keyBlob, readString_sshString (show (asciiBytes t).length < 2 ^ 32 by simpa using hlen),
    some_bind_eq, hn, hr, asciiString_asciiBytes ha]
  simp

/-! ## Certificates -/

/-- The type name of a certificate for a key of type `keyType`. -/
def certKeyType (keyType : String) : String := keyType ++ "-cert-v01@openssh.com"

/-- `cs` less the suffix `suffix`, when it ends with it. -/
def dropSuffix (suffix cs : List Char) : Option (List Char) :=
  if suffix.length ≤ cs.length ∧ cs.drop (cs.length - suffix.length) = suffix then
    some (cs.take (cs.length - suffix.length))
  else none

/-- The key type a certificate type name is for. -/
def certKeyTypeOf (s : String) : Option String :=
  (dropSuffix "-cert-v01@openssh.com".data s.data).map String.mk

/-- The `uint32` of a certificate type. -/
def certTypeCode : CertType → Nat
  | .user => 1
  | .host => 2

/-- The certificate type of a code. -/
def certTypeOfCode : Nat → Option CertType
  | 1 => some .user
  | 2 => some .host
  | _ => none

/-- The nonce, which `sshcerts` draws at random: 32 bytes. -/
def certNonce : Bytes := List.replicate 32 0

/-- The extensions `Extensions::Standard` stands for. -/
def standardExtensions : List (String × String) :=
  [("permit-X11-forwarding", ""), ("permit-agent-forwarding", ""), ("permit-port-forwarding", ""),
    ("permit-pty", ""), ("permit-user-rc", "")]

/-- The entries of the extensions. -/
def extensionEntries : Extensions → List (String × String)
  | .standard => standardExtensions
  | .custom entries => entries

/-- A critical option or an extension: its name, and its value as a `string`, or nothing when the
value is empty. -/
def entryBlob (e : String × String) : Bytes :=
  sshString (asciiBytes e.1) ++ sshString (if e.2 = "" then [] else sshString (asciiBytes e.2))

/-- The principals, one `string` each. -/
def principalsBlob (principals : List String) : Bytes :=
  principals.flatMap fun p => sshString (asciiBytes p)

/-- The certificate's type name, its nonce and the key's fields. -/
def certKeyBlob (k : PublicKey) : Bytes :=
  sshString (asciiBytes (certKeyType k.keyType)) ++ sshString certNonce ++ k.kind

/-- The serial, the type, the `key_id`, the principals and the validity. -/
def certFieldsBlob (c : Certificate) : Bytes :=
  u64 c.serial ++ u32 (certTypeCode c.certType) ++ sshString (asciiBytes c.keyId) ++
    sshString (principalsBlob c.principals) ++ u64 c.validAfter ++ u64 c.validBefore

/-- The critical options, the extensions and the reserved `string`. -/
def certOptionsBlob (c : Certificate) : Bytes :=
  sshString (c.criticalOptions.flatMap entryBlob) ++
    sshString ((extensionEntries c.extensions).flatMap entryBlob) ++ sshString []

/-- What the CA signs: every field of the certificate but the signature. -/
def certificateBody (c : Certificate) : Bytes :=
  certKeyBlob c.key ++ certFieldsBlob c ++ certOptionsBlob c ++ sshString (keyBlob c.signatureKey)

/-- The certificate's blob: its body, then the signature. -/
def certificateBlob (c : Certificate) : Bytes := certificateBody c ++ sshString c.signature

/-- `Certificate` through `Display`: the type name, the base64 blob, and the `key_id`. -/
def certificateText (c : Certificate) : String :=
  ⟨(certKeyType c.key.keyType).data ++ ' ' :: base64Chars (certificateBlob c) ++ ' ' :: c.keyId.data⟩

/-- Read items until the bytes run out, at most `fuel` of them. -/
def readAll {α : Type} (read : Bytes → Option (α × Bytes)) : Nat → Bytes → Option (List α)
  | _, [] => some []
  | 0, _ :: _ => none
  | fuel + 1, b :: bs => do
    let (a, rest) ← read (b :: bs)
    (a :: ·) <$> readAll read fuel rest

/-- Read a principal. -/
def readPrincipal (bs : Bytes) : Option (String × Bytes) :=
  (readString bs).map fun (p, rest) => (asciiString p, rest)

/-- Read a critical option or an extension. -/
def readEntry (bs : Bytes) : Option ((String × String) × Bytes) := do
  let (name, rest) ← readString bs
  let (data, rest) ← readString rest
  let value ← if data = [] then some "" else do
    let (v, extra) ← readString data
    if extra = [] then some (asciiString v) else none
  some ((asciiString name, value), rest)

/-- Read the certificate's type name, its nonce and the key's fields. -/
def readCertKey (bs : Bytes) : Option (PublicKey × Bytes) := do
  let (ty, r) ← readString bs
  let keyType ← certKeyTypeOf (asciiString ty)
  let (_, r) ← readString r
  let (kind, r) ← readParts (← keyParts keyType) r
  some (⟨keyType, kind, none⟩, r)

/-- Read the serial, the type, the `key_id`, the principals and the validity. -/
def readCertFields (bs : Bytes) :
    Option ((U64 × CertType × String × List String × U64 × U64) × Bytes) := do
  let (serial, r) ← readU64 bs
  let (code, r) ← readU32 r
  let (keyId, r) ← readString r
  let (ps, r) ← readString r
  let (validAfter, r) ← readU64 r
  let (validBefore, r) ← readU64 r
  some ((serial, ← certTypeOfCode code, asciiString keyId, ← readAll readPrincipal ps.length ps,
    validAfter, validBefore), r)

/-- Read the critical options, the extensions and the reserved `string`. -/
def readCertOptions (bs : Bytes) :
    Option ((List (String × String) × List (String × String)) × Bytes) := do
  let (opts, r) ← readString bs
  let (exts, r) ← readString r
  let (_, r) ← readString r
  some ((← readAll readEntry opts.length opts, ← readAll readEntry exts.length exts), r)

/-- Read a key's blob as a `string`. -/
def readKeyBlob (bs : Bytes) : Option (PublicKey × Bytes) := do
  let (blob, r) ← readString bs
  let (ty, kind) ← readString blob
  some (⟨asciiString ty, kind, none⟩, r)

/-- Read a certificate's blob. -/
def parseCertificateBlob (blob : Bytes) : Option Certificate := do
  let (key, r) ← readCertKey blob
  let ((serial, certType, keyId, principals, validAfter, validBefore), r) ← readCertFields r
  let ((criticalOptions, extensions), r) ← readCertOptions r
  let (signatureKey, r) ← readKeyBlob r
  let (signature, r) ← readString r
  if r = [] then
    some { key, serial, certType, keyId, principals, validAfter, validBefore, criticalOptions,
           extensions := if extensions = standardExtensions then .standard else .custom extensions,
           signatureKey, signature }
  else none

/-- A certificate's text: the type name, a space, the base64 blob, and a comment, which is not
read; the blob's type must be the text's. -/
def parseCertificateText (s : String) : Option Certificate := do
  let (ty, rest) ← splitAtSpace s.data
  let data := match splitAtSpace rest with
    | some (data, _) => data
    | none => rest
  let c ← parseCertificateBlob (← base64DecodeChars data)
  if (certKeyType c.key.keyType).data = ty then some c else none

/-! ### Reading back what was written -/

theorem certKeyTypeOf_certKeyType (t : String) : certKeyTypeOf (certKeyType t) = some t := by
  have hl : "-cert-v01@openssh.com".data.length = 21 := rfl
  simp only [certKeyTypeOf, certKeyType, String.data_append, dropSuffix, List.length_append, hl,
    Nat.add_sub_cancel, Nat.le_add_left, List.drop_left, List.take_left, true_and, if_true,
    Option.map_some']

@[simp] theorem length_certKeyType (t : String) : (certKeyType t).length = t.length + 21 := by
  rw [certKeyType, String.length_append]; rfl

theorem isAscii_certKeyType {t : String} (h : IsAscii t.data) : IsAscii (certKeyType t).data :=
  isAscii_append.mpr ⟨h, by decide⟩

theorem certTypeOfCode_certTypeCode (ct : CertType) : certTypeOfCode (certTypeCode ct) = some ct := by
  cases ct <;> rfl

theorem length_le_flatMap {α : Type} (f : α → Bytes) :
    ∀ {l : List α} {a : α}, a ∈ l → (f a).length ≤ (l.flatMap f).length
  | _ :: l, a, .head _ => by simp
  | _ :: l, a, .tail _ h => by
    have := length_le_flatMap f h
    simp only [List.flatMap_cons, List.length_append]
    omega

theorem length_le_length_flatMap {α : Type} {write : α → Bytes} :
    ∀ {l : List α}, (∀ a ∈ l, write a ≠ []) → l.length ≤ (l.flatMap write).length
  | [], _ => le_rfl
  | a :: l, h => by
    have := length_le_length_flatMap fun x hx => h x (List.mem_cons_of_mem _ hx)
    have hne := List.length_pos.mpr (h a (List.mem_cons_self _ _))
    simp only [List.length_cons, List.flatMap_cons, List.length_append]
    omega

/-- Items written one after the other are read back, with fuel for each. -/
theorem readAll_flatMap {α : Type} {read : Bytes → Option (α × Bytes)} {write : α → Bytes} :
    ∀ {l : List α}, (∀ a ∈ l, write a ≠ [] ∧ ∀ r, read (write a ++ r) = some (a, r)) →
      ∀ {fuel}, l.length ≤ fuel → readAll read fuel (l.flatMap write) = some l
  | [], _, fuel, _ => by cases fuel <;> rfl
  | a :: l, h, fuel, hf => by
    obtain ⟨hne, hread⟩ := h a (List.mem_cons_self _ _)
    obtain ⟨b, bs, hb⟩ := List.exists_cons_of_ne_nil hne
    obtain ⟨fuel, rfl⟩ := Nat.exists_eq_add_of_le' (Nat.lt_of_lt_of_le (Nat.succ_pos _) hf)
    have hl := readAll_flatMap (fun x hx => h x (List.mem_cons_of_mem _ hx))
      (Nat.le_of_succ_le_succ hf)
    have hr := hread (l.flatMap write)
    rw [hb] at hr
    rw [List.flatMap_cons, hb, List.cons_append, readAll, ← List.cons_append, hr]
    simp [hl]

theorem sshString_ne_nil (b : Bytes) : sshString b ≠ [] :=
  List.ne_nil_of_length_pos (by simp)

theorem readPrincipal_sshString {p : String} (ha : IsAscii p.data) (hl : p.length < 2 ^ 32)
    (r : Bytes) : readPrincipal (sshString (asciiBytes p) ++ r) = some (p, r) := by
  simp [readPrincipal, readString_sshString (b := asciiBytes p) (by simpa using hl),
    asciiString_asciiBytes ha]

theorem readEntry_entryBlob {e : String × String} (ha : IsAscii e.1.data ∧ IsAscii e.2.data)
    (hl : (entryBlob e).length < 2 ^ 32) (r : Bytes) : readEntry (entryBlob e ++ r) = some (e, r) := by
  obtain ⟨name, value⟩ := e
  have h1 : (asciiBytes name).length < 2 ^ 32 := by
    simp only [entryBlob, List.length_append, length_sshString, length_asciiBytes] at hl ⊢; omega
  by_cases hv : value = ""
  · subst hv
    simp [readEntry, entryBlob, List.append_assoc, readString_sshString h1,
      readString_sshString (b := []) (by decide), asciiString_asciiBytes ha.1]
  · have h2 : (sshString (asciiBytes value)).length < 2 ^ 32 := by
      simp only [entryBlob, hv, if_false, List.length_append, length_sshString,
        length_asciiBytes] at hl ⊢; omega
    have h3 : (asciiBytes value).length < 2 ^ 32 := by simp only [length_sshString] at h2; omega
    have hr := readString_sshString h3 []
    rw [List.append_nil] at hr
    simp [readEntry, entryBlob, hv, List.append_assoc, readString_sshString h1,
      readString_sshString h2, hr, sshString_ne_nil, asciiString_asciiBytes ha.1,
      asciiString_asciiBytes ha.2]

/-- Principals written one after the other are read back. -/
theorem readAll_principalsBlob {ps : List String} (ha : ∀ p ∈ ps, IsAscii p.data)
    (hl : (principalsBlob ps).length < 2 ^ 32) :
    readAll readPrincipal (principalsBlob ps).length (principalsBlob ps) = some ps :=
  readAll_flatMap (fun p hp => ⟨sshString_ne_nil _, readPrincipal_sshString (ha p hp) (by
    have := length_le_flatMap (fun p : String => sshString (asciiBytes p)) hp
    simp only [length_sshString, length_asciiBytes] at this
    unfold principalsBlob at hl
    omega)⟩)
    (length_le_length_flatMap fun _ _ => sshString_ne_nil _)

/-- Critical options or extensions written one after the other are read back. -/
theorem readAll_entries {l : List (String × String)}
    (ha : ∀ e ∈ l, IsAscii e.1.data ∧ IsAscii e.2.data) (hl : (l.flatMap entryBlob).length < 2 ^ 32) :
    readAll readEntry (l.flatMap entryBlob).length (l.flatMap entryBlob) = some l :=
  readAll_flatMap (fun e he => ⟨by simp [entryBlob, sshString_ne_nil],
      readEntry_entryBlob (ha e he) (lt_of_le_of_lt (length_le_flatMap entryBlob he) hl)⟩)
    (length_le_length_flatMap fun _ _ => by simp [entryBlob, sshString_ne_nil])

theorem readCertKey_certKeyBlob {k : PublicKey} (hk : WellFormedKey k) (hc : k.comment = none)
    (hl : (certKeyType k.keyType).length < 2 ^ 32) (r : Bytes) :
    readCertKey (certKeyBlob k ++ r) = some (k, r) := by
  obtain ⟨ha, -, -, parts, hn, hparts, hkind⟩ := hk
  have hty := isAscii_certKeyType ha
  have hr := readParts_flatMap parts hparts r
  rw [← hkind] at hr
  obtain ⟨t, kind, c⟩ := k
  simp only at hc hn hr hl hty
  subst hc
  simp only [readCertKey, certKeyBlob, List.append_assoc,
    readString_sshString (b := asciiBytes (certKeyType t)) (by simpa using hl),
    readString_sshString (b := certNonce) (by decide), asciiString_asciiBytes hty,
    certKeyTypeOf_certKeyType, hn, hr, some_bind_eq]

theorem readCertFields_certFieldsBlob {c : Certificate} (hid : IsAscii c.keyId.data)
    (hps : ∀ p ∈ c.principals, IsAscii p.data) (hlid : c.keyId.length < 2 ^ 32)
    (hlps : (principalsBlob c.principals).length < 2 ^ 32) (r : Bytes) :
    readCertFields (certFieldsBlob c ++ r) =
      some ((c.serial, c.certType, c.keyId, c.principals, c.validAfter, c.validBefore), r) := by
  have hcode : certTypeCode c.certType < 2 ^ 32 := by cases c.certType <;> decide
  simp only [readCertFields, certFieldsBlob, List.append_assoc, readU64_u64, readU32_u32 hcode,
    readString_sshString (b := asciiBytes c.keyId) (by simpa using hlid), readString_sshString hlps,
    asciiString_asciiBytes hid, certTypeOfCode_certTypeCode, readAll_principalsBlob hps hlps,
    some_bind_eq]

theorem readCertOptions_certOptionsBlob {c : Certificate}
    (ho : ∀ e ∈ c.criticalOptions, IsAscii e.1.data ∧ IsAscii e.2.data)
    (he : ∀ e ∈ extensionEntries c.extensions, IsAscii e.1.data ∧ IsAscii e.2.data)
    (hlo : (c.criticalOptions.flatMap entryBlob).length < 2 ^ 32)
    (hle : ((extensionEntries c.extensions).flatMap entryBlob).length < 2 ^ 32) (r : Bytes) :
    readCertOptions (certOptionsBlob c ++ r) =
      some ((c.criticalOptions, extensionEntries c.extensions), r) := by
  simp only [readCertOptions, certOptionsBlob, List.append_assoc, readString_sshString hlo,
    readString_sshString hle, readString_sshString (b := []) (by decide), readAll_entries ho hlo,
    readAll_entries he hle, some_bind_eq]

theorem readKeyBlob_keyBlob {k : PublicKey} (ha : IsAscii k.keyType.data) (hc : k.comment = none)
    (hl : (keyBlob k).length < 2 ^ 32) (r : Bytes) :
    readKeyBlob (sshString (keyBlob k) ++ r) = some (k, r) := by
  have hty : (asciiBytes k.keyType).length < 2 ^ 32 := by
    simp only [keyBlob, List.length_append, length_sshString] at hl; omega
  obtain ⟨t, kind, c⟩ := k
  simp only at hc ha hty
  subst hc
  rw [readKeyBlob, readString_sshString hl]
  simp only [keyBlob, readString_sshString hty, List.append_nil, asciiString_asciiBytes ha,
    some_bind_eq]

/-- The parser's choice of variant undoes `extensionEntries`, but for a custom standard list. -/
theorem extensions_of_entries {e : Extensions} (h : e ≠ .custom standardExtensions) :
    (if extensionEntries e = standardExtensions then Extensions.standard
      else .custom (extensionEntries e)) = e := by
  cases e with
  | standard => rfl
  | custom es =>
    have hes : es ≠ standardExtensions := fun hes => h (hes ▸ rfl)
    simp [extensionEntries, hes]

/-- A certificate `certificateText` writes and `parseCertificateText` reads back: keys of known
types that carry their fields and no comment, ASCII texts, extensions other than a custom list equal
to the standard one, and a blob whose `string`s all fit their `uint32` lengths. -/
structure Certificate.Encodable (c : Certificate) : Prop where
  key : WellFormedKey c.key
  keyComment : c.key.comment = none
  keyId : IsAscii c.keyId.data
  principals : ∀ p ∈ c.principals, IsAscii p.data
  criticalOptions : ∀ e ∈ c.criticalOptions, IsAscii e.1.data ∧ IsAscii e.2.data
  extensions : ∀ e ∈ extensionEntries c.extensions, IsAscii e.1.data ∧ IsAscii e.2.data
  notStandard : c.extensions ≠ .custom standardExtensions
  signatureKeyType : IsAscii c.signatureKey.keyType.data
  signatureKeyComment : c.signatureKey.comment = none
  size : (certificateBlob c).length < 2 ^ 32

theorem length_certificateBlob (c : Certificate) :
    (certificateBlob c).length = (certKeyType c.key.keyType).length + c.key.kind.length +
      c.keyId.length + (principalsBlob c.principals).length +
      (c.criticalOptions.flatMap entryBlob).length +
      ((extensionEntries c.extensions).flatMap entryBlob).length +
      c.signatureKey.keyType.length + c.signatureKey.kind.length + c.signature.length + 100 := by
  simp [certificateBlob, certificateBody, certKeyBlob, certFieldsBlob, certOptionsBlob, keyBlob,
    certNonce]
  omega

/-- A certificate's blob reads back to the certificate. -/
theorem parseCertificateBlob_certificateBlob {c : Certificate} (hc : c.Encodable) :
    parseCertificateBlob (certificateBlob c) = some c := by
  have hL := length_certificateBlob c
  have hsize := hc.size
  have hsig : c.signature.length < 2 ^ 32 := by omega
  have hr := readString_sshString hsig []
  rw [List.append_nil] at hr
  simp only [certificateBlob, certificateBody, List.append_assoc, parseCertificateBlob,
    readCertKey_certKeyBlob hc.key hc.keyComment (by omega),
    readCertFields_certFieldsBlob hc.keyId hc.principals (by omega) (by omega),
    readCertOptions_certOptionsBlob hc.criticalOptions hc.extensions (by omega) (by omega),
    readKeyBlob_keyBlob hc.signatureKeyType hc.signatureKeyComment
      (by simp only [keyBlob, List.length_append, length_sshString, length_asciiBytes]; omega),
    hr, extensions_of_entries hc.notStandard, some_bind_eq, if_true]

theorem space_not_mem_certKeyType {t : String} (h : ' ' ∉ t.data) : ' ' ∉ (certKeyType t).data := by
  simp only [certKeyType, String.data_append, List.mem_append, not_or]
  exact ⟨h, by decide⟩

/-- A certificate's text parses back to the certificate. -/
theorem parseCertificateText_certificateText {c : Certificate} (hc : c.Encodable) :
    parseCertificateText (certificateText c) = some c := by
  have hsp := space_not_mem_certKeyType hc.key.2.1
  simp only [parseCertificateText, certificateText, List.append_assoc, List.cons_append,
    splitAtSpace_append _ _ hsp, splitAtSpace_append _ _ (space_not_mem_base64Chars _),
    base64DecodeChars_chars, parseCertificateBlob_certificateBlob hc, some_bind_eq, if_true]

/-! ## Text sizes -/

theorem utf8ByteSize_keyText {k : PublicKey} (ht : IsAscii k.keyType.data) (hc : k.comment = none) :
    (keyText k).utf8ByteSize = k.keyType.length + 1 + 4 * (((keyBlob k).length + 2) / 3) := by
  have ha : IsAscii (k.keyType.data ++ ' ' :: base64Chars (keyBlob k)) :=
    isAscii_append.mpr ⟨ht, isAscii_cons.mpr ⟨by decide, isAscii_base64Chars _⟩⟩
  have hl : k.keyType.data.length = k.keyType.length := rfl
  simp only [keyText, hc, List.append_nil, String.utf8ByteSize_mk, utf8Len_of_isAscii ha,
    List.length_append, List.length_cons, length_base64Chars, hl]
  omega

theorem utf8ByteSize_certificateText {c : Certificate} (ht : IsAscii c.key.keyType.data)
    (hid : IsAscii c.keyId.data) :
    (certificateText c).utf8ByteSize =
      c.key.keyType.length + 4 * (((certificateBlob c).length + 2) / 3) + c.keyId.length + 23 := by
  have ha : IsAscii ((certKeyType c.key.keyType).data ++ ' ' :: base64Chars (certificateBlob c) ++
      ' ' :: c.keyId.data) :=
    isAscii_append.mpr ⟨isAscii_append.mpr ⟨isAscii_certKeyType ht,
      isAscii_cons.mpr ⟨by decide, isAscii_base64Chars _⟩⟩, isAscii_cons.mpr ⟨by decide, hid⟩⟩
  have hl : (certKeyType c.key.keyType).data.length = c.key.keyType.length + 21 :=
    length_certKeyType _
  have hid : c.keyId.data.length = c.keyId.length := rfl
  simp only [certificateText, String.utf8ByteSize_mk, utf8Len_of_isAscii ha, List.length_append,
    List.length_cons, length_base64Chars, hl, hid]
  omega

/-! ## The library -/

/-- The signature `sign` attaches: the signing key's type and 64 bytes drawn from the key and the
signed data, the size of an Ed25519 signature (a stand-in for the scheme: what the handlers need is
only that `from_string` accepts what `sign` wrote and checks the signature against the body). -/
def signatureOf (k : PublicKey) (data : Bytes) : Bytes :=
  sshString (asciiBytes k.keyType) ++
    sshString ((List.range 64).map fun i => data.getD i 0 + k.kind.getD i 0)

@[simp] theorem length_signatureOf (k : PublicKey) (data : Bytes) :
    (signatureOf k data).length = k.keyType.length + 72 := by
  simp [signatureOf]; omega

/-- `sshcerts` with OpenSSH's formats: keys and certificates are written and read as OpenSSH does,
`from_string` checks the signature against the body (failing with `InvalidFormat` or
`CertificateInvalidSignature`), `sign` sets the signature key and signs the body, and an HMAC tag
has the 32 bytes of HMAC-SHA256 (its value a stand-in); the rest is `Libraries.sample`. -/
def Libraries.openSsh : Libraries :=
  { Libraries.sample with
    hmacSign := fun key msg =>
      (List.range 32).map fun i => UInt8.ofNat (key.secret.length + msg.length + i)
    publicKeyFromString := parseKey
    publicKeyToString := keyText
    certificateFromString := fun s =>
      match parseCertificateText s with
      | none => .error "InvalidFormat"
      | some c =>
        if c.signature = signatureOf c.signatureKey (certificateBody c) then .ok c
        else .error "CertificateInvalidSignature"
    certificateToString := certificateText
    hasCertificateType := fun k => (keyParts k.keyType).isSome
    signCertificate := fun priv c =>
      some { c with signatureKey := priv.pubkey,
                    signature := signatureOf priv.pubkey
                      (certificateBody { c with signatureKey := priv.pubkey }) } }

@[simp] theorem length_openSsh_hmacSign (key : HmacKey) (msg : String) :
    (Libraries.openSsh.hmacSign key msg).length = 32 := by
  simp [Libraries.openSsh]

/-- What `sign` returns is signed: its signature is `signatureOf` its signature key over its body. -/
theorem openSsh_signCertificate_eq {priv : PrivateKey} {c c' : Certificate}
    (h : Libraries.openSsh.signCertificate priv c = some c') :
    c' = { c with signatureKey := priv.pubkey, signature := c'.signature } ∧
      c'.signature = signatureOf c'.signatureKey (certificateBody c') := by
  cases Option.some.inj h
  exact ⟨rfl, rfl⟩

/-- `from_string` reads back a signed certificate from the text `Display` writes. -/
theorem openSsh_certificateFromString_certificateText {c : Certificate} (hc : c.Encodable)
    (hsig : c.signature = signatureOf c.signatureKey (certificateBody c)) :
    Libraries.openSsh.certificateFromString (Libraries.openSsh.certificateToString c) = .ok c := by
  simp [Libraries.openSsh, parseCertificateText_certificateText hc, hsig]

end Rustica

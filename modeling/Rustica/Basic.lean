import Mathlib.Data.List.Basic
import Mathlib.Tactic.Linarith
import Mathlib.Data.Nat.Digits

/-!
# Rustica: machine words, the effect log, and the std helpers the server calls

* `U64` : a Rust `u64` (and the bits of an `i64`) as `BitVec 64`, so that `time - request_time`
  wraps as in a release build;
* `Emit ε α` : a handler's run, the effects it sent (external calls, log events) in order and its
  result; `Emit.call` records a call together with the answer the environment gave;
* `decimal`, `parseU64` : `u64::to_string` and `str::parse::<u64>`;
* `intercalate_data` : a joined string's characters; `splitAtSpace` : a line cut at its first
  space;
* `hexEncode`, `hexDecode` : the `hex` crate's `encode` and `decode`, and `hexDecode_hexEncode`;
* `RusticaServerError`, `Status` : the error taxonomy of the certificate endpoints and tonic's
  transport statuses.
-/

namespace Rustica

/-- A Rust `u64`; an `i64` is the same 64 bits read with `BitVec.toInt`. -/
abbrev U64 := BitVec 64

/-- A Rust `Vec<u8>` or `&[u8]`. -/
abbrev Bytes := List UInt8

/-- A `std::time::Duration`, as a count of its smallest units. Its `+` panics only past `u64::MAX`
seconds; the code adds a configured cooldown or cache validity to a clock reading since the epoch,
and the model takes those sums as exact, as they are for any configured duration short of
`u64::MAX` seconds less the clock reading. -/
abbrev Duration := Nat

/-! ## Effects -/

/-- A run of a handler: what it sent to the outside world, in order, and what it returned. -/
structure Emit (ε α : Type) where
  effects : List ε
  result : α

instance (ε : Type) : Monad (Emit ε) where
  pure a := ⟨[], a⟩
  bind m f := ⟨m.effects ++ (f m.result).effects, (f m.result).result⟩

/-- Send `e` and receive the answer `r` (a call), or send `e` and go on (`r = ()`, a log event). -/
def Emit.call {ε α : Type} (e : ε) (r : α) : Emit ε α := ⟨[e], r⟩

section Emit
variable {ε α β : Type}

@[simp] theorem Emit.pure_effects (a : α) : (pure a : Emit ε α).effects = [] := rfl
@[simp] theorem Emit.pure_result (a : α) : (pure a : Emit ε α).result = a := rfl
@[simp] theorem Emit.bind_effects (m : Emit ε α) (f : α → Emit ε β) :
    (m >>= f).effects = m.effects ++ (f m.result).effects := rfl
@[simp] theorem Emit.bind_result (m : Emit ε α) (f : α → Emit ε β) :
    (m >>= f).result = (f m.result).result := rfl
@[simp] theorem Emit.call_effects (e : ε) (r : α) : (Emit.call e r).effects = [e] := rfl
@[simp] theorem Emit.call_result (e : ε) (r : α) : (Emit.call e r).result = r := rfl

end Emit

/-! ## `Except` -/

/-- `Option`'s bind on `some`, in the monad's notation, so that `simp` stays off the congruence
lemma of `Option.bind`. -/
theorem some_bind_eq {α β : Type} (a : α) (f : α → Option β) : (some a >>= f) = f a := rfl

section ExceptBind
variable {ε α β : Type} {x : Except ε α} {f : α → Except ε β}

theorem except_bind_eq_ok {b : β} : x >>= f = .ok b ↔ ∃ a, x = .ok a ∧ f a = .ok b := by
  cases x <;> simp [bind, Except.bind]

theorem except_bind_eq_error {e : ε} :
    x >>= f = .error e ↔ x = .error e ∨ ∃ a, x = .ok a ∧ f a = .error e := by
  cases x <;> simp [bind, Except.bind]

end ExceptBind

/-- Results compare as their values, so that a handler's run on a fixed input can be decided. -/
instance instDecidableEqExcept {ε α : Type} [DecidableEq ε] [DecidableEq α] :
    DecidableEq (Except ε α)
  | .error a, .error b => decidable_of_iff (a = b) (by simp)
  | .ok a, .ok b => decidable_of_iff (a = b) (by simp)
  | .error _, .ok _ => isFalse (by simp)
  | .ok _, .error _ => isFalse (by simp)

/-! ## `u64` in decimal -/

/-- `u64::to_string`, the `{}` of `format!`. -/
def decimal (n : U64) : String := toString n.toNat

/-- The digits of a decimal string, most significant first. -/
def digitsValue (cs : List Char) : Nat := cs.foldl (fun acc c => 10 * acc + (c.toNat - '0'.toNat)) 0

/-- The characters after an optional leading `+`. -/
def stripPlus : List Char → List Char
  | '+' :: rest => rest
  | cs => cs

/-- `str::parse::<u64>`: an optional `+`, then one or more ASCII digits, of value below `2^64`. -/
def parseU64 (s : String) : Option U64 :=
  let ds := stripPlus s.data
  if ds ≠ [] ∧ ds.all Char.isDigit ∧ digitsValue ds < 2 ^ 64 then
    some (BitVec.ofNat 64 (digitsValue ds))
  else none

/-! ### The decimal round trip -/

theorem digitChar_decimal_fin : ∀ k : Fin 10,
    (Nat.digitChar k).isDigit = true ∧ (Nat.digitChar k).toNat - '0'.toNat = k := by decide

theorem digitChar_decimal {k : Nat} (hk : k < 10) :
    (Nat.digitChar k).isDigit = true ∧ (Nat.digitChar k).toNat - '0'.toNat = k :=
  digitChar_decimal_fin ⟨k, hk⟩

theorem digitsValue_append_singleton (cs : List Char) (c : Char) :
    digitsValue (cs ++ [c]) = 10 * digitsValue cs + (c.toNat - '0'.toNat) := by
  simp [digitsValue, List.foldl_append]

/-- `Nat.toDigitsCore` writes the decimal digits of `n` in front of `ds`, given the fuel. -/
theorem toDigitsCore_decimal : ∀ (fuel n : Nat) (ds : List Char), n < fuel →
    ∃ D, Nat.toDigitsCore 10 fuel n ds = D ++ ds ∧ D ≠ [] ∧ (∀ c ∈ D, c.isDigit = true) ∧
      digitsValue D = n
  | 0, n, ds, h => absurd h (Nat.not_lt_zero n)
  | fuel + 1, n, ds, h => by
    have hd := digitChar_decimal (Nat.mod_lt n (by decide : 10 > 0))
    simp only [Nat.toDigitsCore]
    split
    next h0 =>
      refine ⟨[Nat.digitChar (n % 10)], rfl, List.cons_ne_nil _ _, by simpa using hd.1, ?_⟩
      simp only [digitsValue, List.foldl_cons, List.foldl_nil, Nat.mul_zero, Nat.zero_add]
      rw [hd.2]; omega
    next h0 =>
      obtain ⟨D, hD, hne, hdig, hval⟩ := toDigitsCore_decimal fuel (n / 10)
        (Nat.digitChar (n % 10) :: ds) (by omega)
      refine ⟨D ++ [Nat.digitChar (n % 10)], by simp [hD], by simp, ?_, ?_⟩
      · intro c hc
        rcases List.mem_append.mp hc with hc | hc
        · exact hdig c hc
        · simp only [List.mem_singleton] at hc; subst hc; exact hd.1
      · rw [digitsValue_append_singleton, hval, hd.2]; omega

theorem decimal_digits (t : U64) :
    ∃ D, (decimal t).data = D ∧ D ≠ [] ∧ (∀ c ∈ D, c.isDigit = true) ∧ digitsValue D = t.toNat := by
  obtain ⟨D, hD, hne, hdig, hval⟩ := toDigitsCore_decimal (t.toNat + 1) t.toNat [] (by omega)
  exact ⟨D, by simpa [decimal, Nat.toDigits] using hD, hne, hdig, hval⟩

theorem stripPlus_of_digit {c : Char} {cs : List Char} (hc : c.isDigit = true) :
    stripPlus (c :: cs) = c :: cs := by
  have : c ≠ '+' := by rintro rfl; exact absurd hc (by decide)
  simp [stripPlus, this]

/-- `str::parse::<u64>` reads back `u64::to_string`. -/
theorem parseU64_decimal (t : U64) : parseU64 (decimal t) = some t := by
  obtain ⟨D, hD, hne, hdig, hval⟩ := decimal_digits t
  obtain ⟨c, cs, rfl⟩ := List.exists_cons_of_ne_nil hne
  simp only [parseU64, hD, stripPlus_of_digit (hdig c (List.mem_cons_self _ _))]
  rw [if_pos ⟨hne, List.all_eq_true.mpr hdig, hval ▸ t.isLt⟩, hval, BitVec.ofNat_toNat,
    BitVec.setWidth_eq]

theorem decimal_injective {t t' : U64} (h : decimal t = decimal t') : t = t' := by
  have := parseU64_decimal t
  rwa [h, parseU64_decimal, Option.some.injEq, eq_comm] at this

theorem dash_not_mem_decimal (t : U64) : '-' ∉ (decimal t).data := by
  obtain ⟨D, hD, -, hdig, -⟩ := decimal_digits t
  rw [hD]
  exact fun h => absurd (hdig _ h) (by decide)

/-! ## Joined strings

`join` (Rust) and `String.intercalate` (Lean) as the characters they hold. -/

theorem intercalate_go_data (sep : String) : ∀ (acc : String) (ls : List String),
    (String.intercalate.go acc sep ls).data = acc.data ++ (ls.map (sep.data ++ ·.data)).flatten
  | acc, [] => by simp [String.intercalate.go]
  | acc, a :: as => by simp [String.intercalate.go, intercalate_go_data sep _ as]

theorem intercalate_cons_eq {α : Type} (sep a : List α) (as : List (List α)) :
    sep.intercalate (a :: as) = a ++ (as.map (sep ++ ·)).flatten := by
  induction as generalizing a with
  | nil => simp [List.intercalate]
  | cons b bs ih =>
    have := ih b
    simp only [List.intercalate, List.intersperse_cons_cons, List.flatten_cons] at *
    simp [this]

theorem intercalate_data (sep : String) (ls : List String) :
    (sep.intercalate ls).data = sep.data.intercalate (ls.map String.data) := by
  cases ls with
  | nil => rfl
  | cons a as => simp [String.intercalate, intercalate_go_data, intercalate_cons_eq]; rfl

/-! ## Words and bytes -/

/-- `splitn(2, ' ')` when it gives two pieces: the text before the first space and after it. -/
def splitAtSpace : List Char → Option (List Char × List Char)
  | [] => none
  | ' ' :: rest => some ([], rest)
  | c :: rest => (splitAtSpace rest).map fun (a, b) => (c :: a, b)

theorem splitAtSpace_append : ∀ (a b : List Char), ' ' ∉ a → splitAtSpace (a ++ ' ' :: b) = some (a, b)
  | [], b, _ => rfl
  | c :: a, b, h => by
    have hc : c ≠ ' ' := fun hc => h (hc ▸ List.mem_cons_self _ _)
    rw [List.cons_append, splitAtSpace.eq_3 _ _ hc,
      splitAtSpace_append a b fun ha => h (List.mem_cons_of_mem _ ha)]
    rfl

theorem splitAtSpace_eq_none : ∀ {cs : List Char}, ' ' ∉ cs → splitAtSpace cs = none
  | [], _ => rfl
  | c :: cs, h => by
    have hc : c ≠ ' ' := fun hc => h (hc ▸ List.mem_cons_self _ _)
    rw [splitAtSpace.eq_3 _ _ hc, splitAtSpace_eq_none fun hcs => h (List.mem_cons_of_mem _ hcs)]
    rfl

/-- The little-endian base-256 digits of `x`, `k` of them, read back give `x` modulo `256 ^ k`. -/
theorem ofDigits_map_range_div (x k : Nat) :
    Nat.ofDigits 256 ((List.range k).map fun i => (UInt8.ofNat (x / 256 ^ i)).toNat) =
      x % 256 ^ k := by
  induction k with
  | zero => simp [Nat.mod_one]
  | succ k ih =>
    rw [List.range_succ, List.map_append, Nat.ofDigits_append, ih, Nat.mod_pow_succ]
    simp [UInt8.toNat, UInt8.ofNat, Fin.ofNat]

/-! ## The `hex` crate -/

/-- `hex::encode`: two lowercase digits per byte. -/
def hexEncode (bs : Bytes) : String :=
  ⟨bs.flatMap fun b => [Nat.digitChar (b.toNat / 16), Nat.digitChar (b.toNat % 16)]⟩

/-- The value of a hex digit, either case. -/
def hexValue (c : Char) : Option Nat :=
  if '0' ≤ c ∧ c ≤ '9' then some (c.toNat - '0'.toNat)
  else if 'a' ≤ c ∧ c ≤ 'f' then some (c.toNat - 'a'.toNat + 10)
  else if 'A' ≤ c ∧ c ≤ 'F' then some (c.toNat - 'A'.toNat + 10)
  else none

/-- Decode pairs of hex digits; an odd length or a non-digit fails. -/
def hexDecodeChars : List Char → Option Bytes
  | [] => some []
  | [_] => none
  | hi :: lo :: rest => do
    let h ← hexValue hi
    let l ← hexValue lo
    let bs ← hexDecodeChars rest
    pure ((h * 16 + l).toUInt8 :: bs)

/-- `hex::decode`. -/
def hexDecode (s : String) : Option Bytes := hexDecodeChars s.data

theorem hexValue_digitChar_fin : ∀ k : Fin 16, hexValue (Nat.digitChar k) = some k := by decide

theorem hexValue_digitChar {k : Nat} (hk : k < 16) : hexValue (Nat.digitChar k) = some k :=
  hexValue_digitChar_fin ⟨k, hk⟩

theorem hexDecodeChars_encode : ∀ bs : Bytes,
    hexDecodeChars (bs.flatMap fun b => [Nat.digitChar (b.toNat / 16), Nat.digitChar (b.toNat % 16)]) =
      some bs
  | [] => rfl
  | b :: bs => by
    have hb : b.toNat < 16 * 16 := b.toNat_lt_size
    rw [List.flatMap_cons, List.cons_append, List.cons_append, List.nil_append, hexDecodeChars,
      hexValue_digitChar (Nat.div_lt_of_lt_mul hb), hexValue_digitChar (Nat.mod_lt _ (by decide)),
      hexDecodeChars_encode bs]
    simpa [Nat.div_add_mod'] using UInt8.toNat.inj (UInt8.toNat_ofNat_of_lt b.toNat_lt_size)

theorem hexDecode_hexEncode (bs : Bytes) : hexDecode (hexEncode bs) = some bs :=
  hexDecodeChars_encode bs

/-! ## Errors -/

/-- The error taxonomy returned inline by the certificate endpoints (`crate::error`). -/
inductive RusticaServerError
  | success
  | timeExpired
  | badChallenge
  | badCertOptions
  | notAuthorized
  | badRequest
  | unknown
  deriving DecidableEq, Repr

/-- `format!("{:?}", e)` of the fieldless enum: the variant's name. -/
def RusticaServerError.debug : RusticaServerError → String
  | .success => "Success"
  | .timeExpired => "TimeExpired"
  | .badChallenge => "BadChallenge"
  | .badCertOptions => "BadCertOptions"
  | .notAuthorized => "NotAuthorized"
  | .badRequest => "BadRequest"
  | .unknown => "Unknown"

/-- The tonic status codes the handlers return; `panic` stands for an `unwrap` or `expect` that
fails, which aborts the handler. -/
inductive Code
  | permissionDenied
  | cancelled
  | invalidArgument
  | unavailable
  | resourceExhausted
  | panic
  deriving DecidableEq, Repr

/-- `tonic::Status`. -/
structure Status where
  code : Code
  message : String
  deriving DecidableEq, Repr

def Status.permissionDenied (m : String) : Status := ⟨.permissionDenied, m⟩
def Status.cancelled (m : String) : Status := ⟨.cancelled, m⟩
def Status.invalidArgument (m : String) : Status := ⟨.invalidArgument, m⟩
def Status.unavailable (m : String) : Status := ⟨.unavailable, m⟩
def Status.resourceExhausted (m : String) : Status := ⟨.resourceExhausted, m⟩

/-- A panicking `unwrap` or `expect`. -/
def Status.panic : Status := ⟨.panic, ""⟩

end Rustica

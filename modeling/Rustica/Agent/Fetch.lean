import Rustica.Libraries

/-!
# The agent's allowed-signers fetch (`rustica-agent`, `ffi/allowed_signer.rs`)

`ffi_get_allowed_signers` marshals its two paths, loads the agent's configuration, starts a
runtime and creates the out file, and then asks the configured servers in turn for the allowed
signers, writing the first answer that arrives. What it meets outside its code is an
`AgentEnvironment`: the paths as `CStr::to_str` reads them, the configuration file, the runtime,
whether `File::create` opens the file, the answer to each server call, and how `write_all` ends.

* `getAllowedSignersAsync` : one server's call, then the `zstd` decoding of its answer;
* `fetchAllowedSigners` : the loop over the servers, writing to the file `File::create` emptied;
  `fetchAllowedSigners_cases` : no server answers and the file stays empty, or the first server
  that answers is written;
* `ffiGetAllowedSigners` : the status code and the out file's contents after the call;
  `ffiGetAllowedSigners_cases` : a failure before the file is opened leaves it as it was, and
  after that the loop decides;
* `ffiGetAllowedSigners_success` : `Success` is returned only with one server's decoded answer
  written in full; `allowed_signers_fetch_failover` : exactly when the first server, in the
  configuration's order, whose answer arrives and decodes is written in full;
* `allowed_signers_fetch_truncates` : once the file is opened, a run in which no server answers
  returns `InternalError` with the file empty, whatever it held before.
-/

namespace Rustica

/-- `GetAllowedSignersStatus`, the status of `ffi_get_allowed_signers`. -/
inductive GetAllowedSignersStatus
  | success
  | configurationError
  | parameterError
  | internalError
  | allowedSignersFileError
  deriving DecidableEq, Repr

/-- The `i32` a status is returned as: `Success = 0`, `ConfigurationError = 1`, and the next ones
counting on. -/
def GetAllowedSignersStatus.toI32 : GetAllowedSignersStatus → Int
  | .success => 0
  | .configurationError => 1
  | .parameterError => 2
  | .internalError => 3
  | .allowedSignersFileError => 4

/-- `RefreshError`, with the variants a fetch of the allowed signers ends with: the connection's
(`TransportError`, `InvalidURI`, `ConfigurationError`), the call's status (`TransportBadStatus`),
and the decoding's (`UnknownError`, `BadAllowedSigners`). -/
inductive RefreshError
  | transportError
  | invalidUri
  | configurationError (message : String)
  | transportBadStatus (status : Status)
  | unknownError
  | badAllowedSigners
  deriving DecidableEq, Repr

/-! ## One server -/

/-- What one server call meets: `get_rustica_client` and the `allowed_signers` call, with the
response's `compressed_allowed_signers` or the error they end with, and whether `zstd`'s
`Decoder::new` sets up a decoder on those bytes. -/
structure ServerAnswer where
  response : Except RefreshError Bytes
  decoderStarts : Bool

/-- `RusticaServer::get_allowed_signers_async`: the call, then `compressed_allowed_signers` decoded
by `zstd` and read to a `String`. -/
def getAllowedSignersAsync (lib : Libraries) (answer : ServerAnswer) : Except RefreshError String :=
  match answer.response with
  | .error e => .error e
  | .ok compressed =>
    if !answer.decoderStarts then .error .unknownError
    else match lib.zstdDecompress compressed with
      | some allowedSigners => .ok allowedSigners
      | none => .error .badAllowedSigners

/-- A call succeeds exactly when the server answered, the decoder started and the answer decodes. -/
theorem getAllowedSignersAsync_eq_ok {lib : Libraries} {answer : ServerAnswer} {s : String} :
    getAllowedSignersAsync lib answer = .ok s ↔
      ∃ compressed, answer.response = .ok compressed ∧ answer.decoderStarts = true ∧
        lib.zstdDecompress compressed = some s := by
  unfold getAllowedSignersAsync
  rcases answer.response with e | compressed
  · simp
  · cases answer.decoderStarts <;> rcases hz : lib.zstdDecompress compressed with _ | t <;>
      simp [hz]

/-! ## The loop over the servers -/

/-- `str::as_bytes`: the UTF-8 encoding. -/
def asBytes (s : String) : Bytes := s.toUTF8.data.toList

/-- `out_file.write_all(bytes)` on the emptied file, with the status the call then returns: the
file holds `bytes` and `Success`, or the `n` bytes written before the failure and
`AllowedSignersFileError`. -/
def writeAll (writeFailsAfter : Option Nat) (bytes : Bytes) : GetAllowedSignersStatus × Bytes :=
  match writeFailsAfter with
  | none => (.success, bytes)
  | some n => (.allowedSignersFileError, bytes.take n)

/-- A server of the agent's configuration, named by the address the fetch prints; its calls'
answers are the environment's. -/
structure AgentServer where
  address : String
  deriving DecidableEq, Repr

/-- The configuration `UpdatableConfiguration::get_configuration` returns: its servers, in the
order the fetch asks them. -/
structure AgentConfiguration where
  servers : List AgentServer
  deriving DecidableEq, Repr

/-- The loop over the servers, from the file `File::create` emptied: a server whose call fails is
skipped, and the first answer is written and ends the call. The `i`-th call's answer is
`call i server`. Returns the status and the file's contents. -/
def fetchAllowedSigners (lib : Libraries) (call : Nat → AgentServer → ServerAnswer)
    (writeFailsAfter : Option Nat) : List AgentServer → GetAllowedSignersStatus × Bytes
  | [] => (.internalError, [])
  | server :: servers =>
    match getAllowedSignersAsync lib (call 0 server) with
    | .error _ => fetchAllowedSigners lib (fun i => call (i + 1)) writeFailsAfter servers
    | .ok allowedSigners => writeAll writeFailsAfter (asBytes allowedSigners)

/-- Every call fails and the file stays empty, or the first server to answer is written. -/
theorem fetchAllowedSigners_cases (lib : Libraries) (writeFailsAfter : Option Nat) :
    ∀ (servers : List AgentServer) (call : Nat → AgentServer → ServerAnswer),
    ((∀ i server, servers[i]? = some server →
        ∃ e, getAllowedSignersAsync lib (call i server) = .error e) ∧
      fetchAllowedSigners lib call writeFailsAfter servers = (.internalError, [])) ∨
    ∃ i server allowedSigners, servers[i]? = some server ∧
      (∀ j server', j < i → servers[j]? = some server' →
        ∃ e, getAllowedSignersAsync lib (call j server') = .error e) ∧
      getAllowedSignersAsync lib (call i server) = .ok allowedSigners ∧
      fetchAllowedSigners lib call writeFailsAfter servers =
        writeAll writeFailsAfter (asBytes allowedSigners)
  | [], _ => .inl ⟨by simp, rfl⟩
  | server :: servers, call => by
    rcases h : getAllowedSignersAsync lib (call 0 server) with e | allowedSigners
    · have hstep : fetchAllowedSigners lib call writeFailsAfter (server :: servers) =
          fetchAllowedSigners lib (fun i => call (i + 1)) writeFailsAfter servers := by
        simp [fetchAllowedSigners, h]
      rw [hstep]
      rcases fetchAllowedSigners_cases lib writeFailsAfter servers (fun i => call (i + 1)) with
        ⟨hfail, heq⟩ | ⟨i, server', s, hi, hbefore, hs, heq⟩
      · refine .inl ⟨fun i server' hi => ?_, heq⟩
        cases i with
        | zero => cases Option.some.inj (List.getElem?_cons_zero.symm.trans hi); exact ⟨e, h⟩
        | succ i => exact hfail i server' (List.getElem?_cons_succ.symm.trans hi)
      · refine .inr ⟨i + 1, server', s, List.getElem?_cons_succ.trans hi,
          fun j server'' hj hj' => ?_, hs, heq⟩
        cases j with
        | zero => cases Option.some.inj (List.getElem?_cons_zero.symm.trans hj'); exact ⟨e, h⟩
        | succ j => exact hbefore j server'' (by omega) (List.getElem?_cons_succ.symm.trans hj')
    · exact .inr ⟨0, server, allowedSigners, List.getElem?_cons_zero,
        fun _ _ hj => absurd hj (Nat.not_lt_zero _), h,
        by simp [fetchAllowedSigners, h]⟩

/-- The first server that answers is written: every server before it failed. -/
theorem fetchAllowedSigners_first (lib : Libraries) (writeFailsAfter : Option Nat) :
    ∀ (servers : List AgentServer) (call : Nat → AgentServer → ServerAnswer) (i : Nat)
      {server : AgentServer} {allowedSigners : String}, servers[i]? = some server →
    (∀ j server', j < i → servers[j]? = some server' →
      ∃ e, getAllowedSignersAsync lib (call j server') = .error e) →
    getAllowedSignersAsync lib (call i server) = .ok allowedSigners →
    fetchAllowedSigners lib call writeFailsAfter servers =
      writeAll writeFailsAfter (asBytes allowedSigners)
  | [], _, _, _, _, hi, _, _ => by simp at hi
  | server :: servers, call, 0, _, _, hi, _, hs => by
    cases Option.some.inj (List.getElem?_cons_zero.symm.trans hi)
    simp [fetchAllowedSigners, hs]
  | server :: servers, call, i + 1, _, _, hi, hbefore, hs => by
    obtain ⟨e, he⟩ := hbefore 0 server (Nat.succ_pos i) List.getElem?_cons_zero
    simp only [fetchAllowedSigners, he]
    exact fetchAllowedSigners_first lib writeFailsAfter servers (fun j => call (j + 1)) i
      (List.getElem?_cons_succ.symm.trans hi)
      (fun j server' hj hj' => hbefore (j + 1) server' (by omega) (List.getElem?_cons_succ.trans hj'))
      hs

/-! ## The call -/

/-- What `ffi_get_allowed_signers` meets outside its code. -/
structure AgentEnvironment where
  /-- `CStr::from_ptr(config_path).to_str()`: `none` when the bytes are not UTF-8. -/
  configPath : Option String
  /-- `UpdatableConfiguration::new`, which reads the configuration file and parses it. -/
  loadConfiguration : String → Except String AgentConfiguration
  /-- `CStr::from_ptr(out_path).to_str()`. -/
  outPath : Option String
  /-- Whether `Runtime::new` starts a runtime. -/
  runtimeStarts : Bool
  /-- Whether `File::create` opens the file at a path, creating it or emptying it. -/
  createOpens : String → Bool
  /-- The answer to the `i`-th server call of the loop, made to `server`. -/
  call : Nat → AgentServer → ServerAnswer
  /-- How `write_all` ends: `none` when it writes every byte, `some n` when it fails after
  writing `n` of them. -/
  writeFailsAfter : Option Nat

/-- `ffi_get_allowed_signers`: the status code, and the contents of the file at `out_path` after
the call, from `outFile` before it (`none` when there is no file). -/
def ffiGetAllowedSigners (lib : Libraries) (env : AgentEnvironment) (outFile : Option Bytes) :
    Int × Option Bytes :=
  match env.configPath with
  | none => (GetAllowedSignersStatus.configurationError.toI32, outFile)
  | some configPath =>
    match env.loadConfiguration configPath with
    | .error _ => (GetAllowedSignersStatus.configurationError.toI32, outFile)
    | .ok configuration =>
      match env.outPath with
      | none => (GetAllowedSignersStatus.parameterError.toI32, outFile)
      | some outPath =>
        if !env.runtimeStarts then (GetAllowedSignersStatus.internalError.toI32, outFile)
        else if !env.createOpens outPath then
          (GetAllowedSignersStatus.allowedSignersFileError.toI32, outFile)
        else
          let result := fetchAllowedSigners lib env.call env.writeFailsAfter configuration.servers
          (result.1.toI32, some result.2)

/-- The call fails before opening the file, leaving it, or returns what the loop returns. -/
theorem ffiGetAllowedSigners_cases (lib : Libraries) (env : AgentEnvironment)
    (outFile : Option Bytes) :
    ((ffiGetAllowedSigners lib env outFile).1 ≠ GetAllowedSignersStatus.success.toI32 ∧
      (ffiGetAllowedSigners lib env outFile).2 = outFile) ∨
    ∃ configPath configuration outPath, env.configPath = some configPath ∧
      env.loadConfiguration configPath = .ok configuration ∧ env.outPath = some outPath ∧
      env.runtimeStarts = true ∧ env.createOpens outPath = true ∧
      ffiGetAllowedSigners lib env outFile =
        ((fetchAllowedSigners lib env.call env.writeFailsAfter configuration.servers).1.toI32,
          some (fetchAllowedSigners lib env.call env.writeFailsAfter configuration.servers).2) := by
  unfold ffiGetAllowedSigners
  split
  · exact .inl ⟨by simp [GetAllowedSignersStatus.toI32], rfl⟩
  rename_i configPath hc
  split
  · exact .inl ⟨by simp [GetAllowedSignersStatus.toI32], rfl⟩
  rename_i configuration hl
  split
  · exact .inl ⟨by simp [GetAllowedSignersStatus.toI32], rfl⟩
  rename_i outPath ho
  split
  · exact .inl ⟨by simp [GetAllowedSignersStatus.toI32], rfl⟩
  rename_i hr
  split
  · exact .inl ⟨by simp [GetAllowedSignersStatus.toI32], rfl⟩
  rename_i hf
  exact .inr ⟨configPath, configuration, outPath, hc, hl, ho, by simpa using hr, by simpa using hf,
    rfl⟩

/-- `Success` only when a server's decoded answer was written to the file in full. -/
theorem ffiGetAllowedSigners_success (lib : Libraries) (env : AgentEnvironment)
    (outFile : Option Bytes)
    (h : (ffiGetAllowedSigners lib env outFile).1 = GetAllowedSignersStatus.success.toI32) :
    ∃ configPath configuration i server allowedSigners, env.configPath = some configPath ∧
      env.loadConfiguration configPath = .ok configuration ∧
      configuration.servers[i]? = some server ∧
      getAllowedSignersAsync lib (env.call i server) = .ok allowedSigners ∧
      (ffiGetAllowedSigners lib env outFile).2 = some (asBytes allowedSigners) := by
  rcases ffiGetAllowedSigners_cases lib env outFile with ⟨hne, -⟩ | ⟨configPath, configuration,
    -, hc, hl, -, -, -, heq⟩
  · exact absurd h hne
  rw [heq] at h ⊢
  rcases fetchAllowedSigners_cases lib env.writeFailsAfter configuration.servers env.call with
    ⟨-, hf⟩ | ⟨i, server, s, hi, -, hs, hf⟩
  · rw [hf] at h; cases h
  rw [hf] at h ⊢
  cases hw : env.writeFailsAfter <;> simp only [writeAll, hw] at h ⊢
  · exact ⟨configPath, configuration, i, server, s, hc, hl, hi, hs, rfl⟩
  · cases h

/-- Once the file is opened, a run with no answer returns `InternalError` and empties it. -/
theorem allowed_signers_fetch_truncates (lib : Libraries) (env : AgentEnvironment)
    (outFile : Option Bytes) {configPath outPath : String} {configuration : AgentConfiguration}
    (hc : env.configPath = some configPath)
    (hl : env.loadConfiguration configPath = .ok configuration)
    (ho : env.outPath = some outPath) (hr : env.runtimeStarts = true)
    (hf : env.createOpens outPath = true)
    (hfail : ∀ i server, configuration.servers[i]? = some server →
      ∃ e, getAllowedSignersAsync lib (env.call i server) = .error e) :
    ffiGetAllowedSigners lib env outFile = (GetAllowedSignersStatus.internalError.toI32, some []) := by
  rcases fetchAllowedSigners_cases lib env.writeFailsAfter configuration.servers env.call with
    ⟨-, hloop⟩ | ⟨i, server, s, hi, -, hs, -⟩
  · simp [ffiGetAllowedSigners, hc, hl, ho, hr, hf, hloop]
  · obtain ⟨e, he⟩ := hfail i server hi
    cases hs.symm.trans he

/-- Failover in configuration order: `Success` exactly when the first answer is written in full. -/
theorem allowed_signers_fetch_failover (lib : Libraries) (env : AgentEnvironment)
    (outFile : Option Bytes) :
    (ffiGetAllowedSigners lib env outFile).1 = GetAllowedSignersStatus.success.toI32 ↔
      ∃ configPath configuration outPath i server allowedSigners,
        env.configPath = some configPath ∧ env.loadConfiguration configPath = .ok configuration ∧
        env.outPath = some outPath ∧ env.runtimeStarts = true ∧ env.createOpens outPath = true ∧
        configuration.servers[i]? = some server ∧
        (∀ j server', j < i → configuration.servers[j]? = some server' →
          ∃ e, getAllowedSignersAsync lib (env.call j server') = .error e) ∧
        getAllowedSignersAsync lib (env.call i server) = .ok allowedSigners ∧
        env.writeFailsAfter = none ∧
        (ffiGetAllowedSigners lib env outFile).2 = some (asBytes allowedSigners) := by
  constructor
  · intro h
    rcases ffiGetAllowedSigners_cases lib env outFile with ⟨hne, -⟩ | ⟨configPath, configuration,
      outPath, hc, hl, ho, hr, hf, heq⟩
    · exact absurd h hne
    rw [heq] at h ⊢
    rcases fetchAllowedSigners_cases lib env.writeFailsAfter configuration.servers env.call with
      ⟨-, hloop⟩ | ⟨i, server, s, hi, hbefore, hs, hloop⟩
    · rw [hloop] at h; cases h
    rw [hloop] at h ⊢
    cases hw : env.writeFailsAfter
    · exact ⟨configPath, configuration, outPath, i, server, s, hc, hl, ho, hr, hf, hi, hbefore, hs,
        rfl, by simp [writeAll, hw]⟩
    · simp [writeAll, hw, GetAllowedSignersStatus.toI32] at h
  · rintro ⟨configPath, configuration, outPath, i, server, s, hc, hl, ho, hr, hf, hi, hbefore, hs,
      hw, -⟩
    simp [ffiGetAllowedSigners, hc, hl, ho, hr, hf,
      fetchAllowedSigners_first lib _ _ _ i hi hbefore hs, writeAll, hw]

/-- An agent configured with one server, whose call fails in transport, and for which everything
before the loop succeeds. -/
def AgentEnvironment.unreachable : AgentEnvironment where
  configPath := some "rustica-agent.toml"
  loadConfiguration _ := .ok ⟨[⟨"https://rustica.example:50052"⟩]⟩
  outPath := some "allowed_signers"
  runtimeStarts := true
  createOpens _ := true
  call _ _ := ⟨.error .transportError, true⟩
  writeFailsAfter := none

theorem allowed_signers_fetch_truncates_unreachable :
    ffiGetAllowedSigners Libraries.sample AgentEnvironment.unreachable
        (some (asBytes "alice ssh-ed25519 AAAA")) =
      (GetAllowedSignersStatus.internalError.toI32, some []) :=
  allowed_signers_fetch_truncates _ _ _ rfl rfl rfl rfl rfl fun _ _ _ => ⟨.transportError, rfl⟩

end Rustica

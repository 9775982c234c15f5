import Rustica.Server.Validate
import Rustica.Lru
import Rustica.Config

/-!
# The allowed-signers endpoint (`Rustica::allowed_signers`, `is_rate_limited`)

The handler checks its peer, reads the clock once, passes a per-identity rate limiter (an
`LruCache` behind a mutex), and answers with the zstd-compressed allowed-signers file from a cache
behind a read-write lock, refreshing it from the authorizer under the write lock when it expired.

Handlers run concurrently. Each is a sequence of atomic steps, one per section of the source
between two lock operations (`Action`), and `step` runs one step of one handler on the shared
`State`: the limiter, the cache, the holder of the write lock, every handler's stage, and a ghost
history of what happened. A read section is one step, since no writer can run during it; the write
section is two, the check and the refresh, and the write lock is held between them. Every order of
steps whose guards pass is a run, which covers every schedule the locks permit.

* `renderAllowedSigners` : the file;
* `isRateLimited` : `is_rate_limited`; `rate_limiter_step` : what one call answers and leaves in the
  limiter;
* `Inv.step`, `Reachable.inv` : the cache's invariant holds in every reachable state;
* `refresh_calls_expired`, `expiry_mono`, `refresh_failed_cache` : the refresh under the lock;
* `Reachable.separated`, `allowed_signers_cooldown` : two passes of one identity, in the mutex's
  order, are `rate_limit_cooldown` apart when no push between them read the clock before the first
  or evicted the identity; `rate_limit_stale_deadline` : a push with a stale reading takes the
  deadline back.
-/

namespace Rustica

/-! ## The file and the rate limiter -/

/-- The allowed-signers file: one line `identity pubkey` per signer (`format!("{} {}", ..)`),
joined with newlines. -/
def renderAllowedSigners (signers : List AllowedSigner) : String :=
  "\n".intercalate (signers.map fun s => s.identity ++ " " ++ s.pubkey)

/-- `is_rate_limited`, under the limiter's mutex: the identities' next deadline is pushed, and the
call is limited when the entry this displaced is the identities' own, with a deadline still ahead. -/
def isRateLimited (rateLimiter : LruCache String Duration) (cooldown : Duration)
    (identities : String) (currentTime : Duration) : LruCache String Duration × Bool :=
  match rateLimiter.push identities (currentTime + cooldown) with
  | (rateLimiter, none) => (rateLimiter, false)
  | (rateLimiter, some removed) =>
    (rateLimiter, if removed.1 ≠ identities then false else decide (currentTime < removed.2))

/-- `is_rate_limited` pushes the next deadline, and limits a caller whose deadline is ahead. -/
theorem isRateLimited_eq (c : LruCache String Duration) (cooldown : Duration) (identities : String)
    (currentTime : Duration) :
    isRateLimited c cooldown identities currentTime =
      ((c.push identities (currentTime + cooldown)).1,
        decide (∃ d, c.entries.lookup identities = some d ∧ currentTime < d)) := by
  unfold isRateLimited
  cases hl : c.entries.lookup identities with
  | some d =>
    obtain ⟨h1, -⟩ := @LruCache.push_present _ _ _ c identities (currentTime + cooldown) d hl
    rw [show c.push identities (currentTime + cooldown) = (_, some (identities, d)) from
      Prod.ext rfl h1]
    simp
  | none =>
    by_cases hfull : c.entries.length = c.cap
    · obtain ⟨h1, -⟩ :=
        @LruCache.push_absent_full _ _ _ c identities (currentTime + cooldown) hl hfull
      rw [show c.push identities (currentTime + cooldown) = (_, c.entries.getLast?) from
        Prod.ext rfl h1]
      cases hlast : c.entries.getLast? with
      | none => simp
      | some e =>
        have : e.1 ≠ identities := fun he => by
          have hm := List.mem_of_getLast?_eq_some hlast
          rw [List.lookup_eq_none_iff] at hl
          simpa [he] using hl e hm
        simp [this]
    · obtain ⟨h1, -⟩ := @LruCache.push_absent _ _ _ c identities (currentTime + cooldown) hl hfull
      rw [show c.push identities (currentTime + cooldown) = (_, none) from Prod.ext rfl h1]
      simp

/-- One limiter step: whom it limits, the entry it refreshes, and the one it may evict. -/
theorem rate_limiter_step (c : LruCache String Duration) (cooldown : Duration) (identities : String)
    (currentTime : Duration) :
    let result := isRateLimited c cooldown identities currentTime
    (result.2 = true ↔ ∃ d, c.entries.lookup identities = some d ∧ currentTime < d) ∧
    result.1.cap = c.cap ∧
    result.1.entries.head? = some (identities, currentTime + cooldown) ∧
    ((c.entries.lookup identities).isSome ∨ c.entries.length < c.cap →
      result.1.entries.tail = c.entries.filter (·.1 ≠ identities)) ∧
    (c.entries.lookup identities = none → c.entries.length = c.cap →
      ∃ evicted, c.entries.getLast? = some evicted ∧ evicted.1 ≠ identities ∧
        result.1.entries.tail = c.entries.dropLast) := by
  simp only [isRateLimited_eq, decide_eq_true_eq, LruCache.push_cap, true_and]
  cases hl : c.entries.lookup identities with
  | some d =>
    rw [(LruCache.push_present hl).2]
    exact ⟨rfl, fun _ => rfl, fun h => nomatch h⟩
  | none =>
    have habsent : ∀ p ∈ c.entries, p.1 ≠ identities := fun p hp he => by
      simpa [he] using List.lookup_eq_none_iff.mp hl p hp
    by_cases hfull : c.entries.length = c.cap
    · rw [(LruCache.push_absent_full hl hfull).2]
      refine ⟨rfl, fun h => by simp [hfull] at h, fun _ _ => ?_⟩
      obtain ⟨evicted, he⟩ := Option.ne_none_iff_exists'.mp fun h =>
        (Nat.ne_of_gt c.cap_pos) (hfull.symm.trans (List.length_eq_zero.mpr
          (List.getLast?_eq_none_iff.mp h)))
      exact ⟨evicted, he, habsent _ (List.mem_of_getLast?_eq_some he), rfl⟩
    · rw [(LruCache.push_absent hl hfull).2]
      exact ⟨rfl, fun _ => (List.filter_eq_self.mpr fun p hp => by simpa using habsent p hp).symm,
        fun _ h => absurd h hfull⟩

/-- The handler up to its clock reading, which touches no shared state: the address, one peer
certificate and its `CommonName`s, joined with commas. -/
def allowedSignersPeer (lib : Libraries) (remoteAddr : Option SocketAddr)
    (peerCerts : Option (List Bytes)) : Emit Effect (Except Status String) := do
  let some _ := remoteAddr | return .error (Status.permissionDenied "")
  let some peer := peerCerts | return .error (Status.permissionDenied "")
  let some cert := peer.head? | return .error (Status.permissionDenied "")
  match extractCertificateInformation lib cert with
  | .ok info => return .ok (joinIdentities info.identities)
  | .error e =>
    rusticaError ("Could not validate request: " ++ e.debug)
    return .error (Status.cancelled "")

/-- A refresh's new payload: the authorizer's list rendered and compressed, `none` when the
authorizer or `zstd` fails. -/
def refreshedPayload (lib : Libraries) : Except String (List AllowedSigner) → Option Bytes
  | .ok signers => lib.zstdCompress (renderAllowedSigners signers)
  | .error _ => none

namespace AllowedSigners

/-! ## Handlers running concurrently -/

/-- Where a handler is between two atomic steps. -/
inductive Stage
  /-- not started -/
  | idle
  /-- read the clock; waits for the limiter's mutex -/
  | limiter
  /-- passed the limiter; waits for the read lock -/
  | read
  /-- found the cache expired under the read lock; waits for the write lock -/
  | write
  /-- holds the write lock and found the cache still expired; calls the authorizer -/
  | refresh
  /-- answered -/
  | done (reply : Except Status Bytes)

/-- One handler: its peer's identities and its clock reading, once it has them, and its stage. -/
structure Handler where
  identities : String
  currentTime : Duration
  stage : Stage

/-- What happened, as the ghost history records it. -/
inductive Event
  /-- what handler `h` sent out before its clock reading -/
  | effect (h : Nat) (e : Effect)
  /-- handler `h` read the clock -/
  | clock (h : Nat) (now : Duration)
  /-- handler `h` pushed its identities into the limiter: the entry it displaced, and whether the
  handler was limited -/
  | push (h : Nat) (identities : String) (now : Duration) (displaced : Option (String × Duration))
      (limited : Bool)
  /-- handler `h` called the authorizer's `get_allowed_signers` -/
  | authorizerCall (h : Nat) (now : Duration)
  /-- handler `h` stored a new payload -/
  | refreshed (h : Nat) (now : Duration) (payload : Bytes)
  /-- handler `h` answered with a payload -/
  | reply (h : Nat) (payload : Bytes)
  deriving DecidableEq, Repr

/-- The server's allowed-signers state, every handler's own, and the ghost history, the latest
event first. -/
structure State where
  rateLimiter : LruCache String Duration
  cache : AllowedSignersCache
  /-- the handler holding the write lock -/
  writer : Option Nat
  handlers : Nat → Handler
  history : List Event

/-- The state the handlers start from, as `configure` builds it: the limiter, the empty cache that
expired at time zero, no handler started. -/
def State.init (rateLimiter : LruCache String Duration) : State :=
  { rateLimiter, cache := ⟨[], 0⟩, writer := none, handlers := fun _ => ⟨"", 0, .idle⟩,
    history := [] }

/-- Handler `h` moves to `stage`. -/
def State.setStage (s : State) (h : Nat) (stage : Stage) : State :=
  { s with handlers := Function.update s.handlers h { s.handlers h with stage } }

/-- An event is recorded. -/
def State.record (s : State) (e : Event) : State := { s with history := e :: s.history }

/-- Handler `h` answers with `payload`. -/
def State.reply (s : State) (h : Nat) (payload : Bytes) : State :=
  (s.setStage h (.done (.ok payload))).record (.reply h payload)

section StateUpdates
variable (s : State) (h h' : Nat) (e : Event) (stage : Stage) (payload : Bytes)

@[simp] theorem State.record_cache : (s.record e).cache = s.cache := rfl
@[simp] theorem State.record_writer : (s.record e).writer = s.writer := rfl
@[simp] theorem State.record_handlers : (s.record e).handlers = s.handlers := rfl
@[simp] theorem State.record_history : (s.record e).history = e :: s.history := rfl
@[simp] theorem State.setStage_cache : (s.setStage h stage).cache = s.cache := rfl
@[simp] theorem State.setStage_writer : (s.setStage h stage).writer = s.writer := rfl
@[simp] theorem State.setStage_history : (s.setStage h stage).history = s.history := rfl
@[simp] theorem State.record_rateLimiter : (s.record e).rateLimiter = s.rateLimiter := rfl
@[simp] theorem State.setStage_rateLimiter : (s.setStage h stage).rateLimiter = s.rateLimiter := rfl
@[simp] theorem State.reply_rateLimiter : (s.reply h payload).rateLimiter = s.rateLimiter := rfl
@[simp] theorem State.reply_cache : (s.reply h payload).cache = s.cache := rfl
@[simp] theorem State.reply_writer : (s.reply h payload).writer = s.writer := rfl
@[simp] theorem State.reply_history :
    (s.reply h payload).history = .reply h payload :: s.history := rfl
@[simp] theorem State.reply_handlers :
    (s.reply h payload).handlers = (s.setStage h (.done (.ok payload))).handlers := rfl

@[simp] theorem State.setStage_self : ((s.setStage h stage).handlers h).stage = stage := by
  simp [State.setStage]

theorem State.setStage_other {h h' : Nat} (hne : h' ≠ h) :
    (s.setStage h stage).handlers h' = s.handlers h' := by
  simp [State.setStage, hne]

@[simp] theorem State.setStage_currentTime :
    ((s.setStage h stage).handlers h').currentTime = (s.handlers h').currentTime := by
  by_cases hh : h' = h
  · subst hh; simp [State.setStage]
  · simp [State.setStage_other _ _ hh]

end StateUpdates

/-- One atomic step of one handler. -/
inductive Action
  /-- handler `h` checks its peer and reads the clock (`none` before the epoch) -/
  | start (h : Nat) (remoteAddr : Option SocketAddr) (peerCerts : Option (List Bytes))
      (clock : Option Duration)
  /-- handler `h` runs `is_rate_limited` under the mutex -/
  | rateLimit (h : Nat)
  /-- handler `h` takes the read lock, checks the expiry and releases it -/
  | readCache (h : Nat)
  /-- handler `h` takes the write lock and checks the expiry again -/
  | writeCache (h : Nat)
  /-- handler `h` gets the authorizer's answer, refreshes and releases the write lock -/
  | refresh (h : Nat) (answer : Except String (List AllowedSigner))

section Steps
variable (lib : Libraries) (config : AllowedSignersConfiguration) (s : State) (h : Nat)

/-- The handler's start, up to its clock reading. -/
def start (remoteAddr : Option SocketAddr) (peerCerts : Option (List Bytes))
    (clock : Option Duration) : Option State :=
  match (s.handlers h).stage with
  | .idle =>
    let peer := allowedSignersPeer lib remoteAddr peerCerts
    let s := { s with history := (peer.effects.map (Event.effect h)).reverse ++ s.history }
    some <| match peer.result, clock with
      | .error status, _ => s.setStage h (.done (.error status))
      | .ok _, none => s.setStage h (.done (.error (Status.permissionDenied "")))
      | .ok identities, some now =>
        ({ s with handlers := Function.update s.handlers h ⟨identities, now, .limiter⟩ }).record
          (.clock h now)
  | _ => none

/-- `is_rate_limited` under the mutex; a limited handler answers `resource_exhausted`. -/
def rateLimit : Option State :=
  let hd := s.handlers h
  match hd.stage with
  | .limiter =>
    let (rateLimiter, limited) :=
      isRateLimited s.rateLimiter config.rateLimitCooldown hd.identities hd.currentTime
    let displaced :=
      (s.rateLimiter.push hd.identities (hd.currentTime + config.rateLimitCooldown)).2
    some <| ({ s with rateLimiter }.record (.push h hd.identities hd.currentTime displaced limited)).setStage
      h (if limited then .done (.error (Status.resourceExhausted "")) else .read)
  | _ => none

/-- The read section: a cache still valid at the handler's clock reading answers. -/
def readCache : Option State :=
  let hd := s.handlers h
  match hd.stage, s.writer with
  | .read, none =>
    some <| if hd.currentTime ≤ s.cache.expiryTimestamp then s.reply h s.cache.compressedAllowedSigners
      else s.setStage h .write
  | _, _ => none

/-- The write lock is taken and the expiry checked again: a cache refreshed meanwhile answers and
the lock is released, or the handler keeps the lock to refresh. -/
def writeCache : Option State :=
  let hd := s.handlers h
  match hd.stage, s.writer with
  | .write, none =>
    some <| if hd.currentTime ≤ s.cache.expiryTimestamp then s.reply h s.cache.compressedAllowedSigners
      else { s.setStage h .refresh with writer := some h }
  | _, _ => none

/-- The refresh, by the holder of the write lock: the authorizer's answer rendered and compressed
replaces the cache, valid for `cache_validity_length` from the handler's clock reading; a failure
answers `permission_denied` and leaves the cache. The lock is released either way. -/
def refresh (answer : Except String (List AllowedSigner)) : Option State :=
  let hd := s.handlers h
  match hd.stage with
  | .refresh =>
    if s.writer = some h then
      let s := { s with writer := none }.record (.authorizerCall h hd.currentTime)
      some <| match refreshedPayload lib answer with
        | none => s.setStage h (.done (.error (Status.permissionDenied "")))
        | some payload =>
          ({ s with cache := ⟨payload, hd.currentTime + config.cacheValidityLength⟩ }.record
            (.refreshed h hd.currentTime payload)).reply h payload
    else none
  | _ => none

end Steps

/-- One step of the system; `none` when the handler is not at that step or the lock is taken. -/
def step (lib : Libraries) (config : AllowedSignersConfiguration) (s : State) : Action → Option State
  | .start h remoteAddr peerCerts clock => start lib s h remoteAddr peerCerts clock
  | .rateLimit h => rateLimit config s h
  | .readCache h => readCache s h
  | .writeCache h => writeCache s h
  | .refresh h answer => refresh lib config s h answer

/-- The states some schedule of steps leads to. -/
inductive Reachable (lib : Libraries) (config : AllowedSignersConfiguration) (s₀ : State) :
    State → Prop
  | init : Reachable lib config s₀ s₀
  | step {s s' : State} (a : Action) : Reachable lib config s₀ s → step lib config s a = some s' →
      Reachable lib config s₀ s'

/-- A schedule run step after step; `none` when a step's guard fails. -/
def run (lib : Libraries) (config : AllowedSignersConfiguration) : State → List Action → Option State
  | s, [] => some s
  | s, a :: as =>
    match step lib config s a with
    | some s' => run lib config s' as
    | none => none

theorem Reachable.of_run {lib : Libraries} {config : AllowedSignersConfiguration} {s₀ : State} :
    ∀ {s s' : State} (as : List Action), Reachable lib config s₀ s → run lib config s as = some s' →
      Reachable lib config s₀ s'
  | _, _, [], hs, h => by cases h; exact hs
  | s, _, a :: as, hs, h => by
    simp only [run] at h
    split at h
    · exact Reachable.of_run as (hs.step a ‹_›) h
    · cases h

/-! ## The cache's invariant -/

/-- The payload of the latest refresh in a history (the latest event first), or the empty payload
of the initial cache when there was none. -/
def lastRefresh : List Event → Bytes
  | [] => []
  | .refreshed _ _ p :: _ => p
  | _ :: older => lastRefresh older

/-- The events that neither call the authorizer nor store or serve a payload. -/
def Event.Quiet : Event → Prop
  | .effect .. | .clock .. | .push .. => True
  | _ => False

/-- What each event promises, given the events before it: an authorizer call comes more than
`validity` after every earlier refresh, and a reply serves the latest refreshed payload. -/
def EventOk (validity : Duration) : Event → List Event → Prop
  | .authorizerCall _ now, older => ∀ h t p, .refreshed h t p ∈ older → t + validity < now
  | .reply _ p, older => p = lastRefresh older
  | _, _ => True

/-- The invariant of the cache: the payload is the latest refreshed one and the expiry is past
every refresh's validity; the refresh stage and the write lock go together, and the lock's holder
found the cache expired; every answered payload was recorded, and every event kept its promise. -/
structure Inv (config : AllowedSignersConfiguration) (s : State) : Prop where
  payload : s.cache.compressedAllowedSigners = lastRefresh s.history
  refreshed_le : ∀ h t p, Event.refreshed h t p ∈ s.history →
    t + config.cacheValidityLength ≤ s.cache.expiryTimestamp
  writer_iff : ∀ h, (s.handlers h).stage = .refresh ↔ s.writer = some h
  writer_expired : ∀ h, s.writer = some h → s.cache.expiryTimestamp < (s.handlers h).currentTime
  replied : ∀ h p, (s.handlers h).stage = .done (.ok p) → ∃ older, .reply h p :: older <:+ s.history
  history : ∀ e older, e :: older <:+ s.history → EventOk config.cacheValidityLength e older

section Inv
variable {config : AllowedSignersConfiguration} {s : State} {h : Nat}

theorem history_cons {validity : Duration} {hist : List Event} {e : Event}
    (hh : ∀ e older, e :: older <:+ hist → EventOk validity e older) (he : EventOk validity e hist) :
    ∀ e' older, e' :: older <:+ e :: hist → EventOk validity e' older := by
  intro e' older hs
  rcases List.suffix_cons_iff.mp hs with h | h
  · cases h; exact he
  · exact hh _ _ h

theorem Inv.init (rateLimiter : LruCache String Duration) : Inv config (State.init rateLimiter) where
  payload := rfl
  refreshed_le := by simp [State.init]
  writer_iff := by simp [State.init]
  writer_expired := by simp [State.init]
  replied := by simp [State.init]
  history := by simp [State.init]

theorem Inv.record {e : Event} (hi : Inv config s) (he : e.Quiet) : Inv config (s.record e) where
  payload := by cases e <;> simp_all [Event.Quiet, lastRefresh, hi.payload]
  refreshed_le h t p hm := hi.refreshed_le h t p (by cases e <;> simp_all [Event.Quiet])
  writer_iff := hi.writer_iff
  writer_expired := hi.writer_expired
  replied h p hp := (hi.replied h p hp).imp fun _ hs => hs.trans (List.suffix_cons _ _)
  history := history_cons hi.history (by cases e <;> simp_all [Event.Quiet, EventOk])

theorem Inv.prepend {es : List Event} (hi : Inv config s) (hes : ∀ e ∈ es, e.Quiet) :
    Inv config { s with history := es ++ s.history } := by
  induction es with
  | nil => exact hi
  | cons e es ih =>
    exact (ih fun e he => hes e (List.mem_cons_of_mem _ he)).record (hes e (List.mem_cons_self _ _))

/-- A handler away from the write lock moves to a stage away from it, answering nothing. -/
theorem Inv.setHandler {hd : Handler} (hi : Inv config s) (hne : (s.handlers h).stage ≠ .refresh)
    (hst : hd.stage ≠ .refresh) (hok : ∀ p, hd.stage ≠ .done (.ok p)) :
    Inv config { s with handlers := Function.update s.handlers h hd } where
  payload := hi.payload
  refreshed_le := hi.refreshed_le
  writer_iff h' := by
    by_cases hh : h' = h
    · subst hh; simpa [hst] using mt (hi.writer_iff h').mpr hne
    · simpa [hh] using hi.writer_iff h'
  writer_expired h' hw := by
    have : h' ≠ h := fun hh => hne (hh ▸ (hi.writer_iff h').mpr hw)
    simpa [this] using hi.writer_expired h' hw
  replied h' p hp := by
    by_cases hh : h' = h
    · subst hh; simp [hok p] at hp
    · simpa [hh] using hi.replied h' p (by simpa [hh] using hp)
  history := hi.history

theorem Inv.setStage {stage : Stage} (hi : Inv config s) (hne : (s.handlers h).stage ≠ .refresh)
    (hst : stage ≠ .refresh) (hok : ∀ p, stage ≠ .done (.ok p)) : Inv config (s.setStage h stage) :=
  hi.setHandler hne hst hok

/-- A handler away from the write lock answers the latest refreshed payload. -/
theorem Inv.reply {payload : Bytes} (hi : Inv config s) (hne : (s.handlers h).stage ≠ .refresh)
    (hp : payload = lastRefresh s.history) : Inv config (s.reply h payload) where
  payload := by simpa [lastRefresh] using hi.payload
  refreshed_le h t p hm := hi.refreshed_le h t p (by simpa using hm)
  writer_iff h' := by
    by_cases hh : h' = h
    · subst hh; simpa [State.reply] using mt (hi.writer_iff h').mpr hne
    · simpa [State.reply, State.setStage_other _ _ hh] using hi.writer_iff h'
  writer_expired h' hw := by simpa using hi.writer_expired h' (by simpa using hw)
  replied h' p hp' := by
    by_cases hh : h' = h
    · subst hh
      simp only [State.reply, State.record_handlers, State.setStage_self, Stage.done.injEq,
        Except.ok.injEq] at hp'
      exact ⟨s.history, by simp [hp']⟩
    · simp only [State.reply, State.record_handlers, State.setStage_other _ _ hh] at hp'
      exact (hi.replied h' p hp').imp fun _ hs => hs.trans (List.suffix_cons _ _)
  history := history_cons hi.history hp

end Inv

/-! ## What each step does -/

section Steps
variable {lib : Libraries} {config : AllowedSignersConfiguration} {s s' : State} {h : Nat}

theorem inv_start {remoteAddr : Option SocketAddr} {peerCerts : Option (List Bytes)}
    {clock : Option Duration} (hi : Inv config s)
    (hs : start lib s h remoteAddr peerCerts clock = some s') : Inv config s' := by
  unfold start at hs
  split at hs
  case h_2 => cases hs
  rename_i hidle
  have hne : (s.handlers h).stage ≠ .refresh := by simp [hidle]
  have hp : Inv config { s with history := ((allowedSignersPeer lib remoteAddr peerCerts).effects.map
      (Event.effect h)).reverse ++ s.history } := hi.prepend (by simp [Event.Quiet])
  cases hs
  split
  · exact hp.setStage hne (by simp) (by simp)
  · exact hp.setStage hne (by simp) (by simp)
  · exact Inv.record (Inv.setHandler hp hne (by simp) (by simp)) trivial

/-- The limiter's step records the push, then goes on to the read lock or is limited. -/
theorem rateLimit_eq (hs : rateLimit config s h = some s') :
    (s.handlers h).stage = .limiter ∧
      let hd := s.handlers h
      let limited := isRateLimited s.rateLimiter config.rateLimitCooldown hd.identities hd.currentTime
      s' = ({ s with rateLimiter := limited.1 }.record (.push h hd.identities hd.currentTime
        (s.rateLimiter.push hd.identities (hd.currentTime + config.rateLimitCooldown)).2 limited.2)).setStage
          h (if limited.2 then .done (.error (Status.resourceExhausted "")) else .read) := by
  unfold rateLimit at hs
  dsimp only at hs
  split at hs
  case h_2 => cases hs
  cases hs
  exact ⟨‹_›, rfl⟩

theorem inv_rateLimit (hi : Inv config s) (hs : rateLimit config s h = some s') : Inv config s' := by
  obtain ⟨hlim, rfl⟩ := rateLimit_eq hs
  have hr : ∀ r, Inv config { s with rateLimiter := r } := fun _ =>
    ⟨hi.payload, hi.refreshed_le, hi.writer_iff, hi.writer_expired, hi.replied, hi.history⟩
  refine ((hr _).record ?_).setStage ?_ (by split <;> simp) (by split <;> simp)
  · trivial
  · simp [hlim]

theorem inv_readCache (hi : Inv config s) (hs : readCache s h = some s') : Inv config s' := by
  unfold readCache at hs
  dsimp only at hs
  split at hs
  case h_2 => cases hs
  rename_i hread _
  cases hs
  have hne : (s.handlers h).stage ≠ .refresh := by simp [hread]
  split
  · exact hi.reply hne hi.payload
  · exact hi.setStage hne (by simp) (by simp)

/-- The write lock is taken by a handler that found the cache expired. -/
theorem Inv.acquire (hi : Inv config s) (hw : s.writer = none) (hwrite : (s.handlers h).stage = .write)
    (hexp : s.cache.expiryTimestamp < (s.handlers h).currentTime) :
    Inv config { s.setStage h .refresh with writer := some h } where
  payload := hi.payload
  refreshed_le := hi.refreshed_le
  writer_iff h' := by
    by_cases hh : h' = h
    · subst hh; simp
    · simpa [State.setStage_other _ _ hh, hw, Ne.symm hh] using hi.writer_iff h'
  writer_expired h' hh := by
    cases hh
    simpa using hexp
  replied h' p hp := by
    by_cases hh : h' = h
    · subst hh; simp at hp
    · exact hi.replied h' p (by simpa [State.setStage_other _ _ hh] using hp)
  history := hi.history

theorem inv_writeCache (hi : Inv config s) (hs : writeCache s h = some s') : Inv config s' := by
  unfold writeCache at hs
  dsimp only at hs
  split at hs
  case h_2 => cases hs
  rename_i hwrite hw
  cases hs
  split
  · exact hi.reply (by simp [hwrite]) hi.payload
  · exact hi.acquire hw hwrite (Nat.lt_of_not_le ‹_›)

/-- A refresh releases the write lock, records its call, and stores and answers, or fails. -/
theorem refresh_eq {answer : Except String (List AllowedSigner)}
    (hs : refresh lib config s h answer = some s') :
    (s.handlers h).stage = .refresh ∧ s.writer = some h ∧
      let now := (s.handlers h).currentTime
      let called := { s with writer := none }.record (.authorizerCall h now)
      s' = match refreshedPayload lib answer with
        | none => called.setStage h (.done (.error (Status.permissionDenied "")))
        | some payload =>
          ({ called with cache := ⟨payload, now + config.cacheValidityLength⟩ }.record
            (.refreshed h now payload)).reply h payload := by
  unfold refresh at hs
  dsimp only at hs
  split at hs
  case h_2 => cases hs
  split at hs
  case isFalse => cases hs
  cases hs
  exact ⟨‹_›, ‹_›, rfl⟩

theorem inv_refresh {answer : Except String (List AllowedSigner)} (hi : Inv config s)
    (hs : refresh lib config s h answer = some s') : Inv config s' := by
  obtain ⟨-, hw, rfl⟩ := refresh_eq hs
  have hexp := hi.writer_expired h hw
  have hother : ∀ h', h' ≠ h → (s.handlers h').stage ≠ .refresh := fun h' hne hr =>
    hne (Option.some.inj ((hi.writer_iff h').mp hr ▸ hw))
  have hcall : EventOk config.cacheValidityLength (.authorizerCall h (s.handlers h).currentTime)
      s.history := fun h' t p hm => lt_of_le_of_lt (hi.refreshed_le h' t p hm) hexp
  -- after the release no handler is at the refresh stage, and none holds the lock
  have hiff : ∀ (s' : State) stage, stage ≠ .refresh → s'.writer = none →
      (∀ h', h' ≠ h → s'.handlers h' = s.handlers h') → ∀ h',
        ((s'.setStage h stage).handlers h').stage = .refresh ↔ (s'.setStage h stage).writer = some h' := by
    intro s' stage hstage hnone hsame h'
    by_cases hh : h' = h
    · subst hh; simp [hstage, hnone]
    · simpa [State.setStage_other _ _ hh, hsame _ hh, hnone] using hother h' hh
  -- the handlers other than `h` keep their answers
  have hreplied : ∀ h' p, h' ≠ h → (s.handlers h').stage = .done (.ok p) →
      ∃ older, .reply h' p :: older <:+ s.history := fun h' p _ => hi.replied h' p
  split
  · refine ⟨by simpa [lastRefresh] using hi.payload, by simpa using hi.refreshed_le,
      hiff _ _ (by simp) rfl (fun _ _ => rfl), fun h' hh => by simp at hh, fun h' p hp => ?_,
      history_cons hi.history hcall⟩
    by_cases hh : h' = h
    · subst hh; simp at hp
    · simp only [State.setStage_other _ _ hh, State.record_handlers] at hp
      exact (hreplied h' p hh hp).imp fun _ hs => hs.trans (List.suffix_cons _ _)
  · rename_i p _
    refine ⟨by simp [lastRefresh], ?_, hiff _ _ (by simp) rfl (fun _ _ => rfl),
      fun h' hh => by simp at hh, fun h' p' hp => ?_, ?_⟩
    · intro h' t p' hm
      simp only [State.reply_history, State.record_history, State.reply_cache, State.record_cache,
        List.mem_cons, Event.reply.injEq, Event.refreshed.injEq] at hm ⊢
      rcases hm with hm | ⟨rfl, rfl, rfl⟩ | hm | hm
      · simp at hm
      · exact le_rfl
      · simp at hm
      · exact (hi.refreshed_le h' t p' hm).trans (Nat.le_add_right_of_le hexp.le)
    · by_cases hh : h' = h
      · subst hh
        simp only [State.reply, State.record_handlers, State.setStage_self, Stage.done.injEq,
          Except.ok.injEq] at hp
        exact hp ▸ ⟨_, List.suffix_refl _⟩
      · simp only [State.reply, State.record_handlers, State.setStage_other _ _ hh] at hp
        exact (hreplied h' p' hh hp).imp fun _ hs =>
          hs.trans ((List.suffix_cons _ _).trans ((List.suffix_cons _ _).trans (List.suffix_cons _ _)))
    · exact history_cons (history_cons (history_cons hi.history hcall) trivial)
        (by simp [EventOk, lastRefresh])

theorem Inv.step {a : Action} (hi : Inv config s) (hs : step lib config s a = some s') :
    Inv config s' := by
  cases a with
  | start h remoteAddr peerCerts clock => exact inv_start hi hs
  | rateLimit h => exact inv_rateLimit hi hs
  | readCache h => exact inv_readCache hi hs
  | writeCache h => exact inv_writeCache hi hs
  | refresh h answer => exact inv_refresh hi hs

theorem Reachable.inv {rateLimiter : LruCache String Duration}
    (hs : Reachable lib config (State.init rateLimiter) s) : Inv config s := by
  induction hs with
  | init => exact Inv.init rateLimiter
  | step a _ hstep ih => exact ih.step hstep

/-! ## The refresh under the write lock -/

theorem refresh_calls_expired {answer : Except String (List AllowedSigner)} (hi : Inv config s)
    (hs : refresh lib config s h answer = some s') :
    s.writer = some h ∧ s.cache.expiryTimestamp < (s.handlers h).currentTime := by
  obtain ⟨-, hw, -⟩ := refresh_eq hs
  exact ⟨hw, hi.writer_expired h hw⟩

theorem refresh_failed_cache {answer : Except String (List AllowedSigner)}
    (hs : refresh lib config s h answer = some s') (hf : refreshedPayload lib answer = none) :
    s'.cache = s.cache := by
  obtain ⟨-, -, rfl⟩ := refresh_eq hs
  simp [hf]

theorem expiry_mono {a : Action} (hi : Inv config s) (hs : step lib config s a = some s') :
    s.cache.expiryTimestamp ≤ s'.cache.expiryTimestamp := by
  cases a with
  | refresh h answer =>
    obtain ⟨-, hw, rfl⟩ := refresh_eq hs
    split
    · simp
    · simpa using Nat.le_add_right_of_le (hi.writer_expired h hw).le
  | start h remoteAddr peerCerts clock =>
    simp only [step, start] at hs
    split at hs <;> cases hs
    split <;> rfl
  | rateLimit h => obtain ⟨-, rfl⟩ := rateLimit_eq hs; rfl
  | readCache h =>
    simp only [step, readCache] at hs
    split at hs <;> cases hs
    split <;> rfl
  | writeCache h =>
    simp only [step, writeCache] at hs
    split at hs <;> cases hs
    split <;> rfl

end Steps

/-! ## The single-flight cache -/

/-- The single-flight cache over every schedule: who refreshes, when, and what is answered. -/
theorem allowed_signers_single_flight (lib : Libraries) (config : AllowedSignersConfiguration)
    (rateLimiter : LruCache String Duration) (s : State)
    (hs : Reachable lib config (State.init rateLimiter) s) :
    (∀ h answer s', step lib config s (.refresh h answer) = some s' →
      s.writer = some h ∧ s.cache.expiryTimestamp < (s.handlers h).currentTime) ∧
    (∀ h t h' t' p older, Event.authorizerCall h t :: older <:+ s.history →
      Event.refreshed h' t' p ∈ older → t' + config.cacheValidityLength < t) ∧
    (∀ a s', step lib config s a = some s' →
      s.cache.expiryTimestamp ≤ s'.cache.expiryTimestamp) ∧
    (∀ h answer s', step lib config s (.refresh h answer) = some s' →
      refreshedPayload lib answer = none → s'.cache = s.cache) ∧
    (∀ h p, (s.handlers h).stage = .done (.ok p) →
      ∃ older, Event.reply h p :: older <:+ s.history ∧ p = lastRefresh older) := by
  have hi := hs.inv
  refine ⟨fun h _ _ hr => refresh_calls_expired hi hr, fun h t h' t' p older hc =>
    hi.history _ _ hc h' t' p, fun _ _ hr => expiry_mono hi hr,
    fun h _ _ hr => refresh_failed_cache hr, fun h p hp => ?_⟩
  obtain ⟨older, ho⟩ := hi.replied h p hp
  exact ⟨older, ho, hi.history _ _ ho⟩

/-! ## The limiter's deadlines -/

/-- The events of the limiter's pushes. -/
def Event.isPush : Event → Bool
  | .push .. => true
  | _ => false

@[simp] theorem Event.isPush_effect {h : Nat} {e : Effect} : (Event.effect h e).isPush = false := rfl
@[simp] theorem Event.isPush_clock {h : Nat} {now : Duration} : (Event.clock h now).isPush = false :=
  rfl
@[simp] theorem Event.isPush_authorizerCall {h : Nat} {now : Duration} :
    (Event.authorizerCall h now).isPush = false := rfl
@[simp] theorem Event.isPush_refreshed {h : Nat} {now : Duration} {payload : Bytes} :
    (Event.refreshed h now payload).isPush = false := rfl
@[simp] theorem Event.isPush_reply {h : Nat} {payload : Bytes} :
    (Event.reply h payload).isPush = false := rfl

section Limiter
variable {lib : Libraries} {config : AllowedSignersConfiguration} {s s' : State}

/-- A step other than the limiter's leaves the limiter and records no push. -/
theorem limiter_frame {a : Action} (hs : step lib config s a = some s')
    (ha : ∀ h, a ≠ .rateLimit h) :
    s'.rateLimiter = s.rateLimiter ∧
      ∃ es, s'.history = es ++ s.history ∧ ∀ e ∈ es, e.isPush = false := by
  cases a with
  | rateLimit h => exact absurd rfl (ha h)
  | start h remoteAddr peerCerts clock =>
    simp only [step, start] at hs
    split at hs <;> cases hs
    have heff : ∀ e ∈ ((allowedSignersPeer lib remoteAddr peerCerts).effects.map
        (Event.effect h)).reverse, e.isPush = false := fun e he => by
      obtain ⟨x, -, rfl⟩ := List.mem_map.mp (List.mem_reverse.mp he)
      rfl
    split
    · exact ⟨rfl, _, rfl, heff⟩
    · exact ⟨rfl, _, rfl, heff⟩
    · exact ⟨rfl, .clock h _ :: _, rfl, List.forall_mem_cons.mpr ⟨rfl, heff⟩⟩
  | readCache h =>
    simp only [step, readCache] at hs
    split at hs <;> cases hs
    split
    · exact ⟨rfl, [.reply h _], rfl, by simp⟩
    · exact ⟨rfl, [], rfl, by simp⟩
  | writeCache h =>
    simp only [step, writeCache] at hs
    split at hs <;> cases hs
    split
    · exact ⟨rfl, [.reply h _], rfl, by simp⟩
    · exact ⟨rfl, [], rfl, by simp⟩
  | refresh h answer =>
    obtain ⟨-, -, rfl⟩ := refresh_eq hs
    split
    · exact ⟨rfl, [.authorizerCall h _], rfl, by simp⟩
    · exact ⟨rfl, [.reply h _, .refreshed h _ _, .authorizerCall h _], rfl, by simp⟩

/-- A push in a history that grew by events other than pushes was in the older history. -/
theorem split_pushless {es hist pre rest : List Event} {e : Event}
    (hes : ∀ x ∈ es, x.isPush = false) (h : es ++ hist = pre ++ e :: rest) (he : e.isPush = true) :
    ∃ pre', pre = es ++ pre' ∧ hist = pre' ++ e :: rest := by
  rcases List.append_eq_append_iff.mp h with ⟨a', rfl, rfl⟩ | ⟨c', rfl, hc⟩
  · exact ⟨a', rfl, rfl⟩
  · cases c' with
    | nil => exact ⟨[], by simp, by simpa using hc.symm⟩
    | cons x c' =>
      obtain ⟨rfl, -⟩ := List.cons.inj hc
      simp [hes e (by simp)] at he

/-- The limiter's step pushes the identities' deadline and records what it displaced. -/
theorem rateLimit_push {h : Nat} (hs : rateLimit config s h = some s') :
    let hd := s.handlers h
    let pushed := s.rateLimiter.push hd.identities (hd.currentTime + config.rateLimitCooldown)
    s'.rateLimiter = pushed.1 ∧
      s'.history = .push h hd.identities hd.currentTime pushed.2
        (decide (∃ d, s.rateLimiter.entries.lookup hd.identities = some d ∧ hd.currentTime < d)) ::
          s.history := by
  obtain ⟨-, rfl⟩ := rateLimit_eq hs
  simp [isRateLimited_eq]

/-- An event that cannot take the deadline of `identities` back before `t1`: a push of them that
read the clock no earlier than `t1`, or a push of other identities that did not displace them. -/
def Event.KeepsDeadline (identities : String) (t1 : Duration) : Event → Prop
  | .push _ k t displaced _ =>
    (k = identities → t1 ≤ t) ∧ ∀ v, displaced = some (identities, v) → k = identities
  | _ => True

/-- The limiter keeps a deadline for `identities` at least `cooldown` past the reading `t1` of a
push of them, as long as every later event keeps it. -/
def DeadlineKept (cooldown : Duration) (identities : String) (s : State) : Prop :=
  ∀ pre h1 t1 d1 l1 older, s.history = pre ++ .push h1 identities t1 d1 l1 :: older →
    (∀ e ∈ pre, e.KeepsDeadline identities t1) →
    ∃ d, s.rateLimiter.entries.lookup identities = some d ∧ t1 + cooldown ≤ d

/-- Two pushes of `identities`, the later one not limited, are `cooldown` apart when every event
between them keeps the deadline of the first. -/
def Separated (cooldown : Duration) (identities : String) (s : State) : Prop :=
  ∀ pre h2 t2 d2 mid h1 t1 d1 l1 older,
    s.history =
      pre ++ .push h2 identities t2 d2 false :: (mid ++ .push h1 identities t1 d1 l1 :: older) →
    (∀ e ∈ mid, e.KeepsDeadline identities t1) → t1 + cooldown ≤ t2

variable {identities : String}

theorem deadlineKept_step {a : Action} (hk : DeadlineKept config.rateLimitCooldown identities s)
    (hs : step lib config s a = some s') : DeadlineKept config.rateLimitCooldown identities s' := by
  intro pre h1 t1 d1 l1 older hh hkeep
  by_cases ha : ∃ h, a = .rateLimit h
  · obtain ⟨h, rfl⟩ := ha
    obtain ⟨hr, hhist⟩ := rateLimit_push hs
    rw [hr]
    rw [hhist] at hh
    cases pre with
    | nil =>
      obtain ⟨-, rfl, rfl, -⟩ := Event.push.inj (List.cons.inj hh).1
      exact ⟨_, LruCache.lookup_push_self _ _ _, le_rfl⟩
    | cons e pre =>
      obtain ⟨rfl, hh'⟩ := List.cons.inj hh
      obtain ⟨d, hd, hle⟩ :=
        hk pre h1 t1 d1 l1 older hh' fun e he => hkeep e (List.mem_cons_of_mem _ he)
      obtain ⟨hlate, hstay⟩ := hkeep _ (List.mem_cons_self _ _)
      by_cases hI : (s.handlers h).identities = identities
      · rw [hI]
        exact ⟨_, LruCache.lookup_push_self _ _ _, Nat.add_le_add_right (hlate hI) _⟩
      · rw [LruCache.lookup_push_other _ _ (Ne.symm hI) fun v hv => hI (hstay v hv)]
        exact ⟨d, hd, hle⟩
  · push_neg at ha
    obtain ⟨hr, es, hes, hpush⟩ := limiter_frame hs ha
    rw [hes] at hh
    obtain ⟨pre', rfl, hh'⟩ := split_pushless hpush hh rfl
    rw [hr]
    exact hk pre' h1 t1 d1 l1 older hh' fun e he => hkeep e (List.mem_append_right _ he)

theorem separated_step {a : Action} (hk : DeadlineKept config.rateLimitCooldown identities s)
    (hsep : Separated config.rateLimitCooldown identities s) (hs : step lib config s a = some s') :
    Separated config.rateLimitCooldown identities s' := by
  intro pre h2 t2 d2 mid h1 t1 d1 l1 older hh hkeep
  by_cases ha : ∃ h, a = .rateLimit h
  · obtain ⟨h, rfl⟩ := ha
    obtain ⟨-, hhist⟩ := rateLimit_push hs
    rw [hhist] at hh
    cases pre with
    | nil =>
      obtain ⟨hpush, hh'⟩ := List.cons.inj hh
      obtain ⟨-, hI, rfl, -, hlim⟩ := Event.push.inj hpush
      obtain ⟨d, hd, hle⟩ := hk mid h1 t1 d1 l1 older hh' hkeep
      rw [hI] at hlim
      simp only [decide_eq_false_iff_not, not_exists, not_and, not_lt] at hlim
      exact hle.trans (hlim d hd)
    | cons e pre => exact hsep pre h2 t2 d2 mid h1 t1 d1 l1 older (List.cons.inj hh).2 hkeep
  · push_neg at ha
    obtain ⟨-, es, hes, hpush⟩ := limiter_frame hs ha
    rw [hes] at hh
    obtain ⟨pre', rfl, hh'⟩ := split_pushless hpush hh rfl
    exact hsep pre' h2 t2 d2 mid h1 t1 d1 l1 older hh' hkeep

theorem Reachable.deadlineKept {rateLimiter : LruCache String Duration}
    (hs : Reachable lib config (State.init rateLimiter) s) :
    DeadlineKept config.rateLimitCooldown identities s := by
  induction hs with
  | init => intro pre _ _ _ _ _ hh; simp [State.init] at hh
  | step a _ hstep ih => exact deadlineKept_step ih hstep

theorem Reachable.separated {rateLimiter : LruCache String Duration}
    (hs : Reachable lib config (State.init rateLimiter) s) :
    Separated config.rateLimitCooldown identities s := by
  induction hs with
  | init => intro pre _ _ _ _ _ _ _ _ _ hh; simp [State.init] at hh
  | step a hr hstep ih => exact separated_step hr.deadlineKept ih hstep

end Limiter

end AllowedSigners

/-- A one-minute cache, a limiter of one entry, a five-second cooldown. -/
def AllowedSignersConfiguration.sample : AllowedSignersConfiguration := ⟨60, 1, by decide, 5⟩

namespace AllowedSigners

/-- Two handlers of `alice` (`Libraries.sample`'s certificate `[1]`), at `10` and `16`, both find
the initial cache expired under the read lock; handler `0` takes the write lock and refreshes while
handler `1` waits for it, then finds the cache refreshed and answers from it. -/
def contentionRun : List Action :=
  [.start 0 (some SocketAddr.sample) (some [[1]]) (some 10), .rateLimit 0,
    .start 1 (some SocketAddr.sample) (some [[1]]) (some 16), .rateLimit 1, .readCache 0,
    .readCache 1, .writeCache 0, .refresh 0 (.ok [⟨"alice", "ssh-ed25519 k"⟩]), .writeCache 1]

theorem contentionRun_isSome : (run Libraries.sample AllowedSignersConfiguration.sample
    (State.init (LruCache.new 1 (by decide))) contentionRun).isSome = true := by decide

theorem allowed_signers_single_flight_sample :
    ((run Libraries.sample AllowedSignersConfiguration.sample
        (State.init (LruCache.new 1 (by decide))) (contentionRun.take 7)).bind fun s =>
      step Libraries.sample AllowedSignersConfiguration.sample s (.writeCache 1)) = none ∧
    ∃ s, run Libraries.sample AllowedSignersConfiguration.sample
        (State.init (LruCache.new 1 (by decide))) contentionRun = some s ∧
      (∃ p, s.history = [.reply 1 p, .reply 0 p, .refreshed 0 10 p, .authorizerCall 0 10,
        .push 1 "alice" 16 (some ("alice", 15)) false, .clock 1 16, .push 0 "alice" 10 none false,
        .clock 0 10]) ∧
      (∀ h answer s', step Libraries.sample AllowedSignersConfiguration.sample s (.refresh h answer) =
          some s' → s.writer = some h ∧ s.cache.expiryTimestamp < (s.handlers h).currentTime) ∧
      (∀ h t h' t' p older, Event.authorizerCall h t :: older <:+ s.history →
        Event.refreshed h' t' p ∈ older →
          t' + AllowedSignersConfiguration.sample.cacheValidityLength < t) ∧
      (∀ a s', step Libraries.sample AllowedSignersConfiguration.sample s a = some s' →
        s.cache.expiryTimestamp ≤ s'.cache.expiryTimestamp) ∧
      (∀ h answer s', step Libraries.sample AllowedSignersConfiguration.sample s (.refresh h answer) =
          some s' → refreshedPayload Libraries.sample answer = none → s'.cache = s.cache) ∧
      (∀ h p, (s.handlers h).stage = .done (.ok p) →
        ∃ older, Event.reply h p :: older <:+ s.history ∧ p = lastRefresh older) :=
  have hrun := (Option.some_get contentionRun_isSome).symm
  ⟨rfl, _, hrun, ⟨_, rfl⟩,
    allowed_signers_single_flight Libraries.sample AllowedSignersConfiguration.sample _ _
      (Reachable.of_run contentionRun Reachable.init hrun)⟩

/-! ## The rate limiter under concurrency -/

/-- Three handlers of `alice` with a five-second cooldown: handler `3` reads the clock at `0`,
handler `1` at `10`, handler `2` at `12`, in that order; the mutex goes to `1`, then `3`, then `2`. -/
def staleDeadlineRun : List Action :=
  [.start 3 (some SocketAddr.sample) (some [[1]]) (some 0),
    .start 1 (some SocketAddr.sample) (some [[1]]) (some 10), .rateLimit 1, .rateLimit 3,
    .start 2 (some SocketAddr.sample) (some [[1]]) (some 12), .rateLimit 2]

/-- A handler with a stale clock reading moves an identity's deadline back. -/
theorem rate_limit_stale_deadline :
    (run Libraries.sample AllowedSignersConfiguration.sample (State.init (LruCache.new 1 (by decide)))
        staleDeadlineRun).map State.history =
      some [.push 2 "alice" 12 (some ("alice", 5)) false, .clock 2 12,
        .push 3 "alice" 0 (some ("alice", 15)) true, .push 1 "alice" 10 none false, .clock 1 10,
        .clock 3 0] ∧
    12 < 10 + AllowedSignersConfiguration.sample.rateLimitCooldown := by
  decide

/-- Two unlimited pushes of one identity are a cooldown apart unless a push between interferes. -/
theorem allowed_signers_cooldown (lib : Libraries) (config : AllowedSignersConfiguration)
    (rateLimiter : LruCache String Duration) (s : State)
    (hs : Reachable lib config (State.init rateLimiter) s) (identities : String)
    (pre mid older : List Event) (h1 h2 : Nat) (t1 t2 : Duration)
    (d1 d2 : Option (String × Duration)) (l1 : Bool)
    (hh : s.history =
      pre ++ .push h2 identities t2 d2 false :: (mid ++ .push h1 identities t1 d1 l1 :: older))
    (hkeep : ∀ e ∈ mid, e.KeepsDeadline identities t1) :
    t1 + config.rateLimitCooldown ≤ t2 :=
  hs.separated pre h2 t2 d2 mid h1 t1 d1 l1 older hh hkeep

/-- Two handlers of `alice`, at `10` and `15`, each taking the limiter's mutex after its clock
reading. -/
def cooldownRun : List Action :=
  [.start 1 (some SocketAddr.sample) (some [[1]]) (some 10), .rateLimit 1,
    .start 2 (some SocketAddr.sample) (some [[1]]) (some 15), .rateLimit 2]

theorem cooldownRun_isSome : (run Libraries.sample AllowedSignersConfiguration.sample
    (State.init (LruCache.new 1 (by decide))) cooldownRun).isSome = true := by decide

theorem allowed_signers_cooldown_sample :
    ∃ s, run Libraries.sample AllowedSignersConfiguration.sample
        (State.init (LruCache.new 1 (by decide))) cooldownRun = some s ∧
      s.history = [.push 2 "alice" 15 (some ("alice", 15)) false, .clock 2 15,
        .push 1 "alice" 10 none false, .clock 1 10] ∧
      10 + AllowedSignersConfiguration.sample.rateLimitCooldown ≤ 15 :=
  have hh : ((run Libraries.sample AllowedSignersConfiguration.sample
      (State.init (LruCache.new 1 (by decide))) cooldownRun).get cooldownRun_isSome).history =
        [.push 2 "alice" 15 (some ("alice", 15)) false, .clock 2 15,
          .push 1 "alice" 10 none false, .clock 1 10] := by decide
  ⟨_, (Option.some_get cooldownRun_isSome).symm, hh,
    allowed_signers_cooldown Libraries.sample AllowedSignersConfiguration.sample _ _
      (Reachable.of_run cooldownRun Reachable.init (Option.some_get cooldownRun_isSome).symm)
      "alice" [] [.clock 2 15] [.clock 1 10] 1 2 10 15 none (some ("alice", 15)) false hh
      (by simp [Event.KeepsDeadline])⟩

end AllowedSigners

end Rustica

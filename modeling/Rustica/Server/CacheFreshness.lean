import Rustica.Server.AllowedSigners

/-!
# Fresh allowed-signers answers

Over every schedule of the allowed-signers handlers from the initial cache, no handler is answered
from a cache that had expired at its own clock reading. The cache's payload and its expiry are
stored together by one refresh, so the ghost history says which refresh an answer came from:

* `lastExpiry` : the expiry the latest refresh of a history stored;
* `Fresh` : the cache's expiry is the latest refresh's, and every handler that answered a payload
  read the clock no later than the expiry of the refresh it was answered from;
* `Fresh.step`, `Reachable.fresh` : every step keeps it, from the initial cache;
* `allowed_signers_fresh` : with `Inv`, an answered payload and the expiry its handler's clock
  reading is checked against come from the same latest refresh.
-/

namespace Rustica

namespace AllowedSigners

/-- The expiry stored by the latest refresh of a history (the latest event first): its clock
reading plus `validity`, or the initial cache's `0` when there was none. -/
def lastExpiry (validity : Duration) : List Event → Duration
  | [] => 0
  | .refreshed _ t _ :: _ => t + validity
  | _ :: older => lastExpiry validity older

/-- Every event but a refresh leaves the latest refresh's expiry. -/
theorem lastExpiry_cons {validity : Duration} {e : Event} {older : List Event}
    (he : ∀ h t p, e ≠ .refreshed h t p) : lastExpiry validity (e :: older) = lastExpiry validity older := by
  cases e with
  | refreshed h t p => exact absurd rfl (he h t p)
  | _ => rfl

/-- No stale answer: the cache's expiry is the one its latest refresh stored, and every handler
that answered a payload read the clock no later than the expiry of the refresh it was answered
from. -/
structure Fresh (config : AllowedSignersConfiguration) (s : State) : Prop where
  expiry : s.cache.expiryTimestamp = lastExpiry config.cacheValidityLength s.history
  answered : ∀ h p, (s.handlers h).stage = .done (.ok p) →
    ∃ older, .reply h p :: older <:+ s.history ∧
      (s.handlers h).currentTime ≤ lastExpiry config.cacheValidityLength older

section Fresh
variable {config : AllowedSignersConfiguration} {s : State} {h : Nat}

theorem Fresh.init (rateLimiter : LruCache String Duration) : Fresh config (State.init rateLimiter) where
  expiry := rfl
  answered := by simp [State.init]

theorem Fresh.record {e : Event} (hf : Fresh config s) (he : ∀ h t p, e ≠ .refreshed h t p) :
    Fresh config (s.record e) where
  expiry := by rw [State.record_cache, hf.expiry, State.record_history, lastExpiry_cons he]
  answered h p hp := (hf.answered h p hp).imp fun _ ⟨hs, hle⟩ => ⟨hs.trans (List.suffix_cons _ _), hle⟩

theorem Fresh.prepend {es : List Event} (hf : Fresh config s)
    (hes : ∀ e ∈ es, ∀ h t p, e ≠ .refreshed h t p) : Fresh config { s with history := es ++ s.history } := by
  induction es with
  | nil => exact hf
  | cons e es ih =>
    exact (ih fun e he => hes e (List.mem_cons_of_mem _ he)).record (hes e (List.mem_cons_self _ _))

/-- A handler moves to a stage other than an answered payload, keeping every other handler. -/
theorem Fresh.setHandler {hd : Handler} (hf : Fresh config s) (hok : ∀ p, hd.stage ≠ .done (.ok p)) :
    Fresh config { s with handlers := Function.update s.handlers h hd } where
  expiry := hf.expiry
  answered h' p hp := by
    by_cases hh : h' = h
    · subst hh; simp [hok p] at hp
    · simpa [hh] using hf.answered h' p (by simpa [hh] using hp)

theorem Fresh.setStage {stage : Stage} (hf : Fresh config s) (hok : ∀ p, stage ≠ .done (.ok p)) :
    Fresh config (s.setStage h stage) :=
  hf.setHandler hok

/-- A handler whose clock reading is within the cache's expiry answers the cached payload. -/
theorem Fresh.reply {payload : Bytes} (hf : Fresh config s)
    (hle : (s.handlers h).currentTime ≤ s.cache.expiryTimestamp) : Fresh config (s.reply h payload) where
  expiry := by simpa [lastExpiry] using hf.expiry
  answered h' p hp := by
    by_cases hh : h' = h
    · subst hh
      simp only [State.reply, State.record_handlers, State.setStage_self, Stage.done.injEq,
        Except.ok.injEq] at hp
      exact ⟨s.history, by simp [hp], by simpa [← hf.expiry] using hle⟩
    · simp only [State.reply, State.record_handlers, State.setStage_other _ _ hh] at hp
      obtain ⟨older, hs, hle'⟩ := hf.answered h' p hp
      exact ⟨older, hs.trans (List.suffix_cons _ _), by simpa [State.setStage_other _ _ hh] using hle'⟩

end Fresh

/-! ## What each step does -/

section Steps
variable {lib : Libraries} {config : AllowedSignersConfiguration} {s s' : State} {h : Nat}

theorem fresh_start {remoteAddr : Option SocketAddr} {peerCerts : Option (List Bytes)}
    {clock : Option Duration} (hf : Fresh config s)
    (hs : start lib s h remoteAddr peerCerts clock = some s') : Fresh config s' := by
  unfold start at hs
  split at hs
  case h_2 => cases hs
  have hp : Fresh config { s with history := ((allowedSignersPeer lib remoteAddr peerCerts).effects.map
      (Event.effect h)).reverse ++ s.history } := hf.prepend (by simp)
  cases hs
  split
  · exact hp.setStage (by simp)
  · exact hp.setStage (by simp)
  · exact (hp.setHandler (by simp)).record (by simp)

theorem fresh_rateLimit (hf : Fresh config s) (hs : rateLimit config s h = some s') : Fresh config s' := by
  obtain ⟨-, rfl⟩ := rateLimit_eq hs
  have hr : ∀ r, Fresh config { s with rateLimiter := r } := fun _ => ⟨hf.expiry, hf.answered⟩
  exact ((hr _).record (by simp)).setStage (by split <;> simp)

theorem fresh_readCache (hf : Fresh config s) (hs : readCache s h = some s') : Fresh config s' := by
  unfold readCache at hs
  dsimp only at hs
  split at hs
  case h_2 => cases hs
  cases hs
  split
  · exact hf.reply ‹_›
  · exact hf.setStage (by simp)

theorem fresh_writeCache (hf : Fresh config s) (hs : writeCache s h = some s') : Fresh config s' := by
  unfold writeCache at hs
  dsimp only at hs
  split at hs
  case h_2 => cases hs
  cases hs
  split
  · exact hf.reply ‹_›
  · have hr : Fresh config (s.setStage h .refresh) := hf.setStage (by simp)
    exact ⟨hr.expiry, hr.answered⟩

/-- A refresh stores the payload with its expiry and answers the refreshing handler. -/
theorem fresh_refresh {answer : Except String (List AllowedSigner)} (hf : Fresh config s)
    (hs : refresh lib config s h answer = some s') : Fresh config s' := by
  obtain ⟨-, -, rfl⟩ := refresh_eq hs
  have hcalled : Fresh config ({ s with writer := none }.record
      (.authorizerCall h (s.handlers h).currentTime)) := Fresh.record ⟨hf.expiry, hf.answered⟩ (by simp)
  split
  · exact hcalled.setStage (by simp)
  · rename_i payload _
    have hstored : Fresh config ({ { s with writer := none }.record
        (.authorizerCall h (s.handlers h).currentTime) with
          cache := ⟨payload, (s.handlers h).currentTime + config.cacheValidityLength⟩ }.record
        (.refreshed h (s.handlers h).currentTime payload)) :=
      ⟨by simp [lastExpiry], fun h' p hp => (hcalled.answered h' p hp).imp fun _ ⟨hs, hle⟩ =>
        ⟨hs.trans (List.suffix_cons _ _), hle⟩⟩
    exact hstored.reply (by simp)

theorem Fresh.step {a : Action} (hf : Fresh config s) (hs : step lib config s a = some s') :
    Fresh config s' := by
  cases a with
  | start h remoteAddr peerCerts clock => exact fresh_start hf hs
  | rateLimit h => exact fresh_rateLimit hf hs
  | readCache h => exact fresh_readCache hf hs
  | writeCache h => exact fresh_writeCache hf hs
  | refresh h answer => exact fresh_refresh hf hs

theorem Reachable.fresh {rateLimiter : LruCache String Duration}
    (hs : Reachable lib config (State.init rateLimiter) s) : Fresh config s := by
  induction hs with
  | init => exact Fresh.init rateLimiter
  | step a _ hstep ih => exact ih.step hstep

end Steps

/-- No allowed-signers answer is stale, over every schedule of any number of handlers. -/
theorem allowed_signers_fresh (lib : Libraries) (config : AllowedSignersConfiguration)
    (rateLimiter : LruCache String Duration) (s : State)
    (hs : Reachable lib config (State.init rateLimiter) s) (h : Nat) (p : Bytes)
    (hp : (s.handlers h).stage = .done (.ok p)) :
    ∃ older, Event.reply h p :: older <:+ s.history ∧ p = lastRefresh older ∧
      (s.handlers h).currentTime ≤ lastExpiry config.cacheValidityLength older := by
  obtain ⟨older, hsuffix, hle⟩ := hs.fresh.answered h p hp
  exact ⟨older, hsuffix, hs.inv.history _ _ hsuffix, hle⟩

/-- In `contentionRun`, handler `1` answers handler `0`'s refreshed payload within its expiry. -/
theorem allowed_signers_fresh_sample :
    ∃ s, run Libraries.sample AllowedSignersConfiguration.sample
        (State.init (LruCache.new 1 (by decide))) contentionRun = some s ∧
      ∃ p, (s.handlers 1).stage = .done (.ok p) ∧
        ∃ older, Event.reply 1 p :: older <:+ s.history ∧ p = lastRefresh older ∧
          (s.handlers 1).currentTime ≤
            lastExpiry AllowedSignersConfiguration.sample.cacheValidityLength older :=
  have hstage : (((run Libraries.sample AllowedSignersConfiguration.sample
      (State.init (LruCache.new 1 (by decide))) contentionRun).get contentionRun_isSome).handlers
        1).stage = .done (.ok ("alice ssh-ed25519 k".data.map (·.toNat.toUInt8))) := rfl
  ⟨_, (Option.some_get contentionRun_isSome).symm, _, hstage,
    allowed_signers_fresh Libraries.sample AllowedSignersConfiguration.sample _ _
      (Reachable.of_run contentionRun Reachable.init (Option.some_get contentionRun_isSome).symm) 1 _
      hstage⟩

end AllowedSigners

end Rustica

import Rustica.Basic
import Mathlib.Data.List.Infix

/-!
# `lru::LruCache`

The rate limiter of the allowed-signers endpoint is an `LruCache<String, Duration>`. Its state is
the list of entries from the most to the least recently used; the structure carries the two facts
every state of the crate's cache has, distinct keys and at most `cap` of them, so that no other
state can be built.

* `LruCache.push` : `push(k, v)`, which refreshes a present key and returns its old entry, or
  inserts a new one and returns the least recently used entry when the cache was full;
* `push_present`, `push_absent_full`, `push_absent` : its three cases;
* `lookup_push_self`, `lookup_push_other` : after a push the key holds its new value, and any other
  key keeps its own unless the push evicted it.
-/

namespace Rustica

/-- `lru::LruCache<K, V>` with capacity `cap`, its entries from most to least recently used. -/
structure LruCache (K V : Type) where
  cap : Nat
  entries : List (K × V)
  cap_pos : 0 < cap
  nodup : (entries.map Prod.fst).Nodup
  length_le : entries.length ≤ cap

namespace LruCache

variable {K V : Type} [DecidableEq K]

/-- `LruCache::new(cap)`. -/
def new (cap : Nat) (h : 0 < cap) : LruCache K V := ⟨cap, [], h, List.nodup_nil, Nat.zero_le _⟩

theorem nodup_refresh (c : LruCache K V) (k : K) (v : V) :
    (((k, v) :: c.entries.filter (·.1 ≠ k)).map Prod.fst).Nodup := by
  refine List.nodup_cons.mpr ⟨?_, ((List.filter_sublist _).map _).nodup c.nodup⟩
  simp

theorem length_refresh (c : LruCache K V) (k : K) (v : V) (old : V)
    (h : c.entries.lookup k = some old) :
    ((k, v) :: c.entries.filter (·.1 ≠ k)).length ≤ c.cap := by
  have : (c.entries.filter (·.1 ≠ k)).length < c.entries.length :=
    List.length_filter_lt_length_iff_exists.mpr (by
      obtain ⟨p, hp, hk⟩ := List.lookup_isSome_iff.mp (by simp [h] : (c.entries.lookup k).isSome)
      exact ⟨p, hp, by simp only [beq_iff_eq] at hk; simp [hk]⟩)
  simp only [List.length_cons]
  have := c.length_le
  omega

theorem nodup_insert (c : LruCache K V) (k : K) (v : V) (l : List (K × V))
    (hl : List.Sublist l c.entries) (h : c.entries.lookup k = none) : (((k, v) :: l).map Prod.fst).Nodup := by
  refine List.nodup_cons.mpr ⟨fun hk => ?_, (hl.map _).nodup c.nodup⟩
  obtain ⟨p, hp, rfl⟩ := List.mem_map.mp hk
  simpa using List.lookup_eq_none_iff.mp h p (hl.subset hp)

/-- `LruCache::push(k, v)`. A present key gets the new value and becomes the most recently used,
and the old entry is returned; an absent key is inserted as the most recently used, evicting and
returning the least recently used entry when the cache is full. -/
def push (c : LruCache K V) (k : K) (v : V) : LruCache K V × Option (K × V) :=
  match h : c.entries.lookup k with
  | some old =>
    (⟨c.cap, (k, v) :: c.entries.filter (·.1 ≠ k), c.cap_pos, nodup_refresh c k v,
      length_refresh c k v old h⟩, some (k, old))
  | none =>
    if hfull : c.entries.length = c.cap then
      (⟨c.cap, (k, v) :: c.entries.dropLast, c.cap_pos,
        nodup_insert c k v _ (List.dropLast_sublist _) h,
        by simp only [List.length_cons, List.length_dropLast]; have := c.cap_pos; omega⟩,
        c.entries.getLast?)
    else
      (⟨c.cap, (k, v) :: c.entries, c.cap_pos, nodup_insert c k v _ (List.Sublist.refl _) h,
        by have := c.length_le; simp only [List.length_cons]; omega⟩, none)

theorem push_present {c : LruCache K V} {k : K} {v old : V} (h : c.entries.lookup k = some old) :
    (c.push k v).2 = some (k, old) ∧
      (c.push k v).1.entries = (k, v) :: c.entries.filter (·.1 ≠ k) := by
  unfold push
  split <;> simp_all

theorem push_absent_full {c : LruCache K V} {k : K} {v : V} (h : c.entries.lookup k = none)
    (hfull : c.entries.length = c.cap) :
    (c.push k v).2 = c.entries.getLast? ∧
      (c.push k v).1.entries = (k, v) :: c.entries.dropLast := by
  unfold push
  split <;> simp_all

theorem push_absent {c : LruCache K V} {k : K} {v : V} (h : c.entries.lookup k = none)
    (hfull : c.entries.length ≠ c.cap) :
    (c.push k v).2 = none ∧ (c.push k v).1.entries = (k, v) :: c.entries := by
  unfold push
  split <;> simp_all

@[simp] theorem push_cap (c : LruCache K V) (k : K) (v : V) : (c.push k v).1.cap = c.cap := by
  unfold push
  split <;> (try split) <;> rfl

/-! ## Lookups after a push -/

theorem lookup_filter {f : K × V → Bool} {k' : K} (hf : ∀ x : K × V, x.1 = k' → f x = true) :
    ∀ l : List (K × V), (l.filter f).lookup k' = l.lookup k'
  | [] => rfl
  | (a, b) :: l => by
    by_cases hp : f (a, b)
    · simp only [List.filter_cons, hp, ↓reduceIte, List.lookup_cons, lookup_filter hf l]
    · have : (k' == a) = false := beq_eq_false_iff_ne.mpr fun h => hp (hf _ h.symm)
      simp only [List.filter_cons, hp, List.lookup_cons, this, lookup_filter hf l, Bool.false_eq_true,
        ↓reduceIte]

theorem lookup_dropLast {k' : K} : ∀ {l : List (K × V)}, (∀ x, l.getLast? ≠ some (k', x)) →
    l.dropLast.lookup k' = l.lookup k'
  | [], _ => rfl
  | [(a, b)], h => by
    have : (k' == a) = false := beq_eq_false_iff_ne.mpr fun e => h b (by simp [e])
    simp [List.lookup_cons, this]
  | (a, b) :: q :: l, h => by
    have ih := lookup_dropLast (by simpa using h : ∀ x, (q :: l).getLast? ≠ some (k', x))
    simp only [List.dropLast_cons₂, List.lookup_cons, ih]

theorem lookup_push_self (c : LruCache K V) (k : K) (v : V) :
    (c.push k v).1.entries.lookup k = some v := by
  unfold push
  split <;> (try split) <;> simp [List.lookup_cons]

theorem lookup_push_other (c : LruCache K V) {k k' : K} (v : V) (hne : k' ≠ k)
    (hev : ∀ x, (c.push k v).2 ≠ some (k', x)) :
    (c.push k v).1.entries.lookup k' = c.entries.lookup k' := by
  have hb : (k' == k) = false := beq_eq_false_iff_ne.mpr hne
  cases hl : c.entries.lookup k with
  | some old =>
    rw [(@push_present _ _ _ c k v old hl).2]
    simp only [List.lookup_cons, hb]
    exact lookup_filter (fun x hx => by simp [hx, hne]) _
  | none =>
    by_cases hfull : c.entries.length = c.cap
    · obtain ⟨h1, h2⟩ := @push_absent_full _ _ _ c k v hl hfull
      rw [h2]
      simp only [List.lookup_cons, hb]
      exact lookup_dropLast fun x hx => hev x (h1.trans hx)
    · rw [(@push_absent _ _ _ c k v hl hfull).2]
      simp [List.lookup_cons, hb]
end LruCache

end Rustica

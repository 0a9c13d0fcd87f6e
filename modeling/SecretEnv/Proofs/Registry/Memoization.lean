import SecretEnv.Proofs.Registry.History

/-!
# Memoization

What a registry with backends of any kind remembers of its past.

* `Registry.recalled` is what a cache holds, and `recalled_after_iff` that it
  holds what was fetched since the latest registration, and nothing else;
* `Latest`, `Fetched`: what a past says about the next fetch;
* `memoized`: after every past a fetch and the caches are as the past says.
-/

namespace SecretEnv

namespace Registered

variable {r : Registered} {a : Address} {secret : Text}

theorem fetch_of_cached (h : r.cache.get? a.cacheKey = some secret) :
    r.fetch a = (.ok secret, r) := by
  rw [fetch, h]

theorem fetch_of_not_cached (h : r.cache.get? a.cacheKey = none) :
    (r.fetch a).1 = r.backend.answer a ∧ (r.fetch a).2.calls = r.calls + 1 := by
  rw [fetch, h]
  cases r.backend.answer a <;> exact ⟨rfl, rfl⟩

/-- What is cached under the key of an address after its fetch: the secret that came back. -/
theorem get?_cache_fetch_self (r : Registered) (a : Address) :
    (r.fetch a).2.cache.get? a.cacheKey = (r.fetch a).1.toOption := by
  rw [fetch]
  split
  · next secret hit => exact hit
  · next miss =>
    split
    · exact (TextMap.get?_insert ..).trans (if_pos rfl)
    · exact miss

theorem get?_cache_fetch_of_ne {k : Text} (ne : a.cacheKey ≠ k) (r : Registered) :
    (r.fetch a).2.cache.get? k = r.cache.get? k := by
  rw [fetch]
  split
  · rfl
  · split
    · exact (TextMap.get?_insert ..).trans (if_neg ne.symm)
    · rfl

theorem cache_of_fetch_error {e : BackendError} (h : (r.fetch a).1 = .error e) :
    (r.fetch a).2.cache = r.cache := by
  rw [fetch] at h ⊢
  split at h
  · cases h
  · split at h
    · cases h
    · rfl

end Registered

namespace Registry

/-! ### One operation -/

/-- The caches of all backends. -/
def caches (g : Registry) : List TextMap := g.latestFirst.map Registered.cache

/-- What the cache of a platform holds under a key. -/
def recalled (g : Registry) (platform key : Text) : Option Text :=
  (g.serving? platform).bind fun r => r.cache.get? key

/-- Which backend serves a platform after a fetch. -/
theorem serving?_fetch (g : Registry) (a : Address) (platform : Text) :
    (g.fetch a).2.serving? platform =
      if a.platform = platform then (g.serving? platform).map fun r => (r.fetch a).2
      else g.serving? platform := by
  obtain ⟨l⟩ := g
  simp only [fetch, serving?]
  induction l with
  | nil => simp [fetchFrom]
  | cons r l ih =>
    obtain ⟨same, -⟩ := r.registration_fetch a
    rw [fetchFrom]
    by_cases own : r.platform = a.platform
    · rw [if_pos own]
      by_cases e : a.platform = platform
      · simp [e, same, own]
      · simp [e, same, own]
    · rw [if_neg own]
      by_cases e : r.platform = platform
      · have ne : a.platform ≠ platform := fun h => own (e.trans h.symm)
        simp [e, ne]
      · simpa [e] using ih

theorem recalled_register (g : Registry) (p : Text) (backend : Backend) (platform key : Text) :
    (g.register p backend).recalled platform key =
      if p = platform then none else g.recalled platform key := by
  by_cases e : p = platform
  · simp [recalled, register, serving?, e]
  · simp [recalled, register, serving?, e]

/-- What a fetch leaves in the caches: its own secret under its own key. -/
theorem recalled_fetch (g : Registry) (a : Address) (platform key : Text) :
    (g.fetch a).2.recalled platform key =
      if a.platform = platform ∧ a.cacheKey = key then (g.fetch a).1.bind Except.toOption
      else g.recalled platform key := by
  rw [recalled, recalled, serving?_fetch, fst_fetch]
  by_cases p : a.platform = platform
  · subst p
    rw [if_pos rfl, Option.bind_map, Option.bind_map]
    by_cases k : a.cacheKey = key
    · subst k
      rw [if_pos ⟨rfl, rfl⟩]
      congr 1
      funext r
      exact r.get?_cache_fetch_self a
    · rw [if_neg fun h => k h.2]
      congr 1
      funext r
      exact Registered.get?_cache_fetch_of_ne k r
  · rw [if_neg p, if_neg fun h => p h.1]

theorem recalled_fetchDirect (g : Registry) (n : Nat) (a : Address) (platform key : Text) :
    (g.fetchDirect n a).2.recalled platform key = g.recalled platform key := by
  have view (g : Registry) : g.recalled platform key =
      ((g.latestFirst.map fun r => (r.platform, r.cache)).find? fun q => q.1 = platform).bind
        fun q => q.2.get? key := by
    rw [List.find?_map, Option.bind_map]
    rfl
  rw [view, view, map_fetchDirect fun r => rfl]

/-- A secret that a cache holds is served as it is, and nothing changes. -/
theorem fetch_of_recalled {g : Registry} {a : Address} {secret : Text}
    (h : g.recalled a.platform a.cacheKey = some secret) : g.fetch a = (some (.ok secret), g) := by
  obtain ⟨l⟩ := g
  simp only [recalled, serving?, fetch] at h ⊢
  induction l with
  | nil => cases h
  | cons r l ih =>
    rw [fetchFrom]
    by_cases own : r.platform = a.platform
    · rw [List.find?_cons_of_pos (by simpa using own), Option.bind_some] at h
      simp [own, Registered.fetch_of_cached h]
    · rw [List.find?_cons_of_neg (by simpa using own)] at h
      obtain ⟨served, left⟩ := Prod.mk.inj (ih h)
      rw [if_neg own, served, Registry.mk.inj left]

/-- A secret that no cache holds comes from the backend that serves the platform. -/
theorem fst_fetch_of_not_recalled {g : Registry} {a : Address}
    (miss : g.recalled a.platform a.cacheKey = none) :
    (g.fetch a).1 = (g.serving? a.platform).map fun r => r.backend.answer a := by
  rw [fst_fetch]
  cases serving : g.serving? a.platform with
  | none => rfl
  | some r =>
    rw [recalled, serving] at miss
    rw [Option.map_some, Option.map_some, (Registered.fetch_of_not_cached miss).1]

theorem map_backend_serving? (g : Registry) (platform : Text) :
    (g.serving? platform).map Registered.backend =
      (g.registered.reverse.find? fun q => q.1 = platform).map Prod.snd := by
  rw [registered, List.reverse_reverse, List.find?_map, Option.map_map]
  rfl

theorem caches_of_fetch_error {g : Registry} {a : Address} {e : BackendError}
    (h : (g.fetch a).1 = some (.error e)) : (g.fetch a).2.caches = g.caches := by
  obtain ⟨l⟩ := g
  simp only [caches, fetch] at h ⊢
  induction l with
  | nil => rfl
  | cons r l ih =>
    rw [fetchFrom] at h ⊢
    split_ifs at h ⊢ with own
    · rw [List.map_cons, List.map_cons, Registered.cache_of_fetch_error (Option.some.inj h)]
    · rw [List.map_cons, List.map_cons, ih h]

theorem caches_fetchDirect (g : Registry) (n : Nat) (a : Address) :
    (g.fetchDirect n a).2.caches = g.caches := map_fetchDirect (fun _ => rfl) g n

theorem cached_eq (g : Registry) (platform : Text) :
    ∃ keys : List Text, keys.Nodup ∧ (∀ k, k ∈ keys ↔ ∃ v, g.recalled platform k = some v) ∧
      g.cached platform = keys.length := by
  rw [cached]
  cases serving : g.serving? platform with
  | none => exact ⟨[], List.nodup_nil, by simp [recalled, serving], rfl⟩
  | some r =>
    refine ⟨r.cache.keys, r.cache.nodup_keys, fun k => ?_, ?_⟩
    · simp [recalled, serving, TextMap.mem_keys_iff]
    · simp [TextMap.size_eq, TextMap.keys]

/-! ### Pasts -/

/-- No backend is registered for a platform. -/
def Unregistered (platform : Text) (events : List Event) : Prop :=
  ∀ backend, Event.register platform backend ∉ events

/-- The latest backend of a platform, registered as the `n`th of all, from 0. -/
def Latest (past : List Event) (platform : Text) (backend : Backend) (n : Nat) : Prop :=
  ∃ older newer, registrations past = older ++ (platform, backend) :: newer ∧
    older.length = n ∧ ∀ q ∈ newer, q.1 ≠ platform

/-- A fetch through the registry of an address of a platform with a cache key has returned a
secret, and no backend was registered for the platform since. -/
def Fetched (past : List Event) (platform key secret : Text) : Prop :=
  ∃ before b between, past = before ++ .fetch b :: between ∧ b.platform = platform ∧
    b.cacheKey = key ∧ ((after before).fetch b).1 = some (.ok secret) ∧
    Unregistered platform between

/-- What one more event adds to what was fetched, and what it takes away. -/
theorem fetched_concat_iff {past : List Event} {e : Event} {platform key secret : Text} :
    Fetched (past ++ [e]) platform key secret ↔
      (∃ b, e = .fetch b ∧ b.platform = platform ∧ b.cacheKey = key ∧
        ((after past).fetch b).1 = some (.ok secret)) ∨
      Fetched past platform key secret ∧ ∀ backend, e ≠ .register platform backend := by
  constructor
  · rintro ⟨before, b, between, split, p, k, served, unregistered⟩
    rcases List.eq_nil_or_concat between with rfl | ⟨between, last, rfl⟩
    · obtain ⟨rfl, e_eq⟩ := List.append_inj' split rfl
      exact .inl ⟨b, List.singleton_inj.1 e_eq, p, k, served⟩
    · rw [List.concat_eq_append] at split unregistered
      rw [← List.cons_append, ← List.append_assoc] at split
      obtain ⟨past_eq, e_eq⟩ := List.append_inj' split rfl
      obtain rfl := List.singleton_inj.1 e_eq
      refine .inr ⟨⟨before, b, between, past_eq, p, k, served, fun backend mem => ?_⟩, ?_⟩
      · exact unregistered backend (List.mem_append_left _ mem)
      · rintro backend rfl
        exact unregistered backend List.mem_concat_self
  · rintro (⟨b, rfl, p, k, served⟩ | ⟨⟨before, b, between, rfl, p, k, served, unregistered⟩, e_ne⟩)
    · exact ⟨past, b, [], rfl, p, k, served, fun backend => List.not_mem_nil⟩
    · refine ⟨before, b, between ++ [e], by simp, p, k, served, fun backend mem => ?_⟩
      rcases List.mem_append.1 mem with mem | mem
      · exact unregistered backend mem
      · exact e_ne backend (List.mem_singleton.1 mem).symm

/-- The caches hold what was fetched, and nothing else. -/
theorem recalled_after_iff (past : List Event) (platform key secret : Text) :
    (after past).recalled platform key = some secret ↔ Fetched past platform key secret := by
  induction past using List.reverseRecOn generalizing secret with
  | nil =>
    constructor
    · intro held
      cases held
    · rintro ⟨before, b, between, split, -⟩
      simp at split
  | append_singleton past e ih =>
    rw [after_concat, fetched_concat_iff, ← ih]
    cases e with
    | register p backend =>
      rw [react, recalled_register]
      by_cases e : p = platform
      · simp [e]
      · simp [e]
    | fetch a =>
      rw [react, recalled_fetch]
      by_cases own : a.platform = platform ∧ a.cacheKey = key
      · obtain ⟨rfl, rfl⟩ := own
        -- a secret that was held under the key is the one that this fetch brings back
        rw [if_pos ⟨rfl, rfl⟩, Option.bind_eq_some_iff]
        constructor
        · rintro ⟨answer, served, h⟩
          refine .inl ⟨a, rfl, rfl, rfl, ?_⟩
          cases answer with
          | error e => cases h
          | ok v => rw [served, Option.some.inj h]
        · rintro (⟨b, e, -, -, served⟩ | ⟨held, -⟩)
          · obtain rfl := Event.fetch.inj e
            exact ⟨_, served, rfl⟩
          · exact ⟨_, by rw [fetch_of_recalled held], rfl⟩
      · rw [if_neg own]
        constructor
        · exact fun held => .inr ⟨held, fun backend e => by cases e⟩
        · rintro (⟨b, e, p, k, -⟩ | ⟨held, -⟩)
          · obtain rfl := Event.fetch.inj e
            exact absurd ⟨p, k⟩ own
          · exact held
    | ask n a =>
      rw [react, recalled_fetchDirect]
      constructor
      · exact fun held => .inr ⟨held, fun backend e => by cases e⟩
      · rintro (⟨b, e, -⟩ | ⟨held, -⟩)
        · cases e
        · exact held

/-! ### What a past says about the next fetch -/

/-- A platform is served exactly if a backend was registered for it. -/
theorem fst_fetch_eq_none_iff (past : List Event) (a : Address) :
    ((after past).fetch a).1 = none ↔ Unregistered a.platform past := by
  rw [fst_fetch, Option.map_eq_none_iff, serving?, List.find?_eq_none]
  constructor
  · intro unserved backend mem
    obtain ⟨r, hr, own, -⟩ := mem_after_iff.2 mem
    exact unserved r hr (by simpa using own)
  · intro unregistered r hr own
    have own : r.platform = a.platform := by simpa using own
    exact unregistered r.backend (mem_after_iff.1 ⟨r, hr, own, rfl⟩)

theorem fetchFrom_append {a : Address} {newer : List Registered} {r : Registered}
    (others : ∀ s ∈ newer, s.platform ≠ a.platform) (own : r.platform = a.platform)
    (older : List Registered) :
    fetchFrom a (newer ++ r :: older) =
      (some (r.fetch a).1, newer ++ (r.fetch a).2 :: older) := by
  induction newer with
  | nil => rw [List.nil_append, fetchFrom, if_pos own, List.nil_append]
  | cons s newer ih =>
    rw [List.forall_mem_cons] at others
    rw [List.cons_append, fetchFrom, if_neg others.1, ih others.2, List.cons_append]

/-- A secret that is not cached is fetched from the latest backend, and only its count grows. -/
theorem fetch_of_not_recalled {past : List Event} {a : Address}
    (served : ¬ Unregistered a.platform past)
    (miss : (after past).recalled a.platform a.cacheKey = none) :
    ∃ backend n calls, Latest past a.platform backend n ∧
      ((after past).fetch a).1 = some (backend.answer a) ∧
      (after past).callCounts[n]? = some calls ∧
      ((after past).fetch a).2.callCounts = (after past).callCounts.set n (calls + 1) := by
  have known := registrations_after past
  rw [← fst_fetch_eq_none_iff, fst_fetch, Option.map_eq_none_iff] at served
  generalize after past = g at *
  -- the backends in front of the serving one are of other platforms, and stay as they are
  obtain ⟨r, serving⟩ := Option.ne_none_iff_exists'.1 served
  obtain ⟨own, newer, older, split, others⟩ := List.find?_eq_some_iff_append.1 serving
  have own : r.platform = a.platform := by simpa using own
  have others : ∀ s ∈ newer, s.platform ≠ a.platform := fun s hs => by simpa using others s hs
  have missed : r.cache.get? a.cacheKey = none := by
    rw [recalled, serving] at miss
    exact miss
  obtain ⟨answered, counted⟩ := Registered.fetch_of_not_cached missed
  refine ⟨r.backend, older.length, r.calls, ⟨?_, ?_, ?_⟩, ?_, ?_, ?_⟩
  · exact (older.map fun s => (s.platform, s.backend)).reverse
  · exact (newer.map fun s => (s.platform, s.backend)).reverse
  · refine ⟨?_, by simp, ?_⟩
    · rw [← known, registered, split]
      simp [own]
    · intro q hq
      rw [List.mem_reverse, List.mem_map] at hq
      obtain ⟨s, hs, rfl⟩ := hq
      exact others s hs
  · rw [fetch, split, fetchFrom_append others own, answered]
  · rw [callCounts, split]
    simp
  · rw [callCounts, callCounts, fetch, split, fetchFrom_append others own]
    simp [counted]

/-- What is true of the next fetch and of the caches after a past. -/
structure Memoized (past : List Event) : Prop where
  /-- Nothing comes back exactly if no backend was registered for the platform. -/
  unserved : ∀ a, ((after past).fetch a).1 = none ↔ Unregistered a.platform past
  /-- A secret that was fetched under the same key, since the latest registration for the platform,
  comes back again, and no backend is called. -/
  hit : ∀ a secret, Fetched past a.platform a.cacheKey secret →
    ((after past).fetch a).1 = some (.ok secret) ∧
      ((after past).fetch a).2.callCounts = (after past).callCounts
  /-- There is only one such secret. -/
  unique : ∀ platform key secret secret', Fetched past platform key secret →
    Fetched past platform key secret' → secret = secret'
  /-- Otherwise the latest backend answers, and its call is the only one that is counted. -/
  miss : ∀ a, ¬ Unregistered a.platform past →
    (∀ secret, ¬ Fetched past a.platform a.cacheKey secret) →
    ∃ backend n calls, Latest past a.platform backend n ∧
      ((after past).fetch a).1 = some (backend.answer a) ∧
      (after past).callCounts[n]? = some calls ∧
      ((after past).fetch a).2.callCounts = (after past).callCounts.set n (calls + 1)
  /-- A platform has as many cached secrets as keys were fetched since the latest registration. -/
  cached : ∀ platform, ∃ keys : List Text, keys.Nodup ∧
    (∀ key, key ∈ keys ↔ ∃ secret, Fetched past platform key secret) ∧
    (after past).cached platform = keys.length
  /-- A failure changes no cache. -/
  failure : ∀ a e, ((after past).fetch a).1 = some (.error e) →
    ((after past).fetch a).2.caches = (after past).caches
  /-- A question past the caches changes none of them. -/
  direct : ∀ n a, ((after past).fetchDirect n a).2.caches = (after past).caches

/-- After every past the next fetch and the caches are as the past says. -/
theorem memoized (past : List Event) : Memoized past where
  unserved := fst_fetch_eq_none_iff past
  hit := by
    intro a secret fetched
    have held := (recalled_after_iff past _ _ _).2 fetched
    rw [fetch_of_recalled held]
    exact ⟨rfl, rfl⟩
  unique := by
    intro platform key secret secret' first second
    rw [← recalled_after_iff] at first second
    exact Option.some.inj (first.symm.trans second)
  miss := by
    intro a served unfetched
    refine fetch_of_not_recalled served (Option.eq_none_iff_forall_ne_some.2 fun secret held => ?_)
    exact unfetched secret ((recalled_after_iff past _ _ _).1 held)
  cached := by
    intro platform
    obtain ⟨keys, nodup, mem, count⟩ := (after past).cached_eq platform
    refine ⟨keys, nodup, fun key => ?_, count⟩
    simp only [mem, recalled_after_iff]
  failure := fun a e => caches_of_fetch_error
  direct := (after past).caches_fetchDirect

end Registry
end SecretEnv

import Mathlib.Data.List.Induction
import SecretEnv.Address.Parser
import SecretEnv.Proofs.TextMap
import SecretEnv.Registry

/-!
# Histories of a registry

What a registry serves after backends were registered, addresses were fetched and
backends were asked past the caches, in any order.

* `Event`, `react`, `after`: pasts, from the registry without backends;
* `registrations_after`: the backends of a registry are those of its past;
* `Faithful` is the invariant of the caches: every cached secret is the answer
  to an address that was fetched and has its cache key;
* `answer_of_fetch`: so is every secret that is served;
* `serves_own_iff`: with secrets in memory it is the answer to the address itself,
  after all pasts, exactly if no fetched address shares its key without its name;
* `serves_own_of_no_bar`: so it is if no part of an address holds a bar.
-/

namespace SecretEnv

/-! ### Cache keys -/

namespace Address

/-- What a cache key is made of. -/
def parts (a : Address) : List Text := [a.account, a.service, a.name, a.version, a.region.getD []]

theorem length_name_lt_cacheKey (a : Address) : a.name.length < a.cacheKey.length := by
  simp only [cacheKey, List.intercalate, List.intersperse, List.flatten_cons, List.length_append,
    List.length_cons]
  omega

/-- Without bars in their parts addresses with one key have the same parts. -/
theorem parts_eq_of_cacheKey_eq {a b : Address} (ha : ∀ p ∈ a.parts, '|' ∉ p)
    (hb : ∀ p ∈ b.parts, '|' ∉ p) (h : a.cacheKey = b.cacheKey) : a.parts = b.parts := by
  have split {c : Address} (hc : ∀ p ∈ c.parts, '|' ∉ p) : c.cacheKey.splitOn '|' = c.parts :=
    List.splitOn_intercalate _ hc (List.cons_ne_nil _ _)
  rw [← split ha, h, split hb]

end Address

/-- Secrets in memory do not tell addresses with the same key and name apart. -/
theorem Backend.answer_memory_congr (secrets : TextMap) {a b : Address}
    (key : a.cacheKey = b.cacheKey) (name : a.name = b.name) :
    (memory secrets).answer a = (memory secrets).answer b := by
  simp only [answer, key, name]

theorem Registered.registration_fetch (r : Registered) (a : Address) :
    (r.fetch a).2.platform = r.platform ∧ (r.fetch a).2.backend = r.backend := by
  rw [fetch]
  split
  · exact ⟨rfl, rfl⟩
  · split <;> exact ⟨rfl, rfl⟩

namespace Registry

/-! ### Pasts -/

/-- Something that happens to a registry. -/
inductive Event where
  | register (platform : Text) (backend : Backend)
  | fetch (address : Address)
  /-- The backend that was registered as the `n`th, from 0, is asked past the caches. -/
  | ask (n : Nat) (address : Address)

/-- The registry after an event. -/
def react (g : Registry) : Event → Registry
  | .register platform backend => g.register platform backend
  | .fetch a => (g.fetch a).2
  | .ask n a => (g.fetchDirect n a).2

/-- The registry after a past. -/
def after (past : List Event) : Registry := past.foldl react empty

theorem after_concat (past : List Event) (e : Event) :
    after (past ++ [e]) = react (after past) e := by
  rw [after, List.foldl_append, List.foldl_cons, List.foldl_nil, after]

/-! ### The backends -/

/-- The registration that an event is. -/
def Event.registration? : Event → Option (Text × Backend)
  | .register platform backend => some (platform, backend)
  | _ => none

/-- The registrations among events, in order. -/
def registrations (events : List Event) : List (Text × Backend) :=
  events.filterMap Event.registration?

theorem mem_registrations_iff {events : List Event} {platform : Text} {backend : Backend} :
    (platform, backend) ∈ registrations events ↔ .register platform backend ∈ events := by
  rw [registrations, List.mem_filterMap]
  constructor
  · rintro ⟨e, mem, same⟩
    cases e with
    | register p b =>
      obtain ⟨⟩ := same
      exact mem
    | fetch a => cases same
    | ask n a => cases same
  · exact fun mem => ⟨_, mem, rfl⟩

/-- The platforms and backends in the order of their registration. -/
def registered (g : Registry) : List (Text × Backend) :=
  (g.latestFirst.map fun r => (r.platform, r.backend)).reverse

theorem registered_register (g : Registry) (platform : Text) (backend : Backend) :
    (g.register platform backend).registered = g.registered ++ [(platform, backend)] := by
  simp [registered, register]

theorem registered_fetch (g : Registry) (a : Address) :
    (g.fetch a).2.registered = g.registered := by
  obtain ⟨l⟩ := g
  simp only [registered, fetch]
  induction l with
  | nil => rfl
  | cons r l ih =>
    rw [fetchFrom]
    split
    · obtain ⟨platform, backend⟩ := r.registration_fetch a
      rw [List.map_cons, List.map_cons, platform, backend]
    · rw [List.reverse_inj] at ih
      rw [List.map_cons, List.map_cons, ih]

/-- A question past the caches leaves all but the call counts. -/
theorem map_fetchDirect {β : Type} {f : Registered → β} {a : Address}
    (same : ∀ r, f (r.ask a).2 = f r) (g : Registry) (n : Nat) :
    (g.fetchDirect n a).2.latestFirst.map f = g.latestFirst.map f := by
  rw [fetchDirect]
  split_ifs
  · split
    · next r found =>
      obtain ⟨lt, rfl⟩ := List.getElem?_eq_some_iff.1 found
      rw [List.map_set, same, ← List.getElem_map f, List.set_getElem_self]
      simpa using lt
    · rfl
  · rfl

theorem registered_fetchDirect (g : Registry) (n : Nat) (a : Address) :
    (g.fetchDirect n a).2.registered = g.registered := by
  rw [registered, registered, map_fetchDirect fun r => rfl]

theorem registrations_after (past : List Event) :
    (after past).registered = registrations past := by
  induction past using List.reverseRecOn with
  | nil => rfl
  | append_singleton past e ih =>
    rw [after_concat, registrations, List.filterMap_append, ← registrations, ← ih]
    cases e with
    | register platform backend => exact registered_register _ platform backend
    | fetch a => exact (registered_fetch _ a).trans (List.append_nil _).symm
    | ask n a => exact (registered_fetchDirect _ n a).trans (List.append_nil _).symm

/-- Every backend of a registry was registered, and every one that was registered is there. -/
theorem mem_after_iff {past : List Event} {platform : Text} {backend : Backend} :
    (∃ r ∈ (after past).latestFirst, r.platform = platform ∧ r.backend = backend) ↔
      .register platform backend ∈ past := by
  rw [← mem_registrations_iff, ← registrations_after, registered, List.mem_reverse, List.mem_map]
  simp only [Prod.mk.injEq]

/-! ### The caches -/

/-- The invariant of a backend: what it has cached are its answers to fetched addresses with
those cache keys. -/
def Faithful (fetched : Address → Prop) (r : Registered) : Prop :=
  ∀ k v, r.cache.get? k = some v →
    ∃ b, fetched b ∧ b.platform = r.platform ∧ b.cacheKey = k ∧ r.backend.answer b = .ok v

namespace Faithful

variable {fetched : Address → Prop} {r : Registered}

theorem mono {more : Address → Prop} (h : ∀ b, fetched b → more b) (hr : Faithful fetched r) :
    Faithful more r := by
  intro k v hv
  obtain ⟨b, hb, rest⟩ := hr k v hv
  exact ⟨b, h b hb, rest⟩

theorem new (platform : Text) (backend : Backend) :
    Faithful fetched ⟨platform, backend, TextMap.empty, 0⟩ := by
  intro k v hv
  rw [TextMap.get?_empty] at hv
  exact nomatch hv

/-- A fetch leaves platform and backend as they are, and caches no other answer. -/
theorem fetch {a : Address} (hr : Faithful fetched r) (platform : a.platform = r.platform) :
    Faithful (fun b => b = a ∨ fetched b) (r.fetch a).2 := by
  have before : Faithful (fun b => b = a ∨ fetched b) r := hr.mono fun b => .inr
  -- a hit changes no cache; a miss caches the answer to this address, if it has one
  rw [Registered.fetch]
  split
  · exact before
  · split
    · next secret answered =>
      intro k v hv
      rw [TextMap.get?_insert] at hv
      split at hv
      · next key =>
        obtain rfl := Option.some.inj hv
        exact ⟨a, .inl rfl, platform, key.symm, answered⟩
      · exact before k v hv
    · exact before

end Faithful

/-- A fetch changes only the backend that serves the platform. -/
theorem mem_fetchFrom {a : Address} {l : List Registered} {r : Registered}
    (h : r ∈ (fetchFrom a l).2) :
    r ∈ l ∨ ∃ s ∈ l, a.platform = s.platform ∧ r = (s.fetch a).2 := by
  induction l with
  | nil => exact .inl h
  | cons s l ih =>
    rw [fetchFrom] at h
    split at h
    · next platform =>
      rcases List.mem_cons.1 h with rfl | h
      · exact .inr ⟨s, List.mem_cons_self, platform.symm, rfl⟩
      · exact .inl (List.mem_cons_of_mem s h)
    · rcases List.mem_cons.1 h with rfl | h
      · exact .inl List.mem_cons_self
      · rcases ih h with h | ⟨t, ht, rest⟩
        · exact .inl (List.mem_cons_of_mem s h)
        · exact .inr ⟨t, List.mem_cons_of_mem s ht, rest⟩

theorem mem_fetchDirect {g : Registry} {n : Nat} {a : Address} {r : Registered}
    (h : r ∈ (g.fetchDirect n a).2.latestFirst) :
    r ∈ g.latestFirst ∨ ∃ s ∈ g.latestFirst, r = (s.ask a).2 := by
  rw [fetchDirect] at h
  split_ifs at h
  · split at h
    · next s found =>
      refine (List.mem_or_eq_of_mem_set h).imp_right fun e => ?_
      exact ⟨s, List.mem_of_getElem? found, e⟩
    · exact .inl h
  · exact .inl h

/-- One event keeps the caches faithful. -/
theorem faithful_react {fetched : Address → Prop} {g : Registry}
    (h : ∀ r ∈ g.latestFirst, Faithful fetched r) (e : Event) :
    ∀ r ∈ (react g e).latestFirst, Faithful (fun b => e = .fetch b ∨ fetched b) r := by
  intro r hr
  cases e with
  | register platform backend =>
    rcases List.mem_cons.1 hr with rfl | hr
    · exact Faithful.new platform backend
    · exact (h r hr).mono fun b => .inr
  | fetch a =>
    rcases mem_fetchFrom hr with hr | ⟨s, hs, platform, rfl⟩
    · exact (h r hr).mono fun b => .inr
    · refine ((h s hs).fetch platform).mono fun b hb => hb.imp_left ?_
      rintro rfl
      rfl
  | ask n a =>
    -- a question changes the count of calls, of which the invariant does not speak
    rcases mem_fetchDirect hr with hr | ⟨s, hs, rfl⟩
    · exact (h r hr).mono fun b => .inr
    · exact Faithful.mono (fun b => .inr) (h s hs)

/-- So does every past. -/
theorem faithful_after (past : List Event) :
    ∀ r ∈ (after past).latestFirst, Faithful (fun b => .fetch b ∈ past) r := by
  -- the past grows at its end, where the latest event is
  induction past using List.reverseRecOn with
  | nil => exact nofun
  | append_singleton past e ih =>
    intro r hr
    rw [after_concat] at hr
    refine (faithful_react ih e r hr).mono fun b hb => ?_
    rw [List.mem_append, List.mem_singleton]
    exact hb.symm.imp_right Eq.symm

/-! ### What is served -/

/-- A fetch is answered by the backend that serves the platform. -/
theorem fst_fetch (g : Registry) (a : Address) :
    (g.fetch a).1 = (g.serving? a.platform).map fun r => (r.fetch a).1 := by
  obtain ⟨l⟩ := g
  simp only [fetch, serving?]
  induction l with
  | nil => rfl
  | cons r l ih =>
    rw [fetchFrom]
    split
    · next h => rw [List.find?_cons_of_pos (by simpa using h), Option.map_some]
    · next h => rw [List.find?_cons_of_neg (by simpa using h), ih]

/-- Every secret that is served is the answer of the serving backend to the address or to one
that was fetched before and has its key. -/
theorem answer_of_fetch {past : List Event} {a : Address} {v : Text}
    (h : ((after past).fetch a).1 = some (.ok v)) :
    ∃ r b, (after past).serving? a.platform = some r ∧
      (b = a ∨ .fetch b ∈ past ∧ b.platform = a.platform) ∧ b.cacheKey = a.cacheKey ∧
        r.backend.answer b = .ok v := by
  rw [fst_fetch, Option.map_eq_some_iff] at h
  obtain ⟨r, serving, served⟩ := h
  have platform : r.platform = a.platform := by simpa using List.find?_some serving
  have faithful := faithful_after past r (List.mem_of_find?_eq_some serving)
  rw [Registered.fetch] at served
  split at served
  · next secret hit =>
    obtain rfl := Except.ok.inj served
    -- the cache speaks for an address that was fetched before
    obtain ⟨b, fetched, same, key, answered⟩ := faithful _ _ hit
    exact ⟨r, b, serving, .inr ⟨fetched, same.trans platform⟩, key, answered⟩
  · split at served
    · next answered =>
      obtain rfl := Except.ok.inj served
      exact ⟨r, a, serving, .inl rfl, rfl, answered⟩
    · exact nomatch served

/-- Whatever happened before, a fetch of the address serves only what the serving backend
answers to the address itself. -/
def ServesOwn (past : List Event) (a : Address) : Prop :=
  ∀ v, ((after past).fetch a).1 = some (.ok v) →
    ∃ r, (after past).serving? a.platform = some r ∧ r.backend.answer a = .ok v

/-- All backends of a past have their secrets in memory. -/
def InMemory (past : List Event) : Prop :=
  ∀ platform backend, .register platform backend ∈ past → ∃ secrets, backend = .memory secrets

/-- With secrets in memory it does so if no address that was fetched shares the key without the
name. -/
theorem serves_own_of_name_eq {past : List Event} {a : Address} (memory : InMemory past)
    (same : ∀ b, .fetch b ∈ past → b.platform = a.platform → b.cacheKey = a.cacheKey →
      b.name = a.name) : ServesOwn past a := by
  intro v served
  obtain ⟨r, b, serving, rfl | ⟨fetched, platform⟩, key, answered⟩ := answer_of_fetch served
  · exact ⟨r, serving, answered⟩
  · refine ⟨r, serving, ?_⟩
    have held := List.mem_of_find?_eq_some serving
    obtain ⟨secrets, backend⟩ := memory _ _ (mem_after_iff.1 ⟨r, held, rfl, rfl⟩)
    have name := same b fetched platform key
    rw [backend, Backend.answer_memory_congr secrets key.symm name.symm, ← backend]
    exact answered

/-- So it does if no address has a bar in its parts. -/
theorem serves_own_of_no_bar {past : List Event} {a : Address} (memory : InMemory past)
    (ha : ∀ p ∈ a.parts, '|' ∉ p)
    (fetches : ∀ b, .fetch b ∈ past → ∀ p ∈ b.parts, '|' ∉ p) : ServesOwn past a := by
  refine serves_own_of_name_eq memory fun b hb _ key => ?_
  have parts := Address.parts_eq_of_cacheKey_eq (fetches b hb) ha key
  simp only [Address.parts, List.cons.injEq] at parts
  exact parts.2.2.1

/-- A fetch of one address, after which another is asked for. -/
def sharing (a b : Address) : List Event :=
  [.register a.platform (.memory (.ofPairs [(a.name, ['0']), (b.name, ['1'])])), .fetch b]

theorem inMemory_sharing (a b : Address) : InMemory (sharing a b) := by
  intro platform backend mem
  rcases List.mem_cons.1 mem with e | mem
  · exact ⟨_, (Event.register.inj e).2⟩
  · cases List.mem_singleton.1 mem

/-- Two secrets under the names of two addresses with one key: after a fetch of the one, the
other is served with its secret. -/
theorem not_serves_own_sharing {a b : Address} (platform : b.platform = a.platform)
    (key : b.cacheKey = a.cacheKey) (name : b.name ≠ a.name) : ¬ ServesOwn (sharing a b) a := by
  let secrets := TextMap.ofPairs [(a.name, ['0']), (b.name, ['1'])]
  have lookup (k : Text) : secrets.get? k =
      if b.name = k then some ['1'] else if a.name = k then some ['0'] else none := by
    rw [TextMap.get?_ofPairs]
    by_cases first : b.name = k
    · simp [first]
    · by_cases second : a.name = k <;> simp [first, second]
  -- no name is as long as a cache key, so the secrets are found by name
  have keyless : secrets.get? a.cacheKey = none := by
    have short := a.length_name_lt_cacheKey
    have short' := b.length_name_lt_cacheKey
    rw [lookup, if_neg, if_neg]
    · intro e
      rw [e] at short
      omega
    · intro e
      rw [e, key] at short'
      omega
  have answer_a : (Backend.memory secrets).answer a = .ok ['0'] := by
    simp only [Backend.answer, keyless, lookup, if_neg name, if_true, Option.none_or]
  have answer_b : (Backend.memory secrets).answer b = .ok ['1'] := by
    simp only [Backend.answer, key, keyless, lookup, if_true, Option.none_or]
  have left : (after (sharing a b)).latestFirst =
      [⟨a.platform, .memory secrets, TextMap.empty.insert b.cacheKey ['1'], 1⟩] := by
    simp [after, sharing, react, register, empty, fetch, fetchFrom, platform, Registered.fetch,
      TextMap.get?_empty, answer_b, secrets]
  have served : ((after (sharing a b)).fetch a).1 = some (.ok ['1']) := by
    simp [fetch, left, fetchFrom, Registered.fetch, TextMap.get?_insert, key]
  intro own
  obtain ⟨r, serving, answered⟩ := own ['1'] served
  have only := List.mem_of_find?_eq_some serving
  rw [left, List.mem_singleton] at only
  rw [only, answer_a] at answered
  exact nomatch answered

/-- After all pasts with secrets in memory and certain fetches, an address is served with its own
secret only, exactly if none of the fetched addresses shares its platform and key without its
name. -/
theorem serves_own_iff (fetched : List Address) (a : Address) :
    (∀ past, InMemory past → (∀ b, .fetch b ∈ past → b ∈ fetched) → ServesOwn past a) ↔
      ∀ b ∈ fetched, b.platform = a.platform → b.cacheKey = a.cacheKey → b.name = a.name := by
  constructor
  · intro own b hb platform key
    -- otherwise a past of two events serves the wrong secret
    by_contra name
    refine not_serves_own_sharing platform key name ?_
    refine own _ (inMemory_sharing a b) fun c hc => ?_
    rcases List.mem_cons.1 hc with hc | hc
    · cases hc
    · obtain ⟨⟩ := List.mem_singleton.1 hc
      exact hb
  · intro same past memory fetches
    exact serves_own_of_name_eq memory fun b hb => same b (fetches b hb)

/-- A name with a bar in it makes the same key as a version with a bar in it. -/
theorem not_serves_own_bar :
    ∃ a b, Address.parse "sem://aws:s/p/x?version=y|z".toList = .ok a ∧
      Address.parse "sem://aws:s/p/x|y?version=z".toList = .ok b ∧
      ¬ ServesOwn [.register "aws".toList
        (.memory (.ofPairs [("x".toList, ['0']), ("x|y".toList, ['1'])])), .fetch b] a := by
  refine ⟨_, _, rfl, rfl, ?_⟩
  exact not_serves_own_sharing (by decide) (by decide) (by decide)

end Registry
end SecretEnv

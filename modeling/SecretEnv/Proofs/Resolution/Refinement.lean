import SecretEnv.Proofs.Registry.Memoization
import SecretEnv.Proofs.Resolution.Uncached

/-!
# Caches that make no difference

A registry that resolves documents gives the variables and errors that there
would be without its caches, whatever it has resolved before.

* `Simulates` is the invariant: every cached secret is the one that each address
  with its platform and key would get;
* `Simulates.fetch` keeps it for addresses without bars in their parts;
* `resolve_eq_uncached`: a document resolves as without caches, after any calls.
-/

namespace SecretEnv

/-- No part of the address holds the bar that its cache key has between them. -/
def Address.BarFree (a : Address) : Prop := ∀ p ∈ a.parts, '|' ∉ p

instance (a : Address) : Decidable a.BarFree := inferInstanceAs (Decidable (∀ p ∈ a.parts, '|' ∉ p))

/-- The address that the entry holds, if it holds one, is free of bars. -/
def Entry.BarFree (e : Entry) : Prop := ∀ a ∈ e.address?, a.BarFree

instance (e : Entry) : Decidable e.BarFree :=
  inferInstanceAs (Decidable (∀ a ∈ e.address?, a.BarFree))

namespace Uncached

/-- The registry of secrets in memory, before anything is fetched. -/
def registry (sources : Sources) : Registry :=
  sources.foldl (fun g s => g.register s.1 (.memory s.2)) Registry.empty

theorem registry_concat (sources : Sources) (s : Text × TextMap) :
    registry (sources ++ [s]) = (registry sources).register s.1 (.memory s.2) := by
  rw [registry, List.foldl_append, List.foldl_cons, List.foldl_nil, registry]

theorem registered_registry (sources : Sources) :
    (registry sources).registered = sources.map fun s => (s.1, Backend.memory s.2) := by
  induction sources using List.reverseRecOn with
  | nil => rfl
  | append_singleton sources s ih =>
    rw [registry_concat, Registry.registered_register, ih, List.map_append, List.map_singleton]

theorem recalled_registry (sources : Sources) (platform key : Text) :
    (registry sources).recalled platform key = none := by
  induction sources using List.reverseRecOn with
  | nil => rfl
  | append_singleton sources s ih => rw [registry_concat, Registry.recalled_register, ih, ite_self]

theorem answer_memory (secrets : TextMap) (a : Address) :
    (Backend.memory secrets).answer a = lookUp secrets a := by
  simp only [Backend.answer, lookUp]
  cases secrets.get? a.cacheKey with
  | some secret => rfl
  | none => cases secrets.get? a.name <;> rfl

/-- Addresses of one platform with one key get the same answer if they are free of bars. -/
theorem fetch_congr {sources : Sources} {a b : Address} (ha : a.BarFree) (hb : b.BarFree)
    (platform : a.platform = b.platform) (key : a.cacheKey = b.cacheKey) :
    fetch sources a = fetch sources b := by
  have parts := Address.parts_eq_of_cacheKey_eq ha hb key
  simp only [Address.parts, List.cons.injEq] at parts
  have name : a.name = b.name := parts.2.2.1
  simp only [fetch, lookUp, platform, key, name]

/-- The invariant of a registry: it has the sources for backends, and its caches hold the secrets
that each address with their platform and key would get without them. -/
structure Simulates (sources : Sources) (g : Registry) : Prop where
  registered : g.registered = sources.map fun s => (s.1, Backend.memory s.2)
  recalled : ∀ a secret, a.BarFree → g.recalled a.platform a.cacheKey = some secret →
    fetch sources a = some (.ok secret)

theorem simulates_registry (sources : Sources) : Simulates sources (registry sources) where
  registered := registered_registry sources
  recalled := by
    intro a secret _ held
    rw [recalled_registry] at held
    exact nomatch held

namespace Simulates

variable {sources : Sources} {g : Registry}

theorem map_backend_serving? (h : Simulates sources g) (platform : Text) :
    (g.serving? platform).map Registered.backend =
      (serving? sources platform).map Backend.memory := by
  rw [Registry.map_backend_serving?, h.registered, ← List.map_reverse, List.find?_map, serving?,
    Option.map_map, Option.map_map]
  rfl

/-- A fetch gives what there would be without caches, and keeps the invariant. -/
theorem fetch {a : Address} (h : Simulates sources g) (free : a.BarFree) :
    (g.fetch a).1 = Uncached.fetch sources a ∧ Simulates sources (g.fetch a).2 := by
  have answered : (g.fetch a).1 = Uncached.fetch sources a := by
    cases held : g.recalled a.platform a.cacheKey with
    | some secret => rw [Registry.fetch_of_recalled held, h.recalled a secret free held]
    | none =>
      have backend := congrArg (Option.map fun b => b.answer a) (h.map_backend_serving? a.platform)
      rw [Option.map_map, Option.map_map] at backend
      rw [Registry.fst_fetch_of_not_recalled held, Uncached.fetch]
      refine backend.trans ?_
      congr 1
      funext secrets
      exact answer_memory secrets a
  refine ⟨answered, ⟨(Registry.registered_fetch g a).trans h.registered, ?_⟩⟩
  intro b secret b_free held
  rw [Registry.recalled_fetch] at held
  split_ifs at held with own
  · -- the key has just been asked for, and both addresses get the same
    rw [answered, Option.bind_eq_some_iff] at held
    obtain ⟨answer, served, is_secret⟩ := held
    cases answer with
    | error e => cases is_secret
    | ok v =>
      obtain rfl := Option.some.inj is_secret
      rw [← fetch_congr free b_free own.1 own.2, served]
  · exact h.recalled b secret b_free held

theorem resolveEntry {e : Entry} (h : Simulates sources g) (free : e.BarFree) (whole : Bool) :
    (g.resolveEntry whole e).1 = outcome sources whole e ∧
      Simulates sources (g.resolveEntry whole e).2 := by
  unfold Registry.resolveEntry
  cases parsed : Address.parse e.candidate with
  | error err =>
    have no_address : e.address? = none := by rw [Entry.address?, parsed]
    rw [no_address, outcome_of_soft (.inr (.inr (.inl ⟨err, parsed⟩)))]
    exact ⟨rfl, h⟩
  | ok a =>
    have address : e.address? = some a := by rw [Entry.address?, parsed]
    have filled : e.isEmpty = false := by
      by_contra empty
      rw [parse_candidate_of_key_eq_nil (key_eq_nil_of_isEmpty (by simpa using empty))] at parsed
      exact nomatch parsed
    obtain ⟨answered, simulates⟩ := h.fetch (free a address)
    rw [address]
    refine ⟨?_, simulates⟩
    simp only [answered, outcome, filled, Bool.false_eq_true, if_false, parsed]
    cases Uncached.fetch sources a with
    | none => rfl
    | some answer => cases answer <;> rfl

theorem resolveInto {es : List Entry} (h : Simulates sources g) (free : ∀ e ∈ es, e.BarFree)
    (whole : Bool) (vars : Variables) :
    (g.resolveInto whole vars es).1 =
        (es.mapM (outcome sources whole)).map
          (fun maps => vars.insertAll (maps.flatMap TextMap.pairs)) ∧
      Simulates sources (g.resolveInto whole vars es).2 := by
  induction es generalizing g vars with
  | nil => exact ⟨rfl, h⟩
  | cons e es ih =>
    rw [List.forall_mem_cons] at free
    obtain ⟨own, simulates⟩ := h.resolveEntry free.1 whole
    rw [Registry.resolveInto, List.mapM_cons, ← own]
    cases resolved : g.resolveEntry whole e with
    | mk result left =>
      rw [resolved] at simulates
      cases result with
      | error err => exact ⟨rfl, simulates⟩
      | ok new =>
        -- the rest of the run starts from the variables with the new ones merged in
        obtain ⟨rest, simulates⟩ := ih simulates free.2 (vars.extend new)
        refine ⟨rest.trans ?_, simulates⟩
        cases es.mapM (outcome sources whole) with
        | error err => rfl
        | ok maps =>
          show Except.ok ((vars.extend new).insertAll (maps.flatMap TextMap.pairs)) =
            Except.ok (vars.insertAll ((new :: maps).flatMap TextMap.pairs))
          rw [List.flatMap_cons, TextMap.insertAll_append, TextMap.extend]

/-- A document resolves as without caches, and keeps the invariant. -/
theorem resolve {es : List Entry} (h : Simulates sources g) (free : ∀ e ∈ es, e.BarFree)
    (whole : Bool) :
    (g.resolve whole es).1 = Uncached.resolve sources whole es ∧
      Simulates sources (g.resolve whole es).2 := by
  obtain ⟨result, simulates⟩ := h.resolveInto free whole TextMap.empty
  refine ⟨result.trans ?_, simulates⟩
  rw [Uncached.resolve]
  cases es.mapM (outcome sources whole) <;> rfl

end Simulates

/-! ### After earlier calls -/

/-- A call that resolves. -/
inductive Call where
  | resolve (whole : Bool) (entries : List Entry)
  | resolveEntry (whole : Bool) (entry : Entry)

/-- The entries that a call is about. -/
def Call.entries : Call → List Entry
  | .resolve _ entries => entries
  | .resolveEntry _ entry => [entry]

/-- The registry after a call. -/
def Call.run (g : Registry) : Call → Registry
  | .resolve whole entries => (g.resolve whole entries).2
  | .resolveEntry whole entry => (g.resolveEntry whole entry).2

/-- A call keeps the invariant, whatever comes of it. -/
theorem Simulates.call {sources : Sources} {g : Registry} {c : Call} (h : Simulates sources g)
    (free : ∀ e ∈ c.entries, e.BarFree) : Simulates sources (c.run g) := by
  cases c with
  | resolve whole entries => exact (h.resolve free whole).2
  | resolveEntry whole entry => exact (h.resolveEntry (free entry List.mem_cons_self) whole).2

/-- So do calls one after the other. -/
theorem Simulates.calls {sources : Sources} {g : Registry} {cs : List Call}
    (h : Simulates sources g) (free : ∀ c ∈ cs, ∀ e ∈ c.entries, e.BarFree) :
    Simulates sources (cs.foldl Call.run g) := by
  induction cs generalizing g with
  | nil => exact h
  | cons c cs ih =>
    rw [List.forall_mem_cons] at free
    exact ih (h.call free.1) free.2

/-- After any calls a document resolves as it would without caches: its entries in order, the
last value of a name, or the error of the first entry that fails. Entries that no secret is
looked up for do not fail. -/
theorem resolve_eq_uncached (sources : Sources) {calls : List Call} {es : List Entry}
    (earlier : ∀ c ∈ calls, ∀ e ∈ c.entries, e.BarFree) (now : ∀ e ∈ es, e.BarFree)
    (whole : Bool) :
    ((calls.foldl Call.run (registry sources)).resolve whole es).1 =
        Uncached.resolve sources whole es ∧
      ∀ e, Soft sources e → outcome sources whole e = .ok e.literal :=
  ⟨(((simulates_registry sources).calls earlier).resolve now whole).1,
    fun _ soft => outcome_of_soft soft whole⟩

/-- A secret with two members. -/
def pair : Sources :=
  [("aws".toList, .ofPairs [("s".toList, "\x7b\"u\":\"1\",\"v\":\"2\"\x7d".toList)])]

/-- One of its members, under a name of its own. -/
def member : Entry := ⟨1, "A".toList, "sem://aws:sm/a/s?key=u".toList⟩

/-- An entry without a secret. -/
def lost : Entry := ⟨2, "B".toList, "sem://aws:sm/a/t".toList⟩

/-- A run that stops at its second entry leaves a cached secret behind. The next one serves that
secret to another address of it, and one of its members takes the place of an older value. -/
theorem resolve_eq_uncached_pair :
    ((([Call.resolve false [member, lost]].foldl Call.run (registry pair)).resolve false
        [⟨1, "u".toList, "0".toList⟩, member, ⟨3, "sem://aws:sm/a/s".toList, []⟩]).1 =
      .ok (.ofPairs [("u".toList, "1".toList), ("A".toList, "1".toList),
        ("v".toList, "2".toList)])) := by
  have earlier : ∀ c ∈ [Call.resolve false [member, lost]], ∀ e ∈ c.entries, e.BarFree := by
    decide +kernel
  have now : ∀ e ∈ [(⟨1, "u".toList, "0".toList⟩ : Entry), member,
      ⟨3, "sem://aws:sm/a/s".toList, []⟩], e.BarFree := by
    decide +kernel
  rw [(resolve_eq_uncached pair earlier now false).1]
  decide +kernel

end Uncached
end SecretEnv

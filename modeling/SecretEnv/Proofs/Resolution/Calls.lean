import Mathlib.Data.Finset.Card
import Mathlib.Data.Finset.Option
import SecretEnv.Proofs.Registry.Memoization
import SecretEnv.Proofs.Resolution.Visits

/-!
# Calls of backends

How often a run asks the backend of a platform.

* `Visit.fetched?`: what comes back on a visit, and `Visit.calls?_left` whether a backend
  is called for it;
* `newKeys`: the cache keys of what a run fetches that were not cached before;
* `failsFor`: whether a run ends because a fetch fails;
* `calls?_resolve`: a run calls a backend once for each new key, and once more if it ends so.

A key that comes back on several visits is new on the first only, so the keys of the
first visit and those of the rest are disjoint.
-/

namespace SecretEnv

/-- Whether an error says that a secret could not be fetched. -/
def ResolveError.isFetchFailure : ResolveError → Bool
  | .secretFetchFailed _ _ _ => true
  | .notJson _ _ _ | .keyNotFound _ _ _ _ => false

/-- A secret that was fetched and gives no variables has no value under the key. -/
theorem Entry.exists_scalarError {whole : Bool} {e : Entry} {a : Address} {raw : Text}
    {err : ResolveError} (h : e.secretVariables whole a raw = .error err) :
    ∃ source, err = e.scalarError a source := by
  unfold Entry.secretVariables at h
  by_cases all : (!whole && !a.hasKey) = true
  · rw [if_pos all] at h
    cases h
  · rw [if_neg all] at h
    cases scalar : Secret.scalar raw a.key with
    | ok value =>
      rw [scalar] at h
      cases h
    | error source =>
      rw [scalar] at h
      exact ⟨source, (Except.error.inj h).symm⟩

namespace Registry

/-! ### One visit -/

/-- How often the backend that serves a platform was asked, if there is one. -/
def calls? (g : Registry) (platform : Text) : Option Nat :=
  (g.serving? platform).map Registered.calls

theorem fetch_of_unserved {g : Registry} {a : Address} (h : (g.fetch a).1 = none) :
    (g.fetch a).2 = g := by
  obtain ⟨l⟩ := g
  simp only [fetch] at h ⊢
  congr 1
  induction l with
  | nil => rfl
  | cons r l ih =>
    rw [fetchFrom] at h ⊢
    split_ifs at h ⊢ with own
    rw [ih h]

/-- The backend of the platform is asked for what the cache does not hold. -/
theorem calls?_fetch (g : Registry) (a : Address) (platform : Text) :
    (g.fetch a).2.calls? platform = (g.calls? platform).map fun n =>
      n + if a.platform = platform ∧ g.recalled platform a.cacheKey = none then 1 else 0 := by
  unfold calls?
  rw [serving?_fetch]
  by_cases own : a.platform = platform
  · subst own
    cases serving : g.serving? a.platform with
    | none => simp
    | some r =>
      have held : g.recalled a.platform a.cacheKey = r.cache.get? a.cacheKey := by
        rw [recalled, serving, Option.bind_some]
      simp only [held, if_true, true_and, Option.map_some, Option.some.injEq]
      cases hit : r.cache.get? a.cacheKey with
      | some secret => simp [Registered.fetch_of_cached hit]
      | none => simp [(Registered.fetch_of_not_cached hit).2]
  · simp only [own, if_false, false_and, Nat.add_zero]
    exact Option.map_id'.symm

theorem not_recalled_of_error {g : Registry} {a : Address} {source : BackendError}
    (h : (g.fetch a).1 = some (.error source)) : g.recalled a.platform a.cacheKey = none := by
  by_contra held
  obtain ⟨secret, held⟩ := Option.ne_none_iff_exists'.1 held
  rw [fetch_of_recalled held] at h
  cases h

namespace Visit

variable {whole : Bool} {v : Visit} {platform : Text}

/-- What is fetched on a visit, if the platform is served: an address with its answer. -/
def fetched? (v : Visit) : Option (Address × Except BackendError Text) :=
  v.entry.address?.bind fun a => (v.registry.fetch a).1.map fun answer => (a, answer)

/-- The cache key under which a secret of a platform comes back. -/
def secretKey? (platform : Text) (v : Visit) : Option Text :=
  match v.fetched? with
  | some (a, .ok _) => if a.platform = platform then some a.cacheKey else none
  | _ => none

/-- Whether a fetch for a platform fails. -/
def fails (platform : Text) (v : Visit) : Bool :=
  match v.fetched? with
  | some (a, .error _) => a.platform = platform
  | _ => false

/-- A visit without a fetch changes nothing; otherwise the answer decides. -/
theorem cases_fetched (whole : Bool) (v : Visit) :
    (v.fetched? = none ∧ v.result whole = .ok v.entry.literal ∧ v.left whole = v.registry) ∨
      ∃ a answer, v.entry.address? = some a ∧ (v.registry.fetch a).1 = some answer ∧
        v.fetched? = some (a, answer) ∧ v.result whole = v.entry.resolved whole a (some answer) ∧
        v.left whole = (v.registry.fetch a).2 := by
  unfold fetched? result left resolveEntry
  cases v.entry.address? with
  | none => exact .inl ⟨rfl, rfl, rfl⟩
  | some a =>
    cases served : (v.registry.fetch a).1 with
    | none =>
      refine .inl ⟨?_, ?_, fetch_of_unserved served⟩
      · rw [Option.bind_some, served, Option.map_none]
      · simp [served, Entry.resolved]
    | some answer =>
      refine .inr ⟨a, answer, rfl, served, ?_, ?_, rfl⟩
      · rw [Option.bind_some, served, Option.map_some]
      · simp [served]

/-- What is not cached after a visit was not before, and did not come back on it. -/
theorem recalled_left_eq_none_iff {key : Text} :
    (v.left whole).recalled platform key = none ↔
      v.registry.recalled platform key = none ∧ v.secretKey? platform ≠ some key := by
  unfold secretKey?
  obtain ⟨fetched, -, left⟩ | ⟨a, answer, -, served, fetched, -, left⟩ := v.cases_fetched whole
  · simp [fetched, left]
  · rw [fetched, left, recalled_fetch, served]
    by_cases own : a.platform = platform ∧ a.cacheKey = key
    · obtain ⟨rfl, rfl⟩ := own
      cases answer with
      | error e => simp [not_recalled_of_error served, Except.toOption]
      | ok secret => simp [Except.toOption]
    · cases answer with
      | error e => simp [own]
      | ok secret =>
        by_cases same : a.platform = platform
        · have ne : a.cacheKey ≠ key := fun e => own ⟨same, e⟩
          simp [same, ne]
        · simp [same]

/-- A visit calls the backend of a platform for a secret that is not cached, and for a
fetch that fails. -/
theorem calls?_left (whole : Bool) (v : Visit) (platform : Text) :
    (v.left whole).calls? platform = (v.registry.calls? platform).map fun n =>
      n + ((v.secretKey? platform).toFinset.filter
        fun key => v.registry.recalled platform key = none).card +
        if v.fails platform then 1 else 0 := by
  unfold secretKey? fails
  obtain ⟨fetched, -, left⟩ | ⟨a, answer, -, served, fetched, -, left⟩ := v.cases_fetched whole
  · rw [fetched, left]
    exact Option.map_id'.symm
  · rw [fetched, left, calls?_fetch]
    congr 1
    funext n
    by_cases own : a.platform = platform
    · subst own
      cases answer with
      | error e => simp [not_recalled_of_error served]
      | ok secret =>
        by_cases miss : v.registry.recalled a.platform a.cacheKey = none
        · simp [miss, Finset.filter_singleton]
        · simp [miss, Finset.filter_singleton]
    · cases answer with
      | error e => simp [own]
      | ok secret => simp [own]

/-- A visit with an error fails for the platform of its address if the error is that of a
fetch. -/
theorem fails_of_error {err : ResolveError} (h : v.result whole = .error err) :
    v.fails platform =
      (err.isFetchFailure && v.entry.address?.any fun a => a.platform = platform) := by
  unfold fails
  obtain ⟨-, result, -⟩ | ⟨a, answer, address, -, fetched, result, -⟩ := v.cases_fetched whole
  · rw [result] at h
    cases h
  · rw [result] at h
    rw [fetched, address]
    cases answer with
    | error source =>
      obtain rfl := Except.error.inj h
      rfl
    | ok raw =>
      obtain ⟨source, rfl⟩ := Entry.exists_scalarError h
      cases source <;> rfl

theorem fails_of_ok {new : Variables} (h : v.result whole = .ok new) :
    v.fails platform = false := by
  unfold fails
  obtain ⟨fetched, -, -⟩ | ⟨a, answer, -, -, fetched, result, -⟩ := v.cases_fetched whole
  · rw [fetched]
  · rw [fetched]
    cases answer with
    | error source =>
      rw [result] at h
      cases h
    | ok raw => rfl

end Visit

/-! ### Calls of a run -/

/-- The cache keys of a platform's addresses whose secrets a run fetches, without those
that were cached before. -/
def newKeys (whole : Bool) (es : List Entry) (g : Registry) (platform : Text) : Finset Text :=
  ((g.visits whole es).filterMap (Visit.secretKey? platform)).toFinset.filter
    fun key => g.recalled platform key = none

/-- Whether a run ends because a fetch for a platform fails. -/
def failsFor (whole : Bool) (es : List Entry) (g : Registry) (platform : Text) : Bool :=
  match (g.resolve whole es).1, (g.visits whole es).getLast? with
  | .error err, some v => err.isFetchFailure && v.entry.address?.any fun a => a.platform = platform
  | _, _ => false

variable {whole : Bool} {g : Registry} {e : Entry} {es : List Entry} {new : Variables}
  {err : ResolveError} {platform : Text}

theorem failsFor_cons_of_error (h : Visit.result whole ⟨e, g⟩ = .error err) :
    g.failsFor whole (e :: es) platform = Visit.fails platform ⟨e, g⟩ := by
  unfold failsFor
  rw [resolve_cons_of_error h, visits_cons_of_error h, Visit.fails_of_error h]
  rfl

theorem failsFor_cons_of_ok (h : Visit.result whole ⟨e, g⟩ = .ok new) :
    g.failsFor whole (e :: es) platform =
      (Visit.left whole ⟨e, g⟩).failsFor whole es platform := by
  unfold failsFor
  obtain ⟨-, errors⟩ := resolve_cons_of_ok h es
  rw [visits_cons_of_ok h]
  cases rest : ((Visit.left whole ⟨e, g⟩).resolve whole es).1 with
  | error err =>
    rw [(errors err).2 rest]
    cases es with
    | nil => cases rest
    | cons d es =>
      rw [visits, List.getLast?_cons_cons]
  | ok vars =>
    cases first : (g.resolve whole (e :: es)).1 with
    | error err =>
      rw [(errors err).1 first] at rest
      cases rest
    | ok vars' => rfl

/-- Which keys are new: those of secrets that come back on a visit. -/
theorem mem_newKeys_iff {key : Text} :
    key ∈ g.newKeys whole es platform ↔
      (∃ v ∈ g.visits whole es, v.secretKey? platform = some key) ∧
        g.recalled platform key = none := by
  simp [newKeys]

theorem newKeys_cons_of_error (h : Visit.result whole ⟨e, g⟩ = .error err) :
    g.newKeys whole (e :: es) platform =
      (Visit.secretKey? platform ⟨e, g⟩).toFinset.filter
        fun key => g.recalled platform key = none := by
  ext key
  rw [mem_newKeys_iff, visits_cons_of_error h]
  simp

theorem newKeys_cons_of_ok (h : Visit.result whole ⟨e, g⟩ = .ok new) :
    g.newKeys whole (e :: es) platform =
      ((Visit.secretKey? platform ⟨e, g⟩).toFinset.filter
        fun key => g.recalled platform key = none) ∪
      (Visit.left whole ⟨e, g⟩).newKeys whole es platform := by
  ext key
  rw [Finset.mem_union, mem_newKeys_iff, mem_newKeys_iff, visits_cons_of_ok h,
    Visit.recalled_left_eq_none_iff]
  by_cases own : Visit.secretKey? platform ⟨e, g⟩ = some key
  · simp [own]
  · simp [own]

theorem disjoint_newKeys :
    Disjoint ((Visit.secretKey? platform ⟨e, g⟩).toFinset.filter
        fun key => g.recalled platform key = none)
      ((Visit.left whole ⟨e, g⟩).newKeys whole es platform) := by
  rw [Finset.disjoint_left]
  intro key own rest
  rw [mem_newKeys_iff, Visit.recalled_left_eq_none_iff] at rest
  rw [Finset.mem_filter, Option.mem_toFinset] at own
  exact rest.2.2 own.1

/-- A run calls the backend of a platform once for each key that is new, and once more if it
ends because a fetch for the platform fails. -/
theorem calls?_resolve (whole : Bool) (es : List Entry) (g : Registry) (platform : Text) :
    (g.resolve whole es).2.calls? platform = (g.calls? platform).map fun n =>
      n + (g.newKeys whole es platform).card + if g.failsFor whole es platform then 1 else 0 := by
  induction es generalizing g with
  | nil => exact Option.map_id'.symm
  | cons e es ih =>
    have step := Visit.calls?_left whole ⟨e, g⟩ platform
    cases h : Visit.result whole ⟨e, g⟩ with
    | error err =>
      rw [resolve_cons_of_error h, newKeys_cons_of_error h, failsFor_cons_of_error h]
      exact step
    | ok new =>
      rw [(resolve_cons_of_ok h es).1, ih, step, Option.map_map, newKeys_cons_of_ok h,
        Finset.card_union_of_disjoint disjoint_newKeys, failsFor_cons_of_ok h,
        Visit.fails_of_ok h]
      congr 1
      funext n
      simp only [Function.comp_apply, Bool.false_eq_true, if_false]
      omega

end Registry
end SecretEnv

import SecretEnv.Proofs.TextMap
import SecretEnv.Resolution

/-!
# Runs entry by entry

A run of `Registry.resolve` comes to its entries one after the other, and to none
behind the first that fails.

* `Registry.visits` lists the entries that a run comes to, each with the registry
  as the run finds it;
* `mem_visits_iff`: that is the registry after the entries before;
* `fst_resolveInto`: what the visits give, merged, is what the run gives.
-/

namespace SecretEnv

/-! ### Results for all members of a list -/

namespace Results

variable {α β ε : Type} {f : α → Except ε β}

theorem mapM_cons_eq_ok_iff {a : α} {l : List α} {results : List β} :
    (a :: l).mapM f = .ok results ↔
      ∃ b rest, f a = .ok b ∧ l.mapM f = .ok rest ∧ results = b :: rest := by
  rw [List.mapM_cons]
  cases f a with
  | error e => exact ⟨nofun, nofun⟩
  | ok b =>
    cases l.mapM f with
    | error e => exact ⟨nofun, nofun⟩
    | ok rest =>
      show Except.ok (b :: rest) = Except.ok results ↔ _
      simp [eq_comm]

theorem exists_mapM_eq_ok_iff {l : List α} :
    (∃ results, l.mapM f = .ok results) ↔ ∀ a ∈ l, ∃ b, f a = .ok b := by
  induction l with
  | nil => exact ⟨nofun, fun _ => ⟨[], rfl⟩⟩
  | cons a l ih =>
    rw [List.forall_mem_cons, ← ih]
    constructor
    · rintro ⟨results, h⟩
      obtain ⟨b, rest, first, others, -⟩ := mapM_cons_eq_ok_iff.1 h
      exact ⟨⟨b, first⟩, rest, others⟩
    · rintro ⟨⟨b, first⟩, rest, others⟩
      exact ⟨b :: rest, mapM_cons_eq_ok_iff.2 ⟨b, rest, first, others, rfl⟩⟩

theorem mem_of_mapM_eq_ok {l : List α} {results : List β} (h : l.mapM f = .ok results) {b : β} :
    b ∈ results ↔ ∃ a ∈ l, f a = .ok b := by
  induction l generalizing results with
  | nil =>
    cases h
    simp
  | cons a l ih =>
    obtain ⟨c, rest, first, others, rfl⟩ := mapM_cons_eq_ok_iff.1 h
    rw [List.mem_cons, ih others, List.exists_mem_cons_iff, first, Except.ok.injEq, eq_comm]

end Results

namespace Registry

/-! ### Visits -/

/-- An entry that a run comes to, with the registry as the run finds it. -/
structure Visit where
  entry : Entry
  registry : Registry

namespace Visit

/-- What the entry stands for. -/
def result (whole : Bool) (v : Visit) : Except ResolveError Variables :=
  (v.registry.resolveEntry whole v.entry).1

/-- The registry as it is left. -/
def left (whole : Bool) (v : Visit) : Registry := (v.registry.resolveEntry whole v.entry).2

end Visit

/-- The visits of a run. -/
def visits (whole : Bool) : List Entry → Registry → List Visit
  | [], _ => []
  | e :: es, g =>
    ⟨e, g⟩ ::
      match Visit.result whole ⟨e, g⟩ with
      | .ok _ => visits whole es (Visit.left whole ⟨e, g⟩)
      | .error _ => []

variable {whole : Bool} {g : Registry} {e : Entry} {es : List Entry} {new : Variables}
  {err : ResolveError}

/-! ### One entry more -/

theorem visits_cons_of_ok (h : Visit.result whole ⟨e, g⟩ = .ok new) :
    g.visits whole (e :: es) = ⟨e, g⟩ :: (Visit.left whole ⟨e, g⟩).visits whole es := by
  rw [visits, h]

theorem visits_cons_of_error (h : Visit.result whole ⟨e, g⟩ = .error err) :
    g.visits whole (e :: es) = [⟨e, g⟩] := by
  rw [visits, h]

theorem resolveInto_cons_of_ok (h : Visit.result whole ⟨e, g⟩ = .ok new) (vars : Variables) :
    g.resolveInto whole vars (e :: es) =
      (Visit.left whole ⟨e, g⟩).resolveInto whole (vars.extend new) es := by
  have step : g.resolveEntry whole e = (.ok new, Visit.left whole ⟨e, g⟩) := Prod.ext h rfl
  rw [resolveInto, step]

theorem resolveInto_cons_of_error (h : Visit.result whole ⟨e, g⟩ = .error err)
    (vars : Variables) :
    g.resolveInto whole vars (e :: es) = (.error err, Visit.left whole ⟨e, g⟩) := by
  have step : g.resolveEntry whole e = (.error err, Visit.left whole ⟨e, g⟩) := Prod.ext h rfl
  rw [resolveInto, step]

/-! ### Whole runs -/

/-- A run gives what its visits give, merged into what there was, or the error of the last. -/
theorem fst_resolveInto (vars : Variables) :
    (g.resolveInto whole vars es).1 =
      ((g.visits whole es).mapM (Visit.result whole)).map
        fun maps => vars.insertAll (maps.flatMap TextMap.pairs) := by
  induction es generalizing g vars with
  | nil => rfl
  | cons e es ih =>
    cases h : Visit.result whole ⟨e, g⟩ with
    | error err =>
      rw [resolveInto_cons_of_error h, visits_cons_of_error h, List.mapM_cons, h]
      rfl
    | ok new =>
      rw [resolveInto_cons_of_ok h, visits_cons_of_ok h, ih, List.mapM_cons, h]
      cases ((Visit.left whole ⟨e, g⟩).visits whole es).mapM (Visit.result whole) with
      | error err => rfl
      | ok maps =>
        show Except.ok ((vars.extend new).insertAll (maps.flatMap TextMap.pairs)) =
          Except.ok (vars.insertAll ((new :: maps).flatMap TextMap.pairs))
        rw [List.flatMap_cons, TextMap.insertAll_append, TextMap.extend]

/-- The registry that a run leaves does not depend on the variables that there were. -/
theorem snd_resolveInto (vars vars' : Variables) :
    (g.resolveInto whole vars es).2 = (g.resolveInto whole vars' es).2 := by
  induction es generalizing g vars vars' with
  | nil => rfl
  | cons e es ih =>
    cases h : Visit.result whole ⟨e, g⟩ with
    | error err => rw [resolveInto_cons_of_error h, resolveInto_cons_of_error h]
    | ok new =>
      rw [resolveInto_cons_of_ok h, resolveInto_cons_of_ok h]
      exact ih _ _

/-- A run that succeeds has visits that do, and merges what they give. -/
theorem fst_resolve_eq_ok_iff {vars : Variables} :
    (g.resolve whole es).1 = .ok vars ↔
      ∃ maps, (g.visits whole es).mapM (Visit.result whole) = .ok maps ∧
        vars = TextMap.ofPairs (maps.flatMap TextMap.pairs) := by
  rw [resolve, fst_resolveInto]
  cases (g.visits whole es).mapM (Visit.result whole) with
  | error e => exact ⟨nofun, nofun⟩
  | ok maps =>
    show Except.ok (TextMap.ofPairs (maps.flatMap TextMap.pairs)) = Except.ok vars ↔ _
    simp [eq_comm]

/-- A run that fails has the error of its last visit. -/
theorem fst_resolve_eq_error_iff :
    (g.resolve whole es).1 = .error err ↔
      (g.visits whole es).mapM (Visit.result whole) = .error err := by
  rw [resolve, fst_resolveInto]
  cases (g.visits whole es).mapM (Visit.result whole) with
  | error e =>
    show Except.error e = Except.error err ↔ _
    simp
  | ok maps => exact ⟨nofun, nofun⟩

theorem resolve_cons_of_error (h : Visit.result whole ⟨e, g⟩ = .error err) :
    g.resolve whole (e :: es) = (.error err, Visit.left whole ⟨e, g⟩) :=
  resolveInto_cons_of_error h _

theorem resolve_cons_of_ok (h : Visit.result whole ⟨e, g⟩ = .ok new) (es : List Entry) :
    (g.resolve whole (e :: es)).2 = ((Visit.left whole ⟨e, g⟩).resolve whole es).2 ∧
      ∀ err, (g.resolve whole (e :: es)).1 = .error err ↔
        ((Visit.left whole ⟨e, g⟩).resolve whole es).1 = .error err := by
  refine ⟨?_, fun err => ?_⟩
  · rw [resolve, resolveInto_cons_of_ok h]
    exact snd_resolveInto _ _
  · rw [fst_resolve_eq_error_iff, fst_resolve_eq_error_iff, visits_cons_of_ok h, List.mapM_cons, h]
    cases ((Visit.left whole ⟨e, g⟩).visits whole es).mapM (Visit.result whole) with
    | error e => exact Iff.rfl
    | ok maps => exact ⟨nofun, nofun⟩

/-- A run that succeeds, and the registry that it leaves. -/
def Leaves (whole : Bool) (es : List Entry) (g left : Registry) : Prop :=
  ∃ vars, g.resolve whole es = (.ok vars, left)

theorem leaves_nil_iff {left : Registry} : Leaves whole [] g left ↔ left = g := by
  constructor
  · rintro ⟨vars, h⟩
    exact (congrArg Prod.snd h).symm
  · rintro rfl
    exact ⟨TextMap.empty, rfl⟩

theorem leaves_cons_iff {left : Registry} :
    Leaves whole (e :: es) g left ↔
      (∃ new, Visit.result whole ⟨e, g⟩ = .ok new) ∧
        Leaves whole es (Visit.left whole ⟨e, g⟩) left := by
  cases h : Visit.result whole ⟨e, g⟩ with
  | error err =>
    refine ⟨?_, nofun⟩
    rintro ⟨vars, run⟩
    rw [resolve_cons_of_error h] at run
    cases run
  | ok new =>
    obtain ⟨same, errors⟩ := resolve_cons_of_ok h es
    unfold Leaves
    cases first : g.resolve whole (e :: es) with
    | mk result k =>
      cases rest : (Visit.left whole ⟨e, g⟩).resolve whole es with
      | mk result' k' =>
        rw [first, rest] at same errors
        obtain rfl : k = k' := same
        cases result with
        | error err =>
          obtain rfl : result' = .error err := (errors err).1 rfl
          simp
        | ok vars =>
          cases result' with
          | error err => exact nomatch (errors err).2 rfl
          | ok vars' => simp

/-- A run comes to an entry, and finds the registry that the entries before it leave. -/
theorem mem_visits_iff {v : Visit} :
    v ∈ g.visits whole es ↔
      ∃ before after, es = before ++ v.entry :: after ∧ Leaves whole before g v.registry := by
  induction es generalizing g with
  | nil => simp [visits]
  | cons e es ih =>
    -- the first visit finds `g`, and there are others only if it does not fail
    have mem : v ∈ g.visits whole (e :: es) ↔ v = ⟨e, g⟩ ∨
        (∃ new, Visit.result whole ⟨e, g⟩ = .ok new) ∧
          v ∈ (Visit.left whole ⟨e, g⟩).visits whole es := by
      cases h : Visit.result whole ⟨e, g⟩ with
      | error err => simp [visits_cons_of_error h]
      | ok new => simp [visits_cons_of_ok h]
    rw [mem, ih]
    constructor
    · rintro (rfl | ⟨first, before, after, rfl, rest⟩)
      · exact ⟨[], es, rfl, leaves_nil_iff.2 rfl⟩
      · exact ⟨e :: before, after, rfl, leaves_cons_iff.2 ⟨first, rest⟩⟩
    · rintro ⟨before, after, split, run⟩
      cases before with
      | nil =>
        obtain ⟨rfl, rfl⟩ := List.cons.inj split
        obtain ⟨entry, registry⟩ := v
        obtain rfl : registry = g := leaves_nil_iff.1 run
        exact .inl rfl
      | cons b before =>
        obtain ⟨rfl, rfl⟩ := List.cons.inj split
        obtain ⟨first, rest⟩ := leaves_cons_iff.1 run
        exact .inr ⟨first, before, after, rfl, rest⟩

theorem map_entry_visits {left : Registry} (h : Leaves whole es g left) :
    (g.visits whole es).map Visit.entry = es := by
  induction es generalizing g with
  | nil => rfl
  | cons e es ih =>
    obtain ⟨⟨new, first⟩, rest⟩ := leaves_cons_iff.1 h
    rw [visits_cons_of_ok first, List.map_cons, ih rest]

end Registry
end SecretEnv

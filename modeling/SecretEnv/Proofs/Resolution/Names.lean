import SecretEnv.Proofs.Address.RoundTrip
import SecretEnv.Proofs.Resolution.Visits

/-!
# Names of variables

Where an empty name among the variables of a run comes from.

* `Json.Nameless`: empty names of members lead to a scalar;
* `Json.nil_mem_leaves_iff`: that scalar has no name if the whole has none;
* `Visit.Nameless`: on a visit such a secret is divided, under no name;
* `nil_mem_keys_resolve_iff`: a run gives the empty name on such visits and on no others.

Everywhere else a name is a key of an entry, a key that was asked for, or the name of a
secret, and none of these is empty.
-/

namespace SecretEnv

/-! ### Names in a value -/

@[simp] theorem joinName_eq_nil_iff {outer inner : Text} :
    joinName outer inner = [] ↔ outer = [] ∧ inner = [] := by
  unfold joinName
  split_ifs with empty
  · simp [empty]
  · simp [empty]

namespace Json

/-- Empty names of members lead to a scalar. -/
inductive Nameless : Json → Prop
  | scalar {v : Json} (single : v.isContainer = false) : Nameless v
  | member {v : Json} {members : List (Text × Json)} (mem : ([], v) ∈ members)
      (inner : Nameless v) : Nameless (.object members)

theorem nameless_object_iff {members : List (Text × Json)} :
    Nameless (.object members) ↔ ∃ v, ([], v) ∈ members ∧ Nameless v := by
  constructor
  · rintro (single | ⟨mem, inner⟩)
    · cases single
    · exact ⟨_, mem, inner⟩
  · rintro ⟨v, mem, inner⟩
    exact .member mem inner

theorem not_nameless_array {items : List Json} : ¬ Nameless (.array items) := by
  rintro (single | _)
  cases single

theorem nil_mem_leaves_of_scalar {v : Json} (single : v.isContainer = false) (name : Text) :
    [] ∈ (v.leaves name).map Prod.fst ↔ name = [] ∧ v.Nameless := by
  have leaf : v.leaves name = [(name, v.plain)] := by
    cases v with
    | array items => cases single
    | object members => cases single
    | _ => rfl
  simp [leaf, Nameless.scalar single, eq_comm]

mutual

/-- A scalar has no name if the whole has none and empty names lead to it. -/
theorem nil_mem_leaves_iff : (name : Text) → (v : Json) →
    ([] ∈ (v.leaves name).map Prod.fst ↔ name = [] ∧ v.Nameless)
  | name, .null | name, .bool _ | name, .number _ | name, .string _ =>
    nil_mem_leaves_of_scalar rfl name
  | name, .array items => by
    rw [leaves]
    exact iff_of_false (nil_notMem_itemLeaves name 0 items) fun h => not_nameless_array h.2
  | name, .object members => by
    rw [leaves, nil_mem_memberLeaves_iff name members, nameless_object_iff]

theorem nil_notMem_itemLeaves : (name : Text) → (i : Nat) → (items : List Json) →
    [] ∉ (itemLeaves name i items).map Prod.fst
  | _, _, [] => List.not_mem_nil
  | name, i, v :: vs => by
    have named : Text.decimal i ≠ [] := Nat.toDigits_ne_nil
    rw [itemLeaves, List.map_append, List.mem_append, nil_mem_leaves_iff, joinName_eq_nil_iff]
    rintro (⟨⟨-, index⟩, -⟩ | rest)
    · exact named index
    · exact nil_notMem_itemLeaves name (i + 1) vs rest

theorem nil_mem_memberLeaves_iff : (name : Text) → (members : List (Text × Json)) →
    ([] ∈ (memberLeaves name members).map Prod.fst ↔
      name = [] ∧ ∃ v, ([], v) ∈ members ∧ v.Nameless)
  | name, [] => by simp [memberLeaves]
  | name, (member, v) :: ms => by
    rw [memberLeaves, List.map_append, List.mem_append, nil_mem_leaves_iff, joinName_eq_nil_iff,
      nil_mem_memberLeaves_iff name ms]
    constructor
    · rintro (⟨⟨rfl, rfl⟩, inner⟩ | ⟨rfl, w, mem, inner⟩)
      · exact ⟨rfl, v, List.mem_cons_self, inner⟩
      · exact ⟨rfl, w, List.mem_cons_of_mem _ mem, inner⟩
    · rintro ⟨rfl, w, mem, inner⟩
      rcases List.mem_cons.1 mem with e | mem
      · obtain ⟨rfl, rfl⟩ := Prod.mk.inj e
        exact .inl ⟨⟨rfl, rfl⟩, inner⟩
      · exact .inr ⟨rfl, w, mem, inner⟩

end

end Json

/-- A secret gives the empty name if it is divided, under no name, and empty names lead to a
scalar. -/
theorem Secret.nil_mem_keys_expand_iff {name fallback raw : Text} (given : fallback ≠ []) :
    [] ∈ (expand name fallback raw).keys ↔
      name = [] ∧ ∃ v, Json.parse? raw = some v ∧ v.isContainer = true ∧ v.Nameless := by
  have single (value : Text) :
      [] ∉ (TextMap.empty.insert (if name = [] then fallback else name) value).keys := by
    rw [TextMap.mem_keys_single_iff]
    split_ifs with empty
    · exact given.symm
    · exact Ne.symm empty
  unfold expand
  cases Json.parse? raw with
  | none => exact iff_of_false (single raw) (by simp)
  | some v =>
    by_cases container : v.isContainer = true
    · simp only [container, if_true, Json.expandInto, TextMap.mem_keys_insertAll_iff,
        Json.nil_mem_leaves_iff]
      simp [TextMap.keys, container]
    · simp only [container]
      exact iff_of_false (single v.plain) (by simp [container])

/-! ### Names of an entry -/

namespace Entry

theorem nil_notMem_keys_literal (e : Entry) : [] ∉ e.literal.keys := by
  unfold literal
  split_ifs with empty
  · exact List.not_mem_nil
  · rw [TextMap.mem_keys_single_iff]
    exact Ne.symm empty

theorem canonical_of_address? {e : Entry} {a : Address} (h : e.address? = some a) :
    a.Canonical := by
  unfold address? at h
  cases parsed : Address.parse e.candidate with
  | error err =>
    rw [parsed] at h
    cases h
  | ok b =>
    rw [parsed] at h
    obtain rfl := Option.some.inj h
    exact Address.canonical_of_parse parsed

/-- Only a secret that is divided gives the empty name: one value has the name of its secret,
the key that was asked for, or the key of the entry. -/
theorem nil_mem_keys_secretVariables_iff {whole : Bool} {e : Entry} {a : Address} {raw : Text}
    (canonical : a.Canonical) :
    (∃ vars, e.secretVariables whole a raw = .ok vars ∧ [] ∈ vars.keys) ↔
      whole = false ∧ a.key = none ∧ e.namePrefix = [] ∧
        ∃ v, Json.parse? raw = some v ∧ v.isContainer = true ∧ v.Nameless := by
  have divided : (!whole && !a.hasKey) = true ↔ whole = false ∧ a.key = none := by
    simp [Address.hasKey]
  have named : (if e.namePrefix = [] then a.key.getD a.name else e.namePrefix) ≠ [] := by
    split_ifs with bare
    · cases key : a.key with
      | none => exact canonical.legal.name_ne_nil
      | some k => exact fun empty => canonical.key (key.trans (congrArg some empty))
    · exact bare
  rw [← and_assoc, ← divided, ← Secret.nil_mem_keys_expand_iff canonical.legal.name_ne_nil]
  unfold secretVariables
  by_cases all : (!whole && !a.hasKey) = true
  · rw [if_pos all]
    simp [all]
  · rw [if_neg all]
    -- the secret gives one variable, and that has a name
    refine iff_of_false ?_ fun h => all h.1
    rintro ⟨vars, ok, mem⟩
    cases scalar : Secret.scalar raw a.key with
    | error err =>
      rw [scalar] at ok
      cases ok
    | ok value =>
      rw [scalar] at ok
      obtain rfl := Except.ok.inj ok
      exact named (TextMap.mem_keys_single_iff.1 mem).symm

end Entry

namespace Registry

variable {whole : Bool} {g : Registry} {es : List Entry} {v : Visit}

/-! ### Names of a run -/

/-- On a visit a secret is divided, under no name, in which empty names lead to a scalar. -/
def Visit.Nameless (whole : Bool) (v : Visit) : Prop :=
  ∃ a raw json, v.entry.address? = some a ∧ (v.registry.fetch a).1 = some (.ok raw) ∧
    whole = false ∧ a.key = none ∧ v.entry.namePrefix = [] ∧
    Json.parse? raw = some json ∧ json.isContainer = true ∧ json.Nameless

theorem Visit.nil_mem_keys_iff :
    (∃ new, v.result whole = .ok new ∧ [] ∈ new.keys) ↔ v.Nameless whole := by
  unfold Visit.result Visit.Nameless resolveEntry
  cases address : v.entry.address? with
  | none => simp [v.entry.nil_notMem_keys_literal]
  | some a =>
    cases answer : (v.registry.fetch a).1 with
    | none => simp [answer, Entry.resolved, v.entry.nil_notMem_keys_literal]
    | some result =>
      cases result with
      | error source => simp [answer, Entry.resolved]
      | ok raw =>
        have canonical := Entry.canonical_of_address? address
        simp [answer, Entry.resolved, Entry.nil_mem_keys_secretVariables_iff canonical]

/-- Which names a run gives: those that its visits give. -/
theorem mem_keys_resolve_iff {vars : Variables} (run : (g.resolve whole es).1 = .ok vars)
    {k : Text} :
    k ∈ vars.keys ↔ ∃ v ∈ g.visits whole es, ∃ new, v.result whole = .ok new ∧ k ∈ new.keys := by
  obtain ⟨maps, all, rfl⟩ := fst_resolve_eq_ok_iff.1 run
  rw [TextMap.mem_keys_ofPairs_iff, List.map_flatMap, List.mem_flatMap]
  constructor
  · rintro ⟨new, mem, held⟩
    obtain ⟨v, visited, ok⟩ := (Results.mem_of_mapM_eq_ok all).1 mem
    exact ⟨v, visited, new, ok, held⟩
  · rintro ⟨v, visited, new, ok, held⟩
    exact ⟨new, (Results.mem_of_mapM_eq_ok all).2 ⟨v, visited, ok⟩, held⟩

/-- A run gives a variable without a name exactly if on one of its visits a secret is divided,
under no name, in which empty names lead to a scalar. -/
theorem nil_mem_keys_resolve_iff {vars : Variables} (run : (g.resolve whole es).1 = .ok vars) :
    [] ∈ vars.keys ↔ ∃ v ∈ g.visits whole es, v.Nameless whole := by
  rw [mem_keys_resolve_iff run]
  exact exists_congr fun v => and_congr_right fun _ => Visit.nil_mem_keys_iff

/-- A registry with a single secret. -/
def holding (secret : String) : Registry :=
  Registry.empty.register "aws".toList (.memory (.ofPairs [("s".toList, secret.toList)]))

/-- The address of the secret alone. -/
def bare : Entry := ⟨1, "sem://aws:sm/a/s".toList, []⟩

/-- The scalar may be deep inside, as long as all names on the way are empty. -/
theorem nil_mem_keys_resolve_deep :
    ∃ v ∈ (holding "\x7b\"\":\x7b\"\":\"x\"\x7d\x7d").visits false [bare], v.Nameless false := by
  have run : ((holding "\x7b\"\":\x7b\"\":\"x\"\x7d\x7d").resolve false [bare]).1 =
      .ok (.ofPairs [([], "x".toList)]) := by
    decide +kernel
  exact (nil_mem_keys_resolve_iff run).1 (by decide +kernel)

/-- A secret with a member of no name gives a variable without one. -/
theorem nil_mem_keys_resolve_bare :
    ∃ vars, ((holding "\x7b\"\":\"x\"\x7d").resolve false [bare]).1 = .ok vars ∧
      [] ∈ vars.keys := by
  refine ⟨.ofPairs [([], "x".toList)], ?_, ?_⟩
  · decide +kernel
  · decide +kernel

end Registry
end SecretEnv

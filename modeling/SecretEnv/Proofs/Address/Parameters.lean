import SecretEnv.Proofs.Address.Grammar

/-!
# Parameters of addresses

Behind a path and a question mark any parameters may be written, in any order, with any
names, and with several values under one name.

* `First`: the value that counts under a name; `Taken`: what an address takes from it;
* `SameByName`: parameters of different names have changed places;
* `lookup_filter`: the value that counts is found among some of the parameters only;
* `parse_parameters`: an address takes version, key and region from the first parameters of
  these names, and nothing else in the list has an effect.
-/

namespace SecretEnv.Address

variable {params others : List (Text × Text)} {name value path : Text}

/-- The first parameter of a name has a value. -/
def First (params : List (Text × Text)) (name value : Text) : Prop :=
  ∃ before after, params = before ++ (name, value) :: after ∧ name ∉ before.map Prod.fst

/-- What is taken from parameters under a name: the value of the first parameter of that name.
If it is empty, whatever follows, or if there is none, the default is taken. -/
structure Taken (params : List (Text × Text)) (name : Text) (default taken : Option Text) :
    Prop where
  given : ∀ value, First params name value → value ≠ [] → taken = some value
  empty : First params name [] → taken = default
  absent : name ∉ params.map Prod.fst → taken = default

/-- Every name has the same parameters in the same order. Parameters of different names may
have changed places. -/
def SameByName (params others : List (Text × Text)) : Prop :=
  ∀ name, params.filter (·.1 = name) = others.filter (·.1 = name)

/-- The names that have a meaning. -/
def paramNames : List Text := [versionParam, keyParam, regionParam]

/-- An address with a path and parameters as they are written. -/
def withQuery (path : Text) (params : List (Text × Text)) : Text :=
  scheme ++ path ++ '?' :: FormUrl.render params

/-! ### The value that counts -/

theorem lookup_eq_some_iff_first : params.lookup name = some value ↔ First params name value := by
  rw [List.lookup_eq_some_iff]
  refine exists₂_congr fun before after => and_congr_right fun _ => ?_
  simp only [List.mem_map, not_exists, not_and, bne_iff_ne]
  exact ⟨fun ne p hp e => ne p hp e.symm, fun ne p hp e => ne p hp e.symm⟩

theorem lookup_eq_none_iff_notMem : params.lookup name = none ↔ name ∉ params.map Prod.fst := by
  simp only [List.lookup_eq_none_iff, List.mem_map, not_exists, not_and, bne_iff_ne]
  exact ⟨fun ne p hp e => ne p hp e.symm, fun ne p hp e => ne p hp e.symm⟩

/-- A parameter that may be missing is taken from the first of its name. -/
theorem taken_param? (params : List (Text × Text)) (name : Text) (default : Option Text) :
    Taken params name default ((param? params name).or default) where
  given := by
    intro value first ne
    rw [param?, lookup_eq_some_iff_first.2 first, Option.bind_some, nonEmpty?_of_ne_nil ne,
      Option.some_or]
  empty := by
    intro first
    rw [param?, lookup_eq_some_iff_first.2 first, Option.bind_some, nonEmpty?_eq_none_iff.2 rfl,
      Option.none_or]
  absent := by
    intro absent
    rw [param?, lookup_eq_none_iff_notMem.2 absent, Option.bind_none, Option.none_or]

theorem lookup_filter (keep : Text → Bool) (kept : keep name = true)
    (params : List (Text × Text)) :
    (params.filter fun p => keep p.1).lookup name = params.lookup name := by
  induction params with
  | nil => rfl
  | cons p params ih =>
    obtain ⟨n, value⟩ := p
    rw [List.filter_cons]
    by_cases own : name = n
    · subst own
      rw [if_pos kept, List.lookup_cons_self, List.lookup_cons_self]
    · have other : (name == n) = false := beq_eq_false_iff_ne.2 own
      rw [List.lookup_cons, other, ← ih]
      split
      · rw [List.lookup_cons, other]
      · rfl

/-- The value that counts under a name depends on the parameters of that name only. -/
theorem SameByName.lookup_eq (same : SameByName params others) (name : Text) :
    params.lookup name = others.lookup name := by
  have own : decide (name = name) = true := decide_eq_true rfl
  rw [← lookup_filter (· = name) own params, same name, lookup_filter (· = name) own others]

/-- Two parameters of different names may change places. -/
theorem SameByName.swap {p q : Text × Text} (ne : p.1 ≠ q.1) (before after : List (Text × Text)) :
    SameByName (before ++ p :: q :: after) (before ++ q :: p :: after) := by
  intro name
  rw [List.filter_append, List.filter_append]
  congr 1
  by_cases own : p.1 = name
  · have other : q.1 ≠ name := fun e => ne (own.trans e.symm)
    simp [own, other]
  · simp [List.filter_cons, own]

theorem withParams_congr (a : Address)
    (same : ∀ name ∈ paramNames, params.lookup name = others.lookup name) :
    a.withParams params = a.withParams others := by
  have version := same versionParam (by simp [paramNames])
  have key := same keyParam (by simp [paramNames])
  have region := same regionParam (by simp [paramNames])
  simp only [withParams, param?, version, key, region]

/-! ### Addresses with parameters -/

/-- Nothing is lost at the ends of an address with a question mark. -/
theorem trim_withQuery (path : Text) (params : List (Text × Text)) :
    (withQuery path params).trim = scheme ++ (path ++ '?' :: FormUrl.render params) := by
  have front : Text.trimStart (scheme ++ path) = scheme ++ path :=
    Text.trimStart_eq_self_iff.2 fun c first => by
      obtain rfl : 's' = c := Option.some.inj first
      decide
  have back : Text.trimEnd (FormUrl.render params) = FormUrl.render params :=
    Text.trimEnd_of_forall fun c hc => FormUrl.isBlank_of_mem_render hc
  rw [withQuery, Text.trim_append_cons (by decide), front, back, List.append_assoc]

/-- Behind a path without a question mark the parameters are read as they are. -/
theorem parse_withQuery (s : Spelling path) (question : '?' ∉ path)
    (params : List (Text × Text)) :
    parse (withQuery path params) =
      .ok ((new s.platform s.service s.account s.name).withParams params) := by
  rw [parse_of_trim (trim_withQuery path params), splitQuery_append question, s.components?_eq]
  simp only [FormUrl.parse_render]

/-- Version, key and region of an address are those of the first parameters of these names,
where they are not empty, and the platform's defaults otherwise, of which the key has none.
Parameters of other names have no effect, nor has the order of parameters of different names. -/
theorem parse_parameters (s : Spelling path) (question : '?' ∉ path)
    (params : List (Text × Text)) :
    (∃ a, parse (withQuery path params) = .ok a ∧
      a.platform = s.platform ∧ a.service = s.service ∧ a.account = s.account ∧ a.name = s.name ∧
      Taken params versionParam (some (Platform.defaultVersion s.platform)) (some a.version) ∧
      Taken params keyParam none a.key ∧
      Taken params regionParam (Platform.defaultRegion s.platform).nonEmpty? a.region) ∧
    parse (withQuery path (params.filter (·.1 ∈ paramNames))) = parse (withQuery path params) ∧
    ∀ others, SameByName params others →
      parse (withQuery path others) = parse (withQuery path params) := by
  refine ⟨⟨_, parse_withQuery s question params, rfl, rfl, rfl, rfl, ?_, ?_, ?_⟩, ?_, ?_⟩
  · have taken := taken_param? params versionParam (some (Platform.defaultVersion s.platform))
    rwa [Option.or_some] at taken
  · have taken := taken_param? params keyParam none
    rwa [Option.or_none] at taken
  · exact taken_param? params regionParam _
  · rw [parse_withQuery s question, parse_withQuery s question]
    refine congrArg _ (withParams_congr _ fun name known => ?_)
    exact lookup_filter (· ∈ paramNames) (decide_eq_true known) params
  · intro others same
    rw [parse_withQuery s question, parse_withQuery s question]
    exact congrArg _ (withParams_congr _ fun name _ => (same.lookup_eq name).symm)

/-- An empty key in front of another key, a version with signs that are escaped, and a name
without a meaning. -/
def tangled : List (Text × Text) :=
  [(keyParam, []), ("=".toList, "&key=".toList), (versionParam, "é&?".toList),
    (keyParam, "k".toList)]

/-- They give a version and no key, and so they do with the version in front of the name
without a meaning. -/
theorem parse_parameters_tangled :
    '?' ∉ "x:s/p/n ".toList ∧
      ∃ a, parse (withQuery "x:s/p/n ".toList tangled) = .ok a ∧
        a.version = "é&?".toList ∧ a.key = none ∧ a.region = none ∧
        parse (withQuery "x:s/p/n ".toList [(keyParam, []), (versionParam, "é&?".toList),
          ("=".toList, "&key=".toList), (keyParam, "k".toList)]) = .ok a := by
  have question : '?' ∉ "x:s/p/n ".toList := by decide
  have legal : Legal "x".toList "s".toList "p".toList "n ".toList := by constructor <;> decide
  obtain ⟨⟨a, read, -, -, -, -, version, key, region⟩, -, reordered⟩ :=
    parse_parameters ⟨"x".toList, "s".toList, "p".toList, "n ".toList, rfl, legal⟩ question tangled
  have ne : ("=".toList, "&key=".toList).1 ≠ (versionParam, "é&?".toList).1 := by decide
  refine ⟨question, a, read, ?_, ?_, ?_, ?_⟩
  · have first : First tangled versionParam "é&?".toList :=
      ⟨[(keyParam, []), ("=".toList, "&key=".toList)], [(keyParam, "k".toList)], rfl, by decide⟩
    exact Option.some.inj (version.given _ first (by decide))
  · exact key.empty ⟨[], _, rfl, by decide⟩
  · exact region.absent (by decide)
  · rw [← read]
    exact reordered _ (SameByName.swap ne [(keyParam, [])] [(keyParam, "k".toList)])

end SecretEnv.Address

import SecretEnv.Proofs.Address.Path
import SecretEnv.Proofs.Text.FormUrl
import SecretEnv.Proofs.Text.Trim

/-!
# Written addresses read back

* `Address.Canonical`: what holds of every address that was read;
* `parse_render_of_params`: with parameters such an address is read back;
* `parse_render_of_no_params`: without, its name loses the blanks at its end;
* `parse_render_iff`: so it is read back exactly if there are parameters, or no
  blank ends the name;
* `parse_render_of_default_version`: a default version is such a parameter.
-/

namespace SecretEnv.Address

variable {a : Address}

/-- What holds of an address that was read: its path is legal and without a question
mark, no default is missing, and what may be missing is not empty. -/
structure Canonical (a : Address) : Prop where
  legal : Legal a.platform a.service a.account a.name
  question_notMem_path : '?' ∉ a.path
  version : a.version = [] → Platform.defaultVersion a.platform = []
  key : a.key ≠ some []
  region : a.region ≠ some []
  default_region : a.region = none → Platform.defaultRegion a.platform = []

/-! ### Parameters -/

@[simp] theorem nonEmpty?_eq_none_iff {t : Text} : t.nonEmpty? = none ↔ t = [] := by
  simp [Text.nonEmpty?]

theorem nonEmpty?_of_ne_nil {t : Text} (h : t ≠ []) : t.nonEmpty? = some t := if_neg h

theorem nonEmpty?_ne_some_nil (t : Text) : t.nonEmpty? ≠ some [] := by
  by_cases empty : t = []
  · simp [empty, Text.nonEmpty?]
  · rw [nonEmpty?_of_ne_nil empty]
    exact fun e => empty (Option.some.inj e)

theorem param?_ne_some_nil (params : List (Text × Text)) (name : Text) :
    param? params name ≠ some [] := by
  unfold param?
  intro h
  obtain ⟨value, -, h⟩ := Option.bind_eq_some_iff.1 h
  exact nonEmpty?_ne_some_nil value h

/-- Parameters with distinct names may be left out if they are empty. -/
theorem param?_filter {params : List (Text × Text)} (h : (params.map Prod.fst).Nodup)
    (name : Text) : param? (params.filter fun p => p.2 ≠ []) name = param? params name := by
  induction params with
  | nil => rfl
  | cons p params ih =>
    obtain ⟨n, value⟩ := p
    obtain ⟨new, h⟩ := List.nodup_cons.1 h
    unfold param? at ih ⊢
    by_cases empty : value = []
    · rw [List.filter_cons_of_neg (by simp [empty]), ih h]
      by_cases own : name = n
      · -- the only parameter of the name is the one that is left out
        have absent : params.lookup name = none := by
          rw [List.lookup_eq_none_iff]
          intro q hq
          have ne : name ≠ q.1 := by
            intro e
            rw [← own, e] at new
            exact new (List.mem_map.2 ⟨q, hq, rfl⟩)
          simpa using ne
        rw [absent, own, List.lookup_cons_self, empty]
        rfl
      · rw [List.lookup_cons, beq_eq_false_iff_ne.2 own]
    · rw [List.filter_cons_of_pos (by simp [empty])]
      by_cases own : name = n
      · rw [own, List.lookup_cons_self, List.lookup_cons_self]
      · rw [List.lookup_cons, List.lookup_cons, beq_eq_false_iff_ne.2 own]
        exact ih h

theorem param?_params (a : Address) :
    param? a.params versionParam = a.version.nonEmpty? ∧
      param? a.params keyParam = (a.key.getD []).nonEmpty? ∧
      param? a.params regionParam = (a.region.getD []).nonEmpty? := by
  have names : ([(versionParam, a.version), (keyParam, a.key.getD []),
      (regionParam, a.region.getD [])].map Prod.fst).Nodup := by
    show [versionParam, keyParam, regionParam].Nodup
    decide
  have key_version : (keyParam == versionParam) = false := by decide
  have region_version : (regionParam == versionParam) = false := by decide
  have region_key : (regionParam == keyParam) = false := by decide
  unfold params
  rw [param?_filter names, param?_filter names, param?_filter names]
  simp [param?, List.lookup_cons, key_version, region_version, region_key]

/-- With its own parameters an address is complete again. -/
theorem withParams_params (h : Canonical a) :
    (new a.platform a.service a.account a.name).withParams a.params = a := by
  obtain ⟨version, key, region⟩ := param?_params a
  obtain ⟨-, -, default_version, key_ne, region_ne, default_region⟩ := h
  obtain ⟨platform, service, account, name, ver, k, r⟩ := a
  simp only [withParams, new, version, key, region, Address.mk.injEq, true_and]
  refine ⟨?_, ?_, ?_⟩
  · by_cases e : ver = []
    · rw [nonEmpty?_eq_none_iff.2 e, Option.getD_none, e]
      exact default_version e
    · rw [nonEmpty?_of_ne_nil e, Option.getD_some]
  · cases k with
    | none => rfl
    | some k => exact nonEmpty?_of_ne_nil fun e => key_ne (congrArg some e)
  · cases r with
    | none =>
      show Text.nonEmpty? (Platform.defaultRegion platform) = none
      exact nonEmpty?_eq_none_iff.2 (default_region rfl)
    | some r =>
      show (Text.nonEmpty? r).or _ = some r
      rw [nonEmpty?_of_ne_nil fun e => region_ne (congrArg some e), Option.some_or]

/-! ### Reading -/

theorem canonical_of_parse {t : Text} (h : parse t = .ok a) : Canonical a := by
  obtain ⟨rest, platform, service, account, name, -, parts, rfl⟩ := parse_eq_ok_iff.1 h
  obtain ⟨path_eq, legal⟩ := components?_eq_some_iff.1 parts
  have question := notMem_splitQuery rest
  rw [path_eq] at question
  generalize FormUrl.parse (splitQuery rest).2 = params
  have given (n : Text) {d : Text} (none_given : (param? params n).getD d = []) : d = [] := by
    cases p : param? params n with
    | none => simpa [p] using none_given
    | some value =>
      rw [p, Option.getD_some] at none_given
      exact absurd (none_given ▸ p) (param?_ne_some_nil params n)
  refine ⟨legal, question, given versionParam, param?_ne_some_nil params keyParam, ?_, ?_⟩
  · show (param? params regionParam).or (Text.nonEmpty? _) ≠ some []
    cases p : param? params regionParam with
    | none =>
      rw [Option.none_or]
      exact nonEmpty?_ne_some_nil _
    | some value =>
      rw [Option.some_or, ← p]
      exact param?_ne_some_nil params regionParam
  · show (param? params regionParam).or (Text.nonEmpty? _) = none → _
    rw [Option.or_eq_none_iff, nonEmpty?_eq_none_iff]
    exact And.right

/-- Of a written address only what stands behind the last slash of the path can be lost. -/
theorem trim_scheme_path (a : Address) (query : Text) :
    Text.trim (scheme ++ (a.path ++ query)) =
      scheme ++ a.platform ++ ':' :: a.service ++ '/' :: a.account ++ '/' ::
        Text.trimEnd (a.name ++ query) := by
  have split : scheme ++ (a.path ++ query) =
      (scheme ++ a.platform ++ ':' :: a.service ++ '/' :: a.account) ++
        '/' :: (a.name ++ query) := by
    simp [path]
  rw [split, Text.trim_append_cons (by decide)]
  rfl

/-- With parameters an address is read back. -/
theorem parse_render_of_params (h : Canonical a) (given : a.params ≠ []) :
    parse a.render = .ok a := by
  have solid : Text.trimEnd (FormUrl.render a.params) = FormUrl.render a.params :=
    Text.trimEnd_of_forall fun c hc => FormUrl.isBlank_of_mem_render hc
  have whole : a.render.trim = scheme ++ (a.path ++ '?' :: FormUrl.render a.params) := by
    rw [render, if_neg given, List.append_assoc, trim_scheme_path,
      Text.trimEnd_append_cons (by decide), solid]
    simp [path]
  rw [parse_eq_ok_iff]
  refine ⟨_, a.platform, a.service, a.account, a.name, whole, ?_, ?_⟩
  · rw [splitQuery_append h.question_notMem_path]
    exact components?_eq_some_iff.2 ⟨rfl, h.legal⟩
  · rw [splitQuery_append h.question_notMem_path, FormUrl.parse_render, withParams_params h]

/-- Without parameters the blanks at the end of the name are lost, and nothing is
read if no other character is in the name. -/
theorem parse_render_of_no_params (h : Canonical a) (bare : a.params = []) :
    parse a.render =
      if a.name.trimEnd = [] then .error .missingFields
      else .ok { a with name := a.name.trimEnd } := by
  have legal := h.legal
  have whole : a.render.trim = scheme ++ { a with name := a.name.trimEnd }.path := by
    rw [render, if_pos bare, List.append_assoc, trim_scheme_path, List.append_nil]
    simp [path]
  have question : '?' ∉ { a with name := a.name.trimEnd }.path := by
    have all := h.question_notMem_path
    simp only [path, List.mem_append, List.mem_cons, not_or] at all ⊢
    exact ⟨all.1, all.2.1, fun hc => all.2.2 (Text.mem_of_mem_trimEnd hc)⟩
  have complete : (new a.platform a.service a.account a.name.trimEnd).withParams
      (FormUrl.parse []) = { a with name := a.name.trimEnd } := by
    have whole := withParams_params h
    rw [bare] at whole
    exact congrArg (fun b : Address => { b with name := a.name.trimEnd }) whole
  rw [parse_of_trim whole, splitQuery_of_notMem question, path,
    components?_path legal.colon_notMem_platform legal.slash_notMem_platform
      legal.slash_notMem_service legal.slash_notMem_account]
  by_cases empty : a.name.trimEnd = []
  · simp [empty]
  · simp [empty, legal.platform_ne_nil, legal.service_ne_nil, legal.account_ne_nil, complete]

theorem params_eq_nil_iff (h : Canonical a) :
    a.params = [] ↔ a.version = [] ∧ a.key = none ∧ a.region = none := by
  have missing {o : Option Text} (ne : o ≠ some []) : o.getD [] = [] ↔ o = none := by
    cases o with
    | none => simp
    | some t => simpa using ne
  rw [← missing h.key, ← missing h.region, params, List.filter_eq_nil_iff]
  simp

/-- A platform with a default version always has parameters, so all of its addresses
that were read are read back. -/
theorem parse_render_of_default_version {t : Text} (h : parse t = .ok a)
    (default : Platform.defaultVersion a.platform ≠ []) : parse a.render = .ok a := by
  have canonical := canonical_of_parse h
  apply parse_render_of_params canonical
  intro bare
  exact default (canonical.version ((params_eq_nil_iff canonical).1 bare).1)

/-- An address that was read is read back from its written form exactly if it has a
parameter to write, or if no blank ends its name. -/
theorem parse_render_iff {t : Text} (h : parse t = .ok a) :
    parse a.render = .ok a ↔
      (a.version = [] ∧ a.key = none ∧ a.region = none → a.name.trimEnd = a.name) := by
  have canonical := canonical_of_parse h
  rw [← params_eq_nil_iff canonical]
  by_cases bare : a.params = []
  · rw [parse_render_of_no_params canonical bare]
    constructor
    · intro same _
      split_ifs at same
      exact congrArg name (Except.ok.inj same)
    · intro same
      rw [same bare, if_neg canonical.legal.name_ne_nil]
  · exact ⟨fun _ e => absurd e bare, fun _ => parse_render_of_params canonical bare⟩

/-- A name with a blank at its end and a key of signs that are escaped. -/
theorem parse_render_signs :
    ∃ a, parse "sem://x:s/p/n ?key=%26+%E9%9F%B3%3D".toList = .ok a ∧ parse a.render = .ok a := by
  refine ⟨_, rfl, (parse_render_iff (t := "sem://x:s/p/n ?key=%26+%E9%9F%B3%3D".toList) rfl).2 ?_⟩
  rintro ⟨-, key, -⟩
  exact nomatch key

/-- A question mark keeps a blank in the name that the written address ends with. -/
theorem not_parse_render_blank :
    ∃ a b, parse "sem://azure:keyvault/tenant/name ?".toList = .ok a ∧
      parse a.render = .ok b ∧ a.name = "name ".toList ∧ b.name = "name".toList := by
  exact ⟨_, _, rfl, rfl, rfl, rfl⟩

end SecretEnv.Address

import SecretEnv.Proofs.Address.RoundTrip

/-!
# Built addresses

An address need not be read. It may be built from any four parts, with settings made
after that, and then its written form need not be an address at all.

* `Address.build`: an address of four parts and of settings in order;
* `proper_build`: whatever they are, neither its key nor its region is empty;
* `parse_render_eq_self_iff`: an address is read back from its written form if it could have
  been read at all, and no blank at the end of its name is lost;
* `parse_render_build_iff`: which built addresses these are.
-/

namespace SecretEnv.Address

variable {a : Address}

/-! ### Settings -/

/-- What may be set in an address. It takes the place of a default, and of what was set before. -/
inductive Setting where
  | version (version : Text)
  | key (key : Text)
  | region (region : Text)
  deriving DecidableEq

/-- The address with something set in it. -/
def set (a : Address) : Setting → Address
  | .version version => a.withVersion version
  | .key key => a.withKey key
  | .region region => a.withRegion region

/-- The address of four parts, with settings made one after the other. -/
def build (platform service account name : Text) (settings : List Setting) : Address :=
  settings.foldl set (new platform service account name)

/-- An address whose key and region, where it has them, are not empty. -/
structure Proper (a : Address) : Prop where
  key : a.key ≠ some []
  region : a.region ≠ some []

theorem proper_new (platform service account name : Text) :
    Proper (new platform service account name) where
  key := nofun
  region := nonEmpty?_ne_some_nil _

/-- To set an empty key or region is to have none. -/
theorem Proper.set (h : Proper a) (setting : Setting) : Proper (a.set setting) := by
  cases setting with
  | version version => exact ⟨h.key, h.region⟩
  | key key => exact ⟨nonEmpty?_ne_some_nil key, h.region⟩
  | region region => exact ⟨h.key, nonEmpty?_ne_some_nil region⟩

theorem proper_build (platform service account name : Text) (settings : List Setting) :
    Proper (build platform service account name settings) := by
  induction settings using List.reverseRecOn with
  | nil => exact proper_new platform service account name
  | append_singleton settings setting ih =>
    rw [build, List.foldl_append]
    exact ih.set setting

/-! ### Written forms that are read back -/

/-- An address is read back from its written form if it could have been read at all, and if
no blank is lost with which the written form ends. -/
theorem parse_render_eq_self_iff :
    parse a.render = .ok a ↔ Canonical a ∧ (a.params = [] → a.name.trimEnd = a.name) := by
  constructor
  · intro same
    have canonical := canonical_of_parse same
    refine ⟨canonical, fun bare => ?_⟩
    rw [parse_render_of_no_params canonical bare] at same
    split_ifs at same
    exact congrArg name (Except.ok.inj same)
  · rintro ⟨canonical, kept⟩
    by_cases bare : a.params = []
    · rw [parse_render_of_no_params canonical bare, kept bare, if_neg canonical.legal.name_ne_nil]
    · exact parse_render_of_params canonical bare

/-- An address that its written form gives in full: what separates the parts occurs in none of
them but where it may, no default takes the place of what is missing, and if nothing is written
behind the name, then no blank ends it. -/
structure Lasting (a : Address) : Prop where
  legal : Legal a.platform a.service a.account a.name
  question_notMem_platform : '?' ∉ a.platform
  question_notMem_service : '?' ∉ a.service
  question_notMem_account : '?' ∉ a.account
  question_notMem_name : '?' ∉ a.name
  version : a.version ≠ [] ∨ Platform.defaultVersion a.platform = []
  region : a.region ≠ none ∨ Platform.defaultRegion a.platform = []
  ending : (a.version ≠ [] ∨ a.key ≠ none ∨ a.region ≠ none) ∨
    ∀ c, a.name.getLast? = some c → isBlank c = false

theorem question_notMem_path_iff :
    '?' ∉ a.path ↔ '?' ∉ a.platform ∧ '?' ∉ a.service ∧ '?' ∉ a.account ∧ '?' ∉ a.name := by
  simp [path, not_or]

/-- An address without an empty key or region could have been read, and keeps the end of its
name, exactly if it lasts. -/
theorem Proper.lasting_iff (proper : Proper a) :
    Lasting a ↔ Canonical a ∧ (a.params = [] → a.name.trimEnd = a.name) := by
  constructor
  · intro h
    have question := question_notMem_path_iff.2 ⟨h.question_notMem_platform,
      h.question_notMem_service, h.question_notMem_account, h.question_notMem_name⟩
    have canonical : Canonical a := ⟨h.legal, question, h.version.neg_resolve_left, proper.key,
      proper.region, h.region.neg_resolve_left⟩
    refine ⟨canonical, fun bare => ?_⟩
    obtain ⟨version, key, region⟩ := (params_eq_nil_iff canonical).1 bare
    have nothing : ¬ (a.version ≠ [] ∨ a.key ≠ none ∨ a.region ≠ none) := by
      simp [version, key, region]
    exact Text.trimEnd_eq_self_iff.2 (h.ending.resolve_left nothing)
  · rintro ⟨canonical, kept⟩
    obtain ⟨platform, service, account, name⟩ :=
      question_notMem_path_iff.1 canonical.question_notMem_path
    refine ⟨canonical.legal, platform, service, account, name, ?_, ?_, ?_⟩
    · exact or_iff_not_imp_left.2 fun h => canonical.version (not_not.1 h)
    · exact or_iff_not_imp_left.2 fun h => canonical.default_region (not_not.1 h)
    · by_cases bare : a.params = []
      · exact .inr (Text.trimEnd_eq_self_iff.1 (kept bare))
      · rw [params_eq_nil_iff canonical] at bare
        exact .inl (by simpa only [not_and_or] using bare)

/-- A built address is read back from its written form exactly if that gives it in full. -/
theorem parse_render_build_iff (platform service account name : Text) (settings : List Setting) :
    parse (build platform service account name settings).render =
        .ok (build platform service account name settings) ↔
      Lasting (build platform service account name settings) := by
  rw [parse_render_eq_self_iff, (proper_build platform service account name settings).lasting_iff]

/-- An empty version comes back as the default. -/
example : parse (build Platform.aws "sm".toList "p".toList "n".toList [.version []]).render =
    .ok (build Platform.aws "sm".toList "p".toList "n".toList []) := rfl

end SecretEnv.Address

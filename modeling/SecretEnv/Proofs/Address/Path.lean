import Mathlib.Tactic.SplitIfs
import SecretEnv.Address.Parser
import SecretEnv.Proofs.Text.Parts

/-!
# Paths of addresses

The grammar behind `Address.parse`, said of the text as a whole.

* `Address.Legal`: the four parts that a path can be made of;
* `components?_eq_some_iff`: a path has these parts exactly if it is written with
  them;
* `parse_eq_ok_iff`: an address is read from the scheme, a path and parameters.
-/

namespace SecretEnv.Address

/-- Four parts that a path can be made of: none is empty, and none but the name
holds what ends it. -/
structure Legal (platform service account name : Text) : Prop where
  platform_ne_nil : platform ≠ []
  service_ne_nil : service ≠ []
  account_ne_nil : account ≠ []
  name_ne_nil : name ≠ []
  colon_notMem_platform : ':' ∉ platform
  slash_notMem_platform : '/' ∉ platform
  slash_notMem_service : '/' ∉ service
  slash_notMem_account : '/' ∉ account

/-- How a text is divided that is written like a path. -/
theorem components?_path {platform service account : Text} (colon : ':' ∉ platform)
    (platform_slash : '/' ∉ platform) (service_slash : '/' ∉ service)
    (account_slash : '/' ∉ account) (name : Text) :
    components? (platform ++ ':' :: service ++ '/' :: account ++ '/' :: name) =
      if platform = [] ∨ service = [] ∨ account = [] ∨ name = [] then none
      else some (platform, service, account, name) := by
  have head : Text.cut '/' (platform ++ ':' :: service ++ '/' :: account ++ '/' :: name) =
      some (platform ++ ':' :: service, account ++ '/' :: name) := by
    refine Text.cut_eq_some_iff.2 ⟨by simp, ?_⟩
    simp [platform_slash, service_slash]
  have rest : Text.cut '/' (account ++ '/' :: name) = some (account, name) :=
    Text.cut_eq_some_iff.2 ⟨rfl, account_slash⟩
  have first : Text.cut ':' (platform ++ ':' :: service) = some (platform, service) :=
    Text.cut_eq_some_iff.2 ⟨rfl, colon⟩
  simp only [components?, Option.bind_eq_bind, head, rest, first, Option.bind_some]

/-- A path has the legal parts that it is written with, and no others. -/
theorem components?_eq_some_iff {t platform service account name : Text} :
    components? t = some (platform, service, account, name) ↔
      t = platform ++ ':' :: service ++ '/' :: account ++ '/' :: name ∧
        Legal platform service account name := by
  constructor
  · intro h
    simp only [components?, Option.bind_eq_bind, Option.bind_eq_some_iff, Prod.exists,
      Text.cut_eq_some_iff] at h
    obtain ⟨head, rest, ⟨rfl, head_slash⟩, ac, n, ⟨rfl, account_slash⟩, p, s, ⟨rfl, colon⟩, h⟩ := h
    split_ifs at h with empty
    simp only [Option.some.injEq, Prod.mk.injEq] at h
    obtain ⟨rfl, rfl, rfl, rfl⟩ := h
    simp only [not_or] at empty
    simp only [List.mem_append, List.mem_cons, not_or] at head_slash
    refine ⟨by simp, ?_⟩
    exact ⟨empty.1, empty.2.1, empty.2.2.1, empty.2.2.2, colon, head_slash.1, head_slash.2.2,
      account_slash⟩
  · rintro ⟨rfl, legal⟩
    rw [components?_path legal.colon_notMem_platform legal.slash_notMem_platform
      legal.slash_notMem_service legal.slash_notMem_account, if_neg]
    simp [legal.platform_ne_nil, legal.service_ne_nil, legal.account_ne_nil, legal.name_ne_nil]

/-! ### Path and query -/

theorem splitQuery_of_notMem {t : Text} (h : '?' ∉ t) : splitQuery t = (t, []) := by
  rw [splitQuery, Text.cut_eq_none_iff.2 h]
  rfl

theorem splitQuery_append {path : Text} (h : '?' ∉ path) (query : Text) :
    splitQuery (path ++ '?' :: query) = (path, query) := by
  rw [splitQuery, Text.cut_eq_some_iff.2 ⟨rfl, h⟩]
  rfl

theorem notMem_splitQuery (t : Text) : '?' ∉ (splitQuery t).1 := by
  unfold splitQuery
  cases h : Text.cut '?' t with
  | none => exact Text.cut_eq_none_iff.1 h
  | some parts => exact (Text.cut_eq_some_iff.1 h).2

/-- Behind the scheme stand a path and parameters. -/
theorem parse_of_trim {t rest : Text} (h : t.trim = scheme ++ rest) :
    parse t =
      match components? (splitQuery rest).1 with
      | none => .error .missingFields
      | some (platform, service, account, name) =>
        .ok ((new platform service account name).withParams
          (FormUrl.parse (splitQuery rest).2)) := by
  cases parts : components? (splitQuery rest).1 with
  | none => simp only [parse, Parts.isPrefixOf?_eq_some_iff.2 h, parts]
  | some path => simp only [parse, Parts.isPrefixOf?_eq_some_iff.2 h, parts]

/-- An address is read from the scheme, a path of legal parts, and parameters. -/
theorem parse_eq_ok_iff {t : Text} {a : Address} :
    parse t = .ok a ↔
      ∃ rest platform service account name, t.trim = scheme ++ rest ∧
        components? (splitQuery rest).1 = some (platform, service, account, name) ∧
        a = (new platform service account name).withParams
          (FormUrl.parse (splitQuery rest).2) := by
  constructor
  · intro h
    cases front : scheme.isPrefixOf? t.trim with
    | none => simp [parse, front] at h
    | some rest =>
      have whole := Parts.isPrefixOf?_eq_some_iff.1 front
      rw [parse_of_trim whole] at h
      split at h
      · cases h
      · next platform service account name parts =>
        cases h
        exact ⟨rest, platform, service, account, name, whole, parts, rfl⟩
  · rintro ⟨rest, platform, service, account, name, whole, parts, rfl⟩
    rw [parse_of_trim whole, parts]

end SecretEnv.Address

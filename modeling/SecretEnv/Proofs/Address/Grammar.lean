import Mathlib.Logic.IsEmpty.Basic
import SecretEnv.Proofs.Address.RoundTrip

/-!
# The grammar of addresses

* `Address.Spelling`: a path taken apart into the four parts that it is written with; there is
  at most one;
* `parse_eq_missingPrefix_iff`, `parse_eq_missingFields_iff` and `exists_parse_iff`: which texts
  are no addresses, why, and which are;
* `Address.Whole`: what no address that was read lacks;
* `parse_spelling`: reading an address is taking its path apart.
-/

namespace SecretEnv.Address

variable {t rest path : Text} {a : Address}

/-- The four parts that a path is written with. -/
structure Spelling (path : Text) where
  platform : Text
  service : Text
  account : Text
  name : Text
  path_eq : path = platform ++ ':' :: service ++ '/' :: account ++ '/' :: name
  legal : Legal platform service account name

namespace Spelling

theorem components?_eq (s : Spelling path) :
    components? path = some (s.platform, s.service, s.account, s.name) :=
  components?_eq_some_iff.2 ⟨s.path_eq, s.legal⟩

/-- A path is written in one way. -/
instance : Subsingleton (Spelling path) where
  allEq s s' := by
    have same := s.components?_eq.symm.trans s'.components?_eq
    cases s
    cases s'
    cases same
    rfl

theorem nonempty_iff : Nonempty (Spelling path) ↔ ∃ parts, components? path = some parts := by
  constructor
  · rintro ⟨s⟩
    exact ⟨_, s.components?_eq⟩
  · rintro ⟨⟨platform, service, account, name⟩, parts⟩
    obtain ⟨path_eq, legal⟩ := components?_eq_some_iff.1 parts
    exact ⟨⟨platform, service, account, name, path_eq, legal⟩⟩

end Spelling

theorem splitQuery_fst (t : Text) : (splitQuery t).1 = t.takeWhile (· ≠ '?') := by
  cases h : Text.cut '?' t with
  | none =>
    have no_mark := Text.cut_eq_none_iff.1 h
    rw [splitQuery_of_notMem no_mark, Parts.takeWhile_ne_of_notMem no_mark]
  | some parts =>
    obtain ⟨path, query⟩ := parts
    obtain ⟨rfl, no_mark⟩ := Text.cut_eq_some_iff.1 h
    rw [splitQuery_append no_mark, Parts.takeWhile_ne_append no_mark,
      List.takeWhile_cons_of_neg (by simp), List.append_nil]

/-! ### Which texts are addresses -/

/-- Only the scheme can be missing in front. -/
theorem parse_eq_missingPrefix_iff :
    parse t = .error (.missingPrefix scheme) ↔ ¬ scheme <+: t.trim := by
  constructor
  · rintro failed ⟨rest, whole⟩
    rw [parse_of_trim whole.symm] at failed
    split at failed <;> cases failed
  · intro missing
    have front : scheme.isPrefixOf? t.trim = none := by
      rw [Option.eq_none_iff_forall_ne_some]
      intro rest found
      exact missing ⟨rest, (Parts.isPrefixOf?_eq_some_iff.1 found).symm⟩
    rw [parse, front]

/-- Behind the scheme an address is read exactly if the path can be taken apart. -/
theorem exists_parse_iff (whole : t.trim = scheme ++ rest) :
    (∃ a, parse t = .ok a) ↔ Nonempty (Spelling (rest.takeWhile (· ≠ '?'))) := by
  rw [Spelling.nonempty_iff, ← splitQuery_fst, parse_of_trim whole]
  cases components? (splitQuery rest).1 with
  | none => exact ⟨nofun, nofun⟩
  | some parts => exact ⟨fun _ => ⟨_, rfl⟩, fun _ => ⟨_, rfl⟩⟩

/-- If it cannot, a part is missing. -/
theorem parse_eq_missingFields_iff (whole : t.trim = scheme ++ rest) :
    parse t = .error .missingFields ↔ IsEmpty (Spelling (rest.takeWhile (· ≠ '?'))) := by
  rw [← not_nonempty_iff, Spelling.nonempty_iff, ← splitQuery_fst, parse_of_trim whole]
  cases components? (splitQuery rest).1 with
  | none => simp
  | some parts => simp

/-- The parts of an address are those that its path is written with. -/
theorem exists_spelling_of_parse (whole : t.trim = scheme ++ rest) (read : parse t = .ok a) :
    ∃ s : Spelling (rest.takeWhile (· ≠ '?')), s.platform = a.platform ∧
      s.service = a.service ∧ s.account = a.account ∧ s.name = a.name := by
  obtain ⟨rest', platform, service, account, name, whole', parts, rfl⟩ := parse_eq_ok_iff.1 read
  obtain rfl : rest = rest' := List.append_cancel_left (whole.symm.trans whole')
  rw [splitQuery_fst] at parts
  obtain ⟨path_eq, legal⟩ := components?_eq_some_iff.1 parts
  exact ⟨⟨platform, service, account, name, path_eq, legal⟩, rfl, rfl, rfl, rfl⟩

/-! ### What addresses have -/

/-- An address with all of its parts, with a version and a region where its platform has one,
and with neither an empty key nor an empty region. -/
structure Whole (a : Address) : Prop where
  complete : a.isComplete = true
  version : a.platform = Platform.aws ∨ a.platform = Platform.googleCloud → a.version ≠ []
  region : a.platform = Platform.aws → a.region ≠ none
  key_ne : a.key ≠ some []
  region_ne : a.region ≠ some []

theorem Canonical.whole (h : Canonical a) : Whole a where
  complete := by
    have legal := h.legal
    simp [isComplete, legal.platform_ne_nil, legal.service_ne_nil, legal.account_ne_nil,
      legal.name_ne_nil]
  version := by
    intro platform missing
    have default := h.version missing
    rcases platform with platform | platform <;>
    · rw [platform] at default
      exact absurd default (by decide)
  region := by
    intro platform missing
    have default := h.default_region missing
    rw [platform] at default
    exact absurd default (by decide)
  key_ne := h.key
  region_ne := h.region

/-- Reading an address is taking its path apart: a text without the scheme lacks the scheme,
one whose path cannot be taken apart lacks a part, and any other is read as the address of the
only parts that its path is written with, from which nothing is missing. -/
theorem parse_spelling (t : Text) :
    (parse t = .error (.missingPrefix scheme) ↔ ¬ scheme <+: t.trim) ∧
      (∀ rest, t.trim = scheme ++ rest →
        ((∃ a, parse t = .ok a) ↔ Nonempty (Spelling (rest.takeWhile (· ≠ '?')))) ∧
        (parse t = .error .missingFields ↔ IsEmpty (Spelling (rest.takeWhile (· ≠ '?')))) ∧
        Subsingleton (Spelling (rest.takeWhile (· ≠ '?'))) ∧
        ∀ a, parse t = .ok a → ∃ s : Spelling (rest.takeWhile (· ≠ '?')),
          s.platform = a.platform ∧ s.service = a.service ∧ s.account = a.account ∧
            s.name = a.name) ∧
      ∀ a, parse t = .ok a → Whole a := by
  refine ⟨parse_eq_missingPrefix_iff, fun rest whole => ?_, fun a read => ?_⟩
  · exact ⟨exists_parse_iff whole, parse_eq_missingFields_iff whole, inferInstance,
      fun a read => exists_spelling_of_parse whole read⟩
  · exact (canonical_of_parse read).whole

/-- A colon in the service, slashes and a colon in the name, and all separators in the query. -/
theorem parse_spelling_separators :
    Text.trim " sem://aws:s:1/p/n/m:o?key=/:?&region=\n".toList =
        scheme ++ "aws:s:1/p/n/m:o?key=/:?&region=".toList ∧
      ∃ a, parse " sem://aws:s:1/p/n/m:o?key=/:?&region=\n".toList = .ok a ∧
        (∃ s : Spelling ("aws:s:1/p/n/m:o?key=/:?&region=".toList.takeWhile (· ≠ '?')),
          s.platform = a.platform ∧ s.service = a.service ∧ s.account = a.account ∧
            s.name = a.name) ∧
        Whole a := by
  have whole : Text.trim " sem://aws:s:1/p/n/m:o?key=/:?&region=\n".toList =
      scheme ++ "aws:s:1/p/n/m:o?key=/:?&region=".toList := by decide
  obtain ⟨-, behind, always⟩ := parse_spelling " sem://aws:s:1/p/n/m:o?key=/:?&region=\n".toList
  obtain ⟨readable, -, -, parts⟩ := behind _ whole
  have legal : Legal "aws".toList "s:1".toList "p".toList "n/m:o".toList := by
    constructor <;> decide
  obtain ⟨a, read⟩ := readable.2 ⟨⟨_, _, _, _, by decide, legal⟩⟩
  exact ⟨whole, a, read, parts a read, always a read⟩

end SecretEnv.Address

import SecretEnv.Proofs.TextMap
import SecretEnv.Resolution

/-!
# Resolution without caches

What a document stands for, said with secrets in memory and without a registry
that remembers anything.

* `Uncached.fetch` looks an address up in the secrets of its platform;
* `Uncached.outcome` is what one entry stands for, and `outcome_of_soft` says
  which entries cannot fail;
* `Uncached.resolve` puts the outcomes of all entries together, or ends with the
  first error.
-/

namespace SecretEnv.Uncached

/-- Secrets in memory with the platforms that they serve, in the order of their registration. -/
abbrev Sources := List (Text × TextMap)

/-- The secrets that serve a platform: the latest ones. -/
def serving? (sources : Sources) (platform : Text) : Option TextMap :=
  (sources.reverse.find? fun s => s.1 = platform).map Prod.snd

/-- Look for a secret, first under the cache key of its address, then under its name. -/
def lookUp (secrets : TextMap) (a : Address) : Except BackendError Text :=
  match secrets.get? a.cacheKey with
  | some secret => .ok secret
  | none =>
    match secrets.get? a.name with
    | some secret => .ok secret
    | none => .error (.notFound a.name)

/-- The answer to an address, if its platform is served. -/
def fetch (sources : Sources) (a : Address) : Option (Except BackendError Text) :=
  (serving? sources a.platform).map fun secrets => lookUp secrets a

/-- What an entry stands for. A blank one stands for nothing, and one without the address of a
served platform for itself. -/
def outcome (sources : Sources) (whole : Bool) (e : Entry) : Except ResolveError Variables :=
  if e.isEmpty then .ok TextMap.empty
  else
    match Address.parse e.candidate with
    | .error _ => .ok e.literal
    | .ok a =>
      match fetch sources a with
      | none => .ok e.literal
      | some (.ok raw) => e.secretVariables whole a raw
      | some (.error source) => .error (.secretFetchFailed e.line a.render source)

/-- The variables of several maps. The last value of a name wins. -/
def merge (maps : List Variables) : Variables := TextMap.ofPairs (maps.flatMap TextMap.pairs)

/-- What entries stand for together, or the error of the first that fails. -/
def resolve (sources : Sources) (whole : Bool) (es : List Entry) :
    Except ResolveError Variables := do
  let maps ← es.mapM (outcome sources whole)
  return merge maps

/-! ### Entries that cannot fail -/

/-- Without a key there is nothing that could be an address. -/
theorem parse_candidate_of_key_eq_nil {e : Entry} (h : e.key = []) :
    Address.parse e.candidate = .error (.missingPrefix Address.scheme) := by
  have no_assignment : e.isAssignment = false := by simp [Entry.isAssignment, h]
  rw [Entry.candidate, no_assignment, h]
  rfl

theorem key_eq_nil_of_isEmpty {e : Entry} (h : e.isEmpty = true) : e.key = [] := by
  simp only [Entry.isEmpty, Bool.and_eq_true, List.isEmpty_iff] at h
  exact h.1

/-- Entries that no secret is looked up for: blank ones, those without a key, those whose
candidate is no address, and those with an address of a platform that is not served. -/
def Soft (sources : Sources) (e : Entry) : Prop :=
  e.isEmpty = true ∨ e.key = [] ∨ (∃ err, Address.parse e.candidate = .error err) ∨
    ∃ a, Address.parse e.candidate = .ok a ∧ ∀ s ∈ sources, s.1 ≠ a.platform

theorem outcome_of_soft {sources : Sources} {e : Entry} (h : Soft sources e) (whole : Bool) :
    outcome sources whole e = .ok e.literal := by
  have without_key (h : e.key = []) : e.literal = TextMap.empty := by rw [Entry.literal, if_pos h]
  unfold outcome
  split_ifs with empty
  · rw [without_key (key_eq_nil_of_isEmpty empty)]
  · rcases h with h | h | ⟨err, h⟩ | ⟨a, h, unserved⟩
    · exact absurd h empty
    · rw [parse_candidate_of_key_eq_nil h]
    · rw [h]
    · have none_found : serving? sources a.platform = none := by
        rw [serving?, Option.map_eq_none_iff, List.find?_eq_none]
        intro s hs
        simpa using unserved s (List.mem_reverse.1 hs)
      simp only [h, fetch, none_found, Option.map_none]

end SecretEnv.Uncached

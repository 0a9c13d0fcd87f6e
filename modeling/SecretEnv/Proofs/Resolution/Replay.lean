import SecretEnv.Proofs.Resolution.Calls
import SecretEnv.Proofs.Resolution.Refinement

/-!
# Runs once more

After a run that succeeds its entries are resolved from the caches.

* `Remembers`: a registry holds what an earlier one held;
* `Remembers.fetch_eq`: it answers as the earlier one did after the same fetch, and no
  backend is called;
* `Remembers.of_mem_visits`: what a run leaves remembers all of its visits;
* `leaves_of_recalled`: entries that are resolved from the caches leave them as they are;
* `resolve_calls`: the calls of a run, and its entries once more.
-/

namespace SecretEnv.Registry

variable {whole : Bool} {g k m : Registry} {e : Entry} {es : List Entry} {v : Visit}

/-- A registry serves the platforms that an earlier one served, and no others, and what was
cached still is. -/
structure Remembers (g k : Registry) : Prop where
  serving (platform : Text) : k.serving? platform = none ↔ g.serving? platform = none
  recalled {platform key secret : Text} :
    g.recalled platform key = some secret → k.recalled platform key = some secret

namespace Remembers

theorem refl (g : Registry) : Remembers g g := ⟨fun _ => Iff.rfl, id⟩

theorem trans (first : Remembers g k) (second : Remembers k m) : Remembers g m where
  serving platform := (second.serving platform).trans (first.serving platform)
  recalled held := second.recalled (first.recalled held)

/-- A fetch forgets nothing: a secret that is cached comes from the cache. -/
theorem fetch (g : Registry) (a : Address) : Remembers g (g.fetch a).2 where
  serving platform := by
    rw [serving?_fetch]
    split_ifs
    · exact Option.map_eq_none_iff
    · exact Iff.rfl
  recalled {platform key secret} held := by
    by_cases own : a.platform = platform ∧ a.cacheKey = key
    · obtain ⟨rfl, rfl⟩ := own
      rw [fetch_of_recalled held]
      exact held
    · rw [recalled_fetch, if_neg own, held]

theorem visit (whole : Bool) (v : Visit) : Remembers v.registry (v.left whole) := by
  obtain ⟨-, -, left⟩ | ⟨a, -, -, -, -, -, left⟩ := v.cases_fetched whole
  · rw [left]
    exact refl _
  · rw [left]
    exact fetch _ a

theorem of_leaves (run : Leaves whole es g k) : Remembers g k := by
  induction es generalizing g with
  | nil =>
    obtain rfl := leaves_nil_iff.1 run
    exact refl _
  | cons e es ih => exact (visit whole ⟨e, g⟩).trans (ih (leaves_cons_iff.1 run).2)

theorem of_mem_visits (run : Leaves whole es g k) (mem : v ∈ g.visits whole es) :
    Remembers (v.left whole) k := by
  induction es generalizing g with
  | nil => cases mem
  | cons e es ih =>
    obtain ⟨⟨new, first⟩, rest⟩ := leaves_cons_iff.1 run
    rw [visits_cons_of_ok first, List.mem_cons] at mem
    rcases mem with rfl | mem
    · exact of_leaves rest
    · exact ih rest mem

/-- What was fetched, or is not served, is answered again without a call. -/
theorem fetch_eq {a : Address} (h : Remembers (g.fetch a).2 k)
    (ok : ∀ err, (g.fetch a).1 ≠ some (.error err)) : k.fetch a = ((g.fetch a).1, k) := by
  cases answer : (g.fetch a).1 with
  | none =>
    have unserved : (k.fetch a).1 = none := by
      have left := h.serving a.platform
      rw [fetch_of_unserved answer] at left
      rw [fst_fetch, Option.map_eq_none_iff] at answer ⊢
      exact left.2 answer
    exact Prod.ext unserved (fetch_of_unserved unserved)
  | some result =>
    cases result with
    | error err => exact absurd answer (ok err)
    | ok secret =>
      have held : (g.fetch a).2.recalled a.platform a.cacheKey = some secret := by
        rw [recalled_fetch, if_pos ⟨rfl, rfl⟩, answer]
        rfl
      exact fetch_of_recalled (h.recalled held)

/-- An entry that was resolved is resolved again without a call. -/
theorem resolveEntry_eq {new : Variables} (h : Remembers (v.left whole) k)
    (ok : v.result whole = .ok new) : k.resolveEntry whole v.entry = (.ok new, k) := by
  unfold Visit.left at h
  unfold Visit.result at ok
  unfold resolveEntry at h ok ⊢
  cases address : v.entry.address? with
  | none =>
    simp only [address] at ok ⊢
    rw [ok]
  | some a =>
    simp only [address] at h ok ⊢
    have again : k.fetch a = ((v.registry.fetch a).1, k) := by
      refine h.fetch_eq fun err failed => ?_
      rw [failed] at ok
      cases ok
    rw [again, ok]

end Remembers

/-- Entries that are resolved without a call leave the registry as it is. -/
theorem leaves_of_recalled
    (recalled : ∀ e ∈ es, ∃ new, k.resolveEntry whole e = (.ok new, k)) :
    Leaves whole es k k ∧ ∀ w ∈ k.visits whole es, w.registry = k := by
  induction es with
  | nil => exact ⟨leaves_nil_iff.2 rfl, nofun⟩
  | cons e es ih =>
    rw [List.forall_mem_cons] at recalled
    obtain ⟨⟨new, first⟩, rest⟩ := recalled
    have result : Visit.result whole ⟨e, k⟩ = .ok new := congrArg Prod.fst first
    have left : Visit.left whole ⟨e, k⟩ = k := congrArg Prod.snd first
    obtain ⟨run, unchanged⟩ := ih rest
    refine ⟨leaves_cons_iff.2 ⟨⟨new, result⟩, left.symm ▸ run⟩, ?_⟩
    rw [visits_cons_of_ok result, left, List.forall_mem_cons]
    exact ⟨rfl, unchanged⟩

/-- A run calls the backend of a platform once for each cache key that is new, and once more
if it ends because a fetch for the platform fails. After a run that succeeds, its entries in any
order and number are resolved without a call, and stand for what they stood for. -/
theorem resolve_calls (whole : Bool) (es : List Entry) (g : Registry) :
    (∀ platform, (g.resolve whole es).2.calls? platform = (g.calls? platform).map fun calls =>
      calls + (g.newKeys whole es platform).card + if g.failsFor whole es platform then 1 else 0) ∧
    ∀ vars left, g.resolve whole es = (.ok vars, left) → ∀ again, again ⊆ es →
      (∃ vars', left.resolve whole again = (.ok vars', left)) ∧
        ∀ v ∈ g.visits whole es, ∀ w ∈ left.visits whole again,
          w.entry = v.entry → w.result whole = v.result whole := by
  refine ⟨calls?_resolve whole es g, fun vars left resolved again sub => ?_⟩
  have run : Leaves whole es g left := ⟨vars, resolved⟩
  -- what the run has left remembers each of its visits
  have once_more {v : Visit} (mem : v ∈ g.visits whole es) :
      ∃ new, v.result whole = .ok new ∧ left.resolveEntry whole v.entry = (.ok new, left) := by
    obtain ⟨maps, all, -⟩ := fst_resolve_eq_ok_iff.1 (congrArg Prod.fst resolved)
    obtain ⟨new, ok⟩ := Results.exists_mapM_eq_ok_iff.1 ⟨maps, all⟩ v mem
    exact ⟨new, ok, (Remembers.of_mem_visits run mem).resolveEntry_eq ok⟩
  have recalled : ∀ e ∈ again, ∃ new, left.resolveEntry whole e = (.ok new, left) := by
    intro e he
    have visited : e ∈ (g.visits whole es).map Visit.entry := by
      rw [map_entry_visits run]
      exact sub he
    obtain ⟨v, mem, rfl⟩ := List.mem_map.1 visited
    obtain ⟨new, -, h⟩ := once_more mem
    exact ⟨new, h⟩
  obtain ⟨replayed, unchanged⟩ := leaves_of_recalled recalled
  refine ⟨replayed, fun v hv w hw same => ?_⟩
  obtain ⟨new, ok, h⟩ := once_more hv
  rw [ok, Visit.result, unchanged w hw, same, h]

/-- A member of a secret, and all of them. -/
def both : List Entry := [Uncached.member, ⟨3, "sem://aws:sm/a/s".toList, []⟩]

/-- The secret of both entries is fetched once. Before an entry whose secret does not exist
that makes two calls, and on its own it can be had again without any. -/
theorem resolve_calls_both :
    ((Uncached.registry Uncached.pair).resolve false (both ++ [Uncached.lost])).2.calls?
        "aws".toList = some 2 ∧
      (((Uncached.registry Uncached.pair).resolve false both).2.resolve false
        (both.reverse ++ both)).2 = ((Uncached.registry Uncached.pair).resolve false both).2 := by
  constructor
  · rw [(resolve_calls false _ _).1]
    decide +kernel
  · have resolved : ((Uncached.registry Uncached.pair).resolve false both).1 =
        .ok (.ofPairs [("A".toList, "1".toList), ("u".toList, "1".toList),
          ("v".toList, "2".toList)]) := by
      decide +kernel
    cases first : (Uncached.registry Uncached.pair).resolve false both with
    | mk result left =>
      rw [first] at resolved
      obtain rfl : result = .ok _ := resolved
      have sub : both.reverse ++ both ⊆ both := by simp
      obtain ⟨⟨vars, again⟩, -⟩ := (resolve_calls false both _).2 _ left first _ sub
      rw [again]

end SecretEnv.Registry

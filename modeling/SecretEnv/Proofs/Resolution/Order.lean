import SecretEnv.Proofs.Listing.Lines
import SecretEnv.Proofs.Resolution.Refinement
import SecretEnv.Proofs.Resolution.Visits

/-!
# Entries in any order

The order of entries decides which of two values of a name wins, and nothing
else.

* `Uncached.succeeds_iff`: a document resolves exactly if each of its entries does;
* `Uncached.get?_of_resolve`: if no name has two values, the variables are those of
  the entries;
* `Uncached.get?_of_perm`, `Uncached.resolveLines_perm`: so they are the same for all orders, and
  the lines too.

The caches are filled in another order for each order of the entries. That this
makes no difference is `Uncached.Simulates`.
-/

namespace SecretEnv.Uncached

variable {sources : Sources} {whole : Bool} {es : List Entry} {e : Entry}

theorem resolve_eq_ok_iff {vars : Variables} :
    resolve sources whole es = .ok vars ↔
      ∃ maps, es.mapM (outcome sources whole) = .ok maps ∧ vars = merge maps := by
  unfold resolve
  cases es.mapM (outcome sources whole) with
  | error e => exact ⟨nofun, nofun⟩
  | ok maps =>
    show Except.ok (merge maps) = Except.ok vars ↔ _
    simp [eq_comm]

/-- A document resolves exactly if each of its entries does. -/
theorem succeeds_iff :
    (∃ vars, resolve sources whole es = .ok vars) ↔
      ∀ e ∈ es, ∃ vars, outcome sources whole e = .ok vars := by
  rw [← Results.exists_mapM_eq_ok_iff]
  constructor
  · rintro ⟨vars, h⟩
    obtain ⟨maps, all, -⟩ := resolve_eq_ok_iff.1 h
    exact ⟨maps, all⟩
  · rintro ⟨maps, all⟩
    exact ⟨merge maps, resolve_eq_ok_iff.2 ⟨maps, all, rfl⟩⟩

/-- The variables of an entry that is resolved on its own. -/
def own? (sources : Sources) (whole : Bool) (e : Entry) : Option Variables :=
  ((registry sources).resolveEntry whole e).1.toOption

/-- No two entries give one name different values. -/
def Agreeing (sources : Sources) (whole : Bool) (es : List Entry) : Prop :=
  ∀ d ∈ es, ∀ e ∈ es, ∀ vars ∈ own? sources whole d, ∀ vars' ∈ own? sources whole e,
    ∀ p ∈ vars.pairs, ∀ v ∈ vars'.get? p.1, v = p.2

instance (sources : Sources) (whole : Bool) (es : List Entry) :
    Decidable (Agreeing sources whole es) :=
  inferInstanceAs (Decidable (∀ d ∈ es, ∀ e ∈ es, ∀ vars ∈ own? sources whole d,
    ∀ vars' ∈ own? sources whole e, ∀ p ∈ vars.pairs, ∀ v ∈ vars'.get? p.1, v = p.2))

/-- With other entries around it an entry stands for the same. -/
theorem own?_eq (free : e.BarFree) : own? sources whole e = (outcome sources whole e).toOption := by
  rw [own?, ((simulates_registry sources).resolveEntry free whole).1]

/-- If no name has two values, the variables of a document are those of its entries. -/
theorem get?_of_resolve {vars : Variables} (h : resolve sources whole es = .ok vars)
    (free : ∀ e ∈ es, e.BarFree) (agreeing : Agreeing sources whole es) {k v : Text} :
    vars.get? k = some v ↔
      ∃ e ∈ es, ∃ own, outcome sources whole e = .ok own ∧ own.get? k = some v := by
  obtain ⟨maps, all, rfl⟩ := resolve_eq_ok_iff.1 h
  have held {p : Text × Text} : p ∈ maps.flatMap TextMap.pairs ↔
      ∃ e ∈ es, ∃ own, outcome sources whole e = .ok own ∧ own.get? p.1 = some p.2 := by
    rw [List.mem_flatMap]
    constructor
    · rintro ⟨own, mem, hp⟩
      obtain ⟨e, he, outcome_eq⟩ := (Results.mem_of_mapM_eq_ok all).1 mem
      exact ⟨e, he, own, outcome_eq, TextMap.mem_pairs_iff.1 hp⟩
    · rintro ⟨e, he, own, outcome_eq, hp⟩
      exact ⟨own, (Results.mem_of_mapM_eq_ok all).2 ⟨e, he, outcome_eq⟩, TextMap.mem_pairs_iff.2 hp⟩
  rw [merge, TextMap.get?_ofPairs_eq_some_iff, held]
  -- pairs with one key come from entries, and these agree on it
  intro p hp q hq key
  obtain ⟨d, hd, vars, outcome_d, value⟩ := held.1 hp
  obtain ⟨e, he, vars', outcome_e, value'⟩ := held.1 hq
  have own_d : vars ∈ own? sources whole d := by
    rw [own?_eq (free d hd), outcome_d]
    rfl
  have own_e : vars' ∈ own? sources whole e := by
    rw [own?_eq (free e he), outcome_e]
    rfl
  exact (agreeing d hd e he vars own_d vars' own_e p (TextMap.mem_pairs_iff.2 value) q.2
    (key ▸ value')).symm

/-- So in another order of the entries the variables are the same. -/
theorem get?_of_perm {es' : List Entry} {vars vars' : Variables} (perm : es'.Perm es)
    (h : resolve sources whole es = .ok vars) (h' : resolve sources whole es' = .ok vars')
    (free : ∀ e ∈ es, e.BarFree) (agreeing : Agreeing sources whole es) (k : Text) :
    vars'.get? k = vars.get? k := by
  have free' : ∀ e ∈ es', e.BarFree := fun e he => free e (perm.mem_iff.1 he)
  have agreeing' : Agreeing sources whole es' := fun d hd e he =>
    agreeing d (perm.mem_iff.1 hd) e (perm.mem_iff.1 he)
  refine Option.ext fun v => ?_
  rw [get?_of_resolve h free agreeing, get?_of_resolve h' free' agreeing']
  exact exists_congr fun e => by rw [perm.mem_iff]

/-- A document resolves in one order of its entries exactly if it does in every other, and
if it does and no name has two values, then it has the same lines in all of them. -/
theorem resolveLines_perm (sources : Sources) (whole : Bool) (style : LineStyle) {es : List Entry}
    (free : ∀ e ∈ es, e.BarFree) :
    (∀ es', es'.Perm es →
      ((∃ vars, ((registry sources).resolve whole es').1 = .ok vars) ↔
        ∃ vars, ((registry sources).resolve whole es).1 = .ok vars)) ∧
    ((∃ vars, ((registry sources).resolve whole es).1 = .ok vars) → Agreeing sources whole es →
      ∃ lines, ∀ es', es'.Perm es →
        ((registry sources).resolveLines whole style es').1 = .ok lines) := by
  -- without caches each entry is on its own, so the order matters to the merging only
  have uncached {es' : List Entry} (perm : es'.Perm es) :
      ((registry sources).resolve whole es').1 = resolve sources whole es' :=
    ((simulates_registry sources).resolve (fun e he => free e (perm.mem_iff.1 he)) whole).1
  have succeeds {es' : List Entry} (perm : es'.Perm es) :
      (∃ vars, ((registry sources).resolve whole es').1 = .ok vars) ↔
        ∀ e ∈ es, ∃ vars, outcome sources whole e = .ok vars := by
    rw [uncached perm, succeeds_iff]
    exact forall_congr' fun e => by rw [perm.mem_iff]
  refine ⟨fun es' perm => (succeeds perm).trans (succeeds (.refl es)).symm, ?_⟩
  rintro ⟨vars, resolved⟩ agreeing
  refine ⟨Listing.lines style vars, fun es' perm => ?_⟩
  obtain ⟨vars', resolved'⟩ := (succeeds perm).2 ((succeeds (.refl es)).1 ⟨vars, resolved⟩)
  have same : ∀ k, vars'.get? k = vars.get? k :=
    get?_of_perm perm ((uncached (.refl es)).symm.trans resolved)
      ((uncached perm).symm.trans resolved') free agreeing
  unfold Registry.resolveLines
  cases run : (registry sources).resolve whole es' with
  | mk result left =>
    rw [run] at resolved'
    obtain rfl : result = .ok vars' := resolved'
    show Except.ok (Listing.lines style vars') = Except.ok (Listing.lines style vars)
    rw [Listing.lines_congr same]

/-- A literal, a member of a secret and the whole of it: two of them give `u` the same value. -/
def trio : List Entry :=
  [⟨1, "u".toList, "1".toList⟩, member, ⟨3, "sem://aws:sm/a/s".toList, []⟩]

theorem resolveLines_perm_trio :
    ((registry pair).resolveLines false { quotes := true } trio.reverse).1 =
      .ok ["A='1'".toList, "u='1'".toList, "v='2'".toList] := by
  have free : ∀ e ∈ trio, e.BarFree := by decide +kernel
  have agreeing : Agreeing pair false trio := by decide +kernel
  have resolved : ((registry pair).resolve false trio).1 = .ok (.ofPairs
      [("u".toList, "1".toList), ("A".toList, "1".toList), ("v".toList, "2".toList)]) := by
    decide +kernel
  obtain ⟨lines, all⟩ :=
    (resolveLines_perm pair false { quotes := true } free).2 ⟨_, resolved⟩ agreeing
  rw [all trio.reverse (List.reverse_perm trio), ← all trio (.refl trio)]
  decide +kernel

end SecretEnv.Uncached

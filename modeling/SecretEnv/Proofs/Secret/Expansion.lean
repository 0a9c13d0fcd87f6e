import SecretEnv.Proofs.Json.Navigation

/-!
# Names of the scalars inside a secret

* `Json.Path.nameIn_eq`: under a name, a scalar is called by the name and the steps to it;
* `Json.eq_of_suffix_eq`: steps without underscores can be told from the whole name;
* `pairs_expandInto_arranged`: so a value without underscores in its names gives one variable
  for each scalar, in the order of the paths;
* `expandInto_within`: a value that is expanded under a name gives what it gives under no
  name, with the name in front.
-/

namespace SecretEnv

theorem joinName_of_ne_nil {outer : Text} (given : outer ≠ []) (inner : Text) :
    joinName outer inner = outer ++ '_' :: inner :=
  if_neg given

@[simp] theorem joinName_nil (inner : Text) : joinName [] inner = inner := rfl

namespace Json

variable {v w u : Json} {p q : Path} {name : Text}

/-! ### Steps in a name -/

/-- The steps of a path, each behind an underscore. -/
def Path.suffix (p : Path) : Text := p.flatMap fun s => '_' :: s.text

theorem Path.suffix_cons (s : Segment) (p : Path) :
    Path.suffix (s :: p) = '_' :: s.text ++ p.suffix :=
  List.flatMap_cons

theorem Path.nameIn_eq (given : name ≠ []) (p : Path) : p.nameIn name = name ++ p.suffix := by
  induction p generalizing name with
  | nil => exact (List.append_nil name).symm
  | cons s p ih =>
    have longer : joinName name s.text ≠ [] := by
      simp [joinName_of_ne_nil given]
    rw [nameIn_cons, ih longer, joinName_of_ne_nil given, suffix_cons, List.append_assoc]

theorem Path.nameIn_nil_cons {s : Segment} (given : s.text ≠ []) (p : Path) :
    Path.nameIn [] (s :: p) = s.text ++ p.suffix := by
  rw [nameIn_cons, joinName_nil, nameIn_eq given]

theorem Path.suffix_eq (p : Path) :
    p.suffix = List.intercalate ['_'] ([] :: p.map Segment.text) := by
  induction p with
  | nil => rfl
  | cons s p ih =>
    rw [suffix_cons, ih, List.map_cons, List.intercalate_cons_cons]
    cases p with
    | nil => simp
    | cons r p =>
      rw [List.map_cons, List.intercalate_cons_cons, List.intercalate_cons_cons]
      simp

/-- Steps without underscores can be told from the name that they make. -/
theorem Path.map_text_eq_of_suffix_eq (hp : ∀ s ∈ p, '_' ∉ s.text) (hq : ∀ s ∈ q, '_' ∉ s.text)
    (same : p.suffix = q.suffix) : p.map Segment.text = q.map Segment.text := by
  have parts {r : Path} (hr : ∀ s ∈ r, '_' ∉ s.text) :
      r.suffix.splitOn '_' = [] :: r.map Segment.text := by
    rw [suffix_eq]
    refine List.splitOn_intercalate _ ?_ (List.cons_ne_nil _ _)
    intro t mem
    rcases List.mem_cons.1 mem with rfl | mem
    · exact List.not_mem_nil
    · obtain ⟨s, hs, rfl⟩ := List.mem_map.1 mem
      exact hr s hs
  have lists := congrArg (List.splitOn '_') same
  rw [parts hp, parts hq] at lists
  exact (List.cons.inj lists).2

theorem underscore_notMem_text (plain : v.EveryObject fun names => ∀ n ∈ names, '_' ∉ n)
    (h : ScalarAt v p w) : ∀ s ∈ p, '_' ∉ s.text := by
  rintro (i | n) mem
  · exact Text.notMem_decimal rfl i
  · exact plain.of_mem_path h mem

/-- Where names are distinct and without underscores, scalars at different paths have
different names. -/
theorem eq_of_suffix_eq (distinct : v.EveryObject List.Nodup)
    (plain : v.EveryObject fun names => ∀ n ∈ names, '_' ∉ n) (h : ScalarAt v p w)
    (k : ScalarAt v q u) (same : p.suffix = q.suffix) : p = q :=
  h.eq_of_map_text distinct k (Path.map_text_eq_of_suffix_eq (underscore_notMem_text plain h)
    (underscore_notMem_text plain k) same)

/-! ### One variable for each scalar -/

/-- Scalars whose names differ become one variable each, in the order in which they are
found. -/
theorem pairs_expandInto_of_names (given : name ≠ []) (ordered : v.Ordered)
    (apart : ∀ p w q u, ScalarAt v p w → ScalarAt v q u → p.suffix = q.suffix → p = q) :
    (v.expandInto TextMap.empty name).pairs =
      v.scalars.map fun l => (name ++ l.1.suffix, l.2.plain) := by
  have named : v.scalars.map (named name) =
      v.scalars.map fun l => (name ++ l.1.suffix, l.2.plain) :=
    List.map_congr_left fun l _ => congrArg (·, l.2.plain) (Path.nameIn_eq given l.1)
  have nodup : ((v.scalars.map fun l => (name ++ l.1.suffix, l.2.plain)).map Prod.fst).Nodup := by
    rw [List.map_map]
    refine List.pairwise_map.2 ((pairwise_scalars v ordered).imp_of_mem ?_)
    rintro ⟨p, w⟩ ⟨q, u⟩ hp hq before same
    have suffixes : p.suffix = q.suffix := List.append_cancel_left same
    obtain rfl := apart p w q u ((mem_scalars_iff v).1 hp) ((mem_scalars_iff v).1 hq) suffixes
    exact p.not_before_self before
  rw [expandInto, leaves_eq, named]
  exact TextMap.pairs_ofPairs nodup

/-- Without underscores in its names, a value gives one variable for each of its scalars: named
by the given name and the steps to the scalar, in the order of the paths, in whatever order the
members were written; an ordered value stays as it was written. No two scalars get the same
name. -/
theorem pairs_expandInto_arranged (distinct : v.EveryObject List.Nodup)
    (plain : v.EveryObject fun names => ∀ n ∈ names, '_' ∉ n) (given : name ≠ []) :
    ∃ l : List (Path × Json), (∀ p w, (p, w) ∈ l ↔ ScalarAt v p w) ∧
      l.Pairwise (fun a b => a.1.Before b.1) ∧
      (v.arranged.expandInto TextMap.empty name).pairs =
        l.map (fun a => (name ++ a.1.suffix, a.2.plain)) ∧
      (v.Ordered → v.arranged = v) ∧
      ∀ p w q u, ScalarAt v p w → ScalarAt v q u → name ++ p.suffix = name ++ q.suffix → p = q := by
  have ordered := ordered_arranged v
  have apart : ∀ p w q u, ScalarAt v p w → ScalarAt v q u → p.suffix = q.suffix → p = q :=
    fun _ _ _ _ => eq_of_suffix_eq distinct plain
  refine ⟨v.arranged.scalars, ?_, pairwise_scalars _ ordered, ?_, Ordered.arranged_eq, ?_⟩
  · intro p w
    rw [mem_scalars_iff, scalarAt_arranged_iff distinct]
  · refine pairs_expandInto_of_names given ordered fun p w q u hp hq => ?_
    exact apart p w q u ((scalarAt_arranged_iff distinct).1 hp)
      ((scalarAt_arranged_iff distinct).1 hq)
  · intro p w q u hp hq same
    exact apart p w q u hp hq (List.append_cancel_left same)

/-- A value whose members were written in descending order, one of them without a name. -/
def descending : Json :=
  .object [(['b'], .array [.string ['x'], .object [], .null]), (['0'], .array []),
    ([], .bool true)]

/-- Its three scalars come in ascending order, under a name that holds an underscore itself. -/
theorem pairs_expandInto_arranged_descending :
    ∃ l : List (Path × Json), (∀ p w, (p, w) ∈ l ↔ ScalarAt descending p w) ∧
      l.map (fun a => ("C_G".toList ++ a.1.suffix, a.2.plain)) =
        [("C_G_".toList, "true".toList), ("C_G_b_0".toList, "x".toList),
          ("C_G_b_2".toList, "null".toList)] := by
  have inner (P : List Text → Prop) (none : P []) (names : P [['b'], ['0'], []]) :
      descending.EveryObject P := by
    have items : EveryObject P (.array [.string ['x'], .object [], .null]) :=
      .array (List.forall_mem_cons.2 ⟨.scalar rfl, List.forall_mem_cons.2
        ⟨.object none nofun, List.forall_mem_singleton.2 (.scalar rfl)⟩⟩)
    exact .object names (List.forall_mem_cons.2 ⟨items, List.forall_mem_cons.2
      ⟨.array nofun, List.forall_mem_singleton.2 (.scalar rfl)⟩⟩)
  obtain ⟨l, all, -, pairs, -, -⟩ := pairs_expandInto_arranged
    (inner _ (by decide) (by decide)) (inner _ (by decide) (by decide))
    (show "C_G".toList ≠ [] by decide)
  refine ⟨l, all, ?_⟩
  rw [← pairs]
  decide +kernel

/-! ### Under a name and under none -/

/-- A name inside another, as the name of a variable. -/
def within (outer inner : Text) : Text := outer ++ '_' :: inner

theorem within_injective (outer : Text) : Function.Injective (within outer) := by
  intro s t same
  exact (List.cons.inj (List.append_cancel_left same)).2

/-- An object without an empty name, or an array, has the same scalars under a name as under
none, but for the name in front. -/
theorem leaves_within (container : v.isContainer = true)
    (named : ∀ members w, v = .object members → ([], w) ∉ members) (given : name ≠ []) :
    v.leaves name = (v.leaves []).map (Prod.map (within name) id) := by
  rw [leaves_eq, leaves_eq, List.map_map]
  refine List.map_congr_left ?_
  rintro ⟨p, w⟩ mem
  have found := (mem_scalars_iff v).1 mem
  cases p with
  | nil => exact absurd rfl (found.ne_nil container)
  | cons s p =>
    have step : s.text ≠ [] := by
      cases found with
      | item _ _ => exact Text.decimal_ne_nil _
      | member held _ =>
        rintro rfl
        exact named _ _ rfl held
    have names : Path.nameIn name (s :: p) = within name (Path.nameIn [] (s :: p)) := by
      rw [Path.nameIn_eq given, Path.nameIn_nil_cons step, Path.suffix_cons]
      rfl
    exact congrArg (·, w.plain) names

/-- A value inside objects of one member each. -/
theorem leaves_nest (path : List Text) (w : Json) (name : Text) :
    (path.foldr (fun n u => Json.object [(n, u)]) w).leaves name =
      w.leaves (path.foldl joinName name) := by
  induction path generalizing name with
  | nil => rfl
  | cons n path ih =>
    rw [List.foldr_cons, leaves, memberLeaves, memberLeaves, List.append_nil, ih, List.foldl_cons]

/-- Under a name, an object without an empty name or an array changes variables of that name in
the same way, position by position, as under no name it changes them without that name; and a
value inside objects of one member each is expanded as the value itself under their names. -/
theorem expandInto_within :
    (∀ (v : Json) (name : Text) (start : Variables), v.isContainer = true →
      (∀ members w, v = .object members → ([], w) ∉ members) → name ≠ [] →
      (∀ k ∈ start.keys, ∃ j, k = within name j) →
      ∃ bare : Variables, start.pairs = bare.pairs.map (Prod.map (within name) id) ∧
        (v.expandInto start name).pairs =
          (v.expandInto bare []).pairs.map (Prod.map (within name) id)) ∧
    ∀ (path : List Text) (w : Json) (vars : Variables) (name : Text),
      (path.foldr (fun n u => Json.object [(n, u)]) w).expandInto vars name =
        w.expandInto vars (path.foldl joinName name) := by
  constructor
  · intro v name start container named given inside
    obtain ⟨bare, same⟩ := TextMap.exists_pairs_eq_map inside
    refine ⟨bare, same, ?_⟩
    rw [expandInto, leaves_within container named given]
    exact TextMap.pairs_insertAll_map (within_injective name) same (v.leaves [])
  · intro path w vars name
    rw [expandInto, leaves_nest]
    rfl

/-- A value with two scalars of one name. -/
def colliding : Json :=
  .object [(['a'], .object [(['b'], .bool true)]), ("a_b".toList, .null)]

/-- Variables under a name, one of which the value changes. -/
def earlier : Variables := .ofPairs [("P_z".toList, []), ("P_a_b".toList, "old".toList)]

/-- The same variables under no name. -/
def earlierBare : Variables := .ofPairs [("z".toList, []), ("a_b".toList, "old".toList)]

/-- The second scalar wins under the name as under none, also over the variable that was there. -/
theorem expandInto_within_colliding :
    earlier.pairs = earlierBare.pairs.map (Prod.map (within ['P']) id) ∧
      (colliding.expandInto earlier ['P']).pairs =
        (colliding.expandInto earlierBare []).pairs.map (Prod.map (within ['P']) id) ∧
      (colliding.expandInto earlierBare []).pairs =
        [(['z'], []), ("a_b".toList, "null".toList)] := by
  have named : ∀ members w, colliding = .object members → ([], w) ∉ members := by
    rintro members w ⟨⟩
    simp
  have inside : ∀ k ∈ earlier.keys, ∃ j, k = within ['P'] j := by
    have keys : earlier.keys = [within ['P'] ['z'], within ['P'] "a_b".toList] := by decide +kernel
    rw [keys]
    exact List.forall_mem_cons.2 ⟨⟨_, rfl⟩, List.forall_mem_singleton.2 ⟨_, rfl⟩⟩
  have start : earlier.pairs = earlierBare.pairs.map (Prod.map (within ['P']) id) := by
    decide +kernel
  obtain ⟨m, same, expanded⟩ :=
    expandInto_within.1 colliding ['P'] earlier rfl named (by decide) inside
  -- only one map can be renamed to that one
  have injective : Function.Injective (Prod.map (within ['P']) (id : Text → Text)) :=
    (within_injective ['P']).prodMap Function.injective_id
  obtain rfl : m = earlierBare :=
    TextMap.ext (List.map_injective_iff.2 injective (same.symm.trans start))
  exact ⟨start, expanded, by decide +kernel⟩

end Json
end SecretEnv

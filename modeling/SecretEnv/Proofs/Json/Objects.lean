import SecretEnv.Proofs.Json.Scalars
import SecretEnv.Proofs.Text.Decimal
import SecretEnv.Proofs.TextMap

/-!
# Objects inside a value

* `Json.EveryObject`: the names of the members meet a condition in every object inside a
  value; `Json.Ordered` is that they ascend;
* `ScalarAt.unique` and `ScalarAt.eq_of_map_text`: where names are distinct, a path leads to
  one scalar and is known by its steps in writing;
* `exists_ofMembers`: what becomes of members that are put into an object;
* `Json.arranged`: a value as it is after its members were put into objects, in whatever
  order they were written;
* `pairwise_scalars`: the scalars of an ordered value come in the order of their paths.
-/

namespace SecretEnv.Json

variable {v w u : Json} {p q : Path} {P Q : List Text → Prop}

/-! ### Conditions on names -/

/-- The names of the members meet a condition in every object inside a value. -/
inductive EveryObject (P : List Text → Prop) : Json → Prop
  | scalar {v : Json} (single : v.isContainer = false) : EveryObject P v
  | array {items : List Json} (inner : ∀ v ∈ items, EveryObject P v) :
      EveryObject P (.array items)
  | object {members : List (Text × Json)} (names : P (members.map Prod.fst))
      (inner : ∀ m ∈ members, EveryObject P m.2) : EveryObject P (.object members)

theorem everyObject_array_iff {items : List Json} :
    EveryObject P (.array items) ↔ ∀ v ∈ items, EveryObject P v := by
  constructor
  · rintro (single | inner)
    · cases single
    · exact inner
  · exact .array

theorem everyObject_object_iff {members : List (Text × Json)} :
    EveryObject P (.object members) ↔
      P (members.map Prod.fst) ∧ ∀ m ∈ members, EveryObject P m.2 := by
  constructor
  · rintro (single | _ | ⟨names, inner⟩)
    · cases single
    · exact ⟨names, inner⟩
  · exact fun h => .object h.1 h.2

theorem EveryObject.mono (h : v.EveryObject P) (imp : ∀ names, P names → Q names) :
    v.EveryObject Q := by
  induction h with
  | scalar single => exact .scalar single
  | array _ ih => exact .array ih
  | object names _ ih => exact .object (imp _ names) ih

theorem EveryObject.of_mem_path {C : Text → Prop}
    (h : v.EveryObject fun names => ∀ n ∈ names, C n) (at_end : ScalarAt v p w) {n : Text}
    (mem : .member n ∈ p) : C n := by
  induction at_end with
  | scalar _ => cases mem
  | item held _ ih =>
    rcases List.mem_cons.1 mem with e | mem
    · cases e
    · exact ih (everyObject_array_iff.1 h _ (List.mem_of_getElem? held)) mem
  | member held _ ih =>
    obtain ⟨names, inner⟩ := everyObject_object_iff.1 h
    rcases List.mem_cons.1 mem with e | mem
    · obtain rfl := Segment.member.inj e
      exact names _ (List.mem_map_of_mem held)
    · exact ih (inner _ held) mem

/-! ### Distinct names -/

theorem eq_of_mem_members {members : List (Text × Json)} (distinct : (members.map Prod.fst).Nodup)
    {n : Text} (hv : (n, v) ∈ members) (hw : (n, w) ∈ members) : v = w :=
  congrArg Prod.snd (List.inj_on_of_nodup_map distinct hv hw rfl)

theorem ScalarAt.unique (distinct : v.EveryObject List.Nodup) (h : ScalarAt v p w)
    (k : ScalarAt v p u) : w = u := by
  induction h with
  | scalar single => exact ((scalarAt_of_scalar single).1 k).2.symm
  | item held _ ih =>
    obtain ⟨i, x, q, held', e, k⟩ := scalarAt_array_iff.1 k
    obtain ⟨⟨rfl⟩, rfl⟩ := List.cons.inj e
    obtain rfl := Option.some.inj (held.symm.trans held')
    exact ih (everyObject_array_iff.1 distinct _ (List.mem_of_getElem? held)) k
  | member held _ ih =>
    obtain ⟨n, x, q, held', e, k⟩ := scalarAt_object_iff.1 k
    obtain ⟨⟨rfl⟩, rfl⟩ := List.cons.inj e
    obtain ⟨names, inner⟩ := everyObject_object_iff.1 distinct
    obtain rfl := eq_of_mem_members names held held'
    exact ih (inner _ held) k

/-- A path to a scalar is known by its steps in writing: that a step is an index, and not a
name that looks like one, follows from the value. -/
theorem ScalarAt.eq_of_map_text (distinct : v.EveryObject List.Nodup) (h : ScalarAt v p w)
    (k : ScalarAt v q u) (same : p.map Segment.text = q.map Segment.text) : p = q := by
  induction h generalizing q with
  | scalar single => exact ((scalarAt_of_scalar single).1 k).1.symm
  | item held _ ih =>
    obtain ⟨j, x, q, held', rfl, k⟩ := scalarAt_array_iff.1 k
    obtain ⟨first, rest⟩ := List.cons.inj same
    obtain rfl := Text.decimal_injective first
    obtain rfl := Option.some.inj (held.symm.trans held')
    rw [ih (everyObject_array_iff.1 distinct _ (List.mem_of_getElem? held)) k rest]
  | @member members n x _ _ held _ ih =>
    obtain ⟨m, y, q, held', rfl, k⟩ := scalarAt_object_iff.1 k
    obtain ⟨first, rest⟩ := List.cons.inj same
    obtain rfl : n = m := first
    obtain ⟨names, inner⟩ := everyObject_object_iff.1 distinct
    obtain rfl := eq_of_mem_members names held held'
    rw [ih (inner _ held) k rest]

/-! ### Ascending names -/

/-- Names in ascending order, each once. -/
def Ascending (names : List Text) : Prop := names.Pairwise fun t u => compare t u = .lt

/-- The names ascend in every object inside a value. -/
def Ordered (v : Json) : Prop := v.EveryObject Ascending

theorem Ordered.distinct (h : v.Ordered) : v.EveryObject List.Nodup :=
  h.mono fun _ => Text.nodup_of_pairwise

theorem mem_of_getElem?_insertMany {members : List (Text × Json)}
    {t : Std.TreeMap Text Json} {n : Text} (h : (t.insertMany members)[n]? = some v) :
    (n, v) ∈ members ∨ t[n]? = some v := by
  induction members generalizing t with
  | nil => exact .inr h
  | cons m members ih =>
    rw [Std.TreeMap.insertMany_cons] at h
    rcases ih h with mem | held
    · exact .inl (List.mem_cons_of_mem m mem)
    · rw [Std.TreeMap.getElem?_insert] at held
      split_ifs at held with same
      · obtain rfl := Option.some.inj held
        obtain rfl := Std.LawfulEqCmp.eq_of_compare same
        exact .inl List.mem_cons_self
      · exact .inr held

/-- Members that are put into an object come to stand in ascending order. None is added, and
if their names are distinct none is lost. -/
theorem exists_ofMembers (members : List (Text × Json)) :
    ∃ l, ofMembers members = .object l ∧ Ascending (l.map Prod.fst) ∧ (∀ m ∈ l, m ∈ members) ∧
      ((members.map Prod.fst).Nodup → ∀ m ∈ members, m ∈ l) := by
  refine ⟨_, rfl, ?_, ?_, ?_⟩
  · exact List.pairwise_map.2 Std.TreeMap.ordered_keys_toList
  · rintro ⟨n, v⟩ mem
    rw [Std.TreeMap.mem_toList_iff_getElem?_eq_some, Std.TreeMap.ofList_eq_insertMany_empty] at mem
    exact (mem_of_getElem?_insertMany mem).resolve_right (by simp)
  · rintro distinct ⟨n, v⟩ mem
    rw [Std.TreeMap.mem_toList_iff_getElem?_eq_some]
    refine Std.TreeMap.getElem?_ofList_of_mem Std.ReflCmp.compare_self ?_ mem
    refine (List.pairwise_map.1 distinct).imp fun ne same => ne ?_
    exact Std.LawfulEqCmp.eq_of_compare same

theorem ofMembers_of_ascending {members : List (Text × Json)}
    (h : Ascending (members.map Prod.fst)) : ofMembers members = .object members := by
  obtain ⟨l, e, ascending, sound, complete⟩ := exists_ofMembers members
  have all := complete (Text.nodup_of_pairwise h)
  rw [e, TextMap.eq_of_mem_iff ascending h fun m => ⟨sound m, all m⟩]

mutual

/-- The value after the members of every object inside it were put in order. -/
def arranged : Json → Json
  | .array items => .array (arrangedItems items)
  | .object members => ofMembers (arrangedMembers members)
  | v => v

def arrangedItems : List Json → List Json
  | [] => []
  | v :: vs => arranged v :: arrangedItems vs

def arrangedMembers : List (Text × Json) → List (Text × Json)
  | [] => []
  | (n, v) :: ms => (n, arranged v) :: arrangedMembers ms

end

theorem arranged_of_scalar (single : v.isContainer = false) : v.arranged = v := by
  cases v with
  | array items => cases single
  | object members => cases single
  | _ => rfl

theorem arrangedItems_eq (items : List Json) : arrangedItems items = items.map arranged := by
  induction items with
  | nil => rfl
  | cons v vs ih => rw [arrangedItems, ih, List.map_cons]

theorem arrangedMembers_eq (members : List (Text × Json)) :
    arrangedMembers members = members.map fun m => (m.1, m.2.arranged) := by
  induction members with
  | nil => rfl
  | cons m ms ih => rw [arrangedMembers, ih, List.map_cons]

theorem map_fst_arrangedMembers (members : List (Text × Json)) :
    (arrangedMembers members).map Prod.fst = members.map Prod.fst := by
  rw [arrangedMembers_eq, List.map_map]
  rfl

theorem ordered_ofMembers {members : List (Text × Json)} (h : ∀ m ∈ members, m.2.Ordered) :
    (ofMembers members).Ordered := by
  obtain ⟨l, e, ascending, sound, -⟩ := exists_ofMembers members
  rw [e]
  exact .object ascending fun m mem => h m (sound m mem)

mutual

theorem ordered_arranged : (v : Json) → v.arranged.Ordered
  | .null | .bool _ | .number _ | .string _ => .scalar rfl
  | .array items => .array (ordered_of_mem_arrangedItems items)
  | .object members => ordered_ofMembers (ordered_of_mem_arrangedMembers members)

theorem ordered_of_mem_arrangedItems : (items : List Json) →
    ∀ v ∈ arrangedItems items, v.Ordered
  | [], _, mem => by cases mem
  | v :: vs, u, mem => by
    rcases List.mem_cons.1 mem with rfl | mem
    · exact ordered_arranged v
    · exact ordered_of_mem_arrangedItems vs u mem

theorem ordered_of_mem_arrangedMembers : (members : List (Text × Json)) →
    ∀ m ∈ arrangedMembers members, m.2.Ordered
  | [], _, mem => by cases mem
  | (_, v) :: ms, m, mem => by
    rcases List.mem_cons.1 mem with rfl | mem
    · exact ordered_arranged v
    · exact ordered_of_mem_arrangedMembers ms m mem

end

theorem Ordered.arranged_eq (h : v.Ordered) : v.arranged = v := by
  induction h with
  | scalar single => exact arranged_of_scalar single
  | @array items _ ih =>
    have same : items.map arranged = items :=
      (List.map_congr_left ih).trans (List.map_id items)
    rw [arranged, arrangedItems_eq, same]
  | @object members names _ ih =>
    have same : (members.map fun m => (m.1, m.2.arranged)) = members :=
      (List.map_congr_left fun m mem => congrArg (m.1, ·) (ih m mem)).trans (List.map_id members)
    rw [arranged, arrangedMembers_eq, same, ofMembers_of_ascending names]

/-- Where names are distinct, the order of the members moves no scalar to another path. -/
theorem scalarAt_arranged_iff (distinct : v.EveryObject List.Nodup) :
    ScalarAt v.arranged p w ↔ ScalarAt v p w := by
  induction distinct generalizing p with
  | scalar single => rw [arranged_of_scalar single]
  | @array items _ ih =>
    rw [arranged, arrangedItems_eq, scalarAt_array_iff, scalarAt_array_iff]
    constructor
    · rintro ⟨i, x, q, held, rfl, inner⟩
      rw [List.getElem?_map] at held
      obtain ⟨v, here, rfl⟩ := Option.map_eq_some_iff.1 held
      exact ⟨i, v, q, here, rfl, (ih v (List.mem_of_getElem? here)).1 inner⟩
    · rintro ⟨i, v, q, held, rfl, inner⟩
      refine ⟨i, v.arranged, q, ?_, rfl, (ih v (List.mem_of_getElem? held)).2 inner⟩
      rw [List.getElem?_map, held, Option.map_some]
  | @object members names _ ih =>
    -- putting the members in order adds none, and loses none as their names are distinct
    obtain ⟨l, e, -, sound, complete⟩ := exists_ofMembers (arrangedMembers members)
    rw [map_fst_arrangedMembers] at complete
    rw [arranged, e, scalarAt_object_iff, scalarAt_object_iff]
    constructor
    · rintro ⟨n, x, q, held, rfl, inner⟩
      have mem := sound _ held
      rw [arrangedMembers_eq, List.mem_map] at mem
      obtain ⟨⟨m, v⟩, mem, e⟩ := mem
      obtain ⟨rfl, rfl⟩ := Prod.mk.inj e
      exact ⟨m, v, q, mem, rfl, (ih _ mem).1 inner⟩
    · rintro ⟨n, v, q, held, rfl, inner⟩
      refine ⟨n, v.arranged, q, complete names _ ?_, rfl, (ih _ held).2 inner⟩
      rw [arrangedMembers_eq]
      exact List.mem_map_of_mem held

/-! ### The order of paths -/

/-- The order of steps out of one value: indices ascend, and so do names. -/
def Segment.Before : Segment → Segment → Prop
  | .item i, .item j => i < j
  | .member n, .member m => compare n m = .lt
  | _, _ => False

/-- The order of paths: the first steps that differ decide. -/
def Path.Before (p q : Path) : Prop := List.Lex Segment.Before p q

theorem Segment.not_before_self (s : Segment) : ¬ s.Before s := by
  cases s with
  | item i => exact Nat.lt_irrefl i
  | member n => exact Text.not_compare_lt_self n

theorem Path.not_before_self (p : Path) : ¬ p.Before p := by
  induction p with
  | nil => nofun
  | cons s p ih =>
    intro h
    rcases h with _ | first | rest
    · exact s.not_before_self first
    · exact ih rest

theorem pairwise_map_under (s : Segment) {l : List (Path × Json)}
    (h : l.Pairwise fun a b => a.1.Before b.1) :
    (l.map (under s)).Pairwise fun a b => a.1.Before b.1 :=
  List.pairwise_map.2 (h.imp .cons)

mutual

/-- The scalars of an ordered value come in the order of their paths. -/
theorem pairwise_scalars : (v : Json) → v.Ordered →
    v.scalars.Pairwise fun a b => a.1.Before b.1
  | .null, _ | .bool _, _ | .number _, _ | .string _, _ => List.pairwise_singleton _ _
  | .array items, h => pairwise_itemScalars 0 items (everyObject_array_iff.1 h)
  | .object members, h =>
    have ⟨names, inner⟩ := everyObject_object_iff.1 h
    pairwise_memberScalars members names inner

theorem pairwise_itemScalars : (i : Nat) → (items : List Json) → (∀ v ∈ items, v.Ordered) →
    (itemScalars i items).Pairwise fun a b => a.1.Before b.1
  | _, [], _ => .nil
  | i, v :: vs, h => by
    have first := pairwise_map_under (.item i) (pairwise_scalars v (h v List.mem_cons_self))
    have rest := pairwise_itemScalars (i + 1) vs fun u mem => h u (List.mem_cons_of_mem v mem)
    rw [itemScalars, List.pairwise_append]
    refine ⟨first, rest, ?_⟩
    rintro ⟨p, w⟩ hp ⟨q, u⟩ hq
    obtain ⟨p, rfl, -⟩ := mem_map_under_iff.1 hp
    obtain ⟨j, x, q, -, rfl, -⟩ := (mem_itemScalars_iff (i + 1) vs).1 hq
    have later : i < i + 1 + j := by omega
    exact .rel later

theorem pairwise_memberScalars : (members : List (Text × Json)) →
    Ascending (members.map Prod.fst) → (∀ m ∈ members, m.2.Ordered) →
    (memberScalars members).Pairwise fun a b => a.1.Before b.1
  | [], _, _ => .nil
  | (n, v) :: ms, ascending, h => by
    obtain ⟨least, ascending⟩ := List.pairwise_cons.1 ascending
    have first := pairwise_map_under (.member n) (pairwise_scalars v (h _ List.mem_cons_self))
    have rest := pairwise_memberScalars ms ascending fun m mem => h m (List.mem_cons_of_mem _ mem)
    rw [memberScalars, List.pairwise_append]
    refine ⟨first, rest, ?_⟩
    rintro ⟨p, w⟩ hp ⟨q, u⟩ hq
    obtain ⟨p, rfl, -⟩ := mem_map_under_iff.1 hp
    obtain ⟨m, x, q, held, rfl, -⟩ := (mem_memberScalars_iff ms).1 hq
    exact .rel (least m (List.mem_map_of_mem held))

end

end SecretEnv.Json

import SecretEnv.Secret

/-!
# Where the scalars of a value stand

A path leads from a value to a scalar inside it, by indices of items and names of members.

* `Json.ScalarAt`: a scalar stands at the end of a path;
* `Json.scalars` lists the scalars with their paths, and `mem_scalars_iff` tells that it
  lists all of them and nothing else;
* `leaves_eq`: `Json.leaves` names every scalar after its path.
-/

namespace SecretEnv.Json

/-- One step into a value. -/
inductive Segment where
  | item (index : Nat)
  | member (name : Text)
  deriving DecidableEq

/-- The step in writing: the index in decimal, or the name. -/
def Segment.text : Segment → Text
  | .item i => Text.decimal i
  | .member n => n

/-- Steps into a value, the outermost first. -/
abbrev Path := List Segment

/-- The name at the end of a path that begins at a given name. -/
def Path.nameIn (name : Text) (p : Path) : Text :=
  p.foldl (fun outer s => joinName outer s.text) name

@[simp] theorem Path.nameIn_nil (name : Text) : Path.nameIn name [] = name := rfl

@[simp] theorem Path.nameIn_cons (name : Text) (s : Segment) (p : Path) :
    Path.nameIn name (s :: p) = Path.nameIn (joinName name s.text) p := rfl

/-- At the end of the path `p` into the first value stands the second, a scalar. -/
inductive ScalarAt : Json → Path → Json → Prop
  | scalar {v : Json} (single : v.isContainer = false) : ScalarAt v [] v
  | item {items : List Json} {i : Nat} {v w : Json} {p : Path} (held : items[i]? = some v)
      (inner : ScalarAt v p w) : ScalarAt (.array items) (.item i :: p) w
  | member {members : List (Text × Json)} {n : Text} {v w : Json} {p : Path}
      (held : (n, v) ∈ members) (inner : ScalarAt v p w) :
      ScalarAt (.object members) (.member n :: p) w

variable {v w : Json} {p q : Path} {items : List Json} {members : List (Text × Json)}

theorem scalarAt_of_scalar (single : v.isContainer = false) :
    ScalarAt v p w ↔ p = [] ∧ w = v := by
  constructor
  · rintro (_ | _ | _)
    · exact ⟨rfl, rfl⟩
    · cases single
    · cases single
  · rintro ⟨rfl, rfl⟩
    exact .scalar single

theorem scalarAt_array_iff :
    ScalarAt (.array items) p w ↔
      ∃ i v q, items[i]? = some v ∧ p = .item i :: q ∧ ScalarAt v q w := by
  constructor
  · rintro (single | ⟨held, inner⟩)
    · cases single
    · exact ⟨_, _, _, held, rfl, inner⟩
  · rintro ⟨i, v, q, held, rfl, inner⟩
    exact .item held inner

theorem scalarAt_object_iff :
    ScalarAt (.object members) p w ↔
      ∃ n v q, (n, v) ∈ members ∧ p = .member n :: q ∧ ScalarAt v q w := by
  constructor
  · rintro (single | _ | ⟨held, inner⟩)
    · cases single
    · exact ⟨_, _, _, held, rfl, inner⟩
  · rintro ⟨n, v, q, held, rfl, inner⟩
    exact .member held inner

theorem ScalarAt.single (h : ScalarAt v p w) : w.isContainer = false := by
  induction h with
  | scalar single => exact single
  | item _ _ ih => exact ih
  | member _ _ ih => exact ih

theorem ScalarAt.ne_nil (h : ScalarAt v p w) (container : v.isContainer = true) : p ≠ [] := by
  rintro rfl
  cases h with
  | scalar single => exact absurd (single.symm.trans container) nofun

/-! ### In order -/

/-- A scalar and its path, seen from one step further outside. -/
def under (s : Segment) (l : Path × Json) : Path × Json := (s :: l.1, l.2)

mutual

/-- The scalars of a value with their paths: members in the order of the object, items by
their index. -/
def scalars : Json → List (Path × Json)
  | .array items => itemScalars 0 items
  | .object members => memberScalars members
  | v => [([], v)]

/-- The scalars of the items from an index on. -/
def itemScalars : Nat → List Json → List (Path × Json)
  | _, [] => []
  | i, v :: vs => (scalars v).map (under (.item i)) ++ itemScalars (i + 1) vs

/-- The scalars of the members. -/
def memberScalars : List (Text × Json) → List (Path × Json)
  | [] => []
  | (n, v) :: ms => (scalars v).map (under (.member n)) ++ memberScalars ms

end

theorem scalars_of_scalar (single : v.isContainer = false) : v.scalars = [([], v)] := by
  cases v with
  | array items => cases single
  | object members => cases single
  | _ => rfl

theorem mem_map_under_iff {s : Segment} {l : List (Path × Json)} :
    (p, w) ∈ l.map (under s) ↔ ∃ q, p = s :: q ∧ (q, w) ∈ l := by
  rw [List.mem_map]
  constructor
  · rintro ⟨⟨q, u⟩, mem, e⟩
    obtain ⟨rfl, rfl⟩ := Prod.mk.inj e
    exact ⟨q, rfl, mem⟩
  · rintro ⟨q, rfl, mem⟩
    exact ⟨(q, w), mem, rfl⟩

mutual

theorem mem_scalars_iff : (v : Json) → {p : Path} → {w : Json} →
    ((p, w) ∈ v.scalars ↔ ScalarAt v p w)
  | .null, _, _ | .bool _, _, _ | .number _, _, _ | .string _, _, _ => by
    rw [scalars_of_scalar rfl, scalarAt_of_scalar rfl, List.mem_singleton, Prod.mk.injEq]
  | .array items, _, _ => by
    rw [scalars, mem_itemScalars_iff 0 items, scalarAt_array_iff]
    simp only [Nat.zero_add]
  | .object members, _, _ => by
    rw [scalars, mem_memberScalars_iff members, scalarAt_object_iff]

theorem mem_itemScalars_iff : (i : Nat) → (items : List Json) → {p : Path} → {w : Json} →
    ((p, w) ∈ itemScalars i items ↔
      ∃ j v q, items[j]? = some v ∧ p = .item (i + j) :: q ∧ ScalarAt v q w)
  | i, [], _, _ => by simp [itemScalars]
  | i, v :: vs, p, w => by
    rw [itemScalars, List.mem_append, mem_map_under_iff, mem_itemScalars_iff (i + 1) vs]
    constructor
    · rintro (⟨q, rfl, mem⟩ | ⟨j, u, q, held, rfl, inner⟩)
      · exact ⟨0, v, q, rfl, rfl, (mem_scalars_iff v).1 mem⟩
      · exact ⟨j + 1, u, q, held, by rw [Nat.add_right_comm, Nat.add_assoc], inner⟩
    · rintro ⟨j, u, q, held, rfl, inner⟩
      cases j with
      | zero =>
        obtain rfl : v = u := Option.some.inj held
        exact .inl ⟨q, rfl, (mem_scalars_iff v).2 inner⟩
      | succ j =>
        exact .inr ⟨j, u, q, held, by rw [Nat.add_right_comm, Nat.add_assoc], inner⟩

theorem mem_memberScalars_iff : (members : List (Text × Json)) → {p : Path} → {w : Json} →
    ((p, w) ∈ memberScalars members ↔
      ∃ n v q, (n, v) ∈ members ∧ p = .member n :: q ∧ ScalarAt v q w)
  | [], _, _ => by simp [memberScalars]
  | (n, v) :: ms, p, w => by
    rw [memberScalars, List.mem_append, mem_map_under_iff, mem_memberScalars_iff ms]
    constructor
    · rintro (⟨q, rfl, mem⟩ | ⟨m, u, q, held, rfl, inner⟩)
      · exact ⟨n, v, q, List.mem_cons_self, rfl, (mem_scalars_iff v).1 mem⟩
      · exact ⟨m, u, q, List.mem_cons_of_mem _ held, rfl, inner⟩
    · rintro ⟨m, u, q, held, rfl, inner⟩
      rcases List.mem_cons.1 held with e | held
      · obtain ⟨rfl, rfl⟩ := Prod.mk.inj e
        exact .inl ⟨q, rfl, (mem_scalars_iff u).2 inner⟩
      · exact .inr ⟨m, u, q, held, rfl, inner⟩

end

/-! ### Names -/

/-- A scalar under the name of its path. -/
def named (name : Text) (l : Path × Json) : Text × Text := (l.1.nameIn name, l.2.plain)

theorem map_named_under (name : Text) (s : Segment) (l : List (Path × Json)) :
    (l.map (under s)).map (named name) = l.map (named (joinName name s.text)) := by
  rw [List.map_map]
  rfl

mutual

/-- Every scalar has the name of its path. -/
theorem leaves_eq : (name : Text) → (v : Json) → v.leaves name = v.scalars.map (named name)
  | _, .null | _, .bool _ | _, .number _ | _, .string _ => rfl
  | name, .array items => by rw [leaves, scalars, itemLeaves_eq name 0 items]
  | name, .object members => by rw [leaves, scalars, memberLeaves_eq name members]

theorem itemLeaves_eq : (name : Text) → (i : Nat) → (items : List Json) →
    itemLeaves name i items = (itemScalars i items).map (named name)
  | _, _, [] => rfl
  | name, i, v :: vs => by
    rw [itemLeaves, itemScalars, List.map_append, map_named_under, leaves_eq _ v,
      itemLeaves_eq name (i + 1) vs]
    rfl

theorem memberLeaves_eq : (name : Text) → (members : List (Text × Json)) →
    memberLeaves name members = (memberScalars members).map (named name)
  | _, [] => rfl
  | name, (n, v) :: ms => by
    rw [memberLeaves, memberScalars, List.map_append, map_named_under, leaves_eq _ v,
      memberLeaves_eq name ms]
    rfl

end

end SecretEnv.Json

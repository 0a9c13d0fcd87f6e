import SecretEnv.Proofs.Json.Indices
import SecretEnv.Proofs.Json.Objects

/-!
# Following a path to a scalar

* `arrayIndex_decimal`: an index in decimal names the item with that index;
* `step_member`: where names are distinct, a name leads to its member;
* `navigate_of_scalarAt`: so the steps of a path in writing lead to the scalar at its end;
* `segments_intercalate`: with dots between them, steps without dots can be told apart.
-/

namespace SecretEnv.Json

variable {v w : Json} {p : Path} {items : List Json} {members : List (Text × Json)}

/-- An index in decimal names the item with that index. -/
theorem arrayIndex_decimal {i length : Nat} (small : i < wordLimit) (inside : i < length)
    (position : Nat) : arrayIndex (Text.decimal i) length position = .ok i := by
  have digits : Text.Numeral (Text.decimal i) i :=
    Text.decimal?_eq_some_iff.1 (Text.decimal?_decimal i)
  have place : (Index.front i).place? length = some i := if_pos inside
  rw [arrayIndex_eq, index?_eq_some_iff.2 (.front digits small)]
  simp only [place]

theorem step_item {i : Nat} (small : i < wordLimit) (held : items[i]? = some v)
    (position : Nat) : step (.array items) (Text.decimal i) position = .ok v := by
  have inside : i < items.length := (List.getElem?_eq_some_iff.1 held).1
  rw [step, arrayIndex_decimal small inside]
  simp only [held]

theorem lookup_of_mem (distinct : (members.map Prod.fst).Nodup) {n : Text}
    (held : (n, v) ∈ members) : members.lookup n = some v := by
  induction members with
  | nil => cases held
  | cons m ms ih =>
    obtain ⟨new, distinct⟩ := List.nodup_cons.1 distinct
    rcases List.mem_cons.1 held with rfl | held
    · exact List.lookup_cons_self
    · have other : (n == m.1) = false :=
        beq_eq_false_iff_ne.2 fun e => new (e ▸ List.mem_map_of_mem held)
      rw [List.lookup_cons, other]
      exact ih distinct held

theorem step_member (distinct : (members.map Prod.fst).Nodup) {n : Text}
    (held : (n, v) ∈ members) (position : Nat) : step (.object members) n position = .ok v := by
  rw [step, lookup_of_mem distinct held]

theorem navigateFrom_cons {segment : Text} {position : Nat} {u : Json}
    (first : step v segment position = .ok u) (path : List Text) :
    navigateFrom position v (segment :: path) = navigateFrom (position + 1) u path := by
  rw [navigateFrom, first]

/-- The steps of a path lead to the scalar at its end. -/
theorem navigateFrom_of_scalarAt (distinct : v.EveryObject List.Nodup) (h : ScalarAt v p w)
    (small : ∀ i, .item i ∈ p → i < wordLimit) (position : Nat) :
    navigateFrom position v (p.map Segment.text) = .ok w := by
  induction h generalizing position with
  | scalar _ => rfl
  | @item items i u _ _ held _ ih =>
    have first := step_item (small i List.mem_cons_self) held position
    rw [List.map_cons, Segment.text, navigateFrom_cons first]
    exact ih (everyObject_array_iff.1 distinct _ (List.mem_of_getElem? held))
      (fun j mem => small j (List.mem_cons_of_mem _ mem)) _
  | @member members n u _ _ held _ ih =>
    obtain ⟨names, inner⟩ := everyObject_object_iff.1 distinct
    have first := step_member names held position
    rw [List.map_cons, Segment.text, navigateFrom_cons first]
    exact ih (inner _ held) (fun j mem => small j (List.mem_cons_of_mem _ mem)) _

theorem navigate_of_scalarAt (distinct : v.EveryObject List.Nodup) (h : ScalarAt v p w)
    (small : ∀ i, .item i ∈ p → i < wordLimit) : v.navigate (p.map Segment.text) = .ok w :=
  navigateFrom_of_scalarAt distinct h small 0

theorem segments_intercalate {l : List Text} (dotless : ∀ t ∈ l, '.' ∉ t) (ne : l ≠ []) :
    segments (List.intercalate ['.'] l) = l :=
  List.splitOn_intercalate '.' dotless ne

end SecretEnv.Json

import Mathlib.Order.Bounds.Defs
import SecretEnv.Proofs.Json.Indices

/-!
# Paths in parts

A path may be followed in two parts, the second one from where the first one leads. An error of
the second part is the same as if it were followed alone, but further on in the path.

* `PathError.position` and `PathError.shift`: the place of a failing segment, and an error moved
  to a later one;
* `arrayIndex_eq_ok_iff`: the place that a segment is given in an array is the one it names, and
  is inside the array;
* `step_add` and `navigateFrom_add`: where a path begins matters to the positions only;
* `navigateFrom_append`: a path in two parts;
* `navigate_eq_error_iff`: a path fails at a segment that fails where those before it lead;
* `navigate_in_parts`: so the position of an error is where the path first leads nowhere.
-/

namespace SecretEnv

namespace PathError

/-- The place of the failing segment in its path. -/
def position : PathError → Nat
  | keyNotFound _ position => position
  | indexOutOfBounds _ _ position => position
  | invalidIndex _ position => position
  | notNavigable position => position

/-- The same error some segments further on. -/
def shift (n : Nat) : PathError → PathError
  | keyNotFound segment position => keyNotFound segment (position + n)
  | indexOutOfBounds segment length position => indexOutOfBounds segment length (position + n)
  | invalidIndex segment position => invalidIndex segment (position + n)
  | notNavigable position => notNavigable (position + n)

end PathError

namespace Json

variable {v w : Json} {segment : Text} {path p q : List Text} {position i : Nat} {e : PathError}

/-! ### Places in arrays -/

/-- A segment is given the place that it names, if that is inside the array. -/
theorem arrayIndex_eq_ok_iff {length : Nat} :
    arrayIndex segment length position = .ok i ↔
      ∃ x, Index.Read segment x ∧ x.Names length i ∧ i < length := by
  simp only [← index?_eq_some_iff, ← Index.place?_eq_some_iff, arrayIndex_eq]
  cases index? segment with
  | none => simp
  | some x => cases place : x.place? length <;> simp [place]

theorem step_array {items : List Json}
    (found : arrayIndex segment items.length position = .ok i) (inside : i < items.length) :
    step (.array items) segment position = .ok items[i] := by
  have held : items[i]? = some items[i] := List.getElem?_eq_getElem inside
  simp only [step, found, held]

/-! ### Positions -/

theorem position_of_arrayIndex {length : Nat}
    (failed : arrayIndex segment length position = .error e) : e.position = position := by
  rw [arrayIndex_eq] at failed
  split at failed
  · rw [← Except.error.inj failed, PathError.position]
  · split at failed
    · rw [← Except.error.inj failed, PathError.position]
    · exact nomatch failed

theorem position_of_step (failed : step v segment position = .error e) : e.position = position := by
  unfold step at failed
  split at failed
  · split at failed
    · exact nomatch failed
    · rw [← Except.error.inj failed, PathError.position]
  · split at failed
    · next refused =>
      obtain rfl := Except.error.inj failed
      exact position_of_arrayIndex refused
    · split at failed
      · exact nomatch failed
      · rw [← Except.error.inj failed, PathError.position]
  · rw [← Except.error.inj failed, PathError.position]

theorem arrayIndex_add (segment : Text) (length position n : Nat) :
    arrayIndex segment length (position + n) =
      (arrayIndex segment length position).mapError (PathError.shift n) := by
  rw [arrayIndex_eq, arrayIndex_eq]
  cases index? segment with
  | none => rfl
  | some x =>
    simp only
    cases x.place? length <;> rfl

/-- A segment leads to the same value at every position, or fails there for the same reason. -/
theorem step_add (v : Json) (segment : Text) (position n : Nat) :
    step v segment (position + n) = (step v segment position).mapError (PathError.shift n) := by
  cases v with
  | object members =>
    simp only [step]
    cases members.lookup segment <;> rfl
  | array items =>
    simp only [step, arrayIndex_add]
    cases arrayIndex segment items.length position with
    | error e => rfl
    | ok i =>
      simp only [Except.mapError]
      cases items[i]? <;> rfl
  | _ => rfl

theorem navigateFrom_add (position n : Nat) (v : Json) (path : List Text) :
    navigateFrom (position + n) v path =
      (navigateFrom position v path).mapError (PathError.shift n) := by
  induction path generalizing position v with
  | nil => rfl
  | cons segment path ih =>
    rw [navigateFrom, navigateFrom, step_add]
    cases step v segment position with
    | error e => rfl
    | ok w =>
      have rest := ih (position + 1) w
      rwa [Nat.add_right_comm] at rest

/-! ### Two parts -/

/-- The second part of a path is followed from where the first one leads. -/
theorem navigateFrom_append (position : Nat) (v : Json) (p q : List Text) :
    navigateFrom position v (p ++ q) =
      match navigateFrom position v p with
      | .ok w => navigateFrom (position + p.length) w q
      | .error e => .error e := by
  induction p generalizing position v with
  | nil => rfl
  | cons segment p ih =>
    have length : position + (segment :: p).length = position + 1 + p.length := by
      rw [List.length_cons]
      omega
    rw [List.cons_append, navigateFrom, navigateFrom, length]
    cases step v segment position with
    | error e => rfl
    | ok w => exact ih (position + 1) w

theorem navigate_append (v : Json) (p q : List Text) :
    v.navigate (p ++ q) =
      match v.navigate p with
      | .ok w => (w.navigate q).mapError (PathError.shift p.length)
      | .error e => .error e := by
  have parts := navigateFrom_append 0 v p q
  simp only [navigateFrom_add] at parts
  exact parts

/-- A path leads to some value. -/
def Resolves (v : Json) (path : List Text) : Prop := ∃ w, v.navigate path = .ok w

theorem Resolves.of_append (h : v.Resolves (p ++ q)) : v.Resolves p := by
  obtain ⟨u, whole⟩ := h
  rw [navigate_append] at whole
  split at whole
  · next w first => exact ⟨w, first⟩
  · exact nomatch whole

theorem Resolves.take (h : v.Resolves path) (n : Nat) : v.Resolves (path.take n) := by
  rw [← List.take_append_drop n path] at h
  exact h.of_append

/-! ### Where a path fails -/

theorem exists_stuck_of_navigateFrom (failed : navigateFrom position v path = .error e) :
    ∃ p segment q w, path = p ++ segment :: q ∧ navigateFrom position v p = .ok w ∧
      step w segment (position + p.length) = .error e := by
  induction path generalizing position v with
  | nil => exact nomatch failed
  | cons segment path ih =>
    rw [navigateFrom] at failed
    split at failed
    · next u first =>
      obtain ⟨p, stuck, q, w, rfl, reached, refused⟩ := ih failed
      refine ⟨segment :: p, stuck, q, w, rfl, ?_, ?_⟩
      · rw [navigateFrom, first]
        exact reached
      · rwa [List.length_cons, Nat.add_comm p.length, ← Nat.add_assoc]
    · next refused =>
      obtain rfl := Except.error.inj failed
      exact ⟨[], segment, path, v, rfl, rfl, refused⟩

/-- A path fails at a segment that fails at the value to which those before it lead. -/
theorem navigate_eq_error_iff :
    v.navigate path = .error e ↔ ∃ p segment q w, path = p ++ segment :: q ∧
      v.navigate p = .ok w ∧ step w segment p.length = .error e := by
  constructor
  · intro failed
    obtain ⟨p, segment, q, w, split, reached, refused⟩ := exists_stuck_of_navigateFrom failed
    rw [Nat.zero_add] at refused
    exact ⟨p, segment, q, w, split, reached, refused⟩
  · rintro ⟨p, segment, q, w, rfl, reached, refused⟩
    have parts := navigateFrom_append 0 v p (segment :: q)
    rw [← navigate, ← navigate, reached] at parts
    rw [parts]
    show navigateFrom (0 + p.length) w (segment :: q) = .error e
    rw [navigateFrom, Nat.zero_add, refused]

/-- The position of an error is the least one up to which the path leads to a value, while it
leads to none with one segment more. -/
theorem isLeast_position (failed : v.navigate path = .error e) :
    IsLeast {i | i < path.length ∧ v.Resolves (path.take i) ∧ ¬ v.Resolves (path.take (i + 1))}
      e.position := by
  obtain ⟨p, segment, q, w, rfl, reached, refused⟩ := navigate_eq_error_iff.1 failed
  have resolved : v.Resolves p := ⟨w, reached⟩
  have one_more : (p ++ segment :: q).take (p.length + 1) = p ++ [segment] := by
    rw [List.append_cons]
    exact List.take_left' (List.length_append ..)
  have lost : ¬ v.Resolves (p ++ [segment]) := by
    rintro ⟨u, arrived⟩
    rw [navigate_eq_error_iff.2 ⟨p, segment, [], w, rfl, reached, refused⟩] at arrived
    exact nomatch arrived
  rw [position_of_step refused]
  refine ⟨⟨by simp, ?_, ?_⟩, ?_⟩
  · rwa [List.take_left]
  · rwa [one_more]
  · rintro i ⟨-, -, stuck⟩
    -- up to an earlier segment the path is part of one that leads to a value
    by_contra before
    rw [Nat.not_le] at before
    rw [List.take_append_of_le_length (Nat.succ_le_of_lt before)] at stuck
    exact stuck (resolved.take _)

/-- A path in two parts leads where the second part leads from the value of the first, with the
positions of its errors moved behind the first part; an error of the first part stays. So the
position of an error is the least one up to which the path leads to a value, while it leads to
none with one segment more. The place that a segment is given in an array is the one it names,
and there is always an item. -/
theorem navigate_in_parts :
    (∀ (v : Json) (p q : List Text), v.navigate (p ++ q) =
      match v.navigate p with
      | .ok w => (w.navigate q).mapError (PathError.shift p.length)
      | .error e => .error e) ∧
      (∀ (v : Json) (path : List Text) (e : PathError), v.navigate path = .error e →
        IsLeast
          {i | i < path.length ∧ v.Resolves (path.take i) ∧ ¬ v.Resolves (path.take (i + 1))}
          e.position) ∧
      ∀ (items : List Json) (segment : Text) (position i : Nat),
        arrayIndex segment items.length position = .ok i →
          (∃ x, Index.Read segment x ∧ x.Names items.length i) ∧
            ∃ _ : i < items.length, step (.array items) segment position = .ok items[i] := by
  refine ⟨navigate_append, fun v path e => isLeast_position, ?_⟩
  intro items segment position i found
  obtain ⟨x, read, named, inside⟩ := arrayIndex_eq_ok_iff.1 found
  exact ⟨⟨x, read, named⟩, inside, step_array found inside⟩

/-- An object at the end of an array that is a member of another object. -/
def deep : Json := .object [("a".toList, .array [.null, .object [("b".toList, .bool true)]])]

/-- A path into it whose third segment fails. -/
def deepPath : List Text := ["a".toList, "-1".toList, "c".toList, "d".toList]

theorem navigate_in_parts_deep :
    deep.navigate deepPath = .error (.keyNotFound "c".toList 2) ∧
      IsLeast {i | i < deepPath.length ∧ deep.Resolves (deepPath.take i) ∧
        ¬ deep.Resolves (deepPath.take (i + 1))} 2 ∧
      arrayIndex "-1".toList 2 1 = .ok 1 ∧
      ∃ x, Index.Read "-1".toList x ∧ x.Names 2 1 := by
  have failed : deep.navigate deepPath = .error (.keyNotFound "c".toList 2) := by decide
  have found : arrayIndex "-1".toList 2 1 = .ok 1 := by decide
  exact ⟨failed, navigate_in_parts.2.1 deep deepPath _ failed, found,
    (navigate_in_parts.2.2 [.null, .null] _ 1 1 found).1⟩

end Json
end SecretEnv

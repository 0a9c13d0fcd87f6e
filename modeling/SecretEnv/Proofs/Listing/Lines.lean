import SecretEnv.Listing
import SecretEnv.Proofs.TextMap

/-!
# Listings by what they show

* `orderedNames_eq`: the names to look at first make no difference;
* `lines_eq`: the lines are those of the variables that are kept, in ascending
  order of their names;
* `lines_congr`: so they depend on what the variables hold only;
* `unwrapQuotes_quoted`: quotes that were put around a value are taken off.
-/

namespace SecretEnv

@[simp] theorem Secret.unwrapQuotes_quoted (t : Text) :
    unwrapQuotes ('\'' :: (t ++ ['\''])) = t := by
  simp [unwrapQuotes, unquote?]

namespace Listing

/-- Whether a style writes a variable of this name. -/
def keeps (style : LineStyle) (name : Text) : Bool :=
  (style.addresses || !isAddress name) && writable style name

/-- All names in ascending order: those to look at first are among them anyway. -/
theorem orderedNames_eq (vars : Variables) (preferred : List Text) :
    orderedNames vars preferred = Text.ascending vars.keys := by
  refine Text.ascending_congr fun n => ?_
  rw [List.mem_append, List.mem_filter, TextMap.contains_eq_true_iff]
  exact ⟨fun h => h.elim And.right id, .inr⟩

theorem filter_candidates (style : LineStyle) (vars : Variables) :
    (candidates style vars).filter (writable style) =
      (Text.ascending vars.keys).filter (keeps style) := by
  rw [candidates, orderedNames_eq, List.filter_filter]
  refine List.filter_congr fun n _ => ?_
  rw [keeps, Bool.and_comm]

/-- The lines of the variables that are kept, in ascending order of their names. -/
theorem lines_eq (style : LineStyle) (vars : Variables) :
    lines style vars =
      (vars.ordered.filter fun p => keeps style p.1).map fun p => line style p.1 p.2 := by
  rw [lines, filter_candidates, TextMap.ordered, List.filter_filterMap, List.map_filterMap,
    List.filterMap_filter]
  refine List.filterMap_congr fun n _ => ?_
  cases vars.get? n with
  | none => simp
  | some v => by_cases h : keeps style n = true <;> simp [Option.filter, h]

theorem lines_congr {vars vars' : Variables} (h : ∀ k, vars.get? k = vars'.get? k)
    (style : LineStyle) : lines style vars = lines style vars' := by
  rw [lines_eq, lines_eq, TextMap.ordered_congr h]

end Listing
end SecretEnv

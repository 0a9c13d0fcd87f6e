import SecretEnv.Text
import Std.Data.TreeSet.Lemmas

/-!
# Ascending lists

`Text.ascending` lists the texts of a list in ascending order by code point,
each once.

* `Text.mem_ascending` says that no text is added and none is lost;
* `Text.pairwise_ascending` says that each stands before greater ones only.
-/

namespace SecretEnv.Text

/-- The texts of a list in ascending order, each once. -/
def ascending (texts : List Text) : List Text := (Std.TreeSet.ofList texts compare).toList

@[simp] theorem mem_ascending {t : Text} {texts : List Text} :
    t ∈ ascending texts ↔ t ∈ texts := by
  rw [ascending, Std.TreeSet.mem_toList, Std.TreeSet.mem_ofList, List.contains_iff_mem]

theorem pairwise_ascending (texts : List Text) :
    (ascending texts).Pairwise fun t u => compare t u = .lt :=
  Std.TreeSet.ordered_toList

end SecretEnv.Text

import Mathlib.Data.List.Destutter
import SecretEnv.Proofs.Listing.Lines

/-!
# The order of listings

* `Text.Before` is the order of texts by code points;
* `Text.destutter_eq_ascending`: a sorted list, with whatever repetitions, is ascending once equal
  neighbours are merged, and `Listing.orderedNames_of_sorted` says so of the names of a listing;
* `Listing.lines_of_contents`: a listing shows what the variables hold, in this order, and depends
  on nothing else.
-/

namespace SecretEnv

namespace Text

/-- Whether a text comes before another by code points: it is a part in front of the other, or
the first character that differs has the smaller code point. -/
def Before (t u : Text) : Prop := List.Lex (fun c d => c.toNat < d.toNat) t u

theorem compare_eq_lt_iff {t u : Text} : compare t u = .lt ↔ Before t u := by
  unfold Before
  induction t generalizing u with
  | nil =>
    cases u with
    | nil => exact ⟨nofun, nofun⟩
    | cons d u => exact ⟨fun _ => .nil, fun _ => rfl⟩
  | cons c t ih =>
    cases u with
    | nil => exact ⟨nofun, nofun⟩
    | cons d u =>
      have first : compare c d = .lt ↔ c.toNat < d.toNat := compareOfLessAndEq_eq_lt
      have step : compare (c :: t) (d :: u) = (compare c d).then (compare t u) :=
        List.compareLex_cons_cons
      rw [step, Ordering.then_eq_lt, first, Std.LawfulEqCmp.compare_eq_iff_eq, ih,
        List.cons_lex_cons_iff]

theorem mem_destutter_iff {l : List Text} {t : Text} : t ∈ l.destutter (· ≠ ·) ↔ t ∈ l := by
  have merged (a : Text) (l : List Text) : t = a ∨ t ∈ l → t ∈ l.destutter' (· ≠ ·) a := by
    -- the text that was kept last changes along the list
    induction l generalizing a with
    | nil => simp
    | cons b l ih =>
      intro held
      by_cases same : a = b
      · subst same
        rw [List.destutter'_cons_neg _ (by simp)]
        exact ih a (by simpa using held)
      · rw [List.destutter'_cons_pos _ same, List.mem_cons]
        refine held.imp_right fun held => ih b ?_
        exact List.mem_cons.1 held
  constructor
  · exact fun held => (List.destutter_sublist _ l).subset held
  · intro held
    cases l with
    | nil => exact held
    | cons a l => exact merged a l (List.mem_cons.1 held)

/-- Of a sorted list strictly ascending texts are left when equal neighbours are merged. -/
theorem pairwise_destutter' {a : Text} {l : List Text}
    (le : (a :: l).Pairwise fun t u => (compare t u).isLE = true) :
    (l.destutter' (· ≠ ·) a).Pairwise fun t u => compare t u = .lt := by
  induction l generalizing a with
  | nil => exact List.pairwise_singleton _ a
  | cons b l ih =>
    obtain ⟨first, rest⟩ := List.pairwise_cons.1 le
    by_cases same : a = b
    · subst same
      rw [List.destutter'_cons_neg _ (by simp)]
      exact ih rest
    · have below : compare a b = .lt := by
        have ordered := first b List.mem_cons_self
        have other : compare a b ≠ .eq := mt Std.LawfulEqCmp.eq_of_compare same
        cases h : compare a b with
        | lt => rfl
        | eq => exact absurd h other
        | gt =>
          rw [h] at ordered
          cases ordered
      rw [List.destutter'_cons_pos _ same, List.pairwise_cons]
      refine ⟨fun t held => ?_, ih rest⟩
      rcases List.mem_cons.1 ((List.destutter'_sublist l (· ≠ ·) b).subset held) with rfl | held
      · exact below
      · exact Std.TransCmp.lt_of_lt_of_isLE below ((List.pairwise_cons.1 rest).1 t held)

/-- A sorted list is ascending once equal neighbours are merged, however often a text occurs. -/
theorem destutter_eq_ascending {sorted texts : List Text} (perm : sorted.Perm texts)
    (le : sorted.Pairwise fun t u => (compare t u).isLE = true) :
    sorted.destutter (· ≠ ·) = ascending texts := by
  have lt : (sorted.destutter (· ≠ ·)).Pairwise fun t u => compare t u = .lt := by
    cases sorted with
    | nil => exact .nil
    | cons a l => exact pairwise_destutter' le
  rw [← ascending_of_pairwise lt]
  exact ascending_congr fun t => mem_destutter_iff.trans perm.mem_iff

end Text

namespace Listing

/-- The names of a listing are in the order of any sorted list of all names that are looked at,
with equal neighbours merged. -/
theorem orderedNames_of_sorted {vars : Variables} {preferred sorted : List Text}
    (perm : sorted.Perm (preferred.filter vars.contains ++ vars.keys))
    (le : sorted.Pairwise fun t u => (compare t u).isLE = true) :
    orderedNames vars preferred = sorted.destutter (· ≠ ·) :=
  (Text.destutter_eq_ascending perm le).symm

theorem keeps_eq_true_iff {style : LineStyle} {name : Text} :
    keeps style name = true ↔
      (style.addresses = true ∨ ¬ Address.scheme <+: name) ∧
        (style.exported = true → isShellName name = true) := by
  have address : isAddress name = true ↔ Address.scheme <+: name := List.isPrefixOf_iff_prefix
  rw [← address]
  simp [keeps, writable, imp_iff_not_or]

/-- A listing has one line for every name that the style keeps, in strictly ascending order of
the names. In which order the variables came in makes no difference, nor do the names to look
at first. -/
theorem lines_of_contents (style : LineStyle) (vars : Variables) :
    (∃ shown : List (Text × Text),
      lines style vars = shown.map (fun p => line style p.1 p.2) ∧
      (shown.map Prod.fst).Pairwise Text.Before ∧
      ∀ k v, (k, v) ∈ shown ↔ (k, v) ∈ vars.pairs ∧
        (style.addresses = true ∨ ¬ Address.scheme <+: k) ∧
        (style.exported = true → isShellName k = true)) ∧
    ∀ (vars' : Variables) (preferred : List Text), vars'.pairs.Perm vars.pairs →
      lines { style with preferred := preferred } vars' = lines style vars := by
  refine ⟨⟨_, lines_eq style vars, ?_, fun k v => ?_⟩, fun vars' preferred perm => ?_⟩
  · exact (TextMap.pairwise_filter_ordered (keeps style) vars).imp Text.compare_eq_lt_iff.1
  · rw [List.mem_filter, TextMap.mem_ordered_iff, TextMap.mem_pairs_iff, keeps_eq_true_iff]
  · have values (k : Text) : vars'.get? k = vars.get? k := by
      refine Option.ext fun v => ?_
      rw [← TextMap.mem_pairs_iff, ← TextMap.mem_pairs_iff, perm.mem_iff]
    -- the names to look at first are in neither the order nor the lines
    rw [lines_eq, TextMap.ordered_congr values]
    exact (lines_eq style vars).symm

/-- A map in two orders, with names to look at first that are repeated, unknown or an address. -/
theorem lines_of_contents_shuffled :
    (TextMap.ofPairs [("b".toList, "2".toList), ("sem://x:s/a/n".toList, "3".toList),
        ("a-b".toList, "'1'".toList), ("B".toList, "0".toList)]).pairs.Perm
      (TextMap.ofPairs [("B".toList, "0".toList), ("a-b".toList, "'1'".toList),
        ("b".toList, "2".toList), ("sem://x:s/a/n".toList, "3".toList)]).pairs ∧
    lines { preferred := ["b".toList, "z".toList, "b".toList, "sem://x:s/a/n".toList] }
        (.ofPairs [("b".toList, "2".toList), ("sem://x:s/a/n".toList, "3".toList),
          ("a-b".toList, "'1'".toList), ("B".toList, "0".toList)]) =
      lines {} (.ofPairs [("B".toList, "0".toList), ("a-b".toList, "'1'".toList),
        ("b".toList, "2".toList), ("sem://x:s/a/n".toList, "3".toList)]) :=
  have perm : _ := by decide +kernel
  ⟨perm, (lines_of_contents {} _).2 _ _ perm⟩

end Listing
end SecretEnv

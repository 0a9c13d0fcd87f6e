import SecretEnv.Proofs.Listing.Lines
import SecretEnv.Proofs.Listing.ShellName
import SecretEnv.Proofs.Text.Parts

/-!
# What a listing exports

* `Listing.exported?` reads a line as a command that exports a variable: its
  name and the shell word of its value;
* `Listing.exports` are the variables that all lines export, in order;
* `exports_eq_iff`: two maps export the same exactly if they show the same for
  every shell name.
-/

namespace SecretEnv.Listing

/-- A value as a word of the shell: in single quotes. -/
def shellWord (value : Text) : Text := '\'' :: (escapeSingleQuotes value ++ ['\''])

/-- The name and the word of a command that exports a variable. -/
def exported? (line : Text) : Option (Text × Text) :=
  ("export ".toList.isPrefixOf? line).bind (Text.cut '=')

/-- What lines export. -/
def exports (lines : List Text) : List (Text × Text) := lines.filterMap exported?

theorem escapeSingleQuotes_cons (c : Char) (t : Text) :
    escapeSingleQuotes (c :: t) =
      (if c = '\'' then ['\'', '\\', '\'', '\''] else [c]) ++ escapeSingleQuotes t := rfl

theorem escapeSingleQuotes_injective : Function.Injective escapeSingleQuotes := by
  intro t u
  induction t generalizing u with
  | nil =>
    intro h
    cases u with
    | nil => rfl
    | cons d u =>
      rw [escapeSingleQuotes_cons] at h
      split_ifs at h <;> exact nomatch h
  | cons c t ih =>
    intro h
    cases u with
    | nil =>
      rw [escapeSingleQuotes_cons] at h
      split_ifs at h <;> exact nomatch h
    | cons d u =>
      rw [escapeSingleQuotes_cons, escapeSingleQuotes_cons] at h
      split_ifs at h with hc hd hd
      · rw [hc, hd, ih (List.append_cancel_left h)]
      · exact absurd (List.cons.inj h).1.symm hd
      · exact absurd (List.cons.inj h).1 hc
      · obtain ⟨rfl, rest⟩ := List.cons.inj h
        rw [ih rest]

theorem shellWord_injective : Function.Injective shellWord := by
  intro t u h
  exact escapeSingleQuotes_injective (List.append_cancel_right (List.cons.inj h).2)

variable {style : LineStyle}

theorem exported?_line (exported : style.exported = true) {name : Text}
    (h : isShellName name = true) (value : Text) :
    exported? (line style name value) = some (name, shellWord (shownValue style value)) := by
  have command : line style name value =
      "export ".toList ++ (name ++ '=' :: shellWord (shownValue style value)) := by
    simp [line, exported, shellWord]
  have first := notMem_of_isShellName h (c := '=') (by decide)
  rw [exported?, command, Parts.isPrefixOf?_eq_some_iff.2 rfl, Option.bind_some,
    Text.cut_eq_some_iff.2 ⟨rfl, first⟩]

theorem keeps_eq_isShellName (exported : style.exported = true) (name : Text) :
    keeps style name = isShellName name := by
  cases h : isShellName name with
  | false => simp [keeps, writable, exported, h]
  | true => simp [keeps, writable, h, isAddress_of_isShellName h]

/-- The shell names are exported with the words of their values. -/
theorem exports_lines (exported : style.exported = true) (m : Variables) :
    exports (lines style m) =
      (m.ordered.filter fun p => isShellName p.1).map fun p =>
        (p.1, shellWord (shownValue style p.2)) := by
  have read : ∀ p ∈ m.ordered.filter fun p => isShellName p.1,
      exported? (line style p.1 p.2) = some (p.1, shellWord (shownValue style p.2)) :=
    fun p hp => exported?_line exported (List.mem_filter.1 hp).2 p.2
  simp only [exports, lines_eq, keeps_eq_isShellName exported]
  rw [List.filterMap_map, Function.comp_def, List.filterMap_congr read, List.filterMap_eq_map']

theorem map_fst_exports_lines (exported : style.exported = true) (m : Variables) :
    (exports (lines style m)).map Prod.fst = (Text.ascending m.keys).filter isShellName := by
  rw [exports_lines exported, List.map_map, ← TextMap.map_fst_filter_ordered isShellName m]
  rfl

/-- A variable is exported, with the word of what is shown of it, if it has a shell name. -/
theorem mem_exports_lines_iff (exported : style.exported = true) {m : Variables} {n w : Text} :
    (n, w) ∈ exports (lines style m) ↔
      isShellName n = true ∧
        ∃ x, (m.get? n).map (shownValue style) = some x ∧ w = shellWord x := by
  rw [exports_lines exported, List.mem_map]
  constructor
  · rintro ⟨p, hp, e⟩
    obtain ⟨rfl, rfl⟩ := Prod.mk.inj e
    obtain ⟨hp, h⟩ := List.mem_filter.1 hp
    exact ⟨h, _, by rw [TextMap.mem_ordered_iff.1 hp, Option.map_some], rfl⟩
  · rintro ⟨h, x, hx, rfl⟩
    obtain ⟨v, hv, rfl⟩ := Option.map_eq_some_iff.1 hx
    exact ⟨(n, v), List.mem_filter.2 ⟨TextMap.mem_ordered_iff.2 hv, h⟩, rfl⟩

/-- Two maps export the same exactly if they show the same for every shell name. -/
theorem exports_eq_iff (exported : style.exported = true) {m n : Variables} :
    exports (lines style m) = exports (lines style n) ↔
      ∀ k, isShellName k = true →
        (m.get? k).map (shownValue style) = (n.get? k).map (shownValue style) := by
  constructor
  · intro same k h
    -- what is shown for a name is the value behind its exported word
    have shown (l : Variables) (x : Text) :
        (l.get? k).map (shownValue style) = some x ↔
          (k, shellWord x) ∈ exports (lines style l) := by
      rw [mem_exports_lines_iff exported]
      constructor
      · intro hx
        exact ⟨h, x, hx, rfl⟩
      · rintro ⟨-, y, hy, e⟩
        rw [shellWord_injective e]
        exact hy
    refine Option.ext fun x => ?_
    rw [shown m, shown n, same]
  · intro same
    have ascending (l : Variables) : ((exports (lines style l)).map Prod.fst).Pairwise
        fun t u => compare t u = .lt := by
      rw [map_fst_exports_lines exported]
      exact (Text.pairwise_ascending l.keys).sublist List.filter_sublist
    refine TextMap.eq_of_mem_iff (ascending m) (ascending n) fun p => ?_
    rw [mem_exports_lines_iff exported, mem_exports_lines_iff exported]
    refine and_congr_right fun h => ?_
    rw [same p.1 h]

end SecretEnv.Listing

import SecretEnv.Console
import SecretEnv.Proofs.Listing.Exports
import SecretEnv.Proofs.Shell.Lexer

/-!
# Exports as a shell reads them

* `isShellName_iff`: the names that are exported, character by character;
* `run_escapeSingleQuotes`: between single quotes an escaped value is read as
  itself, quoted throughout;
* `run_line`: a line is read as one command of two words;
* `lex_stdout_lines`: what is printed is read as one such command for each
  variable with a shell name, in ascending order.
-/

namespace SecretEnv

/-- A name that begins with a letter or an underscore and goes on with letters, digits and
underscores. -/
def IsIdentifier (name : Text) : Prop :=
  ∃ c t, name = c :: t ∧ (c = '_' ∨ IsLetter c) ∧
    ∀ d ∈ t, d = '_' ∨ IsLetter d ∨ '0' ≤ d ∧ d ≤ '9'

theorem isShellName_iff {name : Text} : isShellName name = true ↔ IsIdentifier name := by
  cases name with
  | nil =>
    refine ⟨nofun, ?_⟩
    rintro ⟨c, t, e, -⟩
    exact nomatch e
  | cons c t =>
    have word : (t.all fun d => d = '_' || d.isAlphanum) = true ↔
        ∀ d ∈ t, d = '_' ∨ IsLetter d ∨ '0' ≤ d ∧ d ≤ '9' := by
      rw [List.all_eq_true]
      exact forall₂_congr fun d _ => isWordChar_iff
    rw [isShellName, Bool.and_eq_true, Bool.or_eq_true, decide_eq_true_eq, isAlpha_iff, word]
    constructor
    · intro h
      exact ⟨c, t, rfl, h⟩
    · rintro ⟨d, u, e, h⟩
      obtain ⟨rfl, rfl⟩ := List.cons.inj e
      exact h

namespace Shell

/-- The command that exports a variable: two words, of which the value is quoted and nothing
else is. -/
def exportCommand (name value : Text) : Command :=
  ["export".toList.map .bare, (name ++ ['=']).map .bare ++ value.map .quoted]

theorem isPlain_of_isWordChar {c : Char} (h : isWordChar c = true) : isPlain c = true := by
  have other {d : Char} (hd : isWordChar d = false) : c ≠ d := by
    rintro rfl
    rw [h] at hd
    exact nomatch hd
  have meaningful : special.all (fun d => !isWordChar d) = true := by decide
  rw [List.all_eq_true] at meaningful
  have ordinary : c ∉ special := fun hc => other (by simpa using meaningful c hc) rfl
  simp only [isPlain, Bool.and_eq_true, decide_eq_true_eq]
  refine ⟨⟨⟨⟨⟨?_, ?_⟩, ?_⟩, ?_⟩, ?_⟩, ordinary⟩ <;>
  · exact other (by decide)

namespace State

variable {words : List Word} {commands : List Command}

/-- Between single quotes an escaped value is read as itself. -/
theorem run_escapeSingleQuotes (value : Text) (w : Word) :
    run (Listing.escapeSingleQuotes value) ⟨.quoted, some w, words, commands⟩ =
      some ⟨.quoted, some (w ++ value.map .quoted), words, commands⟩ := by
  induction value generalizing w with
  | nil => simp [Listing.escapeSingleQuotes, Text.replace]
  | cons c value ih =>
    rw [Listing.escapeSingleQuotes_cons, run_append]
    have read : run (if c = '\'' then ['\'', '\\', '\'', '\''] else [c])
        ⟨.quoted, some w, words, commands⟩ =
          some ⟨.quoted, some (w ++ [.quoted c]), words, commands⟩ := by
      by_cases h : c = '\''
      · -- the quotes are closed, the backslash quotes the quote, and the quotes open again
        subst h
        rfl
      · rw [if_neg h, run_cons, step_quoted h, Option.bind_some, run_nil]
    rw [read, Option.bind_some, ih, List.append_assoc, List.singleton_append, List.map_cons]

theorem run_shellWord (value : Text) (w : Word) :
    run (Listing.shellWord value) ⟨.plain, some w, words, commands⟩ =
      some ⟨.plain, some (w ++ value.map .quoted), words, commands⟩ := by
  rw [Listing.shellWord, run_cons, step_open, Option.bind_some, run_append, run_escapeSingleQuotes,
    Option.bind_some, run_cons, step_close, Option.bind_some, run_nil]

/-- A line of a shell name is read as the command that exports it. -/
theorem run_line {style : LineStyle} (exported : style.exported = true) {name : Text}
    (h : isShellName name = true) (value : Text) :
    run (Listing.line style name value ++ ['\n']) ⟨.plain, none, [], commands⟩ =
      some ⟨.plain, none, [],
        commands ++ [exportCommand name (Listing.shownValue style value)]⟩ := by
  have text : Listing.line style name value ++ ['\n'] =
      "export".toList ++ (' ' :: ((name ++ ['=']) ++
        (Listing.shellWord (Listing.shownValue style value) ++ ['\n']))) := by
    simp [Listing.line, exported, Listing.shellWord]
  have command : ∀ c ∈ "export".toList, isPlain c = true := by
    rw [← List.all_eq_true]
    decide
  have plain : ∀ c ∈ name ++ ['='], isPlain c = true := by
    intro c hc
    rcases List.mem_append.1 hc with hc | hc
    · exact isPlain_of_isWordChar (isWordChar_of_mem h hc)
    · obtain rfl := List.mem_singleton.1 hc
      decide
  rw [text, run_append, run_of_isPlain (by decide) command, Option.bind_some, run_cons,
    step_space, Option.bind_some, run_append, run_of_isPlain (by simp) plain, Option.bind_some,
    run_append, run_shellWord, Option.bind_some, run_cons, step_feed, Option.bind_some, run_nil]
  rfl

/-- Lines of shell names are read as the commands that export them, one after the other. -/
theorem run_lines {style : LineStyle} (exported : style.exported = true)
    {l : List (Text × Text)} (h : ∀ p ∈ l, isShellName p.1 = true) :
    run (l.flatMap fun p => Listing.line style p.1 p.2 ++ ['\n']) ⟨.plain, none, [], commands⟩ =
      some ⟨.plain, none, [],
        commands ++ l.map fun p => exportCommand p.1 (Listing.shownValue style p.2)⟩ := by
  induction l generalizing commands with
  | nil => simp
  | cons p l ih =>
    rw [List.flatMap_cons, run_append, run_line exported (h p List.mem_cons_self),
      Option.bind_some, ih fun q hq => h q (List.mem_cons_of_mem p hq), List.map_cons,
      List.append_assoc, List.singleton_append]

end State

/-- A shell reads what is printed of variables for export as one command of two words for each
of those with a shell name, in ascending order of the names: the word `export`, and the name
with the value without its quotes, in which every character is quoted. -/
theorem lex_stdout_lines (c : Console) (style : LineStyle) (vars : Variables) :
    ∃ kept : List (Text × Text),
      (kept.Pairwise fun p q => compare p.1 q.1 = .lt) ∧
      (∀ name value, (name, value) ∈ kept ↔ vars.get? name = some value ∧ IsIdentifier name) ∧
      lex (c.stdout ((Listing.lines { style with exported := true, compactJson := false }
        vars).map .line)) =
          some (kept.map fun p => exportCommand p.1 (Secret.unwrapQuotes p.2)) := by
  refine ⟨vars.ordered.filter fun p => isShellName p.1, ?_, fun name value => ?_, ?_⟩
  · exact List.pairwise_map.1 (TextMap.pairwise_filter_ordered isShellName vars)
  · rw [List.mem_filter, TextMap.mem_ordered_iff, isShellName_iff]
  · have keeps (name : Text) :
        Listing.keeps { style with exported := true, compactJson := false } name =
          isShellName name := Listing.keeps_eq_isShellName rfl name
    rw [Console.stdout_lines, Listing.lines_eq, List.flatMap_map, lex, State.initial]
    simp only [keeps]
    rw [State.run_lines rfl fun p hp => (List.mem_filter.1 hp).2, Option.bind_some,
      List.nil_append, State.finish_eq]
    rfl

end Shell
end SecretEnv

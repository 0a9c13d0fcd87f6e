import SecretEnv.Proofs.Secret.Quotes
import SecretEnv.Proofs.Update.Exports

/-!
# Cache files without quotes

* `CacheFile.Plain` are the values that need no quotes in a cache file, and
  `CacheFile.unwrapQuotes_trimBareEnd_eq_iff` says why;
* `CacheFile.lines_found_eq_iff`: what is shown of variables with shell names is the same
  with and without quotes in the file exactly if all values are plain;
* `Load.line_without_quotes_eq_iff`: so it is with the line that a load prints of a variable.
-/

namespace SecretEnv

theorem Listing.line_eq_iff {exported : Bool} {name v w : Text} :
    line { exported := exported } name v = line { exported := exported } name w ↔
      shownValue { exported := exported } v = shownValue { exported := exported } w := by
  refine ⟨fun same => ?_, fun same => by rw [line, same, line]⟩
  cases exported with
  | false => simpa [line] using same
  | true => exact escapeSingleQuotes_injective (by simpa [line] using same)

namespace CacheFile

/-! ### Values that need no quotes -/

/-- A value that is read from a cache file as it is without quotes around it: no blank but a
line feed or carriage return is at its end, and no pair of quotes around it. -/
structure Plain (t : Text) : Prop where
  back : ∀ c, t.getLast? = some c → isBare c = false
  unquoted : ¬ Secret.Quoted t

variable {t : Text}

/-- Without quotes in the file a value is read as it is exactly if it is plain. -/
theorem unwrapQuotes_trimBareEnd_eq_iff :
    Secret.unwrapQuotes (trimBareEnd t) = t ↔ Plain t := by
  constructor
  · intro same
    -- a blank that is lost is not made up for, as quotes that are lost are not
    have front : trimBareEnd t <+: t := List.rdropWhile_prefix isBare t
    have whole := Secret.length_unwrapQuotes_le (trimBareEnd t)
    rw [same] at whole
    have kept : trimBareEnd t = t := front.eq_of_length (Nat.le_antisymm front.length_le whole)
    rw [kept, Secret.unwrapQuotes_eq_self_iff] at same
    exact ⟨trimBareEnd_eq_self_iff.1 kept, same⟩
  · intro plain
    rw [trimBareEnd_eq_self_iff.2 plain.back, Secret.unwrapQuotes_eq_self_iff.2 plain.unquoted]

/-! ### What is shown of a cache file -/

/-- The style of a listing for a cache file. -/
def fileStyle (quotes : Bool) (preferred : List Text) : LineStyle :=
  { quotes := quotes, preferred := preferred }

/-- What is shown of variables with shell names that were written to a file. -/
theorem lines_found {m : Variables} (shell : ∀ k ∈ m.keys, isShellName k = true)
    (quotes exported : Bool) (preferred : List Text) :
    Listing.lines { exported := exported } (found (Listing.lines (fileStyle quotes preferred) m)) =
      m.ordered.map fun p => Listing.line { exported := exported } p.1
        (trimBareEnd (written (fileStyle quotes preferred) p.2)) := by
  have name : ∀ p ∈ m.ordered, isShellName p.1 = true := fun p mem =>
    shell p.1 (TextMap.mem_keys_iff.2 ⟨p.2, TextMap.mem_ordered_iff.1 mem⟩)
  have legible : ∀ k ∈ m.keys, Legible k := fun k mem => .of_isShellName (shell k mem)
  have assigned : m.ordered.filter (fun p => !isAddress p.1) = m.ordered := by
    refine List.filter_eq_self.2 fun p mem => ?_
    rw [isAddress_of_isShellName (name p mem)]
    rfl
  have kept : m.ordered.filter (fun p => Listing.keeps { exported := exported } p.1) =
      m.ordered := by
    refine List.filter_eq_self.2 fun p mem => ?_
    simp [Listing.keeps, Listing.writable, name p mem, isAddress_of_isShellName]
  rw [Listing.lines_eq, ordered_found_lines rfl rfl legible, assignments, assigned, List.map_map,
    List.filter_map, List.map_map]
  simp only [Function.comp_def, kept]

/-- The value that is shown after it was written with quotes and read. -/
theorem shownValue_quoted (exported : Bool) (preferred : List Text) (value : Text) :
    Listing.shownValue { exported := exported }
        (trimBareEnd (written (fileStyle true preferred) value)) =
      Secret.unwrapQuotes value := by
  have quoted : written (fileStyle true preferred) value =
      '\'' :: (Secret.unwrapQuotes value ++ ['\'']) := rfl
  rw [quoted, trimBareEnd_quoted]
  exact Secret.unwrapQuotes_quoted _

/-- The line of a value that was written without quotes is that of the value with quotes
exactly if the value is plain. -/
theorem line_trimBareEnd_eq_iff {exported : Bool} {preferred preferred' : List Text}
    {name value : Text} :
    Listing.line { exported := exported } name
          (trimBareEnd (written (fileStyle false preferred) value)) =
        Listing.line { exported := exported } name
          (trimBareEnd (written (fileStyle true preferred') value)) ↔
      Plain (Secret.unwrapQuotes value) := by
  rw [Listing.line_eq_iff, shownValue_quoted, ← unwrapQuotes_trimBareEnd_eq_iff]
  exact Iff.rfl

/-- What is shown of variables with shell names is the same with and without quotes in the
file exactly if every value is plain. -/
theorem lines_found_eq_iff {m : Variables} (shell : ∀ k ∈ m.keys, isShellName k = true)
    (exported : Bool) (preferred preferred' : List Text) :
    Listing.lines { exported := exported } (found (Listing.lines (fileStyle false preferred) m)) =
        Listing.lines { exported := exported }
          (found (Listing.lines (fileStyle true preferred') m)) ↔
      ∀ k v, m.get? k = some v → Plain (Secret.unwrapQuotes v) := by
  rw [lines_found shell, lines_found shell, List.map_inj_left]
  constructor
  · intro same k v held
    exact line_trimBareEnd_eq_iff.1 (same (k, v) (TextMap.mem_ordered_iff.2 held))
  · intro plain p mem
    exact line_trimBareEnd_eq_iff.2 (plain p.1 p.2 (TextMap.mem_ordered_iff.1 mem))

end CacheFile

/-! ### What a load prints -/

namespace Load

open CacheFile

variable {input name value : Text} {preferred preferred' : List Text} {t t' : FileTree}

theorem run_of_single (shell : isShellName name = true) (quotes exported : Bool) {h : Host}
    (stored : CacheFile.write t (CacheFile.name input)
      (Listing.lines (fileStyle quotes preferred) (.ofPairs [(name, value)])) = .ok h.files) :
    (Load.run ⟨input, exported, false⟩ h).exit = 0 ∧
      (Load.run ⟨input, exported, false⟩ h).lines =
        [Listing.line { exported := exported } name
          (trimBareEnd (written (fileStyle quotes preferred) value))] := by
  have names : ∀ k ∈ (TextMap.ofPairs [(name, value)]).keys, isShellName k = true := by
    intro k mem
    rw [TextMap.mem_keys_ofPairs_iff] at mem
    simpa [List.mem_singleton.1 mem] using shell
  have single : (TextMap.ofPairs [(name, value)]).ordered = [(name, value)] :=
    TextMap.ordered_ofPairs (List.pairwise_singleton _ _)
  obtain ⟨done, printed⟩ := Load.run_of_read (read_write stored)
  rw [lines_found names, single] at printed
  exact ⟨done, printed⟩

/-- Of a variable with a shell name a load prints one line, and it is the same whether the value
was written with quotes or without exactly if the value is plain once it is unwrapped. -/
theorem line_without_quotes_eq_iff (shell : isShellName name = true) (exported : Bool)
    {bare quoted : Host}
    (storedBare : CacheFile.write t (CacheFile.name input)
      (Listing.lines (fileStyle false preferred) (.ofPairs [(name, value)])) = .ok bare.files)
    (storedQuoted : CacheFile.write t' (CacheFile.name input)
      (Listing.lines (fileStyle true preferred') (.ofPairs [(name, value)])) = .ok quoted.files) :
    ∃ l l', (Load.run ⟨input, exported, false⟩ bare).exit = 0 ∧
      (Load.run ⟨input, exported, false⟩ bare).lines = [l] ∧
      (Load.run ⟨input, exported, false⟩ quoted).exit = 0 ∧
      (Load.run ⟨input, exported, false⟩ quoted).lines = [l'] ∧
      (l = l' ↔ Plain (Secret.unwrapQuotes value)) := by
  obtain ⟨done, printed⟩ := run_of_single shell false exported storedBare
  obtain ⟨done', printed'⟩ := run_of_single shell true exported storedQuoted
  exact ⟨_, _, done, printed, done', printed', line_trimBareEnd_eq_iff⟩

/-- A host with a cache file of one variable, written with quotes or without. -/
def hostWith (quotes : Bool) (name value : Text) : Host where
  files :=
    ⟨[([CacheFile.name ".env".toList],
      .file (Utf8.encode (content (Listing.lines (fileStyle quotes [])
        (.ofPairs [(name, value)])))) mode)], []⟩
  environment := .empty
  git := none
  gcloud := none

/-- A line break at the end of a value needs no quotes, nor do quotes on one side only. -/
theorem line_without_quotes_break :
    ∃ l l', (Load.run ⟨".env".toList, true, false⟩
        (hostWith false "A_1".toList "'say \"hi\"\n'".toList)).exit = 0 ∧
      (Load.run ⟨".env".toList, true, false⟩
        (hostWith false "A_1".toList "'say \"hi\"\n'".toList)).lines = [l] ∧
      (Load.run ⟨".env".toList, true, false⟩
        (hostWith true "A_1".toList "'say \"hi\"\n'".toList)).exit = 0 ∧
      (Load.run ⟨".env".toList, true, false⟩
        (hostWith true "A_1".toList "'say \"hi\"\n'".toList)).lines = [l'] ∧ l = l' := by
  have stored (quotes : Bool) : CacheFile.write ⟨[], []⟩ (CacheFile.name ".env".toList)
      (Listing.lines (fileStyle quotes [])
        (.ofPairs [("A_1".toList, "'say \"hi\"\n'".toList)])) =
      .ok (hostWith quotes "A_1".toList "'say \"hi\"\n'".toList).files := by
    cases quotes <;> decide +kernel
  have plain : Plain (Secret.unwrapQuotes "'say \"hi\"\n'".toList) := by
    have self : Secret.unwrapQuotes (trimBareEnd (Secret.unwrapQuotes "'say \"hi\"\n'".toList)) =
        Secret.unwrapQuotes "'say \"hi\"\n'".toList := by decide +kernel
    exact unwrapQuotes_trimBareEnd_eq_iff.1 self
  obtain ⟨l, l', done, printed, done', printed', same⟩ :=
    line_without_quotes_eq_iff (by decide) true (stored false) (stored true)
  exact ⟨l, l', done, printed, done', printed', same.2 plain⟩

end Load
end SecretEnv

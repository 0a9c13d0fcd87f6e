import SecretEnv.Proofs.CacheFile.Listings

/-!
# Cache files read back

* `ordered_found_quoted`: a quoted listing of legible names is read as those
  names with their quoted values;
* `lines_read_write`: what is shown of the variables that were read is what
  would have been shown of those that were written.
-/

namespace SecretEnv.CacheFile

/-- The style of a written listing with quotes. -/
def quotedStyle (compact : Bool) : LineStyle := { quotes := true, compactJson := compact }

/-- What a quoted listing of legible names is read as. -/
theorem ordered_found_quoted {m : Variables} (h : ∀ k ∈ m.keys, Legible k) (compact : Bool) :
    (found (Listing.lines (quotedStyle compact) m)).ordered =
      assignments (quotedStyle compact) m := by
  have quoted (value : Text) : trimBareEnd (written (quotedStyle compact) value) =
      written (quotedStyle compact) value := trimBareEnd_quoted _
  rw [ordered_found_lines rfl rfl h, assignments, List.map_map]
  simp only [Function.comp_def, quoted]

/-- What is shown of the variables that were read is what would have been shown of those
that were written. -/
theorem lines_read_write {m : Variables} (h : ∀ k ∈ m.keys, Legible k) (compact exported : Bool)
    {t u : FileTree} {path : Text}
    (stored : write t path (Listing.lines (quotedStyle compact) m) = .ok u) :
    ∃ n, read u path = .ok n ∧
      Listing.lines { exported := exported } n =
        Listing.lines { exported := exported, compactJson := compact } m := by
  refine ⟨_, read_write stored, ?_⟩
  have shown (value : Text) :
      Listing.shownValue { exported := exported } (written (quotedStyle compact) value) =
        Listing.shownValue { exported := exported, compactJson := compact } value := by
    have unwrapped : Secret.unwrapQuotes (written (quotedStyle compact) value) =
        Listing.shownValue (quotedStyle compact) value := Secret.unwrapQuotes_quoted _
    rw [Listing.shownValue, unwrapped]
    rfl
  have same (p : Text × Text) :
      Listing.line { exported := exported } p.1 (written (quotedStyle compact) p.2) =
        Listing.line { exported := exported, compactJson := compact } p.1 p.2 := by
    simp only [Listing.line, shown]
  have kept (name : Text) : (Listing.keeps { exported := exported } name && !isAddress name) =
      Listing.keeps { exported := exported, compactJson := compact } name := by
    cases h : isAddress name <;> simp [Listing.keeps, Listing.writable, h]
  -- both sides list the same names, as what is left out when writing is left out again
  rw [Listing.lines_eq, ordered_found_quoted h compact, Listing.lines_eq, assignments,
    List.filter_map, List.map_map, List.filter_filter]
  simp only [Function.comp_def, same, kept]

/-- Values with quotes, backslashes, line breaks and blanks at their end, one under a name
with a line break in it. -/
def intricate : Variables :=
  .ofPairs [("PATH".toList, "'C:\\new\\'".toList), ("B\nC".toList, "it's\r\n\" ".toList),
    ("EMPTY".toList, [])]

/-- Such values are shown after a round trip as before. -/
theorem lines_read_write_intricate :
    ∃ u n, write ⟨[], []⟩ stem (Listing.lines (quotedStyle false) intricate) = .ok u ∧
      read u stem = .ok n ∧
      Listing.lines { exported := true } n = Listing.lines { exported := true } intricate := by
  have legible : ∀ k ∈ intricate.keys, Legible k := by decide +kernel
  have stored : write ⟨[], []⟩ stem (Listing.lines (quotedStyle false) intricate) =
      .ok ⟨[([stem], .file (Utf8.encode (content (Listing.lines (quotedStyle false) intricate)))
        mode)], []⟩ := by
    decide +kernel
  obtain ⟨n, known, same⟩ := lines_read_write legible false true stored
  exact ⟨_, n, stored, known, same⟩

end SecretEnv.CacheFile

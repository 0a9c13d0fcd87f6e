import SecretEnv.Proofs.Document.Lines

/-!
# Entries written as lines

Which entries lines can say, and the line that is made of an entry.

* `Entry.Bare` and `Entry.Assigned`: an address alone, and a key with a value;
* `Entry.bare_or_assigned_of_ofLine?`: lines say nothing else;
* `Entry.ofLine?_of_bare` and `Entry.ofLine?_of_assigned`: the lines that say such
  entries;
* `Entry.exists_ofLine?_iff`: so these are the entries of all lines, and writing an
  entry that was read changes nothing.
-/

namespace SecretEnv

theorem isAddress_iff {t : Text} : isAddress t = true ↔ Address.scheme <+: t :=
  List.isPrefixOf_iff_prefix

namespace Entry

/-- An address alone, without a value. -/
structure Bare (e : Entry) : Prop where
  address : Address.scheme <+: e.key
  trimmed : e.key.Trimmed
  no_value : e.value = []

/-- A key and a value, either of which may be empty. Nothing in the key is taken for the end
of the key, for a comment, for an address or for a blank around it, and no blank ends the value. -/
structure Assigned (e : Entry) : Prop where
  trimmed : e.key.Trimmed
  no_equals : '=' ∉ e.key
  no_comment : e.key.head? ≠ some '#'
  no_address : ¬ Address.scheme <+: e.key
  value_back : ∀ c, e.value.getLast? = some c → isBlank c = false

/-- The line of an entry: an address alone, or key and value with an equals sign between them. -/
def written (e : Entry) : Text :=
  if isAddress e.key then e.key else e.key ++ '=' :: e.value

variable {t : Text} {e : Entry}

/-! ### What lines say -/

/-- A line that begins like an address is a key alone, whatever signs are in it. -/
theorem ofLine?_address (h : isAddress t.trim = true) (n : Nat) :
    ofLine? t n = some ⟨n, t.trim, []⟩ := by
  obtain ⟨rest, whole⟩ := isAddress_iff.1 h
  have kind : LineKind.classify t.trim = .secretAddress := by
    have ne : t.trim ≠ [] := by simp [← whole, Address.scheme]
    have comment : t.trim.head? ≠ some '#' := by simp [← whole, Address.scheme]
    simp only [LineKind.classify, Text.trim_trim, if_neg ne, if_neg comment, if_pos h]
  simp only [ofLine?, kind]

/-- A line without an equals sign is a key alone, or gives no entry. -/
theorem ofLine?_of_notMem (h : '=' ∉ t) (n : Nat) :
    ofLine? t n =
      if t.trim = [] ∨ t.trim.head? = some '#' then none else some ⟨n, t.trim, []⟩ := by
  split_ifs with dropped
  · exact (ofLine?_eq_none_iff t n).2 dropped
  · obtain ⟨ne, comment⟩ := not_or.1 dropped
    by_cases address : isAddress t.trim = true
    · exact ofLine?_address address n
    · have no_equals : '=' ∉ t.trim := fun m => h (Text.mem_of_mem_trim m)
      simp only [ofLine?, LineKind.classify, Text.trim_trim, if_neg ne, if_neg comment,
        if_neg address, if_neg no_equals]

/-- A trimmed key of a line is an address or can be assigned to. -/
theorem bare_or_assigned_of_key {n : Nat} {key : Text} (trimmed : key.Trimmed)
    (comment : key.head? ≠ some '#') (no_equals : '=' ∉ key) :
    (Entry.mk n key []).Bare ∨ (Entry.mk n key []).Assigned := by
  by_cases address : Address.scheme <+: key
  · exact .inl ⟨address, trimmed, rfl⟩
  · exact .inr ⟨trimmed, no_equals, comment, address, nofun⟩

/-- The entry of a line is an address alone, or a key with a value. -/
theorem bare_or_assigned_of_ofLine? {n : Nat} (h : ofLine? t n = some e) :
    e.Bare ∨ e.Assigned := by
  by_cases equals : '=' ∈ t
  · obtain ⟨a, b, rfl, first⟩ := List.eq_append_cons_of_mem equals
    rw [ofLine?_assignment first] at h
    split_ifs at h with comment address
    · -- the equals sign is part of the address
      obtain rfl := Option.some.inj h
      have front : Address.scheme <+: Text.trimStart a ++ '=' :: Text.trimEnd b :=
        (isAddress_iff.1 address).trans (List.prefix_append _ _)
      have trimmed : Text.Trimmed (Text.trimStart a ++ '=' :: Text.trimEnd b) := by
        rw [← Text.trim_append_cons (by decide) a b]
        exact Text.trim_eq_self_iff.1 (Text.trim_trim _)
      exact .inl ⟨front, trimmed, rfl⟩
    · obtain rfl := Option.some.inj h
      have key : Text.trim a <+: Text.trimStart a := Text.trimEnd_prefix_self _
      refine .inr ⟨Text.trim_eq_self_iff.1 (Text.trim_trim a), ?_, ?_, ?_, ?_⟩
      · exact fun m => first (Text.mem_of_mem_trim m)
      · intro sign
        obtain ⟨rest, whole⟩ := key
        exact comment (by rw [← whole, List.head?_append, sign, Option.some_or])
      · exact fun front => address (isAddress_iff.2 (front.trans key))
      · exact Text.trimEnd_eq_self_iff.1 (Text.trimEnd_trimEnd b)
  · rw [ofLine?_of_notMem equals] at h
    split_ifs at h with dropped
    obtain rfl := Option.some.inj h
    exact bare_or_assigned_of_key (Text.trim_eq_self_iff.1 (Text.trim_trim t))
      (not_or.1 dropped).2 fun m => equals (Text.mem_of_mem_trim m)

/-! ### Lines that say entries -/

theorem ofLine?_of_bare (h : e.Bare) : ofLine? e.key e.line = some e := by
  obtain ⟨line, key, value⟩ := e
  obtain ⟨address, trimmed, rfl⟩ := h
  have same : key.trim = key := Text.trim_eq_self_iff.2 trimmed
  have read := ofLine?_address (t := key) (by rw [same]; exact isAddress_iff.2 address) line
  rwa [same] at read

theorem ofLine?_of_assigned (h : e.Assigned) :
    ofLine? (e.key ++ '=' :: e.value) e.line = some e := by
  obtain ⟨line, key, value⟩ := e
  obtain ⟨trimmed, no_equals, comment, address, back⟩ := h
  have front : key.trimStart = key := Text.trimStart_eq_self_iff.2 trimmed.front
  rw [ofLine?_assignment no_equals, front, if_neg comment, if_neg (mt isAddress_iff.1 address),
    Text.trim_eq_self_iff.2 trimmed, Text.trimEnd_eq_self_iff.2 back]

/-- The line of an entry says the entry. -/
theorem ofLine?_written (h : e.Bare ∨ e.Assigned) : ofLine? e.written e.line = some e := by
  rcases h with bare | assigned
  · rw [written, if_pos (isAddress_iff.2 bare.address)]
    exact ofLine?_of_bare bare
  · rw [written, if_neg (mt isAddress_iff.1 assigned.no_address)]
    exact ofLine?_of_assigned assigned

/-- The entries of lines are the addresses alone and the keys with a value. Each is said by its
own line, so that an entry that was read, be it written again, is read as it was. -/
theorem exists_ofLine?_iff (e : Entry) :
    ((∃ t n, ofLine? t n = some e) ↔ e.Bare ∨ e.Assigned) ∧
      (e.Bare → ofLine? e.key e.line = some e) ∧
      (e.Assigned → ofLine? (e.key ++ '=' :: e.value) e.line = some e) ∧
      ∀ t n, ofLine? t n = some e → ofLine? e.written n = some e := by
  refine ⟨⟨?_, fun h => ⟨_, _, ofLine?_written h⟩⟩, ofLine?_of_bare, ofLine?_of_assigned, ?_⟩
  · rintro ⟨t, n, h⟩
    exact bare_or_assigned_of_ofLine? h
  · intro t n h
    rw [← line_of_ofLine? h]
    exact ofLine?_written (bare_or_assigned_of_ofLine? h)

/-- A value without a key, with a blank and signs in front. -/
theorem exists_ofLine?_iff_keyless :
    (Entry.mk 7 [] " #=sem://".toList).Assigned ∧
      ofLine? "= #=sem://".toList 7 = some ⟨7, [], " #=sem://".toList⟩ := by
  have assigned : (Entry.mk 7 [] " #=sem://".toList).Assigned :=
    ⟨⟨nofun, nofun⟩, nofun, nofun, by decide, by simp [isBlank]⟩
  exact ⟨assigned, (exists_ofLine?_iff _).2.2.1 assigned⟩

end Entry
end SecretEnv

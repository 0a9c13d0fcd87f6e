import SecretEnv.CacheFile
import SecretEnv.Proofs.Text.Utf8

/-!
# Names of cache files

The name of a cache file is its stem, and behind it the flattened path of the input, with a dot
between them unless the path begins with one.

* `name_eq`: that form, by `CacheFile.dotted`;
* `notMem_name`: no slash and no backslash is left of the path;
* `name_eq_name_iff`: two inputs share a cache file exactly if their flattened paths are equal, or
  one is the other with a dot in front that the other lacks;
* `length_lt_length_name` and `length_encode_lt_name`: a name is longer than its input, in
  characters and in bytes.
-/

namespace SecretEnv.CacheFile

variable {a b : Text}

/-! ### Flattened paths -/

theorem length_flatten (path : Text) : (flatten path).length = path.length := List.length_map _

/-- A flattened path takes as many bytes as the path: all that is replaced is ASCII. -/
theorem length_encode_flatten (path : Text) :
    (Utf8.encode (flatten path)).length = (Utf8.encode path).length := by
  induction path with
  | nil => rfl
  | cons c path ih =>
    have one : (Utf8.encodeChar (if c = '/' ∨ c = '\\' then '_' else c)).length =
        (Utf8.encodeChar c).length := by
      split_ifs with separator
      · rcases separator with rfl | rfl <;> rfl
      · rfl
    show (Utf8.encodeChar _ ++ Utf8.encode (flatten path)).length =
      (Utf8.encodeChar c ++ Utf8.encode path).length
    rw [List.length_append, List.length_append, one, ih]

theorem notMem_flatten {c : Char} (separator : c = '/' ∨ c = '\\') (path : Text) :
    c ∉ flatten path := by
  intro mem
  obtain ⟨d, -, rfl⟩ := List.mem_map.1 mem
  split_ifs at separator with replaced
  · exact absurd separator (by decide)
  · exact replaced separator

/-! ### A dot in front -/

/-- A text with a dot in front, unless it has one. -/
def dotted (t : Text) : Text := if t.head? = some '.' then t else '.' :: t

theorem dotted_of_head (h : a.head? = some '.') : dotted a = a := if_pos h

theorem dotted_of_no_head (h : a.head? ≠ some '.') : dotted a = '.' :: a := if_neg h

theorem head?_dotted (t : Text) : (dotted t).head? = some '.' := by
  by_cases h : t.head? = some '.'
  · rw [dotted_of_head h, h]
  · rw [dotted_of_no_head h, List.head?_cons]

theorem suffix_dotted (t : Text) : t <:+ dotted t := by
  unfold dotted
  split_ifs
  · exact List.suffix_refl t
  · exact List.suffix_cons '.' t

/-- Two texts become one with a dot in front if they are equal, or if one is the other with the
dot that it lacks. -/
theorem dotted_eq_dotted_iff :
    dotted a = dotted b ↔
      a = b ∨ (a = '.' :: b ∧ b.head? ≠ some '.') ∨ (b = '.' :: a ∧ a.head? ≠ some '.') := by
  -- a text with a dot in front stays as it is, so only one without can become another
  by_cases ha : a.head? = some '.'
  · by_cases hb : b.head? = some '.'
    · simp [dotted_of_head, ha, hb]
    · rw [dotted_of_head ha, dotted_of_no_head hb]
      refine ⟨fun e => .inr (.inl ⟨e, hb⟩), ?_⟩
      rintro (rfl | ⟨e, -⟩ | ⟨-, bare⟩)
      · exact absurd ha hb
      · exact e
      · exact absurd ha bare
  · by_cases hb : b.head? = some '.'
    · rw [dotted_of_no_head ha, dotted_of_head hb]
      refine ⟨fun e => .inr (.inr ⟨e.symm, ha⟩), ?_⟩
      rintro (rfl | ⟨-, bare⟩ | ⟨e, -⟩)
      · exact absurd hb ha
      · exact absurd hb bare
      · exact e.symm
    · rw [dotted_of_no_head ha, dotted_of_no_head hb]
      refine ⟨fun e => .inl (List.cons.inj e).2, ?_⟩
      rintro (rfl | ⟨rfl, -⟩ | ⟨rfl, -⟩)
      · rfl
      · exact absurd rfl ha
      · exact absurd rfl hb

/-! ### Names -/

theorem name_eq (input : Text) : name input = stem ++ dotted (flatten input) := by
  unfold name dotted
  dsimp only
  split_ifs
  · rfl
  · rfl

theorem prefix_name (input : Text) : ".cache.".toList <+: name input := by
  obtain ⟨t, e⟩ := List.head?_eq_some_iff.1 (head?_dotted (flatten input))
  exact ⟨t, by rw [name_eq, e]; rfl⟩

/-- A name leads to no other directory. -/
theorem notMem_name {c : Char} (separator : c = '/' ∨ c = '\\') (input : Text) :
    c ∉ name input := by
  have stem : c ∉ stem := by rcases separator with rfl | rfl <;> decide
  have dot : c ≠ '.' := by rcases separator with rfl | rfl <;> decide
  have flat := notMem_flatten separator input
  rw [name_eq, List.mem_append, not_or]
  refine ⟨stem, ?_⟩
  unfold dotted
  split_ifs
  · exact flat
  · rw [List.mem_cons, not_or]
    exact ⟨dot, flat⟩

/-- Which inputs share a cache file. -/
theorem name_eq_name_iff :
    name a = name b ↔
      flatten a = flatten b ∨ (flatten a = '.' :: flatten b ∧ (flatten b).head? ≠ some '.') ∨
        (flatten b = '.' :: flatten a ∧ (flatten a).head? ≠ some '.') := by
  rw [name_eq, name_eq, List.append_cancel_left_eq, dotted_eq_dotted_iff]

/-- A name is longer than its input, as the stem is in front of it. -/
theorem length_lt_length_name (input : Text) : input.length < (name input).length := by
  have flat := (suffix_dotted (flatten input)).length_le
  have stem : 0 < stem.length := by decide
  rw [length_flatten] at flat
  rw [name_eq, List.length_append]
  omega

theorem length_encode_lt_name (input : Text) :
    (Utf8.encode input).length < (Utf8.encode (name input)).length := by
  obtain ⟨front, e⟩ := suffix_dotted (flatten input)
  have flat := length_encode_flatten input
  have stem : 0 < (Utf8.encode stem).length := by decide
  rw [name_eq, ← e, Utf8.encode_append, Utf8.encode_append, List.length_append,
    List.length_append]
  omega

end SecretEnv.CacheFile

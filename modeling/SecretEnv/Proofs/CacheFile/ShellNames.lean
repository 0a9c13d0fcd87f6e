import SecretEnv.Proofs.CacheFile.Listings
import SecretEnv.Proofs.Listing.Exports

/-!
# Shell names in cache files

A line of a cache file says a shell name where what stands before its first
equals sign is one, but for blanks. A name that was written need not be the name
that is read.

* `nameRead` and `valueRead` are what is read of a statement;
* `lastWord` is the statement that a shell name gets its value from, and
  `get?_found_lines` says so;
* `names_exportsFound_eq_iff` and `exportsFound_eq_iff`: when the names and the
  values that a shell gets are those that were written for it;
* `exportsFound_of_legible`: they are if all names are legible.
-/

namespace SecretEnv.CacheFile

theorem Legible.of_isShellName {name : Text} (h : isShellName name = true) : Legible name where
  ne_nil := ne_nil_of_isShellName h
  no_equals := notMem_of_isShellName h (by decide)
  front := by
    intro c hc
    have word := isWordChar_of_mem h (List.mem_of_head? hc)
    refine ⟨by simp [isBare, isBlank_of_isWordChar word], ?_, ?_⟩ <;>
    · rintro rfl
      exact absurd word (by decide)
  back := by
    intro c hc
    have word := isWordChar_of_mem h (List.mem_of_getLast? hc)
    simp [isBare, isBlank_of_isWordChar word]

/-- The name that is read where a name was written. -/
def nameRead (name : Text) : Text := trimBare (name.takeWhile (· ≠ '='))

/-- The value that is read of a statement: all behind the first equals sign. -/
def valueRead (p : Text × Text) : Text := trimBareEnd ((assign p).dropWhile (· ≠ '=')).tail

theorem nameRead_of_isShellName {name : Text} (h : isShellName name = true) :
    nameRead name = name := by
  have no_equals : '=' ∉ name := notMem_of_isShellName h (by decide)
  rw [nameRead, Parts.takeWhile_ne_of_notMem no_equals, (Legible.of_isShellName h).trimBare_eq]

/-- A statement is the assignment to what stands before its first equals sign. -/
theorem assign_eq (p : Text × Text) :
    assign p = assign (p.1.takeWhile (· ≠ '='), ((assign p).dropWhile (· ≠ '=')).tail) := by
  obtain ⟨k, w⟩ := p
  simp only [assign]
  induction k with
  | nil => simp
  | cons c k ih =>
    by_cases h : c = '='
    · simp [h]
    · rw [List.cons_append, List.takeWhile_cons_of_pos (by simpa using h),
        List.dropWhile_cons_of_pos (by simpa using h), List.cons_append, ← ih]

theorem mem_dropWhile_isBare {t : Text} {c : Char} (h : c ∈ t) (solid : isBare c = false) :
    c ∈ t.dropWhile isBare := by
  rw [← List.takeWhile_append_dropWhile (p := isBare) (l := t), List.mem_append] at h
  rcases h with h | h
  · rw [List.mem_takeWhile_imp h] at solid
    exact nomatch solid
  · exact h

theorem mem_trimBareEnd {t : Text} {c : Char} (h : c ∈ t) (solid : isBare c = false) :
    c ∈ trimBareEnd t := by
  rw [trimBareEnd, List.mem_reverse]
  exact mem_dropWhile_isBare (List.mem_reverse.2 h) solid

theorem colon_mem_of_isAddress {t : Text} (h : isAddress t = true) : ':' ∈ t := by
  obtain ⟨u, rfl⟩ := List.isPrefixOf_iff_prefix.1 h
  simp [Address.scheme]

/-- A statement says a shell name if that is the name read there. -/
theorem assignment?_assign_eq_some_iff {n : Text} (h : isShellName n = true) (p : Text × Text)
    (v : Text) :
    assignment? (encode (assign p)) = some (n, v) ↔ nameRead p.1 = n ∧ valueRead p = v := by
  have first : '=' ∉ p.1.takeWhile (· ≠ '=') := fun m => by simpa using List.mem_takeWhile_imp m
  have colon : ':' ∉ n := notMem_of_isShellName h (by decide)
  have said := assignment?_encode first ((assign p).dropWhile (· ≠ '=')).tail
  rw [← assign.eq_def (_, _), ← assign_eq] at said
  rw [said]
  split_ifs with comment address empty
  · -- the number sign of a comment would be part of the name
    refine ⟨nofun, fun ⟨e, _⟩ => ?_⟩
    have sign : '#' ∈ nameRead p.1 := mem_trimBareEnd (List.mem_of_head? comment) (by decide)
    rw [e] at sign
    exact absurd sign (notMem_of_isShellName h (by decide))
  · -- and so would the colon of an address, which is read as a name with all behind it
    have front := colon_mem_of_isAddress address
    constructor
    · intro e
      have name := (Prod.mk.inj (Option.some.inj e)).1
      rw [← name] at colon
      exact absurd (List.mem_append_left _ front) colon
    · rintro ⟨e, -⟩
      rw [← e] at colon
      exact absurd (mem_trimBareEnd front (by decide)) colon
  · refine ⟨nofun, fun ⟨e, _⟩ => ?_⟩
    exact absurd (e.symm.trans empty) (ne_nil_of_isShellName h)
  · rw [Option.some.injEq, Prod.mk.injEq]
    rfl

/-! ### The last word on a name -/

variable {style : LineStyle}

/-- The statement that a name gets its value from: the last one that is read as the name. -/
def lastWord (style : LineStyle) (m : Variables) (n : Text) : Option (Text × Text) :=
  (statements style m).reverse.find? fun p => nameRead p.1 = n

/-- A name has a last word where a statement is read as that name. -/
theorem exists_lastWord_iff {m : Variables} {n : Text} :
    (∃ p, lastWord style m n = some p) ↔ ∃ p ∈ statements style m, nameRead p.1 = n := by
  rw [lastWord, ← Option.isSome_iff_exists, List.find?_isSome]
  simp only [List.mem_reverse, decide_eq_true_eq]

theorem mem_statements (m : Variables) {n v : Text} (h : isShellName n = true)
    (hv : m.get? n = some v) : (n, written style v) ∈ statements style m := by
  have kept : (n, written style v) ∈ assignments style m :=
    List.mem_map.2 ⟨(n, v), List.mem_filter.2
      ⟨TextMap.mem_ordered_iff.2 hv, by simp [isAddress_of_isShellName h]⟩, rfl⟩
  rw [statements]
  cases e : assignments style m with
  | nil => simp [e] at kept
  | cons p l =>
    rw [e, List.mem_cons] at kept
    rw [List.modifyHead_cons, List.mem_cons]
    refine kept.imp_left fun same => ?_
    rw [← same, (Legible.of_isShellName h).withoutMark_eq]

theorem exists_lastWord_of_get? {m : Variables} {n v : Text} (h : isShellName n = true)
    (hv : m.get? n = some v) : ∃ p, lastWord style m n = some p :=
  exists_lastWord_iff.2 ⟨_, mem_statements m h hv, nameRead_of_isShellName h⟩

/-! ### The values that are read -/

section Values

variable (exported : style.exported = false) (addresses : style.addresses = false)

include exported addresses

/-- The value that is read for a shell name is that of its last word. -/
theorem get?_found_lines (m : Variables) {n : Text} (h : isShellName n = true) :
    (found (Listing.lines style m)).get? n = (lastWord style m n).map valueRead := by
  -- the last pair of the name is looked for among the statements that say it
  rw [found_lines exported addresses, TextMap.get?_ofPairs, ← List.filterMap_reverse,
    List.find?_filterMap, lastWord]
  have named (p : Text × Text) :
      ((assignment? (encode (assign p))).any fun q => decide (q.1 = n)) =
        decide (nameRead p.1 = n) := by
    rw [Bool.eq_iff_iff, decide_eq_true_eq, Option.any_eq_true]
    constructor
    · rintro ⟨⟨k, v⟩, said, e⟩
      obtain rfl : k = n := by simpa using e
      exact ((assignment?_assign_eq_some_iff h p v).1 said).1
    · intro e
      exact ⟨_, (assignment?_assign_eq_some_iff h p _).2 ⟨e, rfl⟩, by simp⟩
  simp only [named]
  cases e : (statements style m).reverse.find? fun p => decide (nameRead p.1 = n) with
  | none => rfl
  | some p =>
    have name : nameRead p.1 = n := by simpa using List.find?_some e
    rw [Option.bind_some, (assignment?_assign_eq_some_iff h p _).2 ⟨name, rfl⟩, Option.map_some,
      Option.map_some]

/-- In a file of legible names each has the value that was written for it. -/
theorem get?_found_of_legible {m : Variables} (legible : ∀ k ∈ m.keys, Legible k) {n : Text}
    (h : isAddress n = false) :
    (found (Listing.lines style m)).get? n =
      (m.get? n).map fun v => trimBareEnd (written style v) := by
  refine Option.ext fun x => ?_
  rw [← TextMap.mem_ordered_iff, ordered_found_lines exported addresses legible, assignments,
    List.map_map, List.mem_map, Option.map_eq_some_iff]
  constructor
  · rintro ⟨p, hp, e⟩
    obtain ⟨rfl, rfl⟩ := Prod.mk.inj e
    exact ⟨p.2, TextMap.mem_ordered_iff.1 (List.mem_of_mem_filter hp), rfl⟩
  · rintro ⟨v, hv, rfl⟩
    exact ⟨(n, v), List.mem_filter.2 ⟨TextMap.mem_ordered_iff.2 hv, by simp [h]⟩, rfl⟩

/-- So it is in a file of shell names. -/
theorem get?_found_filterKeys (m : Variables) {n : Text} (h : isShellName n = true) :
    (found (Listing.lines style (m.filterKeys isShellName))).get? n =
      (m.get? n).map fun v => trimBareEnd (written style v) := by
  have legible : ∀ k ∈ (m.filterKeys isShellName).keys, Legible k := by
    intro k hk
    obtain ⟨v, hv⟩ := TextMap.mem_keys_iff.1 hk
    rw [TextMap.get?_filterKeys, Option.filter_eq_some_iff] at hv
    exact .of_isShellName hv.2
  rw [get?_found_of_legible exported addresses legible (isAddress_of_isShellName h),
    TextMap.get?_filterKeys]
  cases m.get? n with
  | none => rfl
  | some v => rw [Option.filter_some, if_pos h]

/-! ### What is exported -/

/-- What the variables of a cache file export. -/
def exportsFound (style : LineStyle) (m : Variables) : List (Text × Text) :=
  Listing.exports (Listing.lines { exported := true } (found (Listing.lines style m)))

/-- The exported names are the shell names that were written exactly if no line is read as
another shell name. -/
theorem names_exportsFound_eq_iff (m : Variables) :
    (exportsFound style m).map Prod.fst = (Text.ascending m.keys).filter isShellName ↔
      ∀ p ∈ statements style m, isShellName (nameRead p.1) = true → nameRead p.1 ∈ m.keys := by
  rw [exportsFound, Listing.map_fst_exports_lines rfl]
  have found_iff {n : Text} (h : isShellName n = true) :
      n ∈ (found (Listing.lines style m)).keys ↔ ∃ p ∈ statements style m, nameRead p.1 = n := by
    rw [TextMap.mem_keys_iff, get?_found_lines exported addresses m h, ← exists_lastWord_iff]
    simp only [Option.map_eq_some_iff]
    exact ⟨fun ⟨_, p, last, _⟩ => ⟨p, last⟩, fun ⟨p, last⟩ => ⟨_, p, last, rfl⟩⟩
  constructor
  · intro same p hp h
    have read : nameRead p.1 ∈
        (Text.ascending (found (Listing.lines style m)).keys).filter isShellName :=
      List.mem_filter.2 ⟨Text.mem_ascending.2 ((found_iff h).2 ⟨p, hp, rfl⟩), h⟩
    rw [same, List.mem_filter, Text.mem_ascending] at read
    exact read.1
  · intro own
    refine Text.filter_ascending_congr fun n h => ?_
    rw [found_iff h]
    constructor
    · rintro ⟨p, hp, rfl⟩
      exact own p hp h
    · intro hn
      obtain ⟨v, hv⟩ := TextMap.mem_keys_iff.1 hn
      exact exists_lastWord_iff.1 (exists_lastWord_of_get? h hv)

/-- The exported variables are those of a file of the shell names alone exactly if every
shell name that is read is one of them, and its last word shows its own value. -/
theorem exportsFound_eq_iff (m : Variables) :
    exportsFound style m = exportsFound style (m.filterKeys isShellName) ↔
      ∀ n p, isShellName n = true → lastWord style m n = some p →
        ∃ v, m.get? n = some v ∧
          Secret.unwrapQuotes (valueRead p) =
            Secret.unwrapQuotes (trimBareEnd (written style v)) := by
  have shown : Listing.shownValue { exported := true } = Secret.unwrapQuotes := rfl
  rw [exportsFound, exportsFound, Listing.exports_eq_iff rfl, shown]
  constructor
  · intro same n p h last
    have value := same n h
    rw [get?_found_lines exported addresses m h, last, Option.map_some, Option.map_some,
      get?_found_filterKeys exported addresses m h] at value
    obtain ⟨x, hx, e⟩ := Option.map_eq_some_iff.1 value.symm
    obtain ⟨v, hv, rfl⟩ := Option.map_eq_some_iff.1 hx
    exact ⟨v, hv, e.symm⟩
  · intro own n h
    rw [get?_found_lines exported addresses m h, get?_found_filterKeys exported addresses m h]
    cases last : lastWord style m n with
    | none =>
      -- a variable of that name would have a statement, and so a last word
      have unknown : m.get? n = none := by
        rw [Option.eq_none_iff_forall_ne_some]
        intro v hv
        obtain ⟨p, e⟩ := exists_lastWord_of_get? h hv
        exact nomatch last.symm.trans e
      simp only [unknown, Option.map_none]
    | some p =>
      obtain ⟨v, hv, e⟩ := own n p h last
      rw [hv, Option.map_some, Option.map_some, Option.map_some, Option.map_some, e]

/-- Legible names export their own variables. -/
theorem exportsFound_of_legible {m : Variables} (legible : ∀ k ∈ m.keys, Legible k) :
    exportsFound style m = exportsFound style (m.filterKeys isShellName) := by
  rw [exportsFound, exportsFound, Listing.exports_eq_iff rfl]
  intro n h
  rw [get?_found_of_legible exported addresses legible (isAddress_of_isShellName h),
    get?_found_filterKeys exported addresses m h]

end Values

end SecretEnv.CacheFile

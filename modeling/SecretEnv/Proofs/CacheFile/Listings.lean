import SecretEnv.Proofs.CacheFile.Reading
import SecretEnv.Proofs.Listing.Lines

/-!
# Listings in cache files

* `Legible`: the names that a line of a cache file shows as they are;
* `statements`: what the lines of a listing say, and `found_lines` reads them
  back one by one;
* `ordered_found_lines`: a listing of legible names is read as it was written.
-/

namespace SecretEnv.CacheFile

/-! ### Legible names -/

/-- A name that a line shows as it is: nothing in it is taken for the end of the name, for
a comment, for a byte order mark or for a blank around it. -/
structure Legible (name : Text) : Prop where
  ne_nil : name ≠ []
  no_equals : '=' ∉ name
  front : ∀ c, name.head? = some c → isBare c = false ∧ c ≠ '#' ∧ c ≠ Document.mark
  back : ∀ c, name.getLast? = some c → isBare c = false

instance (name : Text) : Decidable (Legible name) :=
  decidable_of_iff
    (name ≠ [] ∧ '=' ∉ name ∧
      (name.head?.all fun c => !isBare c && c ≠ '#' && c ≠ Document.mark) = true ∧
      (name.getLast?.all fun c => !isBare c) = true) <| by
    simp only [Option.all_eq_true, Bool.and_eq_true, Bool.not_eq_true', decide_eq_true_eq,
      and_assoc]
    exact ⟨fun ⟨h, k, f, b⟩ => ⟨h, k, f, b⟩, fun ⟨h, k, f, b⟩ => ⟨h, k, f, b⟩⟩

namespace Legible

variable {name : Text}

theorem dropWhile_isBare (h : Legible name) : name.dropWhile isBare = name := by
  obtain ⟨c, t, rfl⟩ := List.exists_cons_of_ne_nil h.ne_nil
  exact List.dropWhile_cons_of_neg (by simp [h.front c rfl])

theorem trimBare_eq (h : Legible name) : trimBare name = name := by
  rw [trimBare, h.dropWhile_isBare, trimBareEnd_eq_self_iff.2 h.back]

theorem withoutMark_eq (h : Legible name) : Document.withoutMark name = name := by
  obtain ⟨c, t, rfl⟩ := List.exists_cons_of_ne_nil h.ne_nil
  exact Document.withoutMark_cons_of_ne (h.front c rfl).2.2 t

/-- The line of a legible name says that name, with the value as it stands but for blanks
at its end. -/
theorem assignment?_encode (h : Legible name) (address : isAddress name = false) (w : Text) :
    assignment? (encode (assign (name, w))) = some (name, trimBareEnd w) := by
  have comment : name.head? ≠ some '#' := fun e => (h.front _ e).2.1 rfl
  rw [assign, CacheFile.assignment?_encode h.no_equals, h.dropWhile_isBare, h.trimBare_eq,
    if_neg comment, if_neg (by simp [address]), if_neg h.ne_nil]

end Legible

theorem trimBareEnd_quoted (t : Text) :
    trimBareEnd ('\'' :: (t ++ ['\''])) = '\'' :: (t ++ ['\'']) := by
  rw [← List.cons_append, trimBareEnd_eq_self_iff]
  intro c last
  rw [List.getLast?_concat] at last
  obtain rfl := Option.some.inj last
  decide

/-! ### Listings -/

/-- The text behind the equals sign in the line of a value. -/
def written (style : LineStyle) (value : Text) : Text :=
  let value := Listing.shownValue style value
  if style.quotes then '\'' :: (value ++ ['\'']) else value

/-- The assignments of a listing without addresses, in order. -/
def assignments (style : LineStyle) (m : Variables) : List (Text × Text) :=
  (m.ordered.filter fun p => !isAddress p.1).map fun p => (p.1, written style p.2)

/-- What the lines of a listing say: its assignments, the first one without a byte order
mark. -/
def statements (style : LineStyle) (m : Variables) : List (Text × Text) :=
  (assignments style m).modifyHead fun p => (Document.withoutMark p.1, p.2)

variable {style : LineStyle}

theorem line_eq_assign (exported : style.exported = false) (name value : Text) :
    Listing.line style name value = assign (name, written style value) := by
  cases quotes : style.quotes <;> simp [Listing.line, exported, quotes, assign, written]

/-- Without a byte order mark in front the statements are the assignments. -/
theorem statements_eq {m : Variables} (h : ∀ k ∈ m.keys, Document.withoutMark k = k) :
    statements style m = assignments style m := by
  have kept : ∀ p ∈ assignments style m, Document.withoutMark p.1 = p.1 := by
    intro p hp
    obtain ⟨q, hq, rfl⟩ := List.mem_map.1 hp
    have value := TextMap.mem_ordered_iff.1 (List.mem_of_mem_filter hq)
    exact h q.1 (TextMap.mem_keys_iff.2 ⟨q.2, value⟩)
  rw [statements]
  cases e : assignments style m with
  | nil => rfl
  | cons p l =>
    have first : p ∈ assignments style m := e ▸ List.mem_cons_self
    rw [List.modifyHead_cons, kept p first]

/-! ### Listings read back -/

variable (exported : style.exported = false) (addresses : style.addresses = false)

include exported addresses

theorem lines_eq_map_assign (m : Variables) :
    Listing.lines style m = (assignments style m).map assign := by
  have keeps (name : Text) : Listing.keeps style name = !isAddress name := by
    simp [Listing.keeps, Listing.writable, exported, addresses]
  simp only [Listing.lines_eq, keeps, line_eq_assign exported, assignments, List.map_map,
    Function.comp_def]

/-- A listing is read back by its statements. -/
theorem found_lines (m : Variables) :
    found (Listing.lines style m) =
      .ofPairs ((statements style m).filterMap fun p => assignment? (encode (assign p))) := by
  rw [lines_eq_map_assign exported addresses, found_assign, statements]

/-- What a listing of legible names is read as: all its assignments, but for blanks at the
end of the values. -/
theorem ordered_found_lines {m : Variables} (legible : ∀ k ∈ m.keys, Legible k) :
    (found (Listing.lines style m)).ordered =
      (assignments style m).map fun p => (p.1, trimBareEnd p.2) := by
  have unmarked : ∀ k ∈ m.keys, Document.withoutMark k = k :=
    fun k hk => (legible k hk).withoutMark_eq
  have ascending := TextMap.pairwise_filter_ordered (fun k => !isAddress k) m
  have said : ∀ p ∈ m.ordered.filter fun p => !isAddress p.1,
      assignment? (encode (assign (p.1, written style p.2))) =
        some (p.1, trimBareEnd (written style p.2)) := by
    intro p hp
    obtain ⟨hp, address⟩ := List.mem_filter.1 hp
    have key : p.1 ∈ m.keys := TextMap.mem_keys_iff.2 ⟨p.2, TextMap.mem_ordered_iff.1 hp⟩
    exact (legible p.1 key).assignment?_encode (by simpa using address) _
  -- every line says its own assignment, and ascending pairs are the map of them
  rw [found_lines exported addresses, statements_eq unmarked, assignments, List.filterMap_map,
    Function.comp_def, List.filterMap_congr said, List.filterMap_eq_map', List.map_map,
    TextMap.ordered_ofPairs]
  · rfl
  · rw [List.map_map]
    exact ascending

end SecretEnv.CacheFile

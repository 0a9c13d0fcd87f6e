import SecretEnv.Proofs.Json.Reading
import SecretEnv.Proofs.Json.WrittenNumbers

/-!
# Values that are read from their own text

* `Json.Faithful`: every double inside a value is read back from the text that is written for it;
* `Spells.render`: a value that can be written is then spelled by its own text, without blanks;
* `parse?_render`: so a value that was read is read again from its own text.
-/

namespace SecretEnv.Json

variable {d : Nat} {t w : Text} {v : Json} {phrase : Phrase} {n : Number}

/-- Every double inside a value is read back from the text that is written for it. -/
def Faithful (v : Json) : Prop :=
  ∀ p x, ScalarAt v p (.number (.double x)) → parse? x.render = some (.number (.double x))

theorem Faithful.item {items : List Json} (h : Faithful (.array items)) (mem : v ∈ items) :
    v.Faithful := by
  intro p x leaf
  obtain ⟨i, inside, rfl⟩ := List.getElem_of_mem mem
  exact h _ x (.item (List.getElem?_eq_getElem inside) leaf)

theorem Faithful.member {members : List (Text × Json)} (h : Faithful (.object members))
    {m : Text × Json} (mem : m ∈ members) : m.2.Faithful :=
  fun _ x leaf => h _ x (.member mem leaf)

theorem Spaces.eq_nil {b : Text} (spaces : Spaces b) (chars : ∀ c ∈ b, isNumeralChar c = true) :
    b = [] := by
  cases b with
  | nil => rfl
  | cons c b =>
    have numeral := chars c List.mem_cons_self
    rw [not_isNumeralChar_of_isSpace (spaces c List.mem_cons_self)] at numeral
    cases numeral

/-- A number that is read back from its text is read from it in front of other texts, too. -/
theorem numeralText_of_parse? (h : parse? n.render = some (.number n)) :
    NumeralText n.render n := by
  have chars : ∀ c ∈ n.render, isNumeralChar c = true := fun _ => isNumeralChar_of_mem_render
  have spelled := parse?_eq_some_iff.1 h
  generalize n.render = t at chars spelled
  cases spelled with
  | @padded _ _ b w b' before value after =>
    obtain ⟨front, back⟩ := List.forall_mem_append.1 chars
    obtain ⟨front, -⟩ := List.forall_mem_append.1 front
    obtain rfl := before.eq_nil front
    obtain rfl := after.eq_nil back
    rw [List.nil_append, List.append_nil]
    exact value.numeralText

/-! ### Values -/

theorem spells_items (v : Json) (vs : List Json)
    (h : ∀ u ∈ v :: vs, Spells d (.value u) u.render) :
    ∃ w, v.render ++ renderItems vs = w ++ [']'] ∧ Spells d (.items (v :: vs)) w := by
  have first := (h v List.mem_cons_self).bare
  induction vs generalizing v with
  | nil => exact ⟨v.render, rfl, .lastItem first⟩
  | cons u us ih =>
    obtain ⟨w, e, rest⟩ := ih u (fun x mem => h x (List.mem_cons_of_mem v mem))
      (h u (by simp)).bare
    refine ⟨v.render ++ ',' :: w, ?_, .items first rest⟩
    rw [renderItems, List.cons_append, e, List.append_assoc]
    rfl

theorem spells_member {m : Text × Json} (h : Spells d (.value m.2) m.2.render) :
    Spells d (.member m) (renderString m.1 ++ ':' :: m.2.render) := by
  have text := Spells.member spaces_nil (stringText_escape m.1) spaces_nil h.bare
  simpa [renderString] using text

theorem spells_members (m : Text × Json) (ms : List (Text × Json))
    (h : ∀ m' ∈ m :: ms, Spells d (.value m'.2) m'.2.render) :
    ∃ w, renderString m.1 ++ ':' :: m.2.render ++ renderMembers ms = w ++ ['\x7d'] ∧
      Spells d (.members (m :: ms)) w := by
  have first := spells_member (h m List.mem_cons_self)
  induction ms generalizing m with
  | nil => exact ⟨_, rfl, .lastMember first⟩
  | cons m' ms ih =>
    obtain ⟨w, e, rest⟩ := ih m' (fun x mem => h x (List.mem_cons_of_mem m mem))
      (spells_member (h m' (by simp)))
    refine ⟨renderString m.1 ++ ':' :: m.2.render ++ ',' :: w, ?_, .members first rest⟩
    rw [renderMembers, List.append_assoc _ (',' :: w), List.cons_append, List.cons_append, e]
    rfl

/-- A value that can be written is spelled by its own text, if its doubles are read back. -/
theorem Spells.render (h : Spells d phrase t) :
    phrase.All fun v => v.Faithful → Spells d (.value v) v.render := by
  induction h with
  | nullLiteral => exact fun _ => .nullLiteral
  | trueLiteral => exact fun _ => .trueLiteral
  | falseLiteral => exact fun _ => .falseLiteral
  | @number d n w text =>
    intro faithful
    -- an integer that was read fits, and a double is read back by assumption
    cases n with
    | integer k => exact .number (numeralText_integer text.fits)
    | double x => exact .number (numeralText_of_parse? (faithful [] x (.scalar rfl)))
  | @string d s w _ => exact fun _ => .string (stringText_escape s)
  | noItem _ => exact fun _ => .noItem spaces_nil
  | @array d vs w _ ih =>
    intro faithful
    cases vs with
    | nil => exact .noItem spaces_nil
    | cons v vs =>
      obtain ⟨w, e, items⟩ := spells_items v vs fun u mem => ih u mem (faithful.item mem)
      have text := Spells.array items
      rwa [List.cons_append, ← e] at text
  | noMember _ => exact fun _ => .noMember spaces_nil
  | @object d ms w _ ih =>
    -- the members are written in the order of their names, which need not be that of the text
    obtain ⟨l, e, ascending, sound, -⟩ := exists_ofMembers ms
    show (ofMembers ms).Faithful → Spells _ (.value (ofMembers ms)) (ofMembers ms).render
    rw [e]
    intro faithful
    cases l with
    | nil => exact .noMember spaces_nil
    | cons m l =>
      obtain ⟨w, e, members⟩ := spells_members m l fun m' mem =>
        ih m' (sound m' mem) (faithful.member mem)
      have text := Spells.object members
      rwa [ofMembers_of_ascending ascending, List.cons_append, ← e] at text
  | padded _ _ _ ih => exact ih
  | lastItem _ ih => exact List.forall_mem_singleton.2 ih
  | items _ _ first rest => exact List.forall_mem_cons.2 ⟨first, rest⟩
  | member _ _ _ _ ih => exact ih
  | lastMember _ ih => exact List.forall_mem_singleton.2 ih
  | members _ _ first rest => exact List.forall_mem_cons.2 ⟨first, rest⟩

/-- Not every double is read again: this one is written with 17 digits, and the reader rounds
the digits before it multiplies them. -/
example : parse? (Binary64.render ⟨false, 0x112210F82DF1F3, 1082⟩) ≠
    some (.number (.double ⟨false, 0x112210F82DF1F3, 1082⟩)) := by
  decide +kernel

end SecretEnv.Json

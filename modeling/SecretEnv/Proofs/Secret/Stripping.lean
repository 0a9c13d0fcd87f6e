import SecretEnv.Proofs.Json.WrittenNumbers
import SecretEnv.Proofs.Secret.Cleaning

/-!
# Characters that are left in a selected value

A string that a key selects is cleaned. An object or array is written as JSON instead, and the
writer escapes no character from U+0020 on but the quote and the backslash.

* `Json.Holds`: a character stands in a string or in a member name inside a value;
* `Json.mem_render_iff`: what cleaning would drop is in the text of a value exactly if the value
  holds it and it is not below U+0020;
* `Secret.mem_scalar_iff`: so a control character or a blank but the space is left in a single
  value exactly if a key selects an object or array that holds it.
-/

namespace SecretEnv

namespace Json

open Secret (kept kept_of_isNumeralChar ne_of_dropped notMem_of_dropped)

variable {c d : Char} {t : Text} {n : Number} {items : List Json} {members : List (Text × Json)}

/-- A character stands in a string or in a member name inside a value. -/
inductive Holds (c : Char) : Json → Prop
  | string {t : Text} (mem : c ∈ t) : Holds c (.string t)
  | item {items : List Json} {v : Json} (held : v ∈ items) (inner : Holds c v) :
      Holds c (.array items)
  | name {members : List (Text × Json)} {m : Text × Json} (held : m ∈ members)
      (mem : c ∈ m.1) : Holds c (.object members)
  | member {members : List (Text × Json)} {m : Text × Json} (held : m ∈ members)
      (inner : Holds c m.2) : Holds c (.object members)

@[simp] theorem holds_string_iff : Holds c (.string t) ↔ c ∈ t :=
  ⟨fun | .string mem => mem, .string⟩

@[simp] theorem holds_array_iff : Holds c (.array items) ↔ ∃ v ∈ items, Holds c v :=
  ⟨fun | .item held inner => ⟨_, held, inner⟩, fun ⟨_, held, inner⟩ => .item held inner⟩

@[simp] theorem holds_object_iff :
    Holds c (.object members) ↔ ∃ m ∈ members, c ∈ m.1 ∨ Holds c m.2 := by
  constructor
  · rintro (_ | _ | ⟨held, mem⟩ | ⟨held, inner⟩)
    · exact ⟨_, held, .inl mem⟩
    · exact ⟨_, held, .inr inner⟩
  · rintro ⟨m, held, mem | inner⟩
    · exact .name held mem
    · exact .member held inner

theorem Holds.isContainer {v : Json} (h : v.Holds c) (other : ∀ t, v ≠ .string t) :
    v.isContainer = true := by
  cases h with
  | string mem => exact absurd rfl (other _)
  | _ => rfl

/-! ### Strings -/

theorem all_kept_escapeChar_control : ∀ i < 0x20, (escapeChar (Char.ofNat i)).all kept = true := by
  decide

/-- A character is written in characters that are kept, or as itself. It is itself kept or below
U+0020 in the first case, and in the second case it is not below. -/
theorem escapeChar_cases (d : Char) :
    ((escapeChar d).all kept = true ∧ (kept d = true ∨ d.toNat < 0x20)) ∨
      (escapeChar d = [d] ∧ 0x20 ≤ d.toNat) := by
  by_cases control : d.toNat < 0x20
  · have written := all_kept_escapeChar_control d.toNat control
    rw [Char.ofNat_toNat] at written
    exact .inl ⟨written, .inr control⟩
  by_cases quote : d = '"'
  · subst quote
    exact .inl ⟨by decide, .inl rfl⟩
  by_cases backslash : d = '\\'
  · subst backslash
    exact .inl ⟨by decide, .inl rfl⟩
  · have other : ∀ x : Char, x.toNat < 0x20 → d ≠ x := by
      rintro x low rfl
      exact control low
    refine .inr ⟨?_, Nat.not_lt.1 control⟩
    simp [escapeChar, quote, backslash, control, other]

theorem mem_escapeChar_iff (dropped : kept c = false) :
    c ∈ escapeChar d ↔ 0x20 ≤ c.toNat ∧ c = d := by
  rcases escapeChar_cases d with ⟨escaped, exempt⟩ | ⟨same, high⟩
  · refine iff_of_false (notMem_of_dropped dropped escaped) ?_
    rintro ⟨high, rfl⟩
    rcases exempt with keep | low
    · exact ne_of_dropped dropped keep rfl
    · omega
  · rw [same, List.mem_singleton]
    constructor
    · rintro rfl
      exact ⟨high, rfl⟩
    · exact And.right

theorem mem_renderString_iff (dropped : kept c = false) :
    c ∈ renderString t ↔ 0x20 ≤ c.toNat ∧ c ∈ t := by
  have quote : c ≠ '"' := ne_of_dropped dropped rfl
  simp [renderString, quote, mem_escapeChar_iff dropped, and_comm]

/-! ### Values -/

theorem notMem_render_number (dropped : kept c = false) : c ∉ n.render :=
  notMem_of_dropped dropped <| List.all_eq_true.2 fun _ mem =>
    kept_of_isNumeralChar (isNumeralChar_of_mem_render mem)

/-- The text of a member, if what is left in the text of its value is known. -/
theorem mem_member_iff (dropped : kept c = false) {name : Text} {v : Json}
    (inner : c ∈ v.render ↔ 0x20 ≤ c.toNat ∧ v.Holds c) :
    c ∈ renderString name ++ ':' :: v.render ↔ 0x20 ≤ c.toNat ∧ (c ∈ name ∨ v.Holds c) := by
  have colon : c ≠ ':' := ne_of_dropped dropped rfl
  rw [List.mem_append, List.mem_cons, or_iff_right colon, mem_renderString_iff dropped, inner,
    and_or_left]

mutual

/-- What cleaning would drop is in the text of a value exactly if the value holds it and it is
not below U+0020. -/
theorem mem_render_iff (dropped : kept c = false) :
    (v : Json) → (c ∈ v.render ↔ 0x20 ≤ c.toNat ∧ v.Holds c)
  | .null => iff_of_false (notMem_of_dropped dropped (by decide)) nofun
  | .bool true => iff_of_false (notMem_of_dropped dropped (by decide)) nofun
  | .bool false => iff_of_false (notMem_of_dropped dropped (by decide)) nofun
  | .number _ => iff_of_false (notMem_render_number dropped) nofun
  | .string _ => by rw [render, mem_renderString_iff dropped, holds_string_iff]
  | .array [] => iff_of_false (notMem_of_dropped dropped (by decide)) (by simp)
  | .array (v :: vs) => by
    have bracket : c ≠ '[' := ne_of_dropped dropped rfl
    rw [render, List.mem_append, List.mem_cons, or_iff_right bracket, mem_render_iff dropped v,
      mem_renderItems_iff dropped vs, holds_array_iff, List.exists_mem_cons_iff, ← and_or_left]
  | .object [] => iff_of_false (notMem_of_dropped dropped (by decide)) (by simp)
  | .object ((name, v) :: ms) => by
    have brace : c ≠ '\x7b' := ne_of_dropped dropped rfl
    rw [render, List.mem_append, List.cons_append, List.mem_cons, or_iff_right brace,
      mem_member_iff dropped (mem_render_iff dropped v), mem_renderMembers_iff dropped ms,
      holds_object_iff, List.exists_mem_cons_iff, ← and_or_left]

theorem mem_renderItems_iff (dropped : kept c = false) :
    (vs : List Json) → (c ∈ renderItems vs ↔ 0x20 ≤ c.toNat ∧ ∃ v ∈ vs, v.Holds c)
  | [] => iff_of_false (notMem_of_dropped dropped (by decide)) (by simp)
  | v :: vs => by
    have comma : c ≠ ',' := ne_of_dropped dropped rfl
    rw [renderItems, List.mem_append, List.mem_cons, or_iff_right comma, mem_render_iff dropped v,
      mem_renderItems_iff dropped vs, List.exists_mem_cons_iff, ← and_or_left]

theorem mem_renderMembers_iff (dropped : kept c = false) : (ms : List (Text × Json)) →
    (c ∈ renderMembers ms ↔ 0x20 ≤ c.toNat ∧ ∃ m ∈ ms, c ∈ m.1 ∨ m.2.Holds c)
  | [] => iff_of_false (notMem_of_dropped dropped (by decide)) (by simp)
  | (name, v) :: ms => by
    have comma : c ≠ ',' := ne_of_dropped dropped rfl
    rw [renderMembers, List.mem_append, List.cons_append, List.mem_cons, or_iff_right comma,
      mem_member_iff dropped (mem_render_iff dropped v), mem_renderMembers_iff dropped ms,
      List.exists_mem_cons_iff, ← and_or_left]

end

end Json

/-! ### Single values -/

namespace Secret

variable {raw value : Text} {key : Option Text} {found : Json} {c : Char}

/-- What is taken from a selected value holds dropped characters only if it is no string. -/
theorem mem_foundText_iff (dropped : kept c = false) :
    c ∈ foundText found ↔ 0x20 ≤ c.toNat ∧ found.isContainer = true ∧ found.Holds c := by
  by_cases text : ∃ t, found = .string t
  · obtain ⟨t, rfl⟩ := text
    simp [foundText, mem_clean_iff, dropped, Json.isContainer]
  · have written : foundText found = found.render := by
      cases found with
      | string t => exact absurd ⟨t, rfl⟩ text
      | _ => rfl
    rw [written, Json.mem_render_iff dropped]
    constructor
    · rintro ⟨high, inner⟩
      exact ⟨high, inner.isContainer (not_exists.1 text), inner⟩
    · rintro ⟨high, -, inner⟩
      exact ⟨high, inner⟩

/-- A control character or a blank but the space is left in a single value exactly if it is not
below U+0020 and stands in a string or in a member name inside an object or array that the key
selects. -/
theorem mem_scalar_iff (single : scalar raw key = .ok value)
    (unclean : isControl c = true ∨ (isBlank c = true ∧ c ≠ ' ')) :
    c ∈ value ↔ 0x20 ≤ c.toNat ∧ ∃ path root found, key = some path ∧
      Json.parse? raw = some root ∧ root.navigate (Json.segments path) = .ok found ∧
      found.isContainer = true ∧ found.Holds c := by
  have dropped := kept_eq_false_iff.2 unclean
  have double : c ≠ '"' := ne_of_dropped dropped rfl
  have apostrophe : c ≠ '\'' := ne_of_dropped dropped rfl
  unfold scalar at single
  split at single
  · obtain rfl := Except.ok.inj single
    rw [mem_unwrapQuotes_iff double apostrophe, mem_clean_iff]
    simp [dropped]
  · split at single
    · cases single
    · next root parsed =>
      split at single
      · next found selected =>
        obtain rfl := Except.ok.inj single
        rw [mem_unwrapQuotes_iff double apostrophe, mem_foundText_iff dropped]
        simp [parsed, selected]
      · cases single

/-- A secret with a no-break space in a member name, and with a delete character and an escaped
tab in a string, both inside an array. -/
def layered : Text := "\x7b\"k\":[0,\x7b\"n\u00a0\":\"x\x7f\\ty\"\x7d]\x7d".toList

/-- Of the array as it is written, the no-break space and the delete character are part, but
the tab, which is escaped again, is not. -/
theorem mem_scalar_iff_layered :
    ∃ value, scalar layered (some ['k']) = .ok value ∧ '\u00a0' ∈ value ∧ '\x7f' ∈ value ∧
      '\t' ∉ value := by
  let member : Text × Json := ("n\u00a0".toList, .string "x\x7f\ty".toList)
  let found : Json := .array [.number (.integer 0), .object [member]]
  have single : scalar layered (some ['k']) = .ok found.render := by decide +kernel
  have parsed : Json.parse? layered = some (.object [(['k'], found)]) := by decide +kernel
  have inside : Json.object [member] ∈ [.number (.integer 0), Json.object [member]] := by simp
  refine ⟨_, single, ?_, ?_, ?_⟩
  · refine (mem_scalar_iff single (.inr (by decide))).2 ⟨by decide, ['k'], _, found, rfl, parsed,
      rfl, rfl, ?_⟩
    exact .item inside (.name List.mem_cons_self (by decide))
  · refine (mem_scalar_iff single (.inl (by decide))).2 ⟨by decide, ['k'], _, found, rfl, parsed,
      rfl, rfl, ?_⟩
    exact .item inside (.member List.mem_cons_self (.string (by decide)))
  · intro mem
    obtain ⟨high, -⟩ := (mem_scalar_iff single (.inl (by decide))).1 mem
    exact absurd high (by decide)

/-- A delete character inside a selected array is not stripped. -/
theorem not_scalar_stripped_delete :
    ¬ ∀ (raw : Text) (key : Option Text) (value : Text), scalar raw key = .ok value →
      ∀ c ∈ value, isControl c = false ∧ (isBlank c = true → c = ' ') := by
  intro stripped
  have single : scalar "\x7b\"k\":[\"a\x7fb\"]\x7d".toList (some ['k']) =
      .ok "[\"a\x7fb\"]".toList := by decide +kernel
  have clean := stripped _ _ _ single '\x7f' (by decide)
  exact absurd clean.1 (by decide)

end Secret
end SecretEnv

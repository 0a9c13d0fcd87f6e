import SecretEnv.Proofs.Json.Grammar

/-!
# The reader and the grammar

* `exists_value`, `exists_items`, `exists_members`: what is read is spelled;
* `Spells.reads`: what is spelled is read, given two steps for every character;
* `parse?_eq_some_iff`: a text is read as a value exactly if it spells that value;
* `ordered_of_parse?`: the values that are read are ordered.
-/

namespace SecretEnv.Json

variable {d fuel : Nat} {t r w : Text} {v : Json} {phrase : Phrase}

/-! ### What is read is spelled -/

/-- A value is padded with the blanks that are skipped before and after it. -/
theorem exists_padded (e : skipSpace t = w ++ r) (value : Spells d (.value v) w) :
    ∃ u, t = u ++ skipSpace r ∧ Spells d (.padded v) u := by
  obtain ⟨b, before, front⟩ := exists_skipSpace t
  obtain ⟨b', after, back⟩ := exists_skipSpace r
  refine ⟨b ++ w ++ b', ?_, .padded before value after⟩
  rw [front, e, back, skipSpace_append after, (noSpace_skipSpace r).skipSpace_eq]
  simp only [List.append_assoc]

/-- A member is a name between quotes, a colon and a value. -/
theorem exists_member {n t₁ t₂ u : Text} (quote : skipSpace t = '"' :: t₁)
    (tail : stringTail? t₁ = some (n, t₂)) (colon : skipSpace t₂ = ':' :: (u ++ r))
    (value : Spells d (.padded v) u) : ∃ w, t = w ++ r ∧ Spells d (.member (n, v)) w := by
  obtain ⟨w, rfl, name⟩ := exists_stringText tail
  obtain ⟨b, before, front⟩ := exists_skipSpace t
  obtain ⟨b', after, middle⟩ := exists_skipSpace t₂
  refine ⟨_, ?_, .member before name after value⟩
  rw [front, quote, middle, colon]
  simp only [List.append_assoc, List.cons_append]

-- The induction is on the number of steps, which the three readers count down together.
mutual

theorem exists_value : (fuel : Nat) → ∀ {d : Nat} {t r : Text} {v : Json},
    value? fuel d t = some (v, r) → ∃ w, skipSpace t = w ++ r ∧ Spells d (.value v) w
  | 0, _, _, _, _, h => by cases h
  | fuel + 1, d, t, r, v, h => by
    rw [value?] at h
    -- by what the text begins with: a literal, a quote, a bracket, a brace or a numeral
    split at h
    · next e =>
      obtain ⟨rfl, rfl⟩ := Prod.mk.inj (Option.some.inj h)
      exact ⟨_, e, .nullLiteral⟩
    · next e =>
      obtain ⟨rfl, rfl⟩ := Prod.mk.inj (Option.some.inj h)
      exact ⟨_, e, .trueLiteral⟩
    · next e =>
      obtain ⟨rfl, rfl⟩ := Prod.mk.inj (Option.some.inj h)
      exact ⟨_, e, .falseLiteral⟩
    · next e =>
      obtain ⟨⟨s, rest⟩, tail, e'⟩ := Option.map_eq_some_iff.1 h
      obtain ⟨rfl, rfl⟩ := Prod.mk.inj e'
      obtain ⟨w, rfl, text⟩ := exists_stringText tail
      exact ⟨'"' :: w ++ ['"'], by simp [e], .string text⟩
    · next u e =>
      obtain ⟨b, spaces, front⟩ := exists_skipSpace u
      rw [e, front]
      cases d with
      | zero => cases h
      | succ d =>
        rw [if_neg (Nat.succ_ne_zero d), Nat.add_sub_cancel] at h
        split at h
        · next e =>
          obtain ⟨rfl, rfl⟩ := Prod.mk.inj (Option.some.inj h)
          exact ⟨'[' :: b ++ [']'], by simp [e], .noItem spaces⟩
        · obtain ⟨⟨vs, rest⟩, items, e'⟩ := Option.map_eq_some_iff.1 h
          obtain ⟨rfl, rfl⟩ := Prod.mk.inj e'
          obtain ⟨w, e, inner⟩ := exists_items fuel items
          exact ⟨'[' :: (b ++ w) ++ [']'], by simp [e], .array (inner.blanks_items spaces)⟩
    · next u e =>
      obtain ⟨b, spaces, front⟩ := exists_skipSpace u
      rw [e, front]
      cases d with
      | zero => cases h
      | succ d =>
        rw [if_neg (Nat.succ_ne_zero d), Nat.add_sub_cancel] at h
        split at h
        · next e =>
          obtain ⟨rfl, rfl⟩ := Prod.mk.inj (Option.some.inj h)
          exact ⟨'\x7b' :: b ++ ['\x7d'], by simp [e], .noMember spaces⟩
        · obtain ⟨⟨ms, rest⟩, members, e'⟩ := Option.map_eq_some_iff.1 h
          obtain ⟨rfl, rfl⟩ := Prod.mk.inj e'
          obtain ⟨w, e, inner⟩ := exists_members fuel members
          exact ⟨'\x7b' :: (b ++ w) ++ ['\x7d'], by simp [e],
            .object (inner.blanks_members spaces)⟩
    · next e =>
      obtain ⟨⟨n, rest⟩, number, e'⟩ := Option.map_eq_some_iff.1 h
      obtain ⟨rfl, rfl⟩ := Prod.mk.inj e'
      obtain ⟨w, e, text⟩ := exists_numeralText number
      exact ⟨w, e, .number text⟩

theorem exists_items : (fuel : Nat) → ∀ {d : Nat} {t r : Text} {vs : List Json},
    items? fuel d t = some (vs, r) → ∃ w, t = w ++ ']' :: r ∧ Spells d (.items vs) w
  | 0, _, _, _, _, h => by cases h
  | fuel + 1, d, t, r, vs, h => by
    rw [items?] at h
    split at h
    · cases h
    · next v rest read =>
      obtain ⟨w, e, value⟩ := exists_value fuel read
      obtain ⟨u, rfl, padded⟩ := exists_padded e value
      split at h
      · next e =>
        obtain ⟨rfl, rfl⟩ := Prod.mk.inj (Option.some.inj h)
        exact ⟨u, by rw [e], .lastItem padded⟩
      · next e =>
        obtain ⟨⟨vs, rest⟩, items, e'⟩ := Option.map_eq_some_iff.1 h
        obtain ⟨rfl, rfl⟩ := Prod.mk.inj e'
        obtain ⟨ws, rfl, inner⟩ := exists_items fuel items
        exact ⟨u ++ ',' :: ws, by simp [e], .items padded inner⟩
      · cases h

theorem exists_members : (fuel : Nat) → ∀ {d : Nat} {t r : Text} {ms : List (Text × Json)},
    members? fuel d t = some (ms, r) → ∃ w, t = w ++ '\x7d' :: r ∧ Spells d (.members ms) w
  | 0, _, _, _, _, h => by cases h
  | fuel + 1, d, t, r, ms, h => by
    rw [members?] at h
    split at h
    · next t₁ quote =>
      split at h
      · cases h
      · next n t₂ tail =>
        split at h
        · next t₃ colon =>
          split at h
          · cases h
          · next v t₄ read =>
            obtain ⟨w, e, value⟩ := exists_value fuel read
            obtain ⟨u, rfl, padded⟩ := exists_padded e value
            obtain ⟨w, rfl, member⟩ := exists_member quote tail colon padded
            split at h
            · next e =>
              obtain ⟨rfl, rfl⟩ := Prod.mk.inj (Option.some.inj h)
              exact ⟨w, by rw [e], .lastMember member⟩
            · next e =>
              obtain ⟨⟨ms, rest⟩, members, e'⟩ := Option.map_eq_some_iff.1 h
              obtain ⟨rfl, rfl⟩ := Prod.mk.inj e'
              obtain ⟨ws, rfl, inner⟩ := exists_members fuel members
              exact ⟨w ++ ',' :: ws, by simp [e], .members member inner⟩
            · cases h
        · cases h
    · cases h

end

/-! ### What is spelled is read -/

theorem value?_skipSpace (fuel d : Nat) (t : Text) :
    value? fuel d (skipSpace t) = value? fuel d t := by
  cases fuel with
  | zero => rfl
  | succ fuel => rw [value?, value?, (noSpace_skipSpace t).skipSpace_eq]

theorem items?_skipSpace (fuel d : Nat) (t : Text) :
    items? fuel d (skipSpace t) = items? fuel d t := by
  cases fuel with
  | zero => rfl
  | succ fuel => rw [items?, items?, value?_skipSpace]

theorem members?_skipSpace (fuel d : Nat) (t : Text) :
    members? fuel d (skipSpace t) = members? fuel d t := by
  cases fuel with
  | zero => rfl
  | succ fuel => rw [members?, members?, (noSpace_skipSpace t).skipSpace_eq]

theorem Spells.not_bracket {vs : List Json} (h : Spells d (.items vs) w) (r : Text) :
    (skipSpace (w ++ r)).head? ≠ some ']' := by
  obtain ⟨b, c, t, spaces, rfl, first⟩ := h.start_items
  have noSpace : NoSpace (c :: t ++ r) := fun c hc => Option.some.inj hc ▸ first.not_space
  rw [List.append_assoc, skipSpace_append spaces, noSpace.skipSpace_eq]
  exact fun head => first.ne_bracket (Option.some.inj head)

theorem Spells.not_brace {ms : List (Text × Json)} (h : Spells d (.members ms) w) (r : Text) :
    (skipSpace (w ++ r)).head? ≠ some '\x7d' := by
  obtain ⟨b, t, spaces, rfl⟩ := h.start_members
  rw [List.append_assoc, skipSpace_append spaces]
  exact fun head => absurd (Option.some.inj head) (by decide)

theorem value?_number {n : Number} (text : NumeralText w n) (fuel d : Nat) (stop : Stops r) :
    value? (fuel + 1) d (w ++ r) = some (.number n, r) := by
  obtain ⟨c, head, first⟩ := text.head
  cases w with
  | nil => cases head
  | cons c' w =>
    obtain rfl := Option.some.inj head
    have opens : Opens c' := .inr (.inr (.inr (.inr (.inr (.inr first)))))
    have noSpace : NoSpace (c' :: w ++ r) := fun c hc => Option.some.inj hc ▸ opens.not_space
    have letter {c : Char} {t : Text} (e : c' :: w ++ r = c :: t) :
        c.isDigit = true ∨ c = '-' := (List.cons.inj e).1 ▸ first
    rw [value?, noSpace.skipSpace_eq]
    split
    case h_7 => rw [text.read r stop, Option.map_some]
    all_goals
      next e => exact absurd (letter e) (by decide)

theorem value?_bracket (fuel d : Nat) (t : Text) :
    value? (fuel + 1) (d + 1) ('[' :: t) =
      if (skipSpace t).head? = some ']' then some (.array [], (skipSpace t).tail)
      else (items? fuel d (skipSpace t)).map (Prod.map .array id) := by
  have front : skipSpace ('[' :: t) = '[' :: t := rfl
  rw [value?, front]
  simp only [Nat.succ_ne_zero, if_false, Nat.add_sub_cancel]
  split
  · next u e =>
    rw [e]
    rfl
  · next other =>
    rw [if_neg]
    · rfl
    · intro head
      obtain ⟨u, e⟩ := List.head?_eq_some_iff.1 head
      exact other u e

theorem value?_brace (fuel d : Nat) (t : Text) :
    value? (fuel + 1) (d + 1) ('\x7b' :: t) =
      if (skipSpace t).head? = some '\x7d' then some (.object [], (skipSpace t).tail)
      else (members? fuel d (skipSpace t)).map (Prod.map ofMembers id) := by
  have front : skipSpace ('\x7b' :: t) = '\x7b' :: t := rfl
  rw [value?, front]
  simp only [Nat.succ_ne_zero, if_false, Nat.add_sub_cancel]
  split
  · next u e =>
    rw [e]
    rfl
  · next other =>
    rw [if_neg]
    · rfl
    · intro head
      obtain ⟨u, e⟩ := List.head?_eq_some_iff.1 head
      exact other u e

theorem value?_noItem {b : Text} (spaces : Spaces b) (fuel d : Nat) (r : Text) :
    value? (fuel + 1) (d + 1) ('[' :: (b ++ ']' :: r)) = some (.array [], r) := by
  have close : skipSpace (b ++ ']' :: r) = ']' :: r := skipSpace_append spaces _
  rw [value?_bracket, close]
  rfl

theorem value?_array {vs : List Json} (read : items? fuel d t = some (vs, r))
    (start : (skipSpace t).head? ≠ some ']') :
    value? (fuel + 1) (d + 1) ('[' :: t) = some (.array vs, r) := by
  rw [value?_bracket, if_neg start, items?_skipSpace, read]
  rfl

theorem value?_noMember {b : Text} (spaces : Spaces b) (fuel d : Nat) (r : Text) :
    value? (fuel + 1) (d + 1) ('\x7b' :: (b ++ '\x7d' :: r)) = some (.object [], r) := by
  have close : skipSpace (b ++ '\x7d' :: r) = '\x7d' :: r := skipSpace_append spaces _
  rw [value?_brace, close]
  rfl

theorem value?_object {ms : List (Text × Json)} (read : members? fuel d t = some (ms, r))
    (start : (skipSpace t).head? ≠ some '\x7d') :
    value? (fuel + 1) (d + 1) ('\x7b' :: t) = some (ofMembers ms, r) := by
  rw [value?_brace, if_neg start, members?_skipSpace, read]
  rfl

theorem value?_string {s : Text} (text : StringText w s) (fuel d : Nat) (r : Text) :
    value? (fuel + 1) d ('"' :: (w ++ '"' :: r)) = some (.string s, r) := by
  have front : skipSpace ('"' :: (w ++ '"' :: r)) = '"' :: (w ++ '"' :: r) := rfl
  rw [value?, front]
  simp only [text.stringTail? r, Option.map_some]

/-- A phrase is read from a text in front of what may follow it, given two steps for every
character. -/
def Reads (d : Nat) : Phrase → Text → Prop
  | .value v, w => ∀ fuel r, 2 * w.length ≤ fuel → Stops r →
      value? fuel d (w ++ r) = some (v, r)
  | .padded v, w => ∀ fuel r, 2 * w.length ≤ fuel → Stops r →
      ∃ b, Spaces b ∧ value? fuel d (w ++ r) = some (v, b ++ r)
  | .items vs, w => ∀ fuel r, 2 * w.length + 1 ≤ fuel →
      items? fuel d (w ++ ']' :: r) = some (vs, r)
  | .member (n, v), w => ∀ fuel r, 2 * w.length ≤ fuel → Stops r →
      ∃ t₁ t₂ t₃ b, skipSpace (w ++ r) = '"' :: t₁ ∧ stringTail? t₁ = some (n, t₂) ∧
        skipSpace t₂ = ':' :: t₃ ∧ Spaces b ∧ value? fuel d t₃ = some (v, b ++ r)
  | .members ms, w => ∀ fuel r, 2 * w.length + 1 ≤ fuel →
      members? fuel d (w ++ '\x7d' :: r) = some (ms, r)

/-- What is spelled is read. -/
theorem Spells.reads (h : Spells d phrase w) : Reads d phrase w := by
  -- on the spelling: a phrase is longer than its parts, so one step less is enough for them
  induction h with
  | nullLiteral | trueLiteral | falseLiteral =>
    rintro (_ | fuel) r enough -
    · cases enough
    · rfl
  | @number d n w text =>
    rintro (_ | fuel) r enough stop
    · obtain ⟨c, head, -⟩ := text.head
      cases w with
      | nil => cases head
      | cons c w => cases enough
    · exact value?_number text fuel d stop
  | @string d s w text =>
    rintro (_ | fuel) r enough -
    · cases enough
    · have read := value?_string text fuel d r
      simpa using read
  | @noItem d b spaces =>
    rintro (_ | fuel) r enough -
    · cases enough
    · have read := value?_noItem spaces fuel d r
      simpa using read
  | @array d vs w inner ih =>
    rintro (_ | fuel) r enough -
    · cases enough
    · simp only [List.length_append, List.length_cons, List.length_nil] at enough
      have read := ih fuel r (by omega)
      have whole := value?_array read (inner.not_bracket _)
      simpa using whole
  | @noMember d b spaces =>
    rintro (_ | fuel) r enough -
    · cases enough
    · have read := value?_noMember spaces fuel d r
      simpa using read
  | @object d ms w inner ih =>
    rintro (_ | fuel) r enough -
    · cases enough
    · simp only [List.length_append, List.length_cons, List.length_nil] at enough
      have read := ih fuel r (by omega)
      have whole := value?_object read (inner.not_brace _)
      simpa using whole
  | @padded d v b w b' before value after ih =>
    intro fuel r enough stop
    simp only [List.length_append] at enough
    have read := ih fuel (b' ++ r) (by omega) (stops_append after stop)
    refine ⟨b', after, ?_⟩
    rw [← value?_skipSpace, List.append_assoc, List.append_assoc, skipSpace_append before,
      value?_skipSpace, read]
  | lastItem value ih =>
    rintro (_ | fuel) r enough
    · cases enough
    · obtain ⟨b, spaces, read⟩ := ih fuel (']' :: r) (by omega) (stops_cons rfl r)
      have close : skipSpace (b ++ ']' :: r) = ']' :: r := skipSpace_append spaces _
      rw [items?, read]
      simp only [close]
  | items value rest first ih =>
    rintro (_ | fuel) r enough
    · cases enough
    · simp only [List.length_append, List.length_cons] at enough
      obtain ⟨b, spaces, read⟩ := first fuel (',' :: _) (by omega) (stops_cons rfl _)
      have comma (t : Text) : skipSpace (b ++ ',' :: t) = ',' :: t := skipSpace_append spaces _
      rw [items?, List.append_assoc, List.cons_append, read]
      simp only [comma, ih fuel r (by omega), Option.map_some]
  | @member d n v b w b' u before name after value ih =>
    intro fuel r enough stop
    simp only [List.length_append, List.length_cons] at enough
    obtain ⟨b₂, spaces, read⟩ := ih fuel r (by omega) stop
    have tail := name.stringTail? (b' ++ ':' :: (u ++ r))
    refine ⟨w ++ '"' :: (b' ++ ':' :: (u ++ r)), _, u ++ r, b₂, ?_, tail, ?_, spaces, read⟩
    · simp only [List.append_assoc, List.cons_append]
      exact skipSpace_append before _
    · exact skipSpace_append after _
  | lastMember member ih =>
    rintro (_ | fuel) r enough
    · cases enough
    · obtain ⟨t₁, t₂, t₃, b, quote, tail, colon, spaces, read⟩ :=
        ih fuel ('\x7d' :: r) (by omega) (stops_cons rfl r)
      have close : skipSpace (b ++ '\x7d' :: r) = '\x7d' :: r := skipSpace_append spaces _
      rw [members?, quote]
      simp only [tail, colon, read, close]
  | members member rest first ih =>
    rintro (_ | fuel) r enough
    · cases enough
    · simp only [List.length_append, List.length_cons] at enough
      obtain ⟨t₁, t₂, t₃, b, quote, tail, colon, spaces, read⟩ :=
        first fuel (',' :: _) (by omega) (stops_cons rfl _)
      have comma (t : Text) : skipSpace (b ++ ',' :: t) = ',' :: t := skipSpace_append spaces _
      rw [members?, List.append_assoc, List.cons_append, quote]
      simp only [tail, colon, read, comma, ih fuel r (by omega), Option.map_some]

/-! ### Whole texts -/

/-- A text is read as a value exactly if it spells that value, with blanks around it. -/
theorem parse?_eq_some_iff : parse? t = some v ↔ Spells maxDepth (.padded v) t := by
  constructor
  · intro h
    unfold parse? at h
    split at h
    · next u rest read =>
      split_ifs at h with done
      obtain rfl := Option.some.inj h
      obtain ⟨w, e, value⟩ := exists_value _ read
      obtain ⟨u, rfl, padded⟩ := exists_padded e value
      rw [done, List.append_nil]
      exact padded
    · cases h
  · intro h
    obtain ⟨b, spaces, read⟩ := h.reads (2 * t.length + 1) [] (by omega) stops_nil
    rw [List.append_nil, List.append_nil] at read
    unfold parse?
    rw [read]
    exact if_pos spaces.skipSpace_eq

theorem ordered_of_parse? (h : parse? t = some v) : v.Ordered :=
  (parse?_eq_some_iff.1 h).ordered

end SecretEnv.Json

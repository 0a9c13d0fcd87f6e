import SecretEnv.Proofs.Json.Numerals
import SecretEnv.Proofs.Json.Objects
import SecretEnv.Proofs.Json.Strings

/-!
# The grammar of JSON

* `Json.Spaces`: the blanks that may stand around values;
* `Json.Spells d phrase t`: the text `t` is a way to write a phrase, a value or a part of one,
  that nests at most `d` containers;
* `Spells.ordered`: the values that can be written are ordered;
* `Spells.start_value` and its companions: how the text of a phrase begins;
* `Spells.blanks_items`, `Spells.blanks_members`: blanks may stand in front of it.
-/

namespace SecretEnv.Json

variable {d : Nat} {b t w : Text} {v : Json} {phrase : Phrase}

/-! ### Blanks -/

/-- The blanks that may stand around values. -/
def isSpace (c : Char) : Bool := c = ' ' || c = '\t' || c = '\n' || c = '\r'

/-- A text of blanks. -/
def Spaces (t : Text) : Prop := ∀ c ∈ t, isSpace c = true

/-- A text does not begin with a blank. -/
def NoSpace (t : Text) : Prop := ∀ c ∈ t.head?, isSpace c = false

theorem spaces_nil : Spaces [] := nofun

theorem Spaces.append {b t : Text} (hb : Spaces b) (ht : Spaces t) : Spaces (b ++ t) :=
  List.forall_mem_append.2 ⟨hb, ht⟩

theorem skipSpace_eq (t : Text) : skipSpace t = t.dropWhile isSpace := rfl

theorem skipSpace_append (spaces : Spaces b) (t : Text) : skipSpace (b ++ t) = skipSpace t := by
  rw [skipSpace_eq, skipSpace_eq, List.dropWhile_append_of_pos spaces]

theorem NoSpace.skipSpace_eq (h : NoSpace t) : skipSpace t = t := by
  cases t with
  | nil => rfl
  | cons c t =>
    have other : ¬ isSpace c = true := by simp [h c rfl]
    rw [Json.skipSpace_eq, List.dropWhile_cons_of_neg other]

theorem Spaces.skipSpace_eq (h : Spaces t) : skipSpace t = [] := by
  rw [← List.append_nil t, skipSpace_append h]
  rfl

theorem noSpace_skipSpace (t : Text) : NoSpace (skipSpace t) := by
  intro c hc
  have head := List.head?_dropWhile_not isSpace t
  rw [skipSpace_eq] at hc
  rw [Option.mem_def.1 hc] at head
  simpa using head

theorem exists_skipSpace (t : Text) : ∃ b, Spaces b ∧ t = b ++ skipSpace t :=
  ⟨t.takeWhile isSpace, fun _ => List.mem_takeWhile_imp, List.takeWhile_append_dropWhile.symm⟩

theorem not_isNumeralChar_of_isSpace {c : Char} (h : isSpace c = true) :
    isNumeralChar c = false := by
  simp only [isSpace, Bool.or_eq_true, decide_eq_true_eq] at h
  rcases h with ((rfl | rfl) | rfl) | rfl <;> rfl

/-- Blanks do not go on a numeral. -/
theorem stops_append (spaces : Spaces b) (stop : Stops t) : Stops (b ++ t) := by
  cases b with
  | nil => exact stop
  | cons c b => exact stops_cons (not_isNumeralChar_of_isSpace (spaces c List.mem_cons_self)) _

/-! ### Phrases -/

/-- A value, with blanks around it or without, or a part of a container that is not empty. -/
inductive Phrase where
  | value (v : Json)
  | padded (v : Json)
  | items (vs : List Json)
  | member (m : Text × Json)
  | members (ms : List (Text × Json))

/-- The values of a phrase meet a condition. -/
def Phrase.All (P : Json → Prop) : Phrase → Prop
  | .value v | .padded v => P v
  | .items vs => ∀ v ∈ vs, P v
  | .member m => P m.2
  | .members ms => ∀ m ∈ ms, P m.2

/-- The text `t` is a way to write a phrase that nests at most `d` containers. -/
inductive Spells : (d : Nat) → Phrase → (t : Text) → Prop
  | nullLiteral {d : Nat} : Spells d (.value .null) ['n', 'u', 'l', 'l']
  | trueLiteral {d : Nat} : Spells d (.value (.bool true)) ['t', 'r', 'u', 'e']
  | falseLiteral {d : Nat} : Spells d (.value (.bool false)) ['f', 'a', 'l', 's', 'e']
  | number {d : Nat} {n : Number} {w : Text} (text : NumeralText w n) :
      Spells d (.value (.number n)) w
  | string {d : Nat} {s w : Text} (text : StringText w s) :
      Spells d (.value (.string s)) ('"' :: w ++ ['"'])
  | noItem {d : Nat} {b : Text} (spaces : Spaces b) :
      Spells (d + 1) (.value (.array [])) ('[' :: b ++ [']'])
  | array {d : Nat} {vs : List Json} {w : Text} (inner : Spells d (.items vs) w) :
      Spells (d + 1) (.value (.array vs)) ('[' :: w ++ [']'])
  | noMember {d : Nat} {b : Text} (spaces : Spaces b) :
      Spells (d + 1) (.value (.object [])) ('\x7b' :: b ++ ['\x7d'])
  | object {d : Nat} {ms : List (Text × Json)} {w : Text} (inner : Spells d (.members ms) w) :
      Spells (d + 1) (.value (ofMembers ms)) ('\x7b' :: w ++ ['\x7d'])
  | padded {d : Nat} {v : Json} {b w b' : Text} (before : Spaces b) (value : Spells d (.value v) w)
      (after : Spaces b') : Spells d (.padded v) (b ++ w ++ b')
  | lastItem {d : Nat} {v : Json} {w : Text} (value : Spells d (.padded v) w) :
      Spells d (.items [v]) w
  | items {d : Nat} {v : Json} {vs : List Json} {w ws : Text} (value : Spells d (.padded v) w)
      (rest : Spells d (.items vs) ws) : Spells d (.items (v :: vs)) (w ++ ',' :: ws)
  | member {d : Nat} {n : Text} {v : Json} {b w b' u : Text} (before : Spaces b)
      (name : StringText w n) (after : Spaces b') (value : Spells d (.padded v) u) :
      Spells d (.member (n, v)) (b ++ '"' :: w ++ '"' :: b' ++ ':' :: u)
  | lastMember {d : Nat} {m : Text × Json} {w : Text} (member : Spells d (.member m) w) :
      Spells d (.members [m]) w
  | members {d : Nat} {m : Text × Json} {ms : List (Text × Json)} {w ws : Text}
      (member : Spells d (.member m) w) (rest : Spells d (.members ms) ws) :
      Spells d (.members (m :: ms)) (w ++ ',' :: ws)

/-- The values that can be written are ordered. -/
theorem Spells.ordered (h : Spells d phrase t) : phrase.All Ordered := by
  induction h with
  | nullLiteral | trueLiteral | falseLiteral | number _ | string _ => exact .scalar rfl
  | noItem _ => exact .array nofun
  | array _ ih => exact .array ih
  | noMember _ => exact .object .nil nofun
  | object _ ih => exact ordered_ofMembers ih
  | padded _ _ _ ih => exact ih
  | lastItem _ ih => exact List.forall_mem_singleton.2 ih
  | items _ _ first rest => exact List.forall_mem_cons.2 ⟨first, rest⟩
  | member _ _ _ _ ih => exact ih
  | lastMember _ ih => exact List.forall_mem_singleton.2 ih
  | members _ _ first rest => exact List.forall_mem_cons.2 ⟨first, rest⟩

theorem Spells.numeralText {n : Number} (h : Spells d (.value (.number n)) t) :
    NumeralText t n := by
  cases h with
  | number text => exact text

/-! ### Beginnings -/

/-- A character that a value can begin with. -/
def Opens (c : Char) : Prop :=
  c = 'n' ∨ c = 't' ∨ c = 'f' ∨ c = '"' ∨ c = '[' ∨ c = '\x7b' ∨ c.isDigit = true ∨ c = '-'

theorem Opens.not_space {c : Char} (h : Opens c) : isSpace c = false := by
  rcases h with rfl | rfl | rfl | rfl | rfl | rfl | digit | rfl
  case inr.inr.inr.inr.inr.inr.inl =>
    refine Bool.eq_false_iff.2 fun space => ?_
    simp only [isSpace, Bool.or_eq_true, decide_eq_true_eq] at space
    rcases space with ((rfl | rfl) | rfl) | rfl <;> exact absurd digit (by decide)
  all_goals rfl

theorem Opens.ne_bracket {c : Char} (h : Opens c) : c ≠ ']' := by
  rintro rfl
  exact absurd h (by unfold Opens; decide)

theorem Spells.start_value (h : Spells d (.value v) t) : ∃ c u, t = c :: u ∧ Opens c := by
  unfold Opens
  cases h with
  | number text =>
    obtain ⟨c, head, first⟩ := text.head
    cases t with
    | nil => cases head
    | cons c' u =>
      obtain rfl := Option.some.inj head
      exact ⟨c', u, rfl, by simp [first]⟩
  | _ => exact ⟨_, _, rfl, by simp⟩

theorem Spells.start_padded (h : Spells d (.padded v) t) :
    ∃ b c u, Spaces b ∧ t = b ++ c :: u ∧ Opens c := by
  cases h with
  | @padded _ _ b w b' before value _ =>
    obtain ⟨c, u, rfl, first⟩ := value.start_value
    exact ⟨b, c, u ++ b', before, by simp, first⟩

theorem Spells.start_items {vs : List Json} (h : Spells d (.items vs) t) :
    ∃ b c u, Spaces b ∧ t = b ++ c :: u ∧ Opens c := by
  cases h with
  | lastItem value => exact value.start_padded
  | @items _ _ _ _ ws value _ =>
    obtain ⟨b, c, u, spaces, rfl, first⟩ := value.start_padded
    exact ⟨b, c, u ++ ',' :: ws, spaces, by simp, first⟩

theorem Spells.start_member {m : Text × Json} (h : Spells d (.member m) t) :
    ∃ b u, Spaces b ∧ t = b ++ '"' :: u := by
  cases h with
  | @member _ _ _ b w b' u before _ _ _ =>
    exact ⟨b, w ++ '"' :: b' ++ ':' :: u, before, by simp⟩

theorem Spells.start_members {ms : List (Text × Json)} (h : Spells d (.members ms) t) :
    ∃ b u, Spaces b ∧ t = b ++ '"' :: u := by
  cases h with
  | lastMember member => exact member.start_member
  | @members _ _ _ _ ws member _ =>
    obtain ⟨b, u, spaces, rfl⟩ := member.start_member
    exact ⟨b, u ++ ',' :: ws, spaces, by simp⟩

/-! ### Blanks around -/

theorem Spells.bare (h : Spells d (.value v) w) : Spells d (.padded v) w := by
  have text := Spells.padded spaces_nil h spaces_nil
  rwa [List.nil_append, List.append_nil] at text

theorem Spells.blanks_padded (spaces : Spaces b) (h : Spells d (.padded v) t) :
    Spells d (.padded v) (b ++ t) := by
  cases h with
  | padded before value after =>
    have text := Spells.padded (spaces.append before) value after
    simp only [List.append_assoc] at text ⊢
    exact text

theorem Spells.blanks_items {vs : List Json} (spaces : Spaces b) (h : Spells d (.items vs) t) :
    Spells d (.items vs) (b ++ t) := by
  cases h with
  | lastItem value => exact .lastItem (value.blanks_padded spaces)
  | items value rest =>
    rw [← List.append_assoc]
    exact .items (value.blanks_padded spaces) rest

theorem Spells.blanks_member {m : Text × Json} (spaces : Spaces b) (h : Spells d (.member m) t) :
    Spells d (.member m) (b ++ t) := by
  cases h with
  | member before name after value =>
    have text := Spells.member (spaces.append before) name after value
    simp only [List.append_assoc] at text ⊢
    exact text

theorem Spells.blanks_members {ms : List (Text × Json)} (spaces : Spaces b)
    (h : Spells d (.members ms) t) : Spells d (.members ms) (b ++ t) := by
  cases h with
  | lastMember member => exact .lastMember (member.blanks_member spaces)
  | members member rest =>
    rw [← List.append_assoc]
    exact .members (member.blanks_member spaces) rest

end SecretEnv.Json

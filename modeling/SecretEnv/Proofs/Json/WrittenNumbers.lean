import SecretEnv.Json.Printer
import SecretEnv.Proofs.Json.Numerals
import SecretEnv.Proofs.Text.Decimal

/-!
# Numbers as they are written

* `isNumeralChar_of_mem_render`: a number is written in characters of numerals;
* `fits_of_numeral?`: an integer that is read fits 64 bits;
* `numeralText_integer`: such an integer is read back from its decimal text.

Nothing is said of doubles: a double is written with the fewest digits that are nearest to it,
and the reader, which rounds twice, can make another number of them.
-/

namespace SecretEnv.Json

variable {t r : Text} {k : Int} {n : Number}

/-! ### Characters -/

theorem isNumeralChar_of_mem_decimal {i : Nat} {c : Char} (h : c ∈ Text.decimal i) :
    isNumeralChar c = true :=
  isNumeralChar_of_isDigit (Text.isDigit_of_mem_decimal h)

theorem isNumeralChar_of_mem_zeros {i : Nat} {c : Char} (h : c ∈ List.replicate i '0') :
    isNumeralChar c = true :=
  List.eq_of_mem_replicate h ▸ rfl

theorem isNumeralChar_of_mem_renderDigits {digits : Text}
    (h : ∀ c ∈ digits, isNumeralChar c = true) (lead : Int) :
    ∀ c ∈ Binary64.renderDigits digits lead, isNumeralChar c = true := by
  have zeros : ∀ n, ∀ c ∈ List.replicate n '0', isNumeralChar c = true :=
    fun _ _ => isNumeralChar_of_mem_zeros
  have first : ∀ n, ∀ c ∈ digits.take n, isNumeralChar c = true :=
    fun _ c hc => h c (List.mem_of_mem_take hc)
  have last : ∀ n, ∀ c ∈ digits.drop n, isNumeralChar c = true :=
    fun _ c hc => h c (List.mem_of_mem_drop hc)
  have power : ∀ c ∈ Text.decimal lead.natAbs, isNumeralChar c = true :=
    fun _ => isNumeralChar_of_mem_decimal
  unfold Binary64.renderDigits
  dsimp only
  split_ifs <;>
    simp only [List.forall_mem_append, List.forall_mem_cons, List.append_nil, List.not_mem_nil,
      false_imp_iff, implies_true, and_true]
  · exact ⟨⟨⟨rfl, rfl⟩, zeros _⟩, h⟩
  · exact ⟨⟨h, zeros _⟩, rfl, rfl⟩
  · exact ⟨first _, rfl, last _⟩
  · exact ⟨⟨first _, rfl, rfl⟩, power⟩
  · exact ⟨⟨first _, rfl, rfl⟩, power⟩
  · exact ⟨⟨⟨first _, rfl, last _⟩, rfl, rfl⟩, power⟩
  · exact ⟨⟨⟨first _, rfl, last _⟩, rfl, rfl⟩, power⟩

theorem isNumeralChar_of_mem_double {x : Binary64} :
    ∀ c ∈ x.render, isNumeralChar c = true := by
  have sign : ∀ c ∈ if x.negative then ['-'] else [], isNumeralChar c = true := by
    split_ifs
    · exact List.forall_mem_singleton.2 rfl
    · nofun
  unfold Binary64.render
  dsimp only
  by_cases zero : x.units = 0
  · rw [if_pos zero]
    exact List.forall_mem_append.2 ⟨sign, List.forall_mem_cons.2 ⟨rfl,
      List.forall_mem_cons.2 ⟨rfl, List.forall_mem_singleton.2 rfl⟩⟩⟩
  · rw [if_neg zero]
    refine List.forall_mem_append.2 ⟨sign, isNumeralChar_of_mem_renderDigits (fun c hc => ?_) _⟩
    have kept := (List.dropWhile_suffix _).mem (List.mem_reverse.1 hc)
    exact isNumeralChar_of_mem_decimal (List.mem_reverse.1 kept)

theorem isNumeralChar_of_mem_render {c : Char} (h : c ∈ n.render) : isNumeralChar c = true := by
  cases n with
  | double x => exact isNumeralChar_of_mem_double c h
  | integer k =>
    rcases List.mem_append.1 h with sign | digit
    · split_ifs at sign
      · exact List.mem_singleton.1 sign ▸ rfl
      · cases sign
    · exact isNumeralChar_of_mem_decimal digit

/-! ### Integers that are read -/

/-- An integer that is signed or unsigned with 64 bits. -/
def Fits (k : Int) : Prop := -signedLimit ≤ k ∧ k < wordLimit

theorem absorb_lt {s : Nat} (small : s < wordLimit) (ds : Text) :
    (absorb s ds).1 < wordLimit := by
  induction ds generalizing s with
  | nil => exact small
  | cons d ds ih =>
    unfold absorb
    split_ifs with more
    · exact ih more
    · exact small

theorem double?_ne_integer {negative : Bool} {s : Nat} {e : Int} :
    double? negative s e ≠ some (.integer k) := by
  intro h
  obtain ⟨x, -, e⟩ := Option.map_eq_some_iff.1 h
  cases e

theorem fits_of_integer? {negative : Bool} {digits : Text}
    (h : integer? negative digits = some (.integer k)) : Fits k := by
  have small := absorb_lt (show 0 < wordLimit by decide) digits
  unfold integer? at h
  dsimp only at h
  split_ifs at h with long positive least
  · exact absurd h double?_ne_integer
  · obtain rfl := Number.integer.inj (Option.some.inj h)
    exact ⟨by omega, Int.ofNat_lt.2 small⟩
  · obtain rfl := Number.integer.inj (Option.some.inj h)
    exact ⟨by omega, by omega⟩
  · exact absurd h double?_ne_integer

theorem fits_of_scaled? {plain : Option Number} {scaledBy : Int → Option Number}
    (whole : plain = some (.integer k) → Fits k) (double : ∀ e, scaledBy e ≠ some (.integer k))
    (h : scaled? plain scaledBy t = some (.integer k, r)) : Fits k := by
  have never (u : Text) : ((exponent? u).bind fun power =>
      (scaledBy power.1).map (·, power.2)) ≠ some (.integer k, r) := by
    intro h
    obtain ⟨power, -, value⟩ := Option.bind_eq_some_iff.1 h
    obtain ⟨m, number, e⟩ := Option.map_eq_some_iff.1 value
    obtain ⟨rfl, -⟩ := Prod.mk.inj e
    exact double _ number
  unfold scaled? at h
  split at h
  · exact absurd h (never _)
  · exact absurd h (never _)
  · obtain ⟨m, number, e⟩ := Option.map_eq_some_iff.1 h
    obtain ⟨rfl, -⟩ := Prod.mk.inj e
    exact whole number

theorem fits_of_unsignedNumeral? {negative : Bool}
    (h : unsignedNumeral? negative t = some (.integer k, r)) : Fits k := by
  rw [unsignedNumeral?_eq] at h
  split_ifs at h with bad
  unfold afterWhole? at h
  split at h
  · unfold afterPoint? at h
    split_ifs at h with missing
    exact fits_of_scaled? (fun e => absurd e double?_ne_integer)
      (fun _ => double?_ne_integer) h
  · exact fits_of_scaled? fits_of_integer? (fun _ => double?_ne_integer) h

theorem fits_of_numeral? (h : numeral? t = some (.integer k, r)) : Fits k := by
  unfold numeral? at h
  split at h
  · exact fits_of_unsignedNumeral? h
  · exact fits_of_unsignedNumeral? h

theorem NumeralText.fits (h : NumeralText t (.integer k)) : Fits k :=
  fits_of_numeral? (h.read [] stops_nil)

/-! ### Integers that are written -/

theorem le_ofDigitChars (ds : Text) (s : Nat) : s ≤ Nat.ofDigitChars 10 ds s := by
  induction ds generalizing s with
  | nil => exact Nat.le_refl s
  | cons d ds ih =>
    rw [Nat.ofDigitChars_cons]
    have first := ih (10 * s + (d.toNat - '0'.toNat))
    omega

/-- All digits are absorbed if their value fits 64 bits. -/
theorem absorb_eq (ds : Text) {s : Nat} (small : Nat.ofDigitChars 10 ds s < wordLimit) :
    absorb s ds = (Nat.ofDigitChars 10 ds s, []) := by
  induction ds generalizing s with
  | nil => rfl
  | cons d ds ih =>
    have value : s * 10 + digitValue d = 10 * s + (d.toNat - '0'.toNat) := by
      rw [Nat.mul_comm]
      rfl
    rw [Nat.ofDigitChars_cons] at small ⊢
    have room := Nat.lt_of_le_of_lt (le_ofDigitChars ds _) small
    rw [absorb, value, if_pos room]
    exact ih small

theorem absorb_decimal {i : Nat} (small : i < wordLimit) :
    absorb 0 (Text.decimal i) = (i, []) := by
  have value : Nat.ofDigitChars 10 (Text.decimal i) 0 = i := Nat.ofDigitChars_ten_toDigits
  rw [absorb_eq _ (by rwa [value]), value]

theorem not_malformed_decimal (i : Nat) : ¬ Malformed (Text.decimal i) := by
  rintro (none | ⟨zero, long⟩)
  · exact Text.decimal_ne_nil i none
  · obtain rfl := Text.eq_zero_of_head?_decimal zero
    exact absurd long (by decide)

theorem unsignedNumeral?_decimal (negative : Bool) (i : Nat) {r : Text} (stop : Stops r) :
    unsignedNumeral? negative (Text.decimal i ++ r) =
      (integer? negative (Text.decimal i)).map (·, r) := by
  have digits : ∀ c ∈ Text.decimal i, c.isDigit = true := fun _ => Text.isDigit_of_mem_decimal
  rw [unsignedNumeral?_eq, spanDigits_append digits stop.noDigit,
    if_neg (not_malformed_decimal i), afterWhole?_of_no_point _ _ fun c hc => (stop c hc).2.1,
    scaled?_of_stops _ _ stop]

theorem exists_head?_decimal (i : Nat) (r : Text) :
    ∃ c ∈ (Text.decimal i ++ r).head?, c.isDigit = true := by
  obtain ⟨d, ds, e⟩ := List.exists_cons_of_ne_nil (Text.decimal_ne_nil i)
  refine ⟨d, by rw [e]; rfl, Text.isDigit_of_mem_decimal (n := i) ?_⟩
  rw [e]
  exact List.mem_cons_self

/-- An integer that fits 64 bits is read back from its decimal text. -/
theorem numeralText_integer (fits : Fits k) :
    NumeralText (Number.render (.integer k)) (.integer k) := by
  obtain ⟨least, greatest⟩ := fits
  have chars : ∀ c ∈ Number.render (.integer k), isNumeralChar c = true :=
    fun _ => isNumeralChar_of_mem_render
  by_cases negative : k < 0
  · have text : Number.render (.integer k) = '-' :: Text.decimal k.natAbs :=
      congrArg (· ++ Text.decimal k.natAbs) (if_pos negative)
    -- the least integer has a greater absolute value than the greatest signed word
    have small : k.natAbs ≤ signedLimit := by omega
    have word : k.natAbs < wordLimit := Nat.lt_of_le_of_lt small (by decide)
    have value : integer? true (Text.decimal k.natAbs) = some (.integer k) := by
      have positive : 0 < k.natAbs := by omega
      have opposite : -(k.natAbs : Int) = k := by omega
      simp only [integer?, absorb_decimal word, ne_eq, not_true_eq_false, if_false, Bool.not_true,
        Bool.false_eq_true, positive, small, and_self, if_true, opposite]
    refine ⟨chars, ⟨'-', text ▸ rfl, .inr rfl⟩, fun r stop => ?_⟩
    rw [text, List.cons_append, numeral?, unsignedNumeral?_decimal true _ stop, value]
    rfl
  · have text : Number.render (.integer k) = Text.decimal k.natAbs :=
      congrArg (· ++ Text.decimal k.natAbs) (if_neg negative)
    have word : k.natAbs < wordLimit := by omega
    have value : integer? false (Text.decimal k.natAbs) = some (.integer k) := by
      have same : (k.natAbs : Int) = k := by omega
      simp only [integer?, absorb_decimal word, ne_eq, not_true_eq_false, if_false,
        Bool.not_false, if_true, same]
    obtain ⟨c, head, digit⟩ := exists_head?_decimal k.natAbs []
    rw [List.append_nil] at head
    refine ⟨chars, ⟨c, text ▸ head, .inl digit⟩, fun r stop => ?_⟩
    rw [text, numeral?_of_digit (exists_head?_decimal _ r), unsignedNumeral?_decimal false _ stop,
      value]
    rfl

end SecretEnv.Json

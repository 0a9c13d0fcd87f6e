import Mathlib.Data.List.TakeDrop
import Mathlib.Data.List.TakeWhile
import Mathlib.Tactic.SplitIfs
import SecretEnv.Json.Numeral
import SecretEnv.Text.Blank

/-!
# The texts of numbers

A numeral ends where the text cannot go on as one.

* `Json.Stops`: a text that no numeral in front of it runs into;
* `Json.NumeralText w n`: in front of every such text, `w` is read as the number `n`;
* `exists_numeralText`: whatever is read as a number is read from a numeral text.
-/

namespace SecretEnv.Json

/-- The characters of numerals. -/
def isNumeralChar (c : Char) : Bool :=
  c.isDigit || c == '-' || c == '+' || c == '.' || c == 'e' || c == 'E'

/-- A text does not begin with a digit. -/
def NoDigit (t : Text) : Prop := ∀ c ∈ t.head?, c.isDigit = false

/-- A text that no numeral in front of it runs into. -/
def Stops (t : Text) : Prop :=
  ∀ c ∈ t.head?, c.isDigit = false ∧ c ≠ '.' ∧ c ≠ 'e' ∧ c ≠ 'E'

theorem Stops.noDigit {t : Text} (h : Stops t) : NoDigit t := fun c hc => (h c hc).1

theorem stops_nil : Stops [] := nofun

theorem stops_cons {c : Char} (other : isNumeralChar c = false) (t : Text) : Stops (c :: t) := by
  intro c' hc
  obtain rfl := Option.some.inj hc
  simp only [isNumeralChar, Bool.or_eq_false_iff, beq_eq_false_iff_ne] at other
  obtain ⟨⟨⟨⟨⟨digit, -⟩, -⟩, point⟩, lower⟩, upper⟩ := other
  exact ⟨digit, point, lower, upper⟩

theorem isNumeralChar_of_isDigit {c : Char} (h : c.isDigit = true) : isNumeralChar c = true := by
  simp [isNumeralChar, h]

/-! ### Digits -/

theorem spanDigits_append {ds r : Text} (digits : ∀ c ∈ ds, c.isDigit = true) (stop : NoDigit r) :
    spanDigits (ds ++ r) = (ds, r) := by
  rw [spanDigits, List.span_eq_takeWhile_dropWhile, List.takeWhile_append_of_pos digits,
    List.dropWhile_append_of_pos digits]
  cases r with
  | nil => rw [List.takeWhile_nil, List.dropWhile_nil, List.append_nil]
  | cons c r =>
    have other : ¬ c.isDigit = true := by simp [stop c rfl]
    rw [List.takeWhile_cons_of_neg other, List.dropWhile_cons_of_neg other, List.append_nil]

theorem exists_spanDigits (t : Text) :
    ∃ ds r, t = ds ++ r ∧ (∀ c ∈ ds, c.isDigit = true) ∧ NoDigit r := by
  refine ⟨t.takeWhile Char.isDigit, t.dropWhile Char.isDigit,
    List.takeWhile_append_dropWhile.symm, fun c hc => ?_, fun c hc => ?_⟩
  · exact List.mem_takeWhile_imp hc
  · have head := List.head?_dropWhile_not Char.isDigit t
    rw [Option.mem_def.1 hc] at head
    simpa using head

/-! ### Exponents -/

variable {t r : Text} {k : Int} {n : Number}

/-- The digits of an exponent are read in front of every text that does not begin with one. -/
theorem exists_unsigned {sign : Int → Int} (h : exponent?.unsigned t sign = some (k, r)) :
    ∃ w, t = w ++ r ∧ w ≠ [] ∧ (∀ c ∈ w, c.isDigit = true) ∧
      ∀ s, NoDigit s → exponent?.unsigned (w ++ s) sign = some (k, s) := by
  obtain ⟨ds, rest, rfl, digits, stop⟩ := exists_spanDigits t
  unfold exponent?.unsigned at h
  rw [spanDigits_append digits stop] at h
  obtain ⟨value, read, e⟩ := Option.map_eq_some_iff.1 h
  obtain ⟨rfl, rfl⟩ := Prod.mk.inj e
  refine ⟨ds, rfl, ?_, digits, fun s stop => ?_⟩
  · rintro rfl
    cases read
  · unfold exponent?.unsigned
    rw [spanDigits_append digits stop, read]
    rfl

/-- So is an exponent with its sign. -/
theorem exists_exponent (h : exponent? t = some (k, r)) :
    ∃ w, t = w ++ r ∧ (∀ c ∈ w, isNumeralChar c = true) ∧
      ∀ s, NoDigit s → exponent? (w ++ s) = some (k, s) := by
  unfold exponent? at h
  split at h
  · obtain ⟨w, rfl, -, digits, read⟩ := exists_unsigned h
    refine ⟨'-' :: w, rfl, ?_, read⟩
    exact List.forall_mem_cons.2 ⟨rfl, fun c hc => isNumeralChar_of_isDigit (digits c hc)⟩
  · obtain ⟨w, rfl, -, digits, read⟩ := exists_unsigned h
    refine ⟨'+' :: w, rfl, ?_, read⟩
    exact List.forall_mem_cons.2 ⟨rfl, fun c hc => isNumeralChar_of_isDigit (digits c hc)⟩
  · obtain ⟨w, rfl, ne, digits, read⟩ := exists_unsigned h
    refine ⟨w, rfl, fun c hc => isNumeralChar_of_isDigit (digits c hc), fun s stop => ?_⟩
    obtain ⟨d, w, rfl⟩ := List.exists_cons_of_ne_nil ne
    have digit := digits d List.mem_cons_self
    rw [← read s stop]
    unfold exponent?
    split
    · next e => exact absurd ((List.cons.inj e).1 ▸ digit) (by decide)
    · next e => exact absurd ((List.cons.inj e).1 ▸ digit) (by decide)
    · rfl

/-- What may follow the digits of a numeral: an exponent, which decides the number, or nothing
more of it. -/
def scaled? (plain : Option Number) (scaledBy : Int → Option Number) :
    Text → Option (Number × Text)
  | 'e' :: t | 'E' :: t => (exponent? t).bind fun power => (scaledBy power.1).map (·, power.2)
  | t => plain.map (·, t)

theorem scaled?_of_no_letter (plain : Option Number) (scaledBy : Int → Option Number) {t : Text}
    (lower : ∀ u, t ≠ 'e' :: u) (upper : ∀ u, t ≠ 'E' :: u) :
    scaled? plain scaledBy t = plain.map (·, t) := by
  unfold scaled?
  split
  · next u => exact absurd rfl (lower u)
  · next u => exact absurd rfl (upper u)
  · rfl

theorem scaled?_of_stops (plain : Option Number) (scaledBy : Int → Option Number) {t : Text}
    (stop : Stops t) : scaled? plain scaledBy t = plain.map (·, t) := by
  refine scaled?_of_no_letter plain scaledBy ?_ ?_
  · rintro u rfl
    exact (stop 'e' rfl).2.2.1 rfl
  · rintro u rfl
    exact (stop 'E' rfl).2.2.2 rfl

/-- In front of every text that it does not run into, `w` is taken as the rest of a numeral for
the number `n`. -/
structure RestText (read : Text → Option (Number × Text)) (w : Text) (n : Number) : Prop where
  chars : ∀ c ∈ w, isNumeralChar c = true
  noDigit : ∀ s, Stops s → NoDigit (w ++ s)
  reads : ∀ s, Stops s → read (w ++ s) = some (n, s)

/-- The letter of an exponent begins such a rest. -/
theorem exists_scaled_letter {read : Text → Option (Number × Text)}
    {scaledBy : Int → Option Number} {letter : Char} (numeral : isNumeralChar letter = true)
    (other : letter.isDigit = false)
    (eq : ∀ u, read (letter :: u) =
      (exponent? u).bind fun power => (scaledBy power.1).map (·, power.2))
    (h : read (letter :: t) = some (n, r)) :
    ∃ w, t = w ++ r ∧ RestText read (letter :: w) n := by
  rw [eq] at h
  obtain ⟨⟨k, rest⟩, power, value⟩ := Option.bind_eq_some_iff.1 h
  obtain ⟨m, number, e⟩ := Option.map_eq_some_iff.1 value
  obtain ⟨rfl, rfl⟩ := Prod.mk.inj e
  obtain ⟨w, rfl, chars, read⟩ := exists_exponent power
  refine ⟨w, rfl, List.forall_mem_cons.2 ⟨numeral, chars⟩, ?_, fun s stop => ?_⟩
  · rintro s - c hc
    obtain rfl := Option.some.inj hc
    exact other
  · rw [List.cons_append, eq, read s stop.noDigit, Option.bind_some]
    simp only [number, Option.map_some]

theorem exists_scaled {plain : Option Number} {scaledBy : Int → Option Number}
    (h : scaled? plain scaledBy t = some (n, r)) :
    ∃ w, t = w ++ r ∧ RestText (scaled? plain scaledBy) w n ∧ ∀ c ∈ w.head?, c ≠ '.' := by
  by_cases lower : ∃ u, t = 'e' :: u
  · obtain ⟨u, rfl⟩ := lower
    obtain ⟨w, rfl, rest⟩ := exists_scaled_letter rfl rfl (fun _ => rfl) h
    exact ⟨'e' :: w, rfl, rest, fun c hc => Option.some.inj hc ▸ by decide⟩
  by_cases upper : ∃ u, t = 'E' :: u
  · obtain ⟨u, rfl⟩ := upper
    obtain ⟨w, rfl, rest⟩ := exists_scaled_letter rfl rfl (fun _ => rfl) h
    exact ⟨'E' :: w, rfl, rest, fun c hc => Option.some.inj hc ▸ by decide⟩
  -- without a letter the numeral ends here
  rw [scaled?_of_no_letter plain scaledBy (fun u e => lower ⟨u, e⟩) fun u e => upper ⟨u, e⟩] at h
  obtain ⟨m, rfl, e⟩ := Option.map_eq_some_iff.1 h
  obtain ⟨rfl, rfl⟩ := Prod.mk.inj e
  exact ⟨[], rfl, ⟨nofun, fun _ stop => stop.noDigit, fun _ => scaled?_of_stops _ _⟩, nofun⟩

/-! ### Numerals -/

/-- Digits that are no integer part: none, or more than one with a zero in front. -/
def Malformed (whole : Text) : Prop :=
  whole = [] ∨ (whole.head? = some '0' ∧ 1 < whole.length)

instance (whole : Text) : Decidable (Malformed whole) :=
  inferInstanceAs (Decidable (whole = [] ∨ _))

/-- The number of a numeral with a point, by what was absorbed before it, the digits behind it
and what follows them. -/
def afterPoint? (negative : Bool) (absorbed : Nat × Text) (places t : Text) :
    Option (Number × Text) :=
  if places = [] then none
  else
    let s := absorb absorbed.1 places
    let e : Int := absorbed.2.length - (places.length - s.2.length : Nat)
    scaled? (double? negative s.1 e) (fun k => double? negative s.1 (e + k)) t

/-- The number of a numeral by its digits before the point and what follows them. -/
def afterWhole? (negative : Bool) (whole : Text) : Text → Option (Number × Text)
  | '.' :: t => afterPoint? negative (absorb 0 whole) (spanDigits t).1 (spanDigits t).2
  | t => scaled? (integer? negative whole)
      (fun k => double? negative (absorb 0 whole).1 ((absorb 0 whole).2.length + k)) t

theorem afterWhole?_of_no_point (negative : Bool) (whole : Text) {t : Text}
    (other : ∀ c ∈ t.head?, c ≠ '.') :
    afterWhole? negative whole t = scaled? (integer? negative whole)
      (fun k => double? negative (absorb 0 whole).1 ((absorb 0 whole).2.length + k)) t := by
  unfold afterWhole?
  split
  · exact absurd rfl (other '.' rfl)
  · rfl

theorem unsignedNumeral?_eq (negative : Bool) (t : Text) :
    unsignedNumeral? negative t =
      if Malformed (spanDigits t).1 then none
      else afterWhole? negative (spanDigits t).1 (spanDigits t).2 := by
  unfold unsignedNumeral?
  obtain ⟨whole, rest⟩ := spanDigits t
  by_cases bad : Malformed whole
  · rw [if_pos bad]
    exact if_pos bad
  · rw [if_neg bad]
    refine (if_neg bad).trans ?_
    dsimp only
    -- a point, one of the letters of an exponent, or neither
    split
    · next u =>
      show _ = afterPoint? negative (absorb 0 whole) (spanDigits u).1 (spanDigits u).2
      unfold afterPoint?
      split_ifs with missing
      · rfl
      · dsimp only
        split
        · next u e => rw [e]; rfl
        · next u e => rw [e]; rfl
        · next lower upper => exact (scaled?_of_no_letter _ _ lower upper).symm
    · rfl
    · rfl
    · next point lower upper =>
      rw [afterWhole?_of_no_point, scaled?_of_no_letter _ _ lower upper]
      rintro c hc rfl
      cases rest with
      | nil => cases hc
      | cons d u => exact point u (by rw [Option.some.inj hc])

theorem exists_afterPoint {negative : Bool} {absorbed : Nat × Text} {places : Text}
    (h : afterPoint? negative absorbed places t = some (n, r)) :
    ∃ w, t = w ++ r ∧ RestText (afterPoint? negative absorbed places) w n := by
  unfold afterPoint? at h
  split_ifs at h with missing
  obtain ⟨w, e, rest, -⟩ := exists_scaled h
  refine ⟨w, e, rest.chars, rest.noDigit, fun s stop => ?_⟩
  rw [afterPoint?, if_neg missing]
  exact rest.reads s stop

theorem exists_afterWhole {negative : Bool} {whole : Text}
    (h : afterWhole? negative whole t = some (n, r)) :
    ∃ w, t = w ++ r ∧ RestText (afterWhole? negative whole) w n := by
  by_cases point : ∃ u, t = '.' :: u
  · obtain ⟨u, rfl⟩ := point
    obtain ⟨places, rest, rfl, digits, stop⟩ := exists_spanDigits u
    rw [afterWhole?, spanDigits_append digits stop] at h
    obtain ⟨w, rfl, rest⟩ := exists_afterPoint h
    refine ⟨'.' :: (places ++ w), by simp, ?_, ?_, fun s stop => ?_⟩
    · refine List.forall_mem_cons.2 ⟨rfl, List.forall_mem_append.2 ⟨fun c hc => ?_, rest.chars⟩⟩
      exact isNumeralChar_of_isDigit (digits c hc)
    · rintro s - c hc
      obtain rfl := Option.some.inj hc
      rfl
    · rw [List.cons_append, List.append_assoc, afterWhole?,
        spanDigits_append digits (rest.noDigit s stop)]
      exact rest.reads s stop
  · have other : ∀ c ∈ t.head?, c ≠ '.' := by
      rintro c hc rfl
      obtain ⟨u, e⟩ := List.head?_eq_some_iff.1 hc
      exact point ⟨u, e⟩
    rw [afterWhole?_of_no_point negative whole other] at h
    obtain ⟨w, e, rest, head⟩ := exists_scaled h
    refine ⟨w, e, rest.chars, rest.noDigit, fun s stop => ?_⟩
    rw [afterWhole?_of_no_point, rest.reads s stop]
    cases w with
    | nil => exact fun c hc => (stop c hc).2.1
    | cons d w => exact head

/-- What was read as a number is a numeral in front of the rest. It is read as the same number
in front of every text that it does not run into. -/
theorem exists_unsignedNumeral {negative : Bool}
    (h : unsignedNumeral? negative t = some (n, r)) :
    ∃ w, t = w ++ r ∧ (∀ c ∈ w, isNumeralChar c = true) ∧ (∃ c ∈ w.head?, c.isDigit = true) ∧
      ∀ s, Stops s → unsignedNumeral? negative (w ++ s) = some (n, s) := by
  obtain ⟨whole, rest, rfl, digits, stop⟩ := exists_spanDigits t
  rw [unsignedNumeral?_eq, spanDigits_append digits stop] at h
  split_ifs at h with bad
  obtain ⟨w, rfl, rest⟩ := exists_afterWhole h
  refine ⟨whole ++ w, (List.append_assoc whole w r).symm, ?_, ?_, fun s stop => ?_⟩
  · refine List.forall_mem_append.2 ⟨fun c hc => ?_, rest.chars⟩
    exact isNumeralChar_of_isDigit (digits c hc)
  · obtain ⟨d, ds, rfl⟩ := List.exists_cons_of_ne_nil fun e => bad (.inl e)
    exact ⟨d, rfl, digits d List.mem_cons_self⟩
  · rw [List.append_assoc, unsignedNumeral?_eq, spanDigits_append digits (rest.noDigit s stop),
      if_neg bad]
    exact rest.reads s stop

/-- In front of every text that it does not run into, `w` is read as the number `n`. -/
structure NumeralText (w : Text) (n : Number) : Prop where
  chars : ∀ c ∈ w, isNumeralChar c = true
  head : ∃ c ∈ w.head?, c.isDigit = true ∨ c = '-'
  read : ∀ r, Stops r → numeral? (w ++ r) = some (n, r)

theorem numeral?_of_digit {t : Text} (digit : ∃ c ∈ t.head?, c.isDigit = true) :
    numeral? t = unsignedNumeral? false t := by
  obtain ⟨c, hc, digit⟩ := digit
  unfold numeral?
  split
  · obtain rfl := Option.some.inj hc
    exact absurd digit (by decide)
  · rfl

/-- Whatever is read as a number is read from a numeral text. -/
theorem exists_numeralText (h : numeral? t = some (n, r)) :
    ∃ w, t = w ++ r ∧ NumeralText w n := by
  unfold numeral? at h
  split at h
  · obtain ⟨w, rfl, chars, -, read⟩ := exists_unsignedNumeral h
    exact ⟨'-' :: w, rfl, List.forall_mem_cons.2 ⟨rfl, chars⟩, ⟨'-', rfl, .inr rfl⟩, read⟩
  · obtain ⟨w, rfl, chars, ⟨c, hc, digit⟩, read⟩ := exists_unsignedNumeral h
    refine ⟨w, rfl, chars, ⟨c, hc, .inl digit⟩, fun s stop => ?_⟩
    rw [numeral?_of_digit ⟨c, ?_, digit⟩, read s stop]
    cases w with
    | nil => cases hc
    | cons d w => exact hc

end SecretEnv.Json

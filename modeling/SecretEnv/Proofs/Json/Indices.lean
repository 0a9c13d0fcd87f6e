import SecretEnv.Json.Path
import SecretEnv.Proofs.Text.Decimal

/-!
# Indices in paths

What a segment says to an array.

* `Index`: an item counted from the front, the last item, or an item counted from the end;
  `Index.place?_eq_some_iff`: which place in an array that is;
* `Index.Written`: the grammar of indices, which are digits, a minus sign, or a minus sign and
  digits;
* `Index.Read`: what is read as an index, where a numeral has to fit a machine word and may have
  a sign of its own;
* `Answers`: an array answers a segment as a grammar of indices says;
* `answers_written_iff`: it always does as `Read` says, and so as `Written` says exactly on
  segments without such a sign and without a numeral that is too long.
-/

namespace SecretEnv.Json

open Text (Numeral)

/-- What an index means. -/
inductive Index where
  /-- An item counted from the front. -/
  | front (n : Nat)
  /-- The last item. -/
  | last
  /-- An item counted from the end, which is the first one there. -/
  | back (n : Int)
  deriving DecidableEq

namespace Index

/-- The place that an index names among items of a given number. -/
def place? (length : Nat) : Index → Option Nat
  | front n => if n < length then some n else none
  | last => if 0 < length then some (length - 1) else none
  | back n => if 0 < n ∧ n ≤ length then some (length - n.toNat) else none

/-- An index names a place among items of a given number. A place from the end is counted without
subtraction, so nothing is cut off at zero. -/
def Names (length i : Nat) : Index → Prop
  | front n => i = n
  | last => i + 1 = length
  | back n => i + n = (length : Int)

/-- An index in writing. -/
inductive Written : Text → Index → Prop
  | front {t : Text} {n : Nat} (digits : Numeral t n) : Written t (front n)
  | last : Written ['-'] last
  | back {t : Text} {n : Nat} (digits : Numeral t n) : Written ('-' :: t) (back n)

/-- An index as it is read: the numeral of an unsigned or, behind a minus sign, of a signed
word of 64 bits. -/
inductive Read : Text → Index → Prop
  | front {t : Text} {n : Nat} (digits : Numeral t n) (fits : n < wordLimit) : Read t (front n)
  | plus {t : Text} {n : Nat} (digits : Numeral t n) (fits : n < wordLimit) :
      Read ('+' :: t) (front n)
  | last : Read ['-'] last
  | back {t : Text} {n : Nat} (digits : Numeral t n) (fits : n < signedLimit) :
      Read ('-' :: t) (back n)
  | minusPlus {t : Text} {n : Nat} (digits : Numeral t n) (fits : n < signedLimit) :
      Read ('-' :: '+' :: t) (back n)
  | minusMinus {t : Text} {n : Nat} (digits : Numeral t n) (fits : n ≤ signedLimit) :
      Read ('-' :: '-' :: t) (back (-n))

end Index

/-! ### Reading an index -/

/-- The index that a segment is read as. -/
def index? : Text → Option Index
  | ['-'] => some .last
  | '-' :: t => (signedIndex? t).map .back
  | t => (unsignedIndex? t).map .front

theorem index?_minus {t : Text} (more : t ≠ []) :
    index? ('-' :: t) = (signedIndex? t).map .back := by
  cases t with
  | nil => exact absurd rfl more
  | cons => rfl

theorem index?_of_no_minus {t : Text} (other : ∀ u, t ≠ '-' :: u) :
    index? t = (unsignedIndex? t).map .front := by
  unfold index?
  split
  · next e => exact absurd rfl (other [])
  · next u _ => exact absurd rfl (other u)
  · rfl

/-- The place in an array is that of the index that is read. -/
theorem arrayIndex_eq (segment : Text) (length position : Nat) :
    arrayIndex segment length position =
      match index? segment with
      | none => .error (.invalidIndex segment position)
      | some x =>
        match x.place? length with
        | none => .error (.indexOutOfBounds segment length position)
        | some i => .ok i := by
  unfold arrayIndex
  split
  · by_cases empty : length = 0
    · simp [index?, Index.place?, empty]
    · simp [index?, Index.place?, empty, Nat.pos_of_ne_zero empty]
  · next t more =>
    rw [index?_minus more]
    cases signedIndex? t with
    | none => rfl
    | some n => by_cases inside : 0 < n ∧ n ≤ length <;> simp [Index.place?, inside]
  · next other =>
    rw [index?_of_no_minus other]
    cases unsignedIndex? segment with
    | none => rfl
    | some n => by_cases inside : n < length <;> simp [Index.place?, inside]

variable {t : Text} {n : Nat} {x y : Index}

/-- A numeral of an unsigned word is read, also with a plus sign. -/
theorem unsignedIndex?_eq_some_iff :
    unsignedIndex? t = some n ↔
      (Numeral t n ∨ ∃ u, t = '+' :: u ∧ Numeral u n) ∧ n < wordLimit := by
  unfold unsignedIndex?
  rw [Option.filter_eq_some_iff, Text.decimal?_eq_some_iff, decide_eq_true_eq]
  split
  · next u =>
    have signed : ¬ Numeral ('+' :: u) n := Numeral.not_cons rfl
    simp [signed]
  · next other =>
    have unsigned : ¬ ∃ u, t = '+' :: u ∧ Numeral u n := fun ⟨u, e, _⟩ => other u e
    simp [unsigned]

/-- A numeral of a signed word is read with either sign or without one. -/
theorem signedIndex?_eq_some_iff {k : Int} :
    signedIndex? t = some k ↔
      (∃ n : Nat, (Numeral t n ∨ ∃ u, t = '+' :: u ∧ Numeral u n) ∧ n < signedLimit ∧ n = k) ∨
        ∃ (u : Text) (n : Nat), t = '-' :: u ∧ Numeral u n ∧ n ≤ signedLimit ∧ -(n : Int) = k := by
  unfold signedIndex?
  split
  · next u =>
    have signed (n : Nat) : ¬ Numeral ('-' :: u) n := Numeral.not_cons rfl
    simp [Option.bind_eq_some_iff, Text.decimal?_eq_some_iff, signed, and_assoc]
  · next u =>
    have signed (n : Nat) : ¬ Numeral ('+' :: u) n := Numeral.not_cons rfl
    simp [Option.bind_eq_some_iff, Text.decimal?_eq_some_iff, signed, and_assoc]
  · next minus plus =>
    have no_plus (n : Nat) : ¬ ∃ u, t = '+' :: u ∧ Numeral u n := fun ⟨u, e, _⟩ => plus u e
    have no_minus : ¬ ∃ (u : Text) (n : Nat), t = '-' :: u ∧ Numeral u n ∧ n ≤ signedLimit ∧
        -(n : Int) = k := fun ⟨u, _, e, _⟩ => minus u e
    simp only [no_plus, no_minus, or_false]
    simp [Option.bind_eq_some_iff, Text.decimal?_eq_some_iff, and_assoc]

theorem index?_eq_some_iff : index? t = some x ↔ Index.Read t x := by
  constructor
  · intro h
    unfold index? at h
    -- a minus sign alone, one with more behind it, and all other segments
    split at h
    · obtain rfl := Option.some.inj h
      exact .last
    · obtain ⟨k, read, rfl⟩ := Option.map_eq_some_iff.1 h
      rcases signedIndex?_eq_some_iff.1 read with
        ⟨n, digits | ⟨u, rfl, digits⟩, fits, rfl⟩ | ⟨u, n, rfl, digits, fits, rfl⟩
      · exact .back digits fits
      · exact .minusPlus digits fits
      · exact .minusMinus digits fits
    · obtain ⟨n, read, rfl⟩ := Option.map_eq_some_iff.1 h
      obtain ⟨digits | ⟨u, rfl, digits⟩, fits⟩ := unsignedIndex?_eq_some_iff.1 read
      · exact .front digits fits
      · exact .plus digits fits
  · intro h
    cases h with
    | front digits fits =>
      have other : ∀ u, t ≠ '-' :: u := by
        rintro u rfl
        exact Numeral.not_cons rfl digits
      rw [index?_of_no_minus other, unsignedIndex?_eq_some_iff.2 ⟨.inl digits, fits⟩]
      rfl
    | plus digits fits =>
      rw [index?_of_no_minus (by simp), unsignedIndex?_eq_some_iff.2 ⟨.inr ⟨_, rfl, digits⟩, fits⟩]
      rfl
    | last => rfl
    | back digits fits =>
      rw [index?_minus digits.ne_nil,
        signedIndex?_eq_some_iff.2 (.inl ⟨_, .inl digits, fits, rfl⟩)]
      rfl
    | minusPlus digits fits =>
      rw [index?_minus (List.cons_ne_nil _ _),
        signedIndex?_eq_some_iff.2 (.inl ⟨_, .inr ⟨_, rfl, digits⟩, fits, rfl⟩)]
      rfl
    | minusMinus digits fits =>
      rw [index?_minus (List.cons_ne_nil _ _),
        signedIndex?_eq_some_iff.2 (.inr ⟨_, _, rfl, digits, fits, rfl⟩)]
      rfl

theorem Index.Read.unique (hx : Index.Read t x) (hy : Index.Read t y) : x = y :=
  Option.some.inj ((index?_eq_some_iff.2 hx).symm.trans (index?_eq_some_iff.2 hy))

/-- An index in writing is read as itself if it is read. -/
theorem Index.Written.eq_of_read (written : Index.Written t x) (read : Index.Read t y) :
    x = y := by
  cases written with
  | front digits =>
    cases read with
    | front digits' _ => rw [digits.unique digits']
    | plus | last | back | minusPlus | minusMinus => exact absurd digits (Numeral.not_cons rfl)
  | last =>
    cases read with
    | last => rfl
    | front digits => exact absurd digits (Numeral.not_cons rfl)
    | back digits => exact absurd rfl digits.ne_nil
  | back digits =>
    cases read with
    | back digits' _ => rw [digits.unique digits']
    | front digits' => exact absurd digits' (Numeral.not_cons rfl)
    | last => exact absurd rfl digits.ne_nil
    | minusPlus | minusMinus => exact absurd digits (Numeral.not_cons rfl)

/-! ### The answers of an array -/

/-- An array answers a segment as a grammar of indices says: with the item at the place that
the index names, with an error if it names none, and with another error if the segment is no
index. -/
structure Answers (grammar : Text → Index → Prop) (items : List Json) (segment : Text) : Prop where
  found : ∀ v, navigate (.array items) [segment] = .ok v ↔
    ∃ x i, grammar segment x ∧ x.place? items.length = some i ∧ items[i]? = some v
  outOfBounds : navigate (.array items) [segment] =
      .error (.indexOutOfBounds segment items.length 0) ↔
    ∃ x, grammar segment x ∧ x.place? items.length = none
  invalid : navigate (.array items) [segment] = .error (.invalidIndex segment 0) ↔
    ∀ x, ¬ grammar segment x

/-- The place of an index is the one it names, if that is inside the array. -/
theorem Index.place?_eq_some_iff {length i : Nat} :
    x.place? length = some i ↔ x.Names length i ∧ i < length := by
  cases x <;>
  · simp only [Index.place?, Index.Names, Option.ite_none_right_eq_some, Option.some.injEq]
    omega

theorem navigate_array (items : List Json) (segment : Text) :
    navigate (.array items) [segment] =
      match index? segment with
      | none => .error (.invalidIndex segment 0)
      | some x =>
        match x.place? items.length with
        | none => .error (.indexOutOfBounds segment items.length 0)
        | some i =>
          match items[i]? with
          | none => .error (.indexOutOfBounds segment items.length 0)
          | some v => .ok v := by
  unfold navigate navigateFrom step
  simp only [arrayIndex_eq, navigateFrom]
  cases index? segment with
  | none => rfl
  | some x =>
    cases h : x.place? items.length with
    | none => simp only [h]
    | some i => cases e : items[i]? <;> simp only [h, e]

variable {items : List Json} {segment : Text}

/-- An array answers by the index that is read. -/
theorem answers_read (items : List Json) (segment : Text) :
    Answers Index.Read items segment := by
  have answer := navigate_array items segment
  cases h : index? segment with
  | none =>
    have none_read (x : Index) : ¬ Index.Read segment x := by
      intro read
      rw [index?_eq_some_iff.2 read] at h
      cases h
    simp only [h] at answer
    refine ⟨fun v => ?_, ?_, ?_⟩ <;> simp [answer, none_read]
  | some x =>
    have only (y : Index) : Index.Read segment y ↔ y = x := by
      rw [← index?_eq_some_iff, h, Option.some.injEq, eq_comm]
    simp only [h] at answer
    cases place : x.place? items.length with
    | none =>
      simp only [place] at answer
      refine ⟨fun v => ?_, ?_, ?_⟩ <;> simp [answer, only, place]
    | some i =>
      have inside : i < items.length := (Index.place?_eq_some_iff.1 place).2
      have held : items[i]? = some items[i] := List.getElem?_eq_getElem inside
      simp only [place, held] at answer
      refine ⟨fun v => ?_, ?_, ?_⟩ <;> simp [answer, only, place, held]

/-- A grammar that gives no other meaning to what is read tells the answers exactly if it
gives a meaning to the same. -/
theorem answers_iff {grammar : Text → Index → Prop}
    (consistent : ∀ x y, grammar segment x → Index.Read segment y → x = y) :
    Answers grammar items segment ↔ ∀ x, grammar segment x ↔ Index.Read segment x := by
  have read := answers_read items segment
  constructor
  · intro told x
    -- the two grammars call the same segments invalid
    have meaningless : (∀ x, ¬ grammar segment x) ↔ ∀ x, ¬ Index.Read segment x :=
      told.invalid.symm.trans read.invalid
    constructor
    · intro meant
      by_contra unread
      have none_read : ∀ y, ¬ Index.Read segment y := by
        intro y hy
        exact unread (consistent x y meant hy ▸ hy)
      exact meaningless.2 none_read x meant
    · intro hx
      by_contra unmeant
      have none_meant : ∀ y, ¬ grammar segment y := by
        intro y meant
        exact unmeant (consistent y x meant hx ▸ meant)
      exact meaningless.1 none_meant x hx
  · intro same
    refine ⟨fun v => ?_, ?_, ?_⟩
    · simp only [same]
      exact read.found v
    · simp only [same]
      exact read.outOfBounds
    · simp only [same]
      exact read.invalid

/-! ### Segments that are read as they are written -/

/-- A segment in which no numeral is too long for a word and none has a sign of its own,
unless that one is too long. -/
structure ReadAsWritten (segment : Text) : Prop where
  front : ∀ n, Numeral segment n → n < wordLimit
  back : ∀ t n, segment = '-' :: t → Numeral t n → n < signedLimit
  plus : ∀ t n, segment = '+' :: t → Numeral t n → wordLimit ≤ n
  minusPlus : ∀ t n, segment = '-' :: '+' :: t → Numeral t n → signedLimit ≤ n
  minusMinus : ∀ t n, segment = '-' :: '-' :: t → Numeral t n → signedLimit < n

theorem readAsWritten_iff :
    ReadAsWritten segment ↔ ∀ x, Index.Written segment x ↔ Index.Read segment x := by
  constructor
  · intro plain x
    constructor
    · intro written
      cases written with
      | front digits => exact .front digits (plain.front _ digits)
      | last => exact .last
      | back digits => exact .back digits (plain.back _ _ rfl digits)
    · intro read
      cases read with
      | front digits => exact .front digits
      | last => exact .last
      | back digits => exact .back digits
      | plus digits fits => exact absurd (plain.plus _ _ rfl digits) (Nat.not_le.2 fits)
      | minusPlus digits fits => exact absurd (plain.minusPlus _ _ rfl digits) (Nat.not_le.2 fits)
      | minusMinus digits fits => exact absurd (plain.minusMinus _ _ rfl digits) (Nat.not_lt.2 fits)
  · intro same
    refine ⟨fun n digits => ?_, ?_, ?_, ?_, ?_⟩
    · cases (same _).1 (.front digits) with
      | front _ fits => exact fits
      | plus _ fits => exact fits
    · rintro t n rfl digits
      have read := (same _).1 (.back digits)
      -- the reading is taken apart for any index, as `-n` does not match the others
      generalize place : Index.back n = x at read
      cases read with
      | front signed => exact absurd signed (Numeral.not_cons rfl)
      | last => exact absurd rfl digits.ne_nil
      | back _ fits =>
        cases place
        exact fits
      | minusPlus => exact absurd digits (Numeral.not_cons rfl)
      | minusMinus => exact absurd digits (Numeral.not_cons rfl)
    · rintro t n rfl digits
      -- if it fitted it would be read, but no index is written with a plus sign
      refine Nat.le_of_not_lt fun fits => ?_
      cases (same _).2 (.plus digits fits) with
      | front signed => exact absurd signed (Numeral.not_cons rfl)
    · rintro t n rfl digits
      refine Nat.le_of_not_lt fun fits => ?_
      cases (same _).2 (.minusPlus digits fits) with
      | back signed => exact absurd signed (Numeral.not_cons rfl)
    · rintro t n rfl digits
      refine Nat.lt_of_not_le fun fits => ?_
      have written := (same _).2 (.minusMinus digits fits)
      generalize place : Index.back (-n) = x at written
      cases written with
      | front signed => exact absurd signed (Numeral.not_cons rfl)
      | back signed => exact absurd signed (Numeral.not_cons rfl)

/-- An array answers a segment by the index that is read there, and so by the index that is
written there exactly if the segment is read as it is written. -/
theorem answers_written_iff (items : List Json) (segment : Text) :
    Answers Index.Read items segment ∧
      (Answers Index.Written items segment ↔ ReadAsWritten segment) :=
  ⟨answers_read items segment,
    (answers_iff fun _ _ => Index.Written.eq_of_read).trans readAsWritten_iff.symm⟩

/-- A numeral beyond 64 bits is no index instead of one that is out of bounds, and numerals with
a sign of their own are indices. -/
theorem not_answers_written :
    ¬ Answers Index.Written [.null] "18446744073709551616".toList ∧
      ¬ Answers Index.Written [.null] "+0".toList ∧
      ¬ Answers Index.Written [.null] "--1".toList := by
  refine ⟨fun told => ?_, fun told => ?_, fun told => ?_⟩
  · have digits : Numeral "18446744073709551616".toList 18446744073709551616 :=
      Text.decimal?_eq_some_iff.1 (by decide)
    have answer := told.outOfBounds.2 ⟨_, .front digits, by decide⟩
    exact absurd answer (by decide)
  · obtain ⟨x, i, written, -⟩ := (told.found .null).1 (by decide)
    cases written with
    | front signed => exact absurd signed (Numeral.not_cons rfl)
  · obtain ⟨x, written, -⟩ := told.outOfBounds.1 (by decide)
    cases written with
    | front signed => exact absurd signed (Numeral.not_cons rfl)
    | back signed => exact absurd signed (Numeral.not_cons rfl)

end SecretEnv.Json

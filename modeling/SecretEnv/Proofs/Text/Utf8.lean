import Mathlib.Tactic.SplitIfs
import SecretEnv.Text.Utf8

/-!
# Written texts read back

The machine of `Utf8.decodeLossyFrom` is followed through the bytes of one
character, and from there through those of a text.

* `decodeLossyFrom_encodeChar`: the bytes of a character are read as that
  character, and leave the machine where it began;
* `decodeLossy_encode`: a written text is read back as it is;
* `mem_encodeChar_ascii`: an ASCII byte stands for itself only, so that it
  divides the bytes of a text where its character divides the text.
-/

namespace SecretEnv.Utf8

/-! ### Bytes -/

theorem toNat_byte {n : Nat} (h : n < 256) : (UInt8.ofNat n).toNat = n :=
  UInt8.toNat_ofNat_of_lt (by simpa [UInt8.size] using h)

theorem toNat_ofNat {n : Nat} (h : n.isValidChar) : (Char.ofNat n).toNat = n := by
  rw [Char.ofNat, dif_pos h]
  rfl

theorem first_ascii {n : Nat} (h : n < 0x80) : first (UInt8.ofNat n) = .char (Char.ofNat n) := by
  have e := toNat_byte (n := n) (by omega)
  simp only [first, e, if_pos h]

theorem first_two {k : Nat} (low : 2 ≤ k) (high : k < 32) :
    first (UInt8.ofNat (0xC0 + k)) = .more ⟨1, 1, 0x80, 0xBF, k⟩ := by
  have e := toNat_byte (n := 0xC0 + k) (by omega)
  simp only [first, e]
  rw [if_neg (by omega), if_neg (by omega), if_pos (by omega), Nat.add_sub_cancel_left]

/-- The first of three bytes: the range of the second excludes overlong forms
and surrogates. -/
theorem first_three {k : Nat} (h : k < 16) :
    first (UInt8.ofNat (0xE0 + k)) =
      .more ⟨1, 2, if k = 0 then 0xA0 else 0x80, if k = 13 then 0x9F else 0xBF, k⟩ := by
  have e := toNat_byte (n := 0xE0 + k) (by omega)
  simp only [first, e]
  rw [if_neg (by omega), if_neg (by omega), if_neg (by omega), if_pos (by omega),
    Nat.add_sub_cancel_left]
  simp only [Nat.add_eq_left, Nat.add_left_cancel_iff (m := k) (n := 0xE0) (k := 13)]

/-- The first of four bytes: the range of the second excludes overlong forms and
values past the last code point. -/
theorem first_four {k : Nat} (h : k < 5) :
    first (UInt8.ofNat (0xF0 + k)) =
      .more ⟨1, 3, if k = 0 then 0x90 else 0x80, if k = 4 then 0x8F else 0xBF, k⟩ := by
  have e := toNat_byte (n := 0xF0 + k) (by omega)
  simp only [first, e]
  rw [if_neg (by omega), if_neg (by omega), if_neg (by omega), if_neg (by omega),
    if_pos (by omega), Nat.add_sub_cancel_left]
  simp only [Nat.add_eq_left, Nat.add_left_cancel_iff (m := k) (n := 0xF0) (k := 4)]

/-- The last byte of a sequence completes the character of its bits. -/
theorem next_last {seen low high bits k : Nat} (from_low : low ≤ 0x80 + k)
    (to_high : 0x80 + k ≤ high) (h : k < 64) :
    Pending.next ⟨seen, 1, low, high, bits⟩ (UInt8.ofNat (0x80 + k)) =
      .char (Char.ofNat (bits * 64 + k)) := by
  have e := toNat_byte (n := 0x80 + k) (by omega)
  simp only [Pending.next, e]
  rw [if_pos ⟨from_low, to_high⟩, if_pos (Nat.le_refl 1), Nat.add_sub_cancel_left]

/-- A byte before the last adds six bits. -/
theorem next_more {seen missing low high bits k : Nat} (from_low : low ≤ 0x80 + k)
    (to_high : 0x80 + k ≤ high) (h : k < 64) :
    Pending.next ⟨seen, missing + 2, low, high, bits⟩ (UInt8.ofNat (0x80 + k)) =
      .more ⟨seen + 1, missing + 1, 0x80, 0xBF, bits * 64 + k⟩ := by
  have e := toNat_byte (n := 0x80 + k) (by omega)
  simp only [Pending.next, e]
  rw [if_pos ⟨from_low, to_high⟩, if_neg (by omega), Nat.add_sub_cancel_left]
  rfl

/-! ### One step of the machine -/

theorem decodeLossyFrom_char {b : UInt8} {c : Char} (h : first b = .char c) (bs : Bytes) :
    decodeLossyFrom none (b :: bs) = c :: decodeLossyFrom none bs := by
  simp [decodeLossyFrom, lossyStep, lossyFirst, h]

theorem decodeLossyFrom_more {b : UInt8} {p : Pending} (h : first b = .more p) (bs : Bytes) :
    decodeLossyFrom none (b :: bs) = decodeLossyFrom (some p) bs := by
  simp [decodeLossyFrom, lossyStep, lossyFirst, h]

theorem decodeLossyFrom_bad {b : UInt8} (h : first b = .bad) (bs : Bytes) :
    decodeLossyFrom none (b :: bs) = replacement :: decodeLossyFrom none bs := by
  simp [decodeLossyFrom, lossyStep, lossyFirst, h]

theorem decodeLossyFrom_next_char {p : Pending} {b : UInt8} {c : Char} (h : p.next b = .char c)
    (bs : Bytes) : decodeLossyFrom (some p) (b :: bs) = c :: decodeLossyFrom none bs := by
  simp [decodeLossyFrom, lossyStep, h]

theorem decodeLossyFrom_next_more {p q : Pending} {b : UInt8} (h : p.next b = .more q)
    (bs : Bytes) : decodeLossyFrom (some p) (b :: bs) = decodeLossyFrom (some q) bs := by
  simp [decodeLossyFrom, lossyStep, h]

/-- A byte that does not continue a sequence is read again as the first of the next one. -/
theorem decodeLossyFrom_next_bad {p : Pending} {b : UInt8} (h : p.next b = .bad) (bs : Bytes) :
    decodeLossyFrom (some p) (b :: bs) = replacement :: decodeLossyFrom none (b :: bs) := by
  simp [decodeLossyFrom, lossyStep, h]

/-! ### One character -/

/-- The code points of characters: no surrogate, and none past the last. -/
theorem toNat_valid (c : Char) : c.toNat < 0xD800 ∨ 0xDFFF < c.toNat ∧ c.toNat < 0x110000 :=
  c.valid

/-- The bytes of a character are read as that character, whatever follows. -/
theorem decodeLossyFrom_encodeChar (c : Char) (bs : Bytes) :
    decodeLossyFrom none (encodeChar c ++ bs) = c :: decodeLossyFrom none bs := by
  have valid := toNat_valid c
  have whole {n : Nat} (h : n = c.toNat) : Char.ofNat n = c := by rw [h, Char.ofNat_toNat]
  simp only [encodeChar]
  -- one case for each length of the sequence
  split_ifs with h1 h2 h3 <;> simp only [List.cons_append, List.nil_append]
  · rw [decodeLossyFrom_char (first_ascii h1), whole rfl]
  · rw [decodeLossyFrom_more (first_two (by omega) (by omega)),
      decodeLossyFrom_next_char (next_last (by omega) (by omega) (by omega)), whole (by omega)]
  · rw [decodeLossyFrom_more (first_three (by omega)),
      decodeLossyFrom_next_more
        (next_more (by split_ifs <;> omega) (by split_ifs <;> omega) (by omega)),
      decodeLossyFrom_next_char (next_last (by omega) (by omega) (by omega)), whole (by omega)]
  · rw [decodeLossyFrom_more (first_four (by omega)),
      decodeLossyFrom_next_more
        (next_more (by split_ifs <;> omega) (by split_ifs <;> omega) (by omega)),
      decodeLossyFrom_next_more (next_more (by omega) (by omega) (by omega)),
      decodeLossyFrom_next_char (next_last (by omega) (by omega) (by omega)), whole (by omega)]

/-! ### Texts -/

@[simp] theorem encode_nil : encode [] = [] := rfl

theorem encode_cons (c : Char) (t : Text) : encode (c :: t) = encodeChar c ++ encode t := rfl

@[simp] theorem encode_append (t u : Text) : encode (t ++ u) = encode t ++ encode u :=
  List.flatMap_append

theorem decodeLossyFrom_encode (t : Text) (bs : Bytes) :
    decodeLossyFrom none (encode t ++ bs) = t ++ decodeLossyFrom none bs := by
  induction t with
  | nil => rfl
  | cons c t ih =>
    rw [encode_cons, List.append_assoc, decodeLossyFrom_encodeChar, ih, List.cons_append]

@[simp] theorem decodeLossy_encode (t : Text) : decodeLossy (encode t) = t := by
  have h := decodeLossyFrom_encode t []
  rwa [List.append_nil, decodeLossyFrom, List.append_nil] at h

theorem encode_injective {t u : Text} (h : encode t = encode u) : t = u := by
  rw [← decodeLossy_encode t, h, decodeLossy_encode]

/-! ### Bytes of ASCII characters -/

/-- The byte of an ASCII character is among the bytes of that character only. -/
theorem mem_encodeChar_ascii {d : Char} (h : d.toNat < 0x80) {c : Char} :
    UInt8.ofNat d.toNat ∈ encodeChar c ↔ c = d := by
  have valid := toNat_valid c
  have ne {k : Nat} (low : 0x80 ≤ k) (high : k < 256) : UInt8.ofNat d.toNat ≠ UInt8.ofNat k := by
    intro e
    have e := congrArg UInt8.toNat e
    rw [toNat_byte (by omega), toNat_byte high] at e
    omega
  constructor
  · simp only [encodeChar]
    split_ifs with h1 h2 h3 <;>
      simp only [List.mem_cons, List.not_mem_nil, or_false]
    · intro e
      have e := congrArg UInt8.toNat e
      rw [toNat_byte (by omega), toNat_byte (by omega)] at e
      rw [← Char.ofNat_toNat c, ← e, Char.ofNat_toNat]
    · rintro (e | e) <;> exact absurd e (ne (by omega) (by omega))
    · rintro (e | e | e) <;> exact absurd e (ne (by omega) (by omega))
    · rintro (e | e | e | e) <;> exact absurd e (ne (by omega) (by omega))
  · rintro rfl
    simp [encodeChar, h]

theorem mem_encode_ascii {d : Char} (h : d.toNat < 0x80) {t : Text} :
    UInt8.ofNat d.toNat ∈ encode t ↔ d ∈ t := by
  rw [encode, List.mem_flatMap]
  constructor
  · rintro ⟨c, hc, e⟩
    exact (mem_encodeChar_ascii h).1 e ▸ hc
  · exact fun hd => ⟨d, hd, (mem_encodeChar_ascii h).2 rfl⟩

end SecretEnv.Utf8

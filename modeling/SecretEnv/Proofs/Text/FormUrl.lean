import SecretEnv.Proofs.Listing.ShellName
import SecretEnv.Proofs.Text.Parts
import SecretEnv.Proofs.Text.Utf8
import SecretEnv.Text.Blank
import SecretEnv.Text.FormUrl

/-!
# Form-encoded parameters read back

* `decode_encode`: a name or value is read back, whatever its characters;
* `isSafe_of_mem_encode`: it is written with few characters, none of them blank
  and none a separator;
* `parse_render`: so every list of parameters is read back.
-/

namespace SecretEnv.FormUrl

/-! ### One byte -/

theorem hexDigit?_digitChar : ∀ n < 16, Text.hexDigit? (Nat.digitChar n).toUpper = some n := by
  decide

theorem unescape_cons {c : Char} (plus : c ≠ '+') (percent : c ≠ '%') (t : Text) :
    unescape (c :: t) = Utf8.encodeChar c ++ unescape t := by
  rw [unescape.eq_def]
  split
  · contradiction
  · next h => exact absurd (List.cons.inj h).1 plus
  · next h => exact absurd (List.cons.inj h).1 percent
  · next h =>
    obtain ⟨rfl, rfl⟩ := List.cons.inj h
    rfl

theorem unescape_percent {a b : Char} {x y : Nat} (ha : Text.hexDigit? a = some x)
    (hb : Text.hexDigit? b = some y) (t : Text) :
    unescape ('%' :: a :: b :: t) = UInt8.ofNat (16 * x + y) :: unescape t := by
  simp only [unescape, ha, hb]

/-- The character of a plain byte. -/
theorem plain_cases {b : UInt8} (h : isPlain b = true) :
    b.toNat < 0x80 ∧ ((Char.ofNat b.toNat).isAlphanum = true ∨ Char.ofNat b.toNat = '*' ∨
      Char.ofNat b.toNat = '-' ∨ Char.ofNat b.toNat = '.' ∨ Char.ofNat b.toNat = '_') := by
  simpa [isPlain, or_assoc] using h

/-- A written byte is read back, whatever follows it. -/
theorem unescape_encodeByte (b : UInt8) (t : Text) :
    unescape (encodeByte b ++ t) = b :: unescape t := by
  have small : b.toNat < 256 := b.toNat_lt
  unfold encodeByte
  split_ifs with plain space
  · obtain ⟨ascii, letter⟩ := plain_cases plain
    have value : (Char.ofNat b.toNat).toNat = b.toNat := by
      have valid : b.toNat.isValidChar := Or.inl (by omega)
      rw [Char.ofNat, dif_pos valid]
      rfl
    have no_escape : Char.ofNat b.toNat ≠ '+' ∧ Char.ofNat b.toNat ≠ '%' := by
      constructor <;> intro e <;> rw [e] at letter <;> revert letter <;> decide
    rw [List.singleton_append, unescape_cons no_escape.1 no_escape.2, Utf8.encodeChar]
    simp [value, ascii]
  · subst space
    rfl
  · have high := hexDigit?_digitChar (b.toNat / 16) (by omega)
    have low := hexDigit?_digitChar (b.toNat % 16) (by omega)
    show unescape ('%' :: _ :: _ :: t) = b :: unescape t
    rw [unescape_percent high low, Nat.div_add_mod, UInt8.ofNat_toNat]

/-! ### Names and values -/

theorem unescape_flatMap (bs : Bytes) : unescape (bs.flatMap encodeByte) = bs := by
  induction bs with
  | nil => rfl
  | cons b bs ih => rw [List.flatMap_cons, unescape_encodeByte, ih]

@[simp] theorem decode_encode (t : Text) : decode (encode t) = t := by
  rw [decode, encode, unescape_flatMap, Utf8.decodeLossy_encode]

/-- The characters that names and values are written with. -/
def isSafe (c : Char) : Bool :=
  c.isAlphanum || c == '*' || c == '-' || c == '.' || c == '_' || c == '+' || c == '%'

theorem isSafe_of_mem_encodeByte {b : UInt8} {c : Char} (h : c ∈ encodeByte b) :
    isSafe c = true := by
  have small : b.toNat < 256 := b.toNat_lt
  have digit : ∀ n < 16, isSafe (Nat.digitChar n).toUpper = true := by decide
  unfold encodeByte at h
  split_ifs at h with plain space
  · obtain rfl := List.mem_singleton.1 h
    obtain ⟨-, letter⟩ := plain_cases plain
    rcases letter with e | e | e | e | e <;> simp [isSafe, e]
  · obtain rfl := List.mem_singleton.1 h
    rfl
  · simp only [List.mem_cons, List.not_mem_nil, or_false] at h
    rcases h with rfl | rfl | rfl
    · rfl
    · exact digit _ (by omega)
    · exact digit _ (by omega)

/-- Names and values are written with safe characters only. -/
theorem isSafe_of_mem_encode {t : Text} {c : Char} (h : c ∈ encode t) : isSafe c = true := by
  obtain ⟨b, -, hb⟩ := List.mem_flatMap.1 h
  exact isSafe_of_mem_encodeByte hb

theorem notMem_encode {c : Char} (h : isSafe c = false) (t : Text) : c ∉ encode t := by
  intro hc
  rw [isSafe_of_mem_encode hc] at h
  cases h

theorem isBlank_of_isSafe {c : Char} (h : isSafe c = true) : isBlank c = false := by
  unfold isSafe at h
  simp only [Bool.or_eq_true, beq_iff_eq] at h
  rcases h with (((((h | rfl) | rfl) | rfl) | rfl) | rfl) | rfl
  · exact isBlank_of_isWordChar (by simp [isWordChar, h])
  all_goals decide

/-! ### Parameters -/

/-- One parameter. -/
def piece (p : Text × Text) : Text := encode p.1 ++ '=' :: encode p.2

theorem render_eq (params : List (Text × Text)) :
    render params = List.intercalate ['&'] (params.map piece) := rfl

theorem notMem_piece {c : Char} (h : isSafe c = false) (ne : c ≠ '=') (p : Text × Text) :
    c ∉ piece p := by
  simp [piece, notMem_encode h, ne]

theorem isBlank_of_mem_render {params : List (Text × Text)} {c : Char} (h : c ∈ render params) :
    isBlank c = false := by
  rw [render_eq] at h
  rcases Parts.mem_of_mem_intercalate h with separator | ⟨t, ht, hc⟩
  · obtain rfl := List.mem_singleton.1 separator
    rfl
  · obtain ⟨p, -, rfl⟩ := List.mem_map.1 ht
    rcases List.mem_append.1 hc with name | value
    · exact isBlank_of_isSafe (isSafe_of_mem_encode name)
    · rcases List.mem_cons.1 value with rfl | value
      · rfl
      · exact isBlank_of_isSafe (isSafe_of_mem_encode value)

/-- A written parameter is divided at its equals sign. -/
theorem cut_piece (p : Text × Text) : Text.cut '=' (piece p) = some (encode p.1, encode p.2) :=
  Text.cut_eq_some_iff.2 ⟨rfl, notMem_encode rfl p.1⟩

/-- Written parameters are read back, each as it was and in the same order. -/
@[simp] theorem parse_render (params : List (Text × Text)) : parse (render params) = params := by
  cases params with
  | nil => rfl
  | cons p ps =>
    have pieces : (render (p :: ps)).splitOn '&' = (p :: ps).map piece := by
      rw [render_eq]
      refine List.splitOn_intercalate _ ?_ (by simp)
      intro t ht
      obtain ⟨q, -, rfl⟩ := List.mem_map.1 ht
      exact notMem_piece rfl (by decide) q
    have all : ((p :: ps).map piece).filter (· ≠ []) = (p :: ps).map piece := by
      refine List.filter_eq_self.2 fun t ht => ?_
      obtain ⟨q, -, rfl⟩ := List.mem_map.1 ht
      simp [piece]
    rw [parse, pieces, all, List.map_map]
    refine (List.map_congr_left fun q _ => ?_).trans (List.map_id _)
    simp [cut_piece]

end SecretEnv.FormUrl

import SecretEnv.CacheFile
import SecretEnv.Proofs.Document.Lines

/-!
# The codec of cache files

`CacheFile.encode` makes one line of a text, and `CacheFile.decode` takes it back.

* `decode_encode`: nothing is lost;
* `notMem_encode`: no line ends inside an encoded text;
* `trim_encode`: the encoded text loses those blanks at its ends that stand for
  themselves, which all do but the line breaks;
* `isAddress_encode` and `withoutMark_encode`: nothing else in front is hidden.
-/

namespace SecretEnv.CacheFile

/-! ### Characters -/

theorem encodeChar_of_ne {c : Char} (h : c ≠ '\\' ∧ c ≠ '\n' ∧ c ≠ '\r') : encodeChar c = [c] := by
  simp [encodeChar, h]

/-- The character of an encoded character that does not stand for itself. -/
theorem mem_encodeChar {c d : Char} (h : d ∈ encodeChar c) :
    d = c ∧ c ≠ '\n' ∧ c ≠ '\r' ∨ d = '\\' ∨ d = 'n' ∨ d = 'r' := by
  simp only [encodeChar] at h
  split_ifs at h with h1 h2 h3 <;> simp at h
  · exact .inr (.inl h)
  · exact .inr (h.imp_right .inl)
  · exact .inr (h.imp_right .inr)
  · exact .inl ⟨h, h2, h3⟩

/-! ### Texts -/

@[simp] theorem encode_nil : encode [] = [] := rfl

theorem encode_cons (c : Char) (t : Text) : encode (c :: t) = encodeChar c ++ encode t := rfl

@[simp] theorem encode_append (t u : Text) : encode (t ++ u) = encode t ++ encode u :=
  List.flatMap_append

theorem decode_cons_of_ne {c : Char} (h : c ≠ '\\') (t : Text) :
    decode (c :: t) = c :: decode t := by
  cases t <;> simp [decode, h]

/-- An encoded character is decoded, whatever follows. -/
theorem decode_encodeChar_append (c : Char) (t : Text) :
    decode (encodeChar c ++ t) = c :: decode t := by
  simp only [encodeChar]
  split_ifs with h1 h2 h3
  · simp [decode, h1]
  · simp [decode, h2]
  · simp [decode, h3]
  · exact decode_cons_of_ne h1 t

@[simp] theorem decode_encode (t : Text) : decode (encode t) = t := by
  induction t with
  | nil => rfl
  | cons c t ih => rw [encode_cons, decode_encodeChar_append, ih]

theorem notMem_encode (t : Text) : '\n' ∉ encode t ∧ '\r' ∉ encode t := by
  constructor <;>
  · intro m
    obtain ⟨c, -, m⟩ := List.mem_flatMap.1 m
    rcases mem_encodeChar m with ⟨rfl, h⟩ | h
    · simp at h
    · simp at h

/-- A character that no escape has occurs where it did. -/
theorem mem_encode_iff {d : Char} (h : d ∉ ['\\', 'n', 'r', '\n', '\r']) {t : Text} :
    d ∈ encode t ↔ d ∈ t := by
  simp only [List.mem_cons, List.not_mem_nil, or_false, not_or] at h
  rw [encode, List.mem_flatMap]
  constructor
  · rintro ⟨c, hc, m⟩
    rcases mem_encodeChar m with ⟨rfl, -⟩ | m | m | m
    · exact hc
    · exact absurd m h.1
    · exact absurd m h.2.1
    · exact absurd m h.2.2.1
  · intro m
    refine ⟨d, m, ?_⟩
    rw [encodeChar_of_ne ⟨h.1, h.2.2.2.1, h.2.2.2.2⟩]
    exact List.mem_singleton_self d

/-! ### Blanks at the ends -/

/-- Whether a character is a blank that a line shows as it is: all but line feed and
carriage return. -/
def isBare (c : Char) : Bool := isBlank c && c ≠ '\n' && c ≠ '\r'

/-- The text without such blanks at its end. -/
def trimBareEnd (t : Text) : Text := (t.reverse.dropWhile isBare).reverse

/-- The text without such blanks at either end. -/
def trimBare (t : Text) : Text := trimBareEnd (t.dropWhile isBare)

/-- A text that does not end with such a blank keeps its end, and no other text does. -/
theorem trimBareEnd_eq_self_iff {t : Text} :
    trimBareEnd t = t ↔ ∀ c, t.getLast? = some c → isBare c = false :=
  Parts.rdropWhile_eq_self_iff

theorem encodeChar_of_isBare {c : Char} (h : isBare c = true) : encodeChar c = [c] := by
  simp only [isBare, Bool.and_eq_true, decide_eq_true_eq] at h
  have solid : c ≠ '\\' := by
    rintro rfl
    exact absurd h.1.1 (by decide)
  exact encodeChar_of_ne ⟨solid, h.1.2, h.2⟩

theorem isBlank_of_isBare {c : Char} (h : isBare c = true) : isBlank c = true := by
  simp only [isBare, Bool.and_eq_true] at h
  exact h.1.1

/-- Any other character is written without a blank at either end. -/
theorem encodeChar_of_not_isBare {c : Char} (h : isBare c = false) :
    (∃ b bs, encodeChar c = b :: bs ∧ isBlank b = false) ∧
      ∃ b bs, (encodeChar c).reverse = b :: bs ∧ isBlank b = false := by
  simp only [encodeChar]
  split_ifs with h1 h2 h3
  · exact ⟨⟨'\\', ['\\'], rfl, by decide⟩, ⟨'\\', ['\\'], rfl, by decide⟩⟩
  · exact ⟨⟨'\\', ['n'], rfl, by decide⟩, ⟨'n', ['\\'], rfl, by decide⟩⟩
  · exact ⟨⟨'\\', ['r'], rfl, by decide⟩, ⟨'r', ['\\'], rfl, by decide⟩⟩
  · have solid : isBlank c = false := by simpa [isBare, h2, h3] using h
    exact ⟨⟨c, [], rfl, solid⟩, ⟨c, [], rfl, solid⟩⟩

theorem trimStart_encode (t : Text) : (encode t).trimStart = encode (t.dropWhile isBare) := by
  refine Parts.dropWhile_flatMap (fun c h b m => ?_) (fun c h => (encodeChar_of_not_isBare h).1) t
  rw [encodeChar_of_isBare h, List.mem_singleton] at m
  exact m ▸ isBlank_of_isBare h

theorem trimEnd_encode (t : Text) : (encode t).trimEnd = encode (trimBareEnd t) := by
  have turned : (encode t).reverse.dropWhile isBlank =
      (t.reverse.dropWhile isBare).flatMap (List.reverse ∘ encodeChar) := by
    rw [encode, List.reverse_flatMap]
    refine Parts.dropWhile_flatMap (fun c h b m => ?_)
      (fun c h => (encodeChar_of_not_isBare h).2) t.reverse
    rw [encodeChar_of_isBare h, List.reverse_singleton, List.mem_singleton] at m
    exact m ▸ isBlank_of_isBare h
  rw [Text.trimEnd, turned, List.reverse_flatMap, trimBareEnd, encode]
  congr 1
  funext c
  simp

theorem trim_encode (t : Text) : (encode t).trim = encode (trimBare t) := by
  rw [Text.trim, trimStart_encode, trimEnd_encode, trimBare]

/-! ### The front -/

/-- A leading part without escapes stays in front, and none comes in front. -/
theorem prefix_encode_iff {p : Text} (h : ∀ c ∈ p, c ≠ '\\' ∧ c ≠ '\n' ∧ c ≠ '\r') (t : Text) :
    p <+: encode t ↔ p <+: t := by
  induction p generalizing t with
  | nil => simp
  | cons a p ih =>
    rw [List.forall_mem_cons] at h
    cases t with
    | nil => simp
    | cons c t =>
      by_cases e : a = c
      · subst e
        rw [encode_cons, encodeChar_of_ne h.1, List.singleton_append, List.cons_prefix_cons,
          List.cons_prefix_cons, ih h.2]
      · -- the first character of an escape is a backslash, which is not in front of `p`
        have front : ∃ b bs, encodeChar c ++ encode t = b :: bs ∧ (b = c ∨ b = '\\') := by
          simp only [encodeChar]
          split_ifs
          · exact ⟨_, _, rfl, .inr rfl⟩
          · exact ⟨_, _, rfl, .inr rfl⟩
          · exact ⟨_, _, rfl, .inr rfl⟩
          · exact ⟨_, _, rfl, .inl rfl⟩
        obtain ⟨b, bs, eq, hb⟩ := front
        rw [encode_cons, eq, List.cons_prefix_cons, List.cons_prefix_cons]
        rcases hb with rfl | rfl
        · simp [e]
        · simp [e, h.1.1]

@[simp] theorem isAddress_encode (t : Text) : isAddress (encode t) = isAddress t := by
  have plain : ∀ c ∈ Address.scheme, c ≠ '\\' ∧ c ≠ '\n' ∧ c ≠ '\r' := by simp [Address.scheme]
  rw [isAddress, isAddress, Bool.eq_iff_iff, List.isPrefixOf_iff_prefix,
    List.isPrefixOf_iff_prefix, prefix_encode_iff plain]

theorem head?_encode_eq_some_iff {c : Char} (h : c ≠ '\\' ∧ c ≠ '\n' ∧ c ≠ '\r') (t : Text) :
    (encode t).head? = some c ↔ t.head? = some c := by
  have singleton (u : Text) : u.head? = some c ↔ [c] <+: u := by
    cases u <;> simp [eq_comm]
  rw [singleton, singleton, prefix_encode_iff (by simpa using h)]

theorem withoutMark_encode (t : Text) :
    Document.withoutMark (encode t) = encode (Document.withoutMark t) := by
  simp only [Document.withoutMark, head?_encode_eq_some_iff (c := Document.mark) (by decide)]
  split
  · next h =>
    obtain ⟨u, rfl⟩ := List.head?_eq_some_iff.1 h
    rw [encode_cons, encodeChar_of_ne (by decide)]
    rfl
  · rfl

end SecretEnv.CacheFile

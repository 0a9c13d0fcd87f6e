import Mathlib.Data.List.Induction
import SecretEnv.Proofs.Text.Lossy

/-!
# What replacement characters stand for

Bytes that are not UTF-8 are replaced part by part, and every part is as long as it can be.

* `IllFormed`: the longest part in front of bytes that no character begins with: it begins a
  character without completing it, or is one byte that begins none;
* `Replaced`: characters read one after the other, with U+FFFD for each such part;
* `Begun`: a sequence with the bytes that have been read of it; `Begun.encodeChar_eq` says how
  the characters it can come to are written;
* `decodeLossy_eq_iff`: reading bytes is replacing those parts.
-/

namespace SecretEnv.Utf8

/-- The first bytes of a character, but not all of them. -/
def Initial (part : Bytes) : Prop := ∃ c rest, encodeChar c = part ++ rest ∧ rest ≠ []

/-- The part that is replaced in front of bytes that no character begins with: the longest one
that begins a character, or a single byte. -/
structure IllFormed (part rest : Bytes) : Prop where
  unreadable : ∀ c, ¬ encodeChar c <+: part ++ rest
  shape : part ≠ [] ∧ (Initial part ∨ part.length = 1)
  longest : ∀ more, more ≠ [] → more <+: rest → ¬ Initial (part ++ more)

/-- Bytes and what is read of them: characters, and U+FFFD for each ill-formed part. -/
inductive Replaced : Bytes → Text → Prop
  | nil : Replaced [] []
  | char (c : Char) {bs : Bytes} {t : Text} (h : Replaced bs t) :
    Replaced (encodeChar c ++ bs) (c :: t)
  | part {part rest : Bytes} {t : Text} (ill : IllFormed part rest) (h : Replaced rest t) :
    Replaced (part ++ rest) (replacement :: t)

variable {p q : Pending} {b : UInt8} {c : Char} {part rest bs : Bytes} {t : Text}

/-! ### Sequences and their bytes -/

/-- A sequence that has been begun, with its bytes so far. -/
inductive Begun : Bytes → Pending → Prop
  | first {b : UInt8} {p : Pending} (h : first b = .more p) : Begun [b] p
  | next {part : Bytes} {b : UInt8} {p q : Pending} (h : Begun part p) (more : p.next b = .more q) :
    Begun (part ++ [b]) q

theorem Begun.sound (h : Begun part p) : p.Sound := by
  induction h with
  | first h => exact sound_of_first h
  | next _ more ih => exact ih.next more

theorem Begun.ne_nil (h : Begun part p) : part ≠ [] := by
  cases h <;> simp

/-- Reading goes on from the sequence that has been begun. -/
theorem Begun.decodeLossy_append (h : Begun part p) (rest : Bytes) :
    decodeLossy (part ++ rest) = decodeLossyFrom (some p) rest := by
  induction h generalizing rest with
  | first h => exact decodeLossyFrom_more h rest
  | next _ more ih =>
    rw [List.append_assoc, ih]
    exact decodeLossyFrom_next_more more rest

/-- The last bytes of a character: six bits of its code point in each. -/
def lastBytes : Nat → Nat → Bytes
  | 0, _ => []
  | m + 1, n => UInt8.ofNat (0x80 + n / 64 ^ m % 64) :: lastBytes m n

theorem encodeChar_two (low : 0x80 ≤ c.toNat) (high : c.toNat < 0x800) :
    encodeChar c = UInt8.ofNat (0xC0 + c.toNat / 64 ^ 1) :: lastBytes 1 c.toNat := by
  simp only [encodeChar, lastBytes, pow_zero, Nat.div_one]
  rw [if_neg (by omega), if_pos high]
  rfl

theorem encodeChar_three (low : 0x800 ≤ c.toNat) (high : c.toNat < 0x10000) :
    encodeChar c = UInt8.ofNat (0xE0 + c.toNat / 64 ^ 2) :: lastBytes 2 c.toNat := by
  simp only [encodeChar, lastBytes, pow_zero, Nat.div_one]
  rw [if_neg (by omega), if_neg (by omega), if_pos high]
  rfl

theorem encodeChar_four (low : 0x10000 ≤ c.toNat) :
    encodeChar c = UInt8.ofNat (0xF0 + c.toNat / 64 ^ 3) :: lastBytes 3 c.toNat := by
  simp only [encodeChar, lastBytes, pow_zero, Nat.div_one]
  rw [if_neg (by omega), if_neg (by omega), if_neg (by omega)]
  rfl

/-- The three kinds of first bytes, by what is still to come and where it leads. -/
theorem first_eq_more (h : first b = .more p) :
    (p.missing = 1 ∧ b.toNat = 0xC0 + p.bits ∧ 0x80 ≤ p.least ∧ p.bound ≤ 0x800) ∨
      (p.missing = 2 ∧ b.toNat = 0xE0 + p.bits ∧ 0x800 ≤ p.least ∧ p.bound ≤ 0x10000) ∨
      (p.missing = 3 ∧ b.toNat = 0xF0 + p.bits ∧ 0x10000 ≤ p.least) := by
  simp only [first] at h
  split_ifs at h <;> obtain rfl := Effect.more.inj h <;>
    simp only [Pending.least, Pending.bound, true_and] <;> omega

/-- The bits so far are the first ones of every code point that is left. -/
theorem Pending.Sound.bits_eq (sound : p.Sound) {n : Nat} (least : p.least ≤ n)
    (bound : n < p.bound) : n / 64 ^ p.missing = p.bits := by
  have power : 64 ^ p.missing = 64 * 64 ^ (p.missing - 1) := by
    rw [← pow_succ']
    congr 1
    have missing := sound.missing
    omega
  have high := sound.high
  rw [power]
  refine Nat.div_eq_of_lt_le ?_ ?_
  · refine Nat.le_trans ?_ least
    rw [Pending.least, ← Nat.mul_assoc]
    exact Nat.mul_le_mul_right _ (by omega)
  · refine Nat.lt_of_lt_of_le bound ?_
    rw [Pending.bound, ← Nat.mul_assoc]
    exact Nat.mul_le_mul_right _ (by omega)

theorem eq_ofNat {n : Nat} (h : b.toNat = n) : b = UInt8.ofNat n := by
  rw [← h, UInt8.ofNat_toNat]

/-- The characters that a first byte can lead to are written with it. -/
theorem encodeChar_of_first (h : first b = .more p) (least : p.least ≤ c.toNat)
    (bound : c.toNat < p.bound) : encodeChar c = b :: lastBytes p.missing c.toNat := by
  have bits := (sound_of_first h).bits_eq least bound
  rcases first_eq_more h with ⟨missing, lead, low, high⟩ | ⟨missing, lead, low, high⟩ |
    ⟨missing, lead, low⟩ <;> rw [missing] at bits ⊢ <;> rw [← bits] at lead
  · rw [eq_ofNat lead, encodeChar_two (by omega) (by omega)]
  · rw [eq_ofNat lead, encodeChar_three (by omega) (by omega)]
  · rw [eq_ofNat lead, encodeChar_four (by omega)]

/-- The characters that a sequence can come to are written with the bytes so far. -/
theorem Begun.encodeChar_eq (h : Begun part p) (least : p.least ≤ c.toNat)
    (bound : c.toNat < p.bound) : encodeChar c = part ++ lastBytes p.missing c.toNat := by
  induction h with
  | first h => exact encodeChar_of_first h least bound
  | @next part b p q h more ih =>
    have narrow := Pending.narrow more
    have bits := (h.next more).sound.bits_eq least bound
    have low := h.sound.low
    have high := h.sound.high
    obtain ⟨range, -, one_less, -, -, added⟩ := Pending.next_eq_more more
    have byte : b.toNat = 0x80 + c.toNat / 64 ^ q.missing % 64 := by omega
    rw [ih (by omega) (by omega), one_less, lastBytes, ← eq_ofNat byte, List.append_assoc,
      List.singleton_append]

/-- A byte that completes a sequence completes the bytes of its character. -/
theorem Begun.encodeChar_of_char (h : Begun part p) (e : p.next b = .char c) :
    encodeChar c = part ++ [b] := by
  have low := h.sound.low
  have high := h.sound.high
  obtain ⟨least, bound⟩ := h.sound.mem_range e
  obtain ⟨code, single, range⟩ := h.sound.toNat_eq e
  have byte : b.toNat = 0x80 + c.toNat % 64 := by omega
  rw [h.encodeChar_eq least bound, single, lastBytes, lastBytes, pow_zero, Nat.div_one,
    ← eq_ofNat byte]

theorem encodeChar_of_char (h : first b = .char c) : encodeChar c = [b] := by
  have code := toNat_of_first h
  simp only [first] at h
  split_ifs at h with ascii
  rw [encodeChar, eq_ofNat code.symm]
  exact if_pos (by omega)

theorem Begun.initial (h : Begun part p) : Initial part := by
  have sound := h.sound
  have inhabited : p.least < p.bound := by
    have range := sound.range
    exact Nat.mul_lt_mul_of_pos_right (by omega) (Nat.pow_pos (by decide))
  have valid := sound.valid
  have code : (Char.ofNat p.least).toNat = p.least := by
    refine toNat_ofNat ?_
    unfold Nat.isValidChar
    omega
  refine ⟨Char.ofNat p.least, _, h.encodeChar_eq (by omega) (by omega), ?_⟩
  rw [← Nat.sub_add_cancel sound.missing, lastBytes]
  exact List.cons_ne_nil _ _

/-! ### Bytes that no character begins with -/

theorem decodeLossy_encodeChar (c : Char) : decodeLossy (encodeChar c) = [c] := by
  have read := decodeLossyFrom_encodeChar c []
  rwa [List.append_nil] at read

theorem encodeChar_ne_nil (c : Char) : encodeChar c ≠ [] := by
  intro empty
  have read := decodeLossy_encodeChar c
  rw [empty] at read
  exact nomatch read

/-- Where the machine replaces a part, no character has it with the next byte. -/
theorem Begun.not_prefix_encodeChar (h : Begun part p) (bad : p.next b = .bad) (c : Char) :
    ¬ part ++ [b] <+: encodeChar c := by
  rintro ⟨rest, whole⟩
  have read := decodeLossy_encodeChar c
  rw [← whole, List.append_assoc, h.decodeLossy_append, List.singleton_append,
    decodeLossyFrom_next_bad bad, List.cons.injEq] at read
  exact decodeLossyFrom_ne_nil (.inr (List.cons_ne_nil b rest)) read.2

theorem not_prefix_of_bad (bad : first b = .bad) (c : Char) : ¬ [b] <+: encodeChar c := by
  rintro ⟨rest, whole⟩
  have read := decodeLossy_encodeChar c
  rw [← whole, List.singleton_append, decodeLossy, decodeLossyFrom_bad bad, List.cons.injEq] at read
  obtain ⟨rfl, nothing⟩ := read
  obtain rfl := decodeLossy_eq_nil_iff.1 nothing
  exact absurd (congrArg List.length whole) (by decide : 1 ≠ 3)

/-- No character ends inside another one. -/
theorem Initial.no_char_inside (h : Initial part) (c : Char) : ¬ encodeChar c <+: part := by
  obtain ⟨d, rest, whole, ne⟩ := h
  rintro ⟨inner, rfl⟩
  have read := decodeLossy_encodeChar d
  rw [whole, List.append_assoc, decodeLossy, decodeLossyFrom_encodeChar, List.cons.injEq] at read
  have nothing := decodeLossy_eq_nil_iff.1 read.2
  exact ne (List.append_eq_nil_iff.1 nothing).2

/-- A part is ill-formed if it holds no character, and no character has it with the next byte. -/
theorem IllFormed.of_stuck (shape : part ≠ [] ∧ (Initial part ∨ part.length = 1))
    (inside : ∀ c, ¬ encodeChar c <+: part)
    (stuck : ∀ b, rest.head? = some b → ∀ c, ¬ part ++ [b] <+: encodeChar c) :
    IllFormed part rest := by
  have beyond (more : Bytes) (ne : more ≠ []) (next : more <+: rest) (c : Char) :
      ¬ part ++ more <+: encodeChar c := by
    obtain ⟨b, more, rfl⟩ := List.exists_cons_of_ne_nil ne
    obtain ⟨rest, rfl⟩ := next
    rintro ⟨last, whole⟩
    exact stuck b rfl c ⟨more ++ last, by simp [← whole]⟩
  refine ⟨fun c front => ?_, shape, fun more ne next ⟨c, last, whole, _⟩ => ?_⟩
  · rcases List.prefix_or_prefix_of_prefix front (List.prefix_append part rest) with h | ⟨more, h⟩
    · exact inside c h
    · by_cases ne : more = []
      · exact inside c (by simp [← h, ne])
      · rw [← h, List.prefix_append_right_inj] at front
        exact beyond more ne front c ⟨[], by simp [h]⟩
  · exact beyond more ne next c ⟨last, whole.symm⟩

theorem Begun.illFormed (h : Begun part p) (stuck : ∀ b, rest.head? = some b → p.next b = .bad) :
    IllFormed part rest :=
  .of_stuck ⟨h.ne_nil, .inl h.initial⟩ h.initial.no_char_inside fun b next =>
    h.not_prefix_encodeChar (stuck b next)

theorem illFormed_of_bad (bad : first b = .bad) (rest : Bytes) : IllFormed [b] rest := by
  have alone := not_prefix_of_bad bad
  refine .of_stuck ⟨List.cons_ne_nil b [], .inr rfl⟩ (fun c front => ?_) fun d _ c longer => ?_
  · obtain ⟨x, bs, written⟩ := List.exists_cons_of_ne_nil (encodeChar_ne_nil c)
    rw [written, List.cons_prefix_cons] at front
    exact alone c ⟨bs, by rw [written, front.1, List.singleton_append]⟩
  · exact alone c ((List.prefix_append [b] [d]).trans longer)

theorem Initial.exists_begun (h : Initial part) (ne : part ≠ []) : ∃ p, Begun part p := by
  induction part using List.reverseRecOn with
  | nil => exact absurd rfl ne
  | append_singleton part b ih =>
    have shorter : Initial part := by
      obtain ⟨c, rest, whole, -⟩ := h
      exact ⟨c, b :: rest, by rw [whole, List.append_assoc, List.singleton_append],
        List.cons_ne_nil b rest⟩
    have front : ∃ c, part ++ [b] <+: encodeChar c := by
      obtain ⟨c, rest, whole, -⟩ := h
      exact ⟨c, rest, whole.symm⟩
    obtain ⟨c, front⟩ := front
    by_cases empty : part = []
    · subst empty
      cases e : first b with
      | char d => exact absurd (encodeChar_of_char e ▸ List.prefix_rfl) (h.no_char_inside d)
      | more p => exact ⟨p, .first e⟩
      | bad => exact absurd front (not_prefix_of_bad e c)
    · obtain ⟨p, begun⟩ := ih shorter empty
      cases e : p.next b with
      | char d => exact absurd (begun.encodeChar_of_char e ▸ List.prefix_rfl) (h.no_char_inside d)
      | more q => exact ⟨q, begun.next e⟩
      | bad => exact absurd front (begun.not_prefix_encodeChar e c)

/-! ### Reading is replacing -/

/-- An ill-formed part is read as one replacement character. -/
theorem IllFormed.decodeLossy_append (ill : IllFormed part rest) :
    decodeLossy (part ++ rest) = replacement :: decodeLossy rest := by
  have begun (p : Pending) (h : Begun part p) :
      decodeLossy (part ++ rest) = replacement :: decodeLossy rest := by
    rw [h.decodeLossy_append]
    cases rest with
    | nil => rfl
    | cons b rest =>
      -- a byte that completes or continues the sequence would make the part less than ill-formed
      cases e : p.next b with
      | char c =>
        refine absurd ?_ (ill.unreadable c)
        rw [h.encodeChar_of_char e]
        exact ⟨rest, by rw [List.append_assoc, List.singleton_append]⟩
      | more q =>
        exact absurd (h.next e).initial (ill.longest [b] (List.cons_ne_nil b []) ⟨rest, rfl⟩)
      | bad => exact decodeLossyFrom_next_bad e rest
  obtain ⟨ne, initial | single⟩ := ill.shape
  · obtain ⟨p, h⟩ := initial.exists_begun ne
    exact begun p h
  · obtain ⟨b, rfl⟩ := List.length_eq_one_iff.1 single
    cases e : first b with
    | char c =>
      refine absurd ?_ (ill.unreadable c)
      rw [encodeChar_of_char e]
      exact List.prefix_append _ _
    | more p => exact begun p (.first e)
    | bad => exact decodeLossyFrom_bad e rest

theorem replaced_decodeLossy (bs : Bytes) :
    Replaced bs (decodeLossy bs) ∧
      ∀ part p, Begun part p → Replaced (part ++ bs) (decodeLossyFrom (some p) bs) := by
  -- the bytes are those that are still to be read, behind a sequence that may have been begun
  induction bs with
  | nil => exact ⟨.nil, fun part p h => .part (h.illFormed nofun) .nil⟩
  | cons b bs ih =>
    obtain ⟨fresh, resumed⟩ := ih
    have whole : Replaced (b :: bs) (decodeLossy (b :: bs)) := by
      cases e : first b with
      | char c =>
        rw [decodeLossy, decodeLossyFrom_char e]
        have read := Replaced.char c fresh
        rwa [encodeChar_of_char e] at read
      | more p =>
        rw [decodeLossy, decodeLossyFrom_more e]
        exact resumed [b] p (.first e)
      | bad =>
        rw [decodeLossy, decodeLossyFrom_bad e]
        exact .part (illFormed_of_bad e bs) fresh
    refine ⟨whole, fun part p h => ?_⟩
    cases e : p.next b with
    | char c =>
      rw [decodeLossyFrom_next_char e]
      have read := Replaced.char c fresh
      rwa [h.encodeChar_of_char e, List.append_assoc] at read
    | more q =>
      rw [decodeLossyFrom_next_more e]
      have read := resumed (part ++ [b]) q (h.next e)
      rwa [List.append_assoc] at read
    | bad =>
      rw [decodeLossyFrom_next_bad e]
      refine .part (h.illFormed fun x next => ?_) whole
      obtain rfl := Option.some.inj next
      exact e

/-- What is read of bytes are their characters, with one replacement character for each of their
ill-formed parts, and nothing else is. -/
theorem decodeLossy_eq_iff : decodeLossy bs = t ↔ Replaced bs t := by
  constructor
  · rintro rfl
    exact (replaced_decodeLossy bs).1
  · intro h
    induction h with
    | nil => rfl
    | char c _ ih =>
      rw [decodeLossy, decodeLossyFrom_encodeChar]
      exact congrArg (c :: ·) ih
    | part ill _ ih => rw [ill.decodeLossy_append, ih]

end SecretEnv.Utf8

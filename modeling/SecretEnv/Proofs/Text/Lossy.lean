import Mathlib.Algebra.Group.Nat.Defs
import SecretEnv.Proofs.Text.Utf8

/-!
# Bytes that need not be UTF-8

The machine of `Utf8.decodeLossyFrom` on bytes of any kind.

* `Pending.Sound`: what holds of every sequence that has been begun: no ASCII byte continues it,
  and what it can come to are characters past ASCII;
* `lossyStep_of_ascii` and `toNat_of_mem_lossyStep`: so an ASCII byte ends what has been begun and
  is read as its character, which no other byte is;
* `decodeLossy_append_ascii`: what stands in front of an ASCII byte and behind it is read as if
  each were alone;
* `mem_decodeLossy_ascii`: its character occurs where the byte does;
* `decodeLossy_eq_nil_iff`: nothing is read of no bytes only.
-/

namespace SecretEnv.Utf8

/-! ### Sequences that have been begun -/

/-- The least code point that a sequence can come to. -/
def Pending.least (p : Pending) : Nat :=
  (p.bits * 64 + (p.low - 0x80)) * 64 ^ (p.missing - 1)

/-- The least number past the code points that a sequence can come to. -/
def Pending.bound (p : Pending) : Nat :=
  (p.bits * 64 + (p.high - 0x80) + 1) * 64 ^ (p.missing - 1)

/-- A sequence as it is begun by a byte: only bytes past ASCII continue it, six bits in each,
and it can come only to code points of characters past ASCII. -/
structure Pending.Sound (p : Pending) : Prop where
  missing : 1 ≤ p.missing
  low : 0x80 ≤ p.low
  range : p.low ≤ p.high
  high : p.high ≤ 0xBF
  least : 0x80 ≤ p.least
  valid : p.bound ≤ 0xD800 ∨ 0xE000 ≤ p.least ∧ p.bound ≤ 0x110000

variable {p q : Pending} {s : Option Pending} {b : UInt8} {c : Char} {bs : Bytes}

/-- A sequence is sound from its first byte on. -/
theorem sound_of_first (h : first b = .more p) : p.Sound := by
  simp only [first] at h
  -- one case for each length of the sequence and each range of its second byte
  split_ifs at h <;> obtain rfl := Effect.more.inj h <;>
    constructor <;> simp only [Pending.least, Pending.bound] <;> omega

/-- A byte that continues a sequence adds six bits, and leaves one byte less to come. -/
theorem Pending.next_eq_more (h : p.next b = .more q) :
    (p.low ≤ b.toNat ∧ b.toNat ≤ p.high) ∧ 1 ≤ q.missing ∧ p.missing = q.missing + 1 ∧
      q.low = 0x80 ∧ q.high = 0xBF ∧ q.bits = p.bits * 64 + (b.toNat - 0x80) := by
  simp only [next] at h
  split_ifs at h with range last
  obtain rfl := Effect.more.inj h
  refine ⟨range, ?_, ?_, rfl, rfl, rfl⟩
  · exact Nat.le_sub_of_add_le (by omega)
  · exact (Nat.sub_add_cancel (by omega)).symm

/-- Such a byte narrows the code points that are left. -/
theorem Pending.narrow (h : p.next b = .more q) : p.least ≤ q.least ∧ q.bound ≤ p.bound := by
  obtain ⟨range, missing, one_less, low, high, bits⟩ := next_eq_more h
  have power : 64 ^ (p.missing - 1) = 64 * 64 ^ (q.missing - 1) := by
    rw [← pow_succ', one_less]
    congr 1
    omega
  simp only [least, bound, power, low, high, bits, ← Nat.mul_assoc]
  constructor
  · exact Nat.mul_le_mul_right _ (by omega)
  · exact Nat.mul_le_mul_right _ (by omega)

theorem Pending.Sound.next (sound : p.Sound) (h : p.next b = .more q) : q.Sound := by
  have narrow := Pending.narrow h
  have least := sound.least
  have valid := sound.valid
  obtain ⟨-, missing, -, low, high, -⟩ := Pending.next_eq_more h
  constructor <;> omega

/-- A byte that completes a sequence adds the last bits of the code point. -/
theorem Pending.Sound.toNat_eq (sound : p.Sound) (h : p.next b = .char c) :
    c.toNat = p.bits * 64 + (b.toNat - 0x80) ∧ p.missing = 1 ∧ p.low ≤ b.toNat ∧
      b.toNat ≤ p.high := by
  simp only [Pending.next] at h
  split_ifs at h with range last
  obtain rfl := Effect.char.inj h
  have single : p.missing = 1 := Nat.le_antisymm last sound.missing
  refine ⟨toNat_ofNat ?_, single, range⟩
  have valid := sound.valid
  simp only [Pending.least, Pending.bound, single] at valid
  unfold Nat.isValidChar
  omega

/-- The character that completes a sequence has one of the code points that were left. -/
theorem Pending.Sound.mem_range (sound : p.Sound) (h : p.next b = .char c) :
    p.least ≤ c.toNat ∧ c.toNat < p.bound := by
  obtain ⟨code, single, range⟩ := sound.toNat_eq h
  simp only [Pending.least, Pending.bound, single]
  omega

theorem Pending.Sound.next_ascii (sound : p.Sound) (ascii : b.toNat < 0x80) :
    p.next b = .bad := by
  have low := sound.low
  simp only [Pending.next]
  exact if_neg (by omega)

theorem first_of_ascii (ascii : b.toNat < 0x80) : first b = .char (Char.ofNat b.toNat) := by
  have read := first_ascii ascii
  rwa [UInt8.ofNat_toNat] at read

theorem toNat_of_first (h : first b = .char c) : c.toNat = b.toNat := by
  simp only [first] at h
  split_ifs at h with ascii
  obtain rfl := Effect.char.inj h
  exact toNat_ofNat (.inl (by omega))

/-! ### One step of the machine -/

theorem lossyFirst_of_char (h : first b = .char c) : lossyFirst b = ([c], none) := by
  simp only [lossyFirst, h]

theorem lossyFirst_of_more (h : first b = .more p) : lossyFirst b = ([], some p) := by
  simp only [lossyFirst, h]

theorem lossyFirst_of_bad (h : first b = .bad) : lossyFirst b = ([replacement], none) := by
  simp only [lossyFirst, h]

theorem lossyStep_of_char (h : p.next b = .char c) : lossyStep (some p) b = ([c], none) := by
  simp only [lossyStep, h]

theorem lossyStep_of_more (h : p.next b = .more q) : lossyStep (some p) b = ([], some q) := by
  simp only [lossyStep, h]

theorem lossyStep_of_bad (h : p.next b = .bad) :
    lossyStep (some p) b = (replacement :: (lossyFirst b).1, (lossyFirst b).2) := by
  simp only [lossyStep, h]

theorem decodeLossyFrom_cons (s : Option Pending) (b : UInt8) (bs : Bytes) :
    decodeLossyFrom s (b :: bs) = (lossyStep s b).1 ++ decodeLossyFrom (lossyStep s b).2 bs := by
  cases s <;> rfl

theorem sound_none : ∀ p, (none : Option Pending) = some p → p.Sound := nofun

theorem sound_lossyFirst (h : (lossyFirst b).2 = some p) : p.Sound := by
  cases e : first b with
  | char c => rw [lossyFirst_of_char e] at h; exact nomatch h
  | more q =>
    rw [lossyFirst_of_more e] at h
    obtain rfl := Option.some.inj h
    exact sound_of_first e
  | bad => rw [lossyFirst_of_bad e] at h; exact nomatch h

/-- Every step leaves a sound sequence, or none. -/
theorem sound_lossyStep (sound : ∀ p, s = some p → p.Sound) (b : UInt8) :
    ∀ q, (lossyStep s b).2 = some q → q.Sound := by
  intro q h
  cases s with
  | none => exact sound_lossyFirst h
  | some p =>
    cases e : p.next b with
    | char c => rw [lossyStep_of_char e] at h; exact nomatch h
    | more r =>
      rw [lossyStep_of_more e] at h
      obtain rfl := Option.some.inj h
      exact (sound p rfl).next e
    | bad =>
      rw [lossyStep_of_bad e] at h
      exact sound_lossyFirst h

/-- An ASCII byte ends what has been begun, as the end of the bytes would, and is read as its
character. -/
theorem lossyStep_of_ascii (sound : ∀ p, s = some p → p.Sound) (ascii : b.toNat < 0x80) :
    lossyStep s b = (decodeLossyFrom s [] ++ [Char.ofNat b.toNat], none) := by
  have alone := lossyFirst_of_char (first_of_ascii ascii)
  cases s with
  | none => exact alone
  | some p =>
    rw [lossyStep_of_bad ((sound p rfl).next_ascii ascii), alone]
    rfl

theorem toNat_of_mem_lossyFirst (h : c ∈ (lossyFirst b).1) (ascii : c.toNat < 0x80) :
    c.toNat = b.toNat := by
  cases e : first b with
  | char d =>
    rw [lossyFirst_of_char e, List.mem_singleton] at h
    rw [h, toNat_of_first e]
  | more p =>
    rw [lossyFirst_of_more e] at h
    exact absurd h List.not_mem_nil
  | bad =>
    rw [lossyFirst_of_bad e, List.mem_singleton] at h
    rw [h] at ascii
    exact absurd ascii (by decide)

/-- An ASCII character is read of its own byte only: a sequence comes to none. -/
theorem toNat_of_mem_lossyStep (sound : ∀ p, s = some p → p.Sound)
    (h : c ∈ (lossyStep s b).1) (ascii : c.toNat < 0x80) : c.toNat = b.toNat := by
  cases s with
  | none => exact toNat_of_mem_lossyFirst h ascii
  | some p =>
    cases e : p.next b with
    | char d =>
      rw [lossyStep_of_char e, List.mem_singleton] at h
      have least := (sound p rfl).least
      have range := (sound p rfl).mem_range e
      rw [h] at ascii
      omega
    | more q =>
      rw [lossyStep_of_more e] at h
      exact absurd h List.not_mem_nil
    | bad =>
      rw [lossyStep_of_bad e, List.mem_cons] at h
      rcases h with h | h
      · rw [h] at ascii
        exact absurd ascii (by decide)
      · exact toNat_of_mem_lossyFirst h ascii

/-- In every step something is read or begun. -/
theorem lossyFirst_ne (b : UInt8) : (lossyFirst b).1 ≠ [] ∨ (lossyFirst b).2 ≠ none := by
  cases e : first b with
  | char c => simp [lossyFirst_of_char e]
  | more p => simp [lossyFirst_of_more e]
  | bad => simp [lossyFirst_of_bad e]

theorem lossyStep_ne (s : Option Pending) (b : UInt8) :
    (lossyStep s b).1 ≠ [] ∨ (lossyStep s b).2 ≠ none := by
  cases s with
  | none => exact lossyFirst_ne b
  | some p =>
    cases e : p.next b with
    | char c => simp [lossyStep_of_char e]
    | more q => simp [lossyStep_of_more e]
    | bad => simp [lossyStep_of_bad e]

/-! ### Bytes in a row -/

theorem decodeLossyFrom_append_ascii (sound : ∀ p, s = some p → p.Sound)
    (ascii : b.toNat < 0x80) (bs rest : Bytes) :
    decodeLossyFrom s (bs ++ b :: rest) =
      decodeLossyFrom s bs ++ Char.ofNat b.toNat :: decodeLossyFrom none rest := by
  induction bs generalizing s with
  | nil =>
    rw [List.nil_append, decodeLossyFrom_cons, lossyStep_of_ascii sound ascii, List.append_assoc,
      List.singleton_append]
  | cons x bs ih =>
    rw [List.cons_append, decodeLossyFrom_cons, decodeLossyFrom_cons, List.append_assoc,
      ih (sound_lossyStep sound x)]

/-- What stands in front of an ASCII byte and what stands behind it is read as if each were
alone, also where the byte comes inside a sequence. -/
theorem decodeLossy_append_ascii (ascii : b.toNat < 0x80) (bs rest : Bytes) :
    decodeLossy (bs ++ b :: rest) =
      decodeLossy bs ++ Char.ofNat b.toNat :: decodeLossy rest :=
  decodeLossyFrom_append_ascii sound_none ascii bs rest

theorem exists_of_mem_decodeLossyFrom (sound : ∀ p, s = some p → p.Sound)
    (h : c ∈ decodeLossyFrom s bs) (ascii : c.toNat < 0x80) : ∃ b ∈ bs, c.toNat = b.toNat := by
  induction bs generalizing s with
  | nil =>
    cases s with
    | none => exact absurd h List.not_mem_nil
    | some p =>
      rw [decodeLossyFrom, List.mem_singleton] at h
      rw [h] at ascii
      exact absurd ascii (by decide)
  | cons b bs ih =>
    rw [decodeLossyFrom_cons, List.mem_append] at h
    rcases h with h | h
    · exact ⟨b, List.mem_cons_self, toNat_of_mem_lossyStep sound h ascii⟩
    · obtain ⟨x, hx, e⟩ := ih (sound_lossyStep sound b) h
      exact ⟨x, List.mem_cons_of_mem b hx, e⟩

/-- An ASCII character is read where its byte is. -/
theorem mem_decodeLossy_ascii (ascii : b.toNat < 0x80) :
    Char.ofNat b.toNat ∈ decodeLossy bs ↔ b ∈ bs := by
  have value : (Char.ofNat b.toNat).toNat = b.toNat := toNat_ofNat (.inl (by omega))
  constructor
  · intro h
    obtain ⟨x, hx, e⟩ := exists_of_mem_decodeLossyFrom sound_none h (by omega)
    rwa [UInt8.toNat_inj.1 (value.symm.trans e)]
  · intro h
    obtain ⟨l, r, rfl⟩ := List.append_of_mem h
    rw [decodeLossy_append_ascii ascii]
    exact List.mem_append_right _ List.mem_cons_self

theorem decodeLossyFrom_ne_nil (h : s ≠ none ∨ bs ≠ []) : decodeLossyFrom s bs ≠ [] := by
  induction bs generalizing s with
  | nil =>
    cases s with
    | none => simp at h
    | some p => exact List.cons_ne_nil _ _
  | cons b bs ih =>
    rw [decodeLossyFrom_cons, ne_eq, List.append_eq_nil_iff, not_and]
    intro empty
    exact ih (.inl ((lossyStep_ne s b).resolve_left fun ne => ne empty))

theorem decodeLossy_eq_nil_iff : decodeLossy bs = [] ↔ bs = [] := by
  cases bs with
  | nil => exact iff_of_true rfl rfl
  | cons b bs =>
    exact iff_of_false (decodeLossyFrom_ne_nil (.inr (List.cons_ne_nil b bs)))
      (List.cons_ne_nil b bs)

end SecretEnv.Utf8

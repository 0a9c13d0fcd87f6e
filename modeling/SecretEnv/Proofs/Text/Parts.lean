import Mathlib.Data.List.DropRight
import SecretEnv.Text

/-!
# Parts of lists

Laws of the list functions that texts and bytes are taken apart with.

* `isPrefixOf?_eq_some_iff`: what is left behind a leading part;
* `prefix_append_cons_iff`: how far a leading part can reach;
* `takeWhile_ne_append`: what is taken up to an element;
* `dropWhile_flatMap` and `flatMap_intercalate`: a list that is written element
  by element loses leading elements, or has separators, as the list it comes
  from;
* `dropWhile_eq_self_iff` and `rdropWhile_eq_self_iff`: what keeps a list from
  losing elements at its ends;
* `intercalate_concat_nil`, `intercalate_eq_nil_iff`,
  `mem_of_mem_intercalate` and `infix_intercalate`: lists with separators
  between them.
-/

namespace SecretEnv.Parts

variable {α β : Type}

theorem isPrefixOf?_eq_some_iff [DecidableEq α] {l m rest : List α} :
    l.isPrefixOf? m = some rest ↔ m = l ++ rest := by
  induction l generalizing m with
  | nil =>
    show some m = some rest ↔ m = rest
    rw [Option.some.injEq]
  | cons a l ih =>
    cases m with
    | nil =>
      show none = some rest ↔ [] = a :: (l ++ rest)
      exact ⟨nofun, nofun⟩
    | cons b m =>
      show (if a == b then l.isPrefixOf? m else none) = some rest ↔ b :: m = a :: (l ++ rest)
      by_cases h : a = b
      · simp [h, ih]
      · simp [h, Ne.symm h]

/-- A leading part does not reach beyond an element that it does not have. -/
theorem prefix_append_cons_iff {l : List α} {c : α} (h : c ∉ l) (a b : List α) :
    l <+: a ++ c :: b ↔ l <+: a := by
  constructor
  · intro m
    rw [List.append_cons] at m
    rcases List.prefix_or_prefix_of_prefix m (List.prefix_append (a ++ [c]) b) with m | m
    · rcases List.prefix_concat_iff.1 m with rfl | m
      · exact absurd List.mem_concat_self h
      · exact m
    · exact absurd (m.subset List.mem_concat_self) h
  · exact fun m => m.trans (List.prefix_append a _)

theorem takeWhile_ne_append [DecidableEq α] {c : α} {l : List α} (h : c ∉ l) (m : List α) :
    (l ++ m).takeWhile (· ≠ c) = l ++ m.takeWhile (· ≠ c) := by
  refine List.takeWhile_append_of_pos fun a mem => ?_
  rw [decide_eq_true_eq]
  rintro rfl
  exact h mem

theorem takeWhile_ne_of_notMem [DecidableEq α] {c : α} {l : List α} (h : c ∉ l) :
    l.takeWhile (· ≠ c) = l := by
  have whole := takeWhile_ne_append h []
  rwa [List.append_nil, List.takeWhile_nil, List.append_nil] at whole

/-- Dropping from a list that is written element by element: `p` tells which
elements are written with droppable parts only. -/
theorem dropWhile_flatMap {p : α → Bool} {q : β → Bool} {f : α → List β}
    (drops : ∀ a, p a = true → ∀ b ∈ f a, q b = true)
    (stops : ∀ a, p a = false → ∃ b bs, f a = b :: bs ∧ q b = false) (l : List α) :
    (l.flatMap f).dropWhile q = (l.dropWhile p).flatMap f := by
  induction l with
  | nil => rfl
  | cons a l ih =>
    rw [List.flatMap_cons]
    cases h : p a with
    | true => rw [List.dropWhile_append_of_pos (drops a h), ih, List.dropWhile_cons_of_pos h]
    | false =>
      obtain ⟨b, bs, e, hb⟩ := stops a h
      rw [List.dropWhile_cons_of_neg (by simp [h]), List.flatMap_cons, e, List.cons_append,
        List.dropWhile_cons_of_neg (by simp [hb])]

theorem dropWhile_eq_self_iff {p : α → Bool} {l : List α} :
    l.dropWhile p = l ↔ ∀ a, l.head? = some a → p a = false := by
  rw [List.dropWhile_eq_self_iff]
  constructor
  · intro solid a first
    obtain ⟨m, rfl⟩ := List.head?_eq_some_iff.1 first
    exact Bool.eq_false_iff.2 (solid (Nat.succ_pos _))
  · intro solid pos
    exact Bool.eq_false_iff.1 (solid _ (List.head?_eq_getElem? ▸ List.getElem?_eq_getElem pos))

theorem rdropWhile_eq_self_iff {p : α → Bool} {l : List α} :
    l.rdropWhile p = l ↔ ∀ a, l.getLast? = some a → p a = false := by
  rw [List.rdropWhile_eq_self_iff]
  constructor
  · intro solid a last
    obtain ⟨ne, rfl⟩ := List.mem_getLast?_eq_getLast last
    exact Bool.eq_false_iff.2 (solid ne)
  · intro solid ne
    exact Bool.eq_false_iff.1 (solid _ (List.getLast?_eq_some_getLast ne))

/-- Separators between lists are written as the separators of what is written. -/
theorem flatMap_intercalate (f : α → List β) (sep : List α) (ls : List (List α)) :
    (sep.intercalate ls).flatMap f = (sep.flatMap f).intercalate (ls.map (·.flatMap f)) := by
  match ls with
  | [] => rfl
  | [l] => simp
  | l :: k :: ls =>
    have ih := flatMap_intercalate f sep (k :: ls)
    rw [List.intercalate_cons_cons, List.flatMap_append, List.flatMap_append, ih]
    simp only [List.map_cons, List.intercalate_cons_cons]

theorem intercalate_concat_nil (sep : List α) {ls : List (List α)} (h : ls ≠ []) :
    sep.intercalate (ls ++ [[]]) = sep.intercalate ls ++ sep := by
  match ls with
  | [l] => simp [List.intercalate_cons_cons]
  | l :: k :: ls =>
    have ih : sep.intercalate (k :: (ls ++ [[]])) = sep.intercalate (k :: ls) ++ sep :=
      intercalate_concat_nil sep (List.cons_ne_nil k ls)
    rw [List.cons_append, List.cons_append, List.intercalate_cons_cons, ih,
      List.intercalate_cons_cons, List.append_assoc, List.append_assoc, List.append_assoc]

/-- Only no list, or a single empty one, comes to nothing with separators between them. -/
theorem intercalate_eq_nil_iff {sep : List α} (ne : sep ≠ []) {ls : List (List α)} :
    sep.intercalate ls = [] ↔ ls = [] ∨ ls = [[]] := by
  match ls with
  | [] => simp
  | [l] => simp
  | l :: k :: ls => simp [List.intercalate_cons_cons, ne]

theorem mem_of_mem_intercalate {a : α} {sep : List α} {ls : List (List α)}
    (h : a ∈ sep.intercalate ls) : a ∈ sep ∨ ∃ l ∈ ls, a ∈ l := by
  match ls with
  | [] => exact absurd h List.not_mem_nil
  | [l] => exact .inr ⟨l, by simp, by simpa using h⟩
  | l :: k :: ls =>
    rw [List.intercalate_cons_cons, List.append_assoc, List.mem_append, List.mem_append] at h
    rcases h with h | h | h
    · exact .inr ⟨l, by simp, h⟩
    · exact .inl h
    · exact (mem_of_mem_intercalate h).imp_right fun ⟨m, hm, e⟩ => ⟨m, List.mem_cons_of_mem l hm, e⟩

theorem infix_intercalate (sep : List α) {l : List α} {ls : List (List α)} (h : l ∈ ls) :
    l <:+: sep.intercalate ls := by
  match ls with
  | [] => exact absurd h List.not_mem_nil
  | [m] => exact List.mem_singleton.1 h ▸ ⟨[], [], by simp⟩
  | m :: k :: ls =>
    rw [List.intercalate_cons_cons, List.append_assoc]
    rcases List.mem_cons.1 h with rfl | h
    · exact (List.prefix_append l _).isInfix
    · have later := infix_intercalate sep h
      exact later.trans ((List.suffix_append sep _).trans (List.suffix_append m _)).isInfix

end SecretEnv.Parts

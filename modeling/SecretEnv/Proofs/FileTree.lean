import Mathlib.Tactic.SplitIfs
import SecretEnv.FileTree
import SecretEnv.Proofs.Text.Parts

/-!
# Files that were written

* `writesHere_of_write`: a file of the working directory is written, and nothing else;
* `read_write`: a file that was written is read back, under whatever path name;
* `walk_of_directories`: a path name leads to where it led as long as no
  directory is lost;
* `locate_ne_here` and `WritesHere.find_eq`: a path name of other components
  does not lead to a file of the working directory, nor does it matter to it
  that the file is written.
-/

namespace SecretEnv.FileTree

/-! ### Items -/

theorem lookup_go (path : List Text) (item : Item) (items : List (List Text × Item))
    (p : List Text) :
    (put.go path item items).lookup p = if p = path then some item else items.lookup p := by
  induction items with
  | nil =>
    rw [put.go, List.lookup_cons]
    by_cases h : p = path
    · simp [h]
    · simp [h, beq_eq_false_iff_ne.2 h]
  | cons q items ih =>
    rw [put.go]
    by_cases hq : q.1 = path
    · rw [if_pos hq, List.lookup_cons, List.lookup_cons, hq]
      by_cases h : p = path
      · simp [h]
      · simp [h, beq_eq_false_iff_ne.2 h]
    · rw [if_neg hq, List.lookup_cons, List.lookup_cons, ih]
      by_cases h : p = q.1
      · have ne : p ≠ path := fun e => hq (h ▸ e)
        simp [h, hq]
      · simp [beq_eq_false_iff_ne.2 h]

theorem item?_put_self {path : List Text} (h : path ≠ []) (t : FileTree) (item : Item) :
    (t.put path item).item? path = some item := by
  rw [item?, if_neg h, put, lookup_go, if_pos rfl]

theorem item?_put_of_ne {path p : List Text} (h : p ≠ path) (t : FileTree) (item : Item) :
    (t.put path item).item? p = t.item? p := by
  simp only [item?, put, lookup_go, if_neg h]

/-! ### Path names -/

theorem walk_cons_eq_ok_iff {t : FileTree} {path q : List Text} {c : Text} {cs : List Text} :
    t.walk path (c :: cs) = .ok q ↔
      t.item? path = some .directory ∧ (Utf8.encode c).length ≤ maxName ∧
        t.walk (advance path c) cs = .ok q := by
  rw [walk]
  cases t.item? path with
  | none => simp
  | some item =>
    cases item with
    | file content mode => simp
    | directory =>
      by_cases h : maxName < (Utf8.encode c).length
      · simp [h, Nat.not_le.2 h]
      · simp [h, Nat.not_lt.1 h]

theorem walk_append {t : FileTree} {path q : List Text} {cs : List Text}
    (h : t.walk path cs = .ok q) {ds : List Text} {r : List Text} (k : t.walk q ds = .ok r) :
    t.walk path (cs ++ ds) = .ok r := by
  induction cs generalizing path with
  | nil =>
    obtain rfl : path = q := Except.ok.inj h
    exact k
  | cons c cs ih =>
    rw [walk_cons_eq_ok_iff] at h
    rw [List.cons_append, walk_cons_eq_ok_iff]
    exact ⟨h.1, h.2.1, ih h.2.2⟩

/-- A path name leads to where it led as long as no directory is lost. -/
theorem walk_of_directories {t u : FileTree} {path q : List Text} {cs : List Text}
    (keep : ∀ p, t.item? p = some .directory → u.item? p = some .directory)
    (h : t.walk path cs = .ok q) : u.walk path cs = .ok q := by
  induction cs generalizing path with
  | nil => exact h
  | cons c cs ih =>
    rw [walk_cons_eq_ok_iff] at h ⊢
    exact ⟨keep _ h.1, h.2.1, ih h.2.2⟩

theorem components_eq_splitOn {name : Text} (ne : name ≠ []) (h : name.getLast? ≠ some '/') :
    components name = name.splitOn '/' := by
  have some_part : name.splitOn '/' ≠ [] := List.splitOn_ne_nil '/' name
  have last : (name.splitOn '/').getLast some_part ≠ [] := by
    intro e
    have parts : name.splitOn '/' = (name.splitOn '/').dropLast ++ [[]] := by
      rw [← e, List.dropLast_concat_getLast some_part]
    have whole : name = List.intercalate ['/'] (name.splitOn '/') :=
      (List.intercalate_splitOn '/').symm
    by_cases init : (name.splitOn '/').dropLast = []
    · rw [init, List.nil_append] at parts
      rw [parts] at whole
      exact ne whole
    · rw [parts, Parts.intercalate_concat_nil ['/'] init] at whole
      exact h (by rw [whole, List.getLast?_concat])
  have front : (name.splitOn '/').reverse.head? = some ((name.splitOn '/').getLast some_part) := by
    rw [List.head?_reverse, List.getLast?_eq_some_getLast some_part]
  obtain ⟨rest, e⟩ := List.head?_eq_some_iff.1 front
  rw [components, e, List.dropWhile_cons_of_neg (by simpa using last), ← e, List.reverse_reverse]

/-- Where a file can be written: in a directory that the components before the last lead
to, under the last one. -/
theorem target_eq_ok {t : FileTree} {name : Text} {path : List Text}
    (h : t.target name = .ok path) :
    ∃ folder last, path = folder ++ [last] ∧ checkName name = .ok () ∧
      name.splitOn '/' = (components name).dropLast ++ [last] ∧
      t.walk (t.start name) (components name).dropLast = .ok folder ∧
      t.item? folder = some .directory ∧ ¬isStay last ∧ ¬isBack last ∧
      (Utf8.encode last).length ≤ maxName := by
  rw [target] at h
  split at h
  · exact nomatch h
  · next checked =>
    dsimp only at h
    split at h
    · exact nomatch h
    · next folder walked =>
      split at h
      · exact nomatch h
      · exact nomatch h
      · next there =>
        split_ifs at h with refused long
        rw [not_or, not_or] at refused
        obtain rfl := Except.ok.inj h
        -- the name is not empty and has no slash at its end, so no component was left out
        have ne : name ≠ [] := by
          rintro rfl
          exact nomatch checked
        have parts := components_eq_splitOn ne refused.2.2
        have some_part : components name ≠ [] := parts ▸ List.splitOn_ne_nil '/' name
        refine ⟨folder, _, rfl, checked, ?_, walked, there, refused.1, refused.2.1, by omega⟩
        rw [← parts, List.getLast?_eq_some_getLast some_part, Option.getD_some,
          List.dropLast_concat_getLast some_part]

/-- A name without slashes is that of a file in the working directory. -/
theorem target_of_slash_notMem {t : FileTree} {name : Text} {path : List Text}
    (plain : '/' ∉ name) (h : t.target name = .ok path) : path = t.here ++ [name] := by
  obtain ⟨folder, last, rfl, -, parts, walked, -⟩ := target_eq_ok h
  have single : name.splitOn '/' = [name] := by
    have plain : ∀ part ∈ [name], '/' ∉ part := by simpa using plain
    simpa using List.splitOn_intercalate '/' plain (by simp)
  have start : t.start name = t.here := by
    have front : name.head? ≠ some '/' := fun e => plain (List.mem_of_mem_head? e)
    rw [FileTree.start, if_neg front]
  have alone : [] ++ [name] = (components name).dropLast ++ [last] := single.symm.trans parts
  obtain ⟨no_folder, last_eq⟩ := List.append_inj' alone rfl
  rw [← no_folder, walk, start] at walked
  rw [← Except.ok.inj walked, ← List.singleton_inj.1 last_eq]

/-- What a write does: a file is put where there is no directory. -/
theorem write_eq_ok {t u : FileTree} {name : Text} {content : Bytes} {mode : Nat}
    (h : t.write name content mode = .ok u) :
    ∃ path, t.target name = .ok path ∧ t.item? path ≠ some .directory ∧
      u = t.put path (.file content mode) := by
  unfold write at h
  split at h
  · exact nomatch h
  · next path targeted =>
    split at h
    · exact nomatch h
    · next no_directory => exact ⟨path, targeted, no_directory, (Except.ok.inj h).symm⟩

/-- One file of the working directory holds some content, with a mode, and nothing else has
changed. If the name was taken, then not by a directory. -/
structure WritesHere (t u : FileTree) (name : Text) (content : Bytes) (mode : Nat) : Prop where
  here : u.here = t.here
  no_directory : t.item? (t.here ++ [name]) ≠ some .directory
  item? : ∀ p, u.item? p = if p = t.here ++ [name] then some (.file content mode) else t.item? p

/-- A write under a name without slashes does that. -/
theorem writesHere_of_write {t u : FileTree} {name : Text} {content : Bytes} {mode : Nat}
    (plain : '/' ∉ name) (h : t.write name content mode = .ok u) :
    WritesHere t u name content mode := by
  obtain ⟨path, targeted, no_directory, rfl⟩ := write_eq_ok h
  obtain rfl := target_of_slash_notMem plain targeted
  refine ⟨rfl, no_directory, fun p => ?_⟩
  split_ifs with e
  · rw [e, item?_put_self (List.concat_ne_nil name t.here)]
  · rw [item?_put_of_ne e]

theorem read_write {t u : FileTree} {name : Text} {content : Bytes} {mode : Nat}
    (h : t.write name content mode = .ok u) : u.read name = .ok content := by
  obtain ⟨path, targeted, no_directory, rfl⟩ := write_eq_ok h
  obtain ⟨folder, last, rfl, checked, parts, walked, there, stay, back, short⟩ :=
    target_eq_ok targeted
  -- the new file takes the place of no directory, so the way to it is still there
  have keep : ∀ p, t.item? p = some .directory →
      (t.put (folder ++ [last]) (.file content mode)).item? p = some .directory := by
    intro p hp
    have ne : p ≠ folder ++ [last] := by
      rintro rfl
      exact no_directory hp
    rw [item?_put_of_ne ne, hp]
  have step : (t.put (folder ++ [last]) (.file content mode)).walk folder [last] =
      .ok (folder ++ [last]) := by
    rw [walk_cons_eq_ok_iff]
    refine ⟨keep folder there, short, ?_⟩
    rw [advance, if_neg stay, if_neg back, walk]
  have located := walk_append (walk_of_directories keep walked) step
  rw [← parts] at located
  have start : (t.put (folder ++ [last]) (.file content mode)).start name = t.start name := rfl
  simp only [read, find, locate, checked, start, located, Item.read,
    item?_put_self (List.concat_ne_nil last folder)]

/-! ### Path names without a name -/

section Away

variable {t u : FileTree} {folder path q : List Text} {name input : Text} {cs : List Text}

/-- A component of another name leads neither to the item of a name nor to what is below it. -/
theorem not_prefix_advance {c : Text} (other : name ≠ c) (away : ¬ folder ++ [name] <+: path) :
    ¬ folder ++ [name] <+: advance path c := by
  unfold advance
  split_ifs
  · exact away
  · exact fun met => away (met.trans (List.dropLast_prefix path))
  · intro met
    rcases List.prefix_concat_iff.1 met with same | met
    · exact other (List.singleton_inj.1 (List.append_inj' same rfl).2)
    · exact away met

theorem not_prefix_of_walk (others : name ∉ cs) (away : ¬ folder ++ [name] <+: path)
    (h : t.walk path cs = .ok q) : ¬ folder ++ [name] <+: q := by
  induction cs generalizing path with
  | nil =>
    obtain rfl : path = q := Except.ok.inj h
    exact away
  | cons c cs ih =>
    obtain ⟨other, others⟩ := not_or.1 (mt List.mem_cons.2 others)
    exact ih others (not_prefix_advance other away) (walk_cons_eq_ok_iff.1 h).2.2

/-- Components of other names are followed without a look at the item of a name. -/
theorem walk_congr (agree : ∀ p, p ≠ folder ++ [name] → u.item? p = t.item? p)
    (others : name ∉ cs) (away : ¬ folder ++ [name] <+: path) :
    u.walk path cs = t.walk path cs := by
  induction cs generalizing path with
  | nil => rfl
  | cons c cs ih =>
    obtain ⟨other, others⟩ := not_or.1 (mt List.mem_cons.2 others)
    have here : u.item? path = t.item? path := agree path fun e => away (e ▸ List.prefix_rfl)
    rw [walk, walk, here, ih others (not_prefix_advance other away)]

theorem not_prefix_start (t : FileTree) (input name : Text) :
    ¬ t.here ++ [name] <+: t.start input := by
  intro met
  have short : (t.start input).length ≤ t.here.length := by
    unfold start
    split_ifs
    · exact Nat.zero_le _
    · exact Nat.le_refl _
  have long := met.length_le
  rw [List.length_append, List.length_singleton] at long
  omega

/-- A path name does not lead to a file of the working directory whose name is no component of
it. -/
theorem locate_ne_here (others : name ∉ input.splitOn '/') :
    t.locate input ≠ .ok (t.here ++ [name]) := by
  intro located
  unfold locate at located
  split at located
  · exact not_prefix_of_walk others (not_prefix_start t input name) located List.prefix_rfl
  · exact nomatch located

/-- What such a path name leads to is as it was when the file has been written. -/
theorem WritesHere.find_eq {content : Bytes} {mode : Nat} (h : WritesHere t u name content mode)
    (others : name ∉ input.splitOn '/') : u.find input = t.find input := by
  have agree : ∀ p, p ≠ t.here ++ [name] → u.item? p = t.item? p :=
    fun p other => (h.item? p).trans (if_neg other)
  have start : u.start input = t.start input := by rw [FileTree.start, FileTree.start, h.here]
  have located : u.locate input = t.locate input := by
    rw [locate, locate, start, walk_congr agree others (not_prefix_start t input name)]
  unfold find
  rw [located]
  split
  · rfl
  · next path found =>
    have other : path ≠ t.here ++ [name] := by
      rintro rfl
      exact locate_ne_here others found
    rw [agree path other]

end Away

end SecretEnv.FileTree

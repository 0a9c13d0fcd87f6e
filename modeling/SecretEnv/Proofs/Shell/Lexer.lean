import SecretEnv.Text

/-!
# Reading commands like a shell

The token rules of a POSIX shell for commands of plain words.

* A single quote opens a run of characters that stand for themselves, up to the
  next single quote; a backslash outside of such a run makes the next character
  stand for itself.
* Outside of quotes spaces and tabs divide words, and line feeds divide
  commands.
* Any other character that means something to a shell outside of quotes is
  refused, and so are a continued line and a text that ends inside quotes.

`Shell.lex` reads a text as commands. A word keeps for each of its characters
whether it was quoted, so that a reader sees what a shell might still expand.
-/

namespace SecretEnv.Shell

/-- A character of a word. -/
inductive Piece where
  /-- It stood outside of quotes. -/
  | bare (c : Char)
  /-- It was quoted, and stands for itself. -/
  | quoted (c : Char)
  deriving DecidableEq

/-- A word, which may have no characters. -/
abbrev Word := List Piece

/-- A command and its arguments. -/
abbrev Command := List Word

/-- How the next character is read. -/
inductive Mode where
  | plain
  /-- Behind a backslash. -/
  | escaped
  /-- Between single quotes. -/
  | quoted
  deriving DecidableEq

/-- What was read so far. -/
structure State where
  mode : Mode
  /-- The word that is being read, if one has begun. -/
  word : Option Word
  /-- The words before it in the same command. -/
  words : List Word
  /-- The commands before. -/
  commands : List Command
  deriving DecidableEq

/-- The characters that mean something to a shell outside of quotes, or may do so, apart
from quotes, blanks and the equals sign. -/
def special : Text := "|&;<>()$`\"*?[]#~%!\x7b\x7d^".toList

/-- Whether a character means nothing to a shell, wherever it stands. -/
def isPlain (c : Char) : Bool :=
  c ≠ '\n' && c ≠ ' ' && c ≠ '\t' && c ≠ '\'' && c ≠ '\\' && c ∉ special

namespace State

/-- Nothing was read. -/
def initial : State := ⟨.plain, none, [], []⟩

/-- One more character of the word; it begins with this one if none has begun. -/
def add (s : State) (p : Piece) : State := { s with word := some (s.word.getD [] ++ [p]) }

/-- The word is at its end, if one has begun. -/
def endWord (s : State) : State := { s with word := none, words := s.words ++ s.word.toList }

/-- The command is at its end. Without words there is none. -/
def endCommand (s : State) : State :=
  let words := s.endWord.words
  { s with word := none, words := [], commands := s.commands ++ if words = [] then [] else [words] }

/-- Read a character. -/
def step (s : State) (c : Char) : Option State :=
  match s.mode with
  | .quoted =>
    if c = '\'' then some { s with mode := .plain } else some (s.add (.quoted c))
  | .escaped => if c = '\n' then none else some { s.add (.quoted c) with mode := .plain }
  | .plain =>
    if c = '\n' then some s.endCommand
    else if c = ' ' ∨ c = '\t' then some s.endWord
    else if c = '\'' then some { s with mode := .quoted, word := some (s.word.getD []) }
    else if c = '\\' then some { s with mode := .escaped }
    else if c ∈ special then none
    else some (s.add (.bare c))

/-- Read a text. -/
def run : Text → State → Option State
  | [], s => some s
  | c :: t, s => (s.step c).bind (run t)

/-- The commands, if the text may end here. -/
def finish (s : State) : Option (List Command) :=
  if s.mode = .plain then some s.endCommand.commands else none

end State

/-- The commands of a text. -/
def lex (t : Text) : Option (List Command) := (State.run t .initial).bind State.finish

example : lex "a 'b;'\n".toList = some [[[.bare 'a'], [.quoted 'b', .quoted ';']]] := by decide

example : lex "a 'b';".toList = none := by decide

/-! ### Parts of a text -/

namespace State

variable {words : List Word} {commands : List Command}

@[simp] theorem run_nil (s : State) : run [] s = some s := rfl

theorem run_cons (c : Char) (t : Text) (s : State) : run (c :: t) s = (s.step c).bind (run t) := rfl

theorem run_append (t u : Text) (s : State) : run (t ++ u) s = (run t s).bind (run u) := by
  induction t generalizing s with
  | nil => rfl
  | cons c t ih =>
    rw [List.cons_append, run_cons, run_cons]
    cases s.step c with
    | none => rfl
    | some s' => rw [Option.bind_some, Option.bind_some, ih]

theorem step_of_isPlain {c : Char} (h : isPlain c = true) (w : Option Word) :
    step ⟨.plain, w, words, commands⟩ c =
      some ⟨.plain, some (w.getD [] ++ [.bare c]), words, commands⟩ := by
  simp only [isPlain, Bool.and_eq_true, decide_eq_true_eq] at h
  obtain ⟨⟨⟨⟨⟨feed, space⟩, tab⟩, quote⟩, backslash⟩, ordinary⟩ := h
  simp only [step, feed, space, tab, quote, backslash, ordinary, if_false, or_self, add]

/-- Characters that mean nothing are added to the word, which begins with them if none has
begun. -/
theorem run_of_isPlain {t : Text} (some_char : t ≠ []) (h : ∀ c ∈ t, isPlain c = true)
    (w : Option Word) :
    run t ⟨.plain, w, words, commands⟩ =
      some ⟨.plain, some (w.getD [] ++ t.map .bare), words, commands⟩ := by
  -- only the first character may have to begin a word
  induction t generalizing w with
  | nil => exact absurd rfl some_char
  | cons c t ih =>
    rw [run_cons, step_of_isPlain (h c List.mem_cons_self), Option.bind_some]
    cases t with
    | nil => rfl
    | cons d t =>
      rw [ih (List.cons_ne_nil d t) (fun e he => h e (List.mem_cons_of_mem c he)),
        Option.getD_some, List.append_assoc, List.map_cons (a := c), List.singleton_append]

theorem step_space (w : Word) :
    step ⟨.plain, some w, words, commands⟩ ' ' = some ⟨.plain, none, words ++ [w], commands⟩ := rfl

theorem step_feed (w : Word) :
    step ⟨.plain, some w, words, commands⟩ '\n' =
      some ⟨.plain, none, [], commands ++ [words ++ [w]]⟩ := by
  have some_word : words ++ [w] ≠ [] := by simp
  simp [step, endCommand, endWord, some_word]

/-- A quote opens and closes a run of quoted characters, and nothing else is one in it. -/
theorem step_open (w : Word) :
    step ⟨.plain, some w, words, commands⟩ '\'' = some ⟨.quoted, some w, words, commands⟩ := rfl

theorem step_close (w : Option Word) :
    step ⟨.quoted, w, words, commands⟩ '\'' = some ⟨.plain, w, words, commands⟩ := rfl

theorem step_quoted {c : Char} (h : c ≠ '\'') (w : Word) :
    step ⟨.quoted, some w, words, commands⟩ c =
      some ⟨.quoted, some (w ++ [.quoted c]), words, commands⟩ := by
  simp only [step, if_neg h, add, Option.getD_some]

theorem finish_eq (commands : List Command) :
    finish ⟨.plain, none, [], commands⟩ = some commands := by
  simp [finish, endCommand, endWord]

end State

end SecretEnv.Shell

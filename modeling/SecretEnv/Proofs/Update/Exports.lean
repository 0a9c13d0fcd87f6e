import SecretEnv.Proofs.CacheFile.ShellNames
import SecretEnv.Proofs.Load
import SecretEnv.Proofs.Update.AllOrNothing

/-!
# From an update to the variables of a shell

What a load exports of the cache file that an update left.

* `Update.run_of_exit`: what an update that ends well has done;
* `exports_of_update`: the names that are exported are the shell names among the
  resolved names, unless another name is read as a shell name, and the values
  are their own, unless such a name has the last word.
-/

namespace SecretEnv

/-- The variables that the printed lines export, with the words of their values. -/
def Run.exports (r : Run) : List (Text × Text) := Listing.exports r.lines

/-- An update that ends well has written the lines of what it resolved. -/
theorem Update.run_of_exit {o : UpdateOptions} {h : Host} {es : List Entry} {vars : Variables}
    (resolved : Update.resolved o h = .ok (es, vars)) (updated : (Update.run o h).exit = 0) :
    CacheFile.write h.files (CacheFile.name o.input) (Listing.lines (Update.style o es) vars) =
      .ok (Update.run o h).files := by
  rcases Update.run_cases o h with ⟨notices, e, failed⟩ |
    ⟨first, es', vars', files, notices, -, known, stored, done⟩
  · rw [failed, Run.exit_fail] at updated
    exact nomatch updated
  · obtain ⟨rfl, rfl⟩ := Prod.mk.inj (Except.ok.inj (resolved.symm.trans known))
    rw [done]
    exact stored

open CacheFile

/-- What a load exports after an update, beside what it should: the names that were resolved
and that a shell takes, each with the value that it has in a cache file of such names alone. -/
theorem exports_of_update {o : UpdateOptions} {h after : Host} {es : List Entry}
    {vars : Variables} (resolved : Update.resolved o h = .ok (es, vars))
    (updated : (Update.run o h).exit = 0) (left : after.files = (Update.run o h).files) :
    (Load.run { input := o.input, withExport := true, onlyUnset := false } after).exit = 0 ∧
      ((Load.run { input := o.input, withExport := true, onlyUnset := false } after).exports.map
          Prod.fst = (Text.ascending vars.keys).filter isShellName ↔
        ∀ p ∈ statements (Update.style o es) vars,
          isShellName (nameRead p.1) = true → nameRead p.1 ∈ vars.keys) ∧
      ((Load.run { input := o.input, withExport := true, onlyUnset := false } after).exports =
          exportsFound (Update.style o es) (vars.filterKeys isShellName) ↔
        ∀ n p, isShellName n = true → lastWord (Update.style o es) vars n = some p →
          ∃ v, vars.get? n = some v ∧
            Secret.unwrapQuotes (valueRead p) =
              Secret.unwrapQuotes (trimBareEnd (written (Update.style o es) v))) := by
  have stored := Update.run_of_exit resolved updated
  have known := read_write stored
  rw [← left] at known
  obtain ⟨done, printed⟩ := Load.run_of_read known
  rw [Run.exports, printed]
  exact ⟨done, names_exportsFound_eq_iff rfl rfl vars, exportsFound_eq_iff rfl rfl vars⟩

/-! ### Two secrets -/

namespace Update

/-- A host with one secret, given as JSON, and a document that asks for it. -/
def hostWith (secret : Text) : Host where
  files :=
    ((FileTree.workspace []).addFile [".env".toList] (Utf8.encode "sem://aws:sm/a/s".toList)
      none).addFile ["f.json".toList]
        (Utf8.encode ("\x7b\"s\":".toList ++ secret ++ "\x7d".toList)) none
  environment := .ofPairs [(fixtureVariable, "f.json".toList)]
  git := none
  gcloud := none

/-- The options of an update of that document. -/
def ofDocument : UpdateOptions := ⟨".env".toList, none, false, false⟩

/-- The host after the update. -/
def hostAfter (secret : Text) : Host :=
  { hostWith secret with files := (run ofDocument (hostWith secret)).files }

theorem files_hostAfter (secret : Text) :
    (hostAfter secret).files = (run ofDocument (hostWith secret)).files := rfl

/-- What a load then exports. -/
def exportsAfter (secret : Text) : List (Text × Text) :=
  (Load.run { input := ofDocument.input, withExport := true, onlyUnset := false }
    (hostAfter secret)).exports

/-- A secret with a member that no shell takes for a name, nor any part of it. -/
def hyphen : Text := "\x7b\"A\":\"1\",\"B-C\":\"2\"\x7d".toList

/-- A secret whose members hold equals signs. -/
def equals : Text := "\x7b\"A\":\"1\",\"A=B\":\"2\",\"C=D\":\"3\"\x7d".toList

end Update

/-- Of names with a hyphen nothing is exported. -/
theorem exports_of_update_hyphen :
    (Update.exportsAfter Update.hyphen).map Prod.fst = ["A".toList] := by
  have resolved : Update.resolved Update.ofDocument (Update.hostWith Update.hyphen) =
      .ok ([⟨1, "sem://aws:sm/a/s".toList, []⟩],
        .ofPairs [("A".toList, "1".toList), ("B-C".toList, "2".toList)]) := by
    decide +kernel
  have updated : (Update.run Update.ofDocument (Update.hostWith Update.hyphen)).exit = 0 := by
    decide +kernel
  have names := (exports_of_update resolved updated (Update.files_hostAfter Update.hyphen)).2.1.2
  rw [Update.exportsAfter]
  refine (names ?_).trans ?_
  · decide +kernel
  · decide +kernel

/-- An update warns of names with an equals sign and says that they will be skipped, and yet
a load exports them by their fronts: one takes the place of a variable of that name. -/
theorem exports_of_update_equals :
    Update.resolved Update.ofDocument (Update.hostWith Update.equals) =
        .ok ([⟨1, "sem://aws:sm/a/s".toList, []⟩],
          .ofPairs [("A".toList, "1".toList), ("A=B".toList, "2".toList),
            ("C=D".toList, "3".toList)]) ∧
      (Update.run Update.ofDocument (Update.hostWith Update.equals)).notices =
        [.untracked ".cache.env".toList, .notShellName "A=B".toList, .notShellName "C=D".toList,
          .updated 3 ".cache.env".toList] ∧
      Update.exportsAfter Update.equals =
        [("A".toList, Listing.shellWord "B='2'".toList),
          ("C".toList, Listing.shellWord "D='3'".toList)] := by
  refine ⟨?_, ?_, ?_⟩
  · decide +kernel
  · decide +kernel
  · decide +kernel

end SecretEnv

import SecretEnv.Load
import SecretEnv.Proofs.Listing.Order
import SecretEnv.Session

/-!
# What a load prints

* `Run.lines` are the lines of variables that a run prints, and `Load.stdout_run` says that a load
  prints nothing else;
* `Load.run_of_read`: a load of everything prints the lines of what it reads;
* `Load.Sets`: an environment sets a variable;
* `Load.lines_onlyUnset`: a load of what the environment does not set prints those lines that are
  of such variables, as they are and in the same order.
-/

namespace SecretEnv

/-- The lines of variables that a run prints. -/
def Run.lines (r : Run) : List Text :=
  r.notices.filterMap fun
    | .line text => some text
    | _ => none

namespace Load

variable {h : Host} {vars : Variables} {input : Text} {exported : Bool}

/-! ### Runs -/

theorem lines_notices (o : LoadOptions) (vars : Variables) (files : FileTree) :
    (Run.done (notices o vars) files).lines = Listing.lines (style o) vars := by
  simp [Run.lines, Run.done, notices, List.filterMap_map]

/-- A load prints the lines of the variables that it selects. -/
theorem run_eq_done (o : LoadOptions)
    (known : CacheFile.read h.files (CacheFile.name o.input) = .ok vars) :
    run o h = .done (notices o (selected o h.environment vars)) h.files := by
  unfold run
  rw [known]

theorem run_eq_fail (o : LoadOptions) {e : CacheFileError}
    (unknown : CacheFile.read h.files (CacheFile.name o.input) = .error e) :
    run o h = .fail h [] (.cacheFile e) := by
  unfold run
  rw [unknown]

/-- A load of everything prints the lines of what it reads. -/
theorem run_of_read (known : CacheFile.read h.files (CacheFile.name input) = .ok vars) :
    (run { input := input, withExport := exported, onlyUnset := false } h).exit = 0 ∧
      (run { input := input, withExport := exported, onlyUnset := false } h).lines =
        Listing.lines { exported := exported } vars := by
  rw [run_eq_done ⟨input, exported, false⟩ known]
  exact ⟨rfl, lines_notices _ vars h.files⟩

/-- A load prints its lines, each with a line feed, and nothing else. -/
theorem stdout_run (c : Console) (o : LoadOptions) (h : Host) :
    c.stdout (run o h).notices = (run o h).lines.flatMap (· ++ ['\n']) := by
  cases known : CacheFile.read h.files (CacheFile.name o.input) with
  | error e =>
    rw [run_eq_fail o known]
    rfl
  | ok vars =>
    rw [run_eq_done o known, lines_notices]
    show c.stdout (notices o _) = _
    rw [notices, Console.stdout_append, Console.stdout_skipped, Console.stdout_lines,
      List.nil_append]

/-! ### What the environment sets -/

/-- An environment sets a variable: it can set none with the empty name, or with an equals sign or
NUL in its name. -/
def Sets (env : TextMap) (name : Text) : Prop :=
  name ≠ [] ∧ '=' ∉ name ∧ Char.ofNat 0 ∉ name ∧ name ∈ env.keys

instance (env : TextMap) (name : Text) : Decidable (Sets env name) :=
  inferInstanceAs (Decidable (_ ∧ _ ∧ _ ∧ _))

theorem isSet_eq_decide (env : TextMap) (name : Text) :
    isSet env name = decide (Sets env name) := by
  rw [Bool.eq_iff_iff, decide_eq_true_eq, isSet, Bool.and_eq_true, TextMap.contains_eq_true_iff]
  simp [Sets, and_assoc]

/-- What is not set of variables is shown as it would be among all of them. -/
theorem lines_unset (style : LineStyle) (env : TextMap) (vars : Variables) :
    Listing.lines style (vars.filterKeys fun name => !isSet env name) =
      ((vars.ordered.filter fun p => Listing.keeps style p.1).filter fun p =>
        ¬ Sets env p.1).map fun p => Listing.line style p.1 p.2 := by
  simp only [Listing.lines_eq, TextMap.ordered_filterKeys, List.filter_filter, isSet_eq_decide,
    decide_not, Bool.and_comm]

/-- A load of everything prints one line for each variable that its style keeps, in ascending
order of the names. A load of what the environment does not set prints the same lines of the same
variables, in the same order, but for those that the environment sets. -/
theorem lines_onlyUnset (input : Text) (exported : Bool) (h : Host) :
    ∃ shown : List (Text × Text),
      (shown.map Prod.fst).Pairwise Text.Before ∧
      (∀ k v, (k, v) ∈ shown ↔ ∃ vars,
        CacheFile.read h.files (CacheFile.name input) = .ok vars ∧ (k, v) ∈ vars.pairs ∧
          ¬ Address.scheme <+: k ∧ (exported = true → isShellName k = true)) ∧
      (run ⟨input, exported, false⟩ h).lines =
        shown.map (fun p => Listing.line { exported := exported } p.1 p.2) ∧
      (run ⟨input, exported, true⟩ h).lines =
        (shown.filter fun p => ¬ Sets h.environment p.1).map
          (fun p => Listing.line { exported := exported } p.1 p.2) ∧
      ∀ unset, (Session.command h (.load ⟨input, exported, unset⟩)).stdout =
        (run ⟨input, exported, unset⟩ h).lines.flatMap (· ++ ['\n']) := by
  have printed (unset : Bool) : (Session.command h (.load ⟨input, exported, unset⟩)).stdout =
      (run ⟨input, exported, unset⟩ h).lines.flatMap (· ++ ['\n']) :=
    stdout_run (Console.ofEnvironment h.environment) _ h
  cases known : CacheFile.read h.files (CacheFile.name input) with
  | error e =>
    refine ⟨[], .nil, fun k v => ⟨nofun, ?_⟩, ?_, ?_, printed⟩
    · rintro ⟨vars, found, -⟩
      exact nomatch found
    · rw [run_eq_fail ⟨input, exported, false⟩ known]
      rfl
    · rw [run_eq_fail ⟨input, exported, true⟩ known]
      rfl
  | ok vars =>
    refine ⟨vars.ordered.filter fun p => Listing.keeps { exported := exported } p.1, ?_,
      fun k v => ?_, ?_, ?_, printed⟩
    · exact (TextMap.pairwise_filter_ordered _ vars).imp Text.compare_eq_lt_iff.1
    · rw [List.mem_filter, TextMap.mem_ordered_iff, ← TextMap.mem_pairs_iff,
        Listing.keeps_eq_true_iff]
      simp
    · rw [(run_of_read known).2, Listing.lines_eq]
    · rw [run_eq_done ⟨input, exported, true⟩ known, lines_notices]
      exact lines_unset { exported := exported } h.environment vars

end Load
end SecretEnv

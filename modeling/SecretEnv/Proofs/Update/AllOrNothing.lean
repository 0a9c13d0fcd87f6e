import SecretEnv.Proofs.CacheFile.Names
import SecretEnv.Proofs.FileTree
import SecretEnv.Session

/-!
# All or nothing

What an update makes of the files of its host.

* `Update.run_cases`: an update fails and leaves everything as it was, or it has
  come through all of its stages;
* `IgnoreStatus.Permits` says when git lets a cache file be written, and
  `Update.permits_of_guard` that nothing is written otherwise;
* `session_update`: a session that fails has changed no file, and one that ends
  well has written the cache file and nothing else.
-/

namespace SecretEnv

/-- A cache file that was written holds the encoded lines, and is for its owner only. -/
theorem CacheFile.writesHere_of_write {t u : FileTree} {input : Text} {lines : List Text}
    (h : CacheFile.write t (CacheFile.name input) lines = .ok u) :
    t.WritesHere u (CacheFile.name input) (Utf8.encode (CacheFile.content lines)) 0o600 := by
  unfold CacheFile.write at h
  cases written : t.write (CacheFile.name input) (Utf8.encode (CacheFile.content lines)) mode with
  | error e =>
    rw [written] at h
    exact nomatch h
  | ok v =>
    rw [written] at h
    obtain rfl := Except.ok.inj h
    exact FileTree.writesHere_of_write (notMem_name (.inl rfl) input) written

/-! ### What git has to say -/

namespace IgnoreStatus

/-- Git lets a cache file be written: it is not installed, or it ignores the file, or its answer is
neither a yes nor a no, and it complains that there is no repository. -/
def Permits (git : Option Program) (cache : Text) : Prop :=
  git = none ∨ ∃ run, git = some run ∧
    ((run (arguments cache)).exit = some 0 ∨
      (run (arguments cache)).exit ≠ some 0 ∧ (run (arguments cache)).exit ≠ some 1 ∧
        "not a git repository".toList <:+: Utf8.decodeLossy (run (arguments cache)).stderr)

/-- The answers that are no refusal. -/
theorem read_eq_ok {out : Outcome} {s : IgnoreStatus} (h : read out = .ok s)
    (willing : s ≠ .notIgnored) :
    out.exit = some 0 ∨ out.exit ≠ some 0 ∧ out.exit ≠ some 1 ∧
      "not a git repository".toList <:+: Utf8.decodeLossy out.stderr := by
  unfold read at h
  dsimp only at h
  split_ifs at h with yes no complaint
  · exact .inl yes
  · exact absurd (Except.ok.inj h).symm willing
  · exact .inr ⟨yes, no, Text.mentions_iff_infix.1 complaint⟩

theorem permits_of_check {git : Option Program} {cache : Text} {s : IgnoreStatus}
    (h : check git cache = .ok s) (willing : s ≠ .notIgnored) : Permits git cache := by
  unfold check at h
  cases git with
  | none => exact .inl rfl
  | some run =>
    refine .inr ⟨run, rfl, ?_⟩
    unfold Program.start at h
    by_cases accepted : Program.accepts (arguments cache) = true
    · simp only [accepted, Bool.not_true, Bool.false_eq_true, if_false] at h
      exact read_eq_ok h willing
    · simp only [accepted, Bool.not_false, if_true] at h
      exact nomatch h

end IgnoreStatus

/-! ### The stages of an update -/

theorem bind_eq_ok {ε α β : Type} {x : Except ε α} {f : α → Except ε β} {b : β}
    (h : x >>= f = .ok b) : ∃ a, x = .ok a ∧ f a = .ok b := by
  cases x with
  | error e => exact nomatch h
  | ok a => exact ⟨a, rfl, h⟩

namespace Update

/-- Only with git's permission an update goes on. -/
theorem permits_of_guard {git : Option Program} {cache : Text} {first : List Notice}
    (h : guard git cache = .ok first) : IgnoreStatus.Permits git cache := by
  unfold guard at h
  cases checked : IgnoreStatus.check git cache with
  | error e =>
    rw [checked] at h
    exact nomatch h
  | ok s =>
    refine IgnoreStatus.permits_of_check checked ?_
    rintro rfl
    rw [checked] at h
    exact nomatch h

theorem entries_eq_ok {files : FileTree} {input : Text} {es : List Entry}
    (h : entries files input = .ok es) :
    ∃ bytes, files.read input = .ok bytes ∧ Document.entries bytes = es := by
  unfold entries at h
  unfold FileTree.read
  split at h
  · exact nomatch h
  · exact nomatch h
  · next item found =>
    split at h
    · exact nomatch h
    · next bytes content =>
      rw [found]
      exact ⟨bytes, content, Except.ok.inj h⟩

/-- What was read, what it was resolved with, and what came of it. -/
theorem resolved_eq_ok {o : UpdateOptions} {h : Host} {es : List Entry} {vars : Variables}
    (known : resolved o h = .ok (es, vars)) :
    ∃ bytes g, h.files.read o.input = .ok bytes ∧ Document.entries bytes = es ∧
      registry h = .ok g ∧ (g.resolve o.noExpandJson es).1 = .ok vars := by
  unfold resolved at known
  obtain ⟨es', entered, known⟩ := bind_eq_ok known
  obtain ⟨g, registered, known⟩ := bind_eq_ok known
  obtain ⟨bytes, read, parsed⟩ := entries_eq_ok entered
  split at known
  · next vars' result =>
    obtain ⟨rfl, rfl⟩ := Prod.mk.inj (Except.ok.inj known)
    exact ⟨bytes, g, read, parsed, registered, result⟩
  · exact nomatch known

/-- An update fails at one of its stages, with its host as it was, or passes them all. -/
theorem run_cases (o : UpdateOptions) (h : Host) :
    (∃ notices e, run o h = .fail h notices e) ∨
      ∃ first es vars files notices, guard h.git (CacheFile.name o.input) = .ok first ∧
        resolved o h = .ok (es, vars) ∧
        CacheFile.write h.files (CacheFile.name o.input) (Listing.lines (style o es) vars) =
          .ok files ∧
        run o h = .done notices files := by
  unfold run
  dsimp only
  cases guarded : guard h.git (CacheFile.name o.input) with
  | error e => exact .inl ⟨_, _, rfl⟩
  | ok first =>
    cases known : resolved o h with
    | error e => exact .inl ⟨_, _, rfl⟩
    | ok result =>
      obtain ⟨es, vars⟩ := result
      dsimp only
      cases written : CacheFile.write h.files (CacheFile.name o.input)
          (Listing.lines (style o es) vars) with
      | error e => exact .inl ⟨_, _, rfl⟩
      | ok files => exact .inr ⟨first, es, vars, files, _, rfl, rfl, written, rfl⟩

end Update

/-! ### Sessions -/

theorem Session.run_of_update {h : Host} {args : List Text} {verbose : Bool} {o : UpdateOptions}
    (asked : CommandLine.parse h.environment args = .ok ⟨verbose, .update o⟩) :
    (Session.run h args).exit = tornExit ∧ (Session.run h args).files = h.files ∨
      (Session.run h args).exit = (Update.run o h).exit ∧
        (Session.run h args).files = (Update.run o h).files := by
  unfold Session.run
  simp only [asked]
  split_ifs
  · exact .inl ⟨rfl, rfl⟩
  · exact .inr ⟨rfl, rfl⟩

/-- A session of an update that fails has left the files as they were. One that ends well has
written the lines of what the input resolves to into the cache file, for its owner only, and
nothing else, and git has permitted it. -/
theorem session_update {h : Host} {args : List Text} {verbose : Bool} {o : UpdateOptions}
    (asked : CommandLine.parse h.environment args = .ok ⟨verbose, .update o⟩) :
    ((Session.run h args).exit ≠ 0 → (Session.run h args).files = h.files) ∧
      ((Session.run h args).exit = 0 →
        (∃ bytes g vars, h.files.read o.input = .ok bytes ∧ Update.registry h = .ok g ∧
          (g.resolve o.noExpandJson (Document.entries bytes)).1 = .ok vars ∧
          h.files.WritesHere (Session.run h args).files (CacheFile.name o.input)
            (Utf8.encode (CacheFile.content
              (Listing.lines (Update.style o (Document.entries bytes)) vars))) 0o600) ∧
        IgnoreStatus.Permits h.git (CacheFile.name o.input)) := by
  rcases Session.run_of_update asked with ⟨exit, files⟩ | ⟨exit, files⟩
  · rw [exit, files]
    exact ⟨fun _ => rfl, fun torn => absurd torn (by decide)⟩
  · rw [exit, files]
    rcases Update.run_cases o h with ⟨notices, e, failed⟩ |
      ⟨first, es, vars, files, notices, guarded, known, written, done⟩
    · rw [failed]
      exact ⟨fun _ => rfl, fun well => absurd well (by simp)⟩
    · rw [done]
      refine ⟨fun bad => absurd (Run.exit_done notices files) bad, fun _ => ⟨?_, ?_⟩⟩
      · obtain ⟨bytes, g, read, rfl, registered, result⟩ := Update.resolved_eq_ok known
        exact ⟨bytes, g, vars, read, registered, result, CacheFile.writesHere_of_write written⟩
      · exact Update.permits_of_guard guarded

/-! ### Two answers of git -/

namespace Update

/-- A host with a document of a value and a secret, and an older cache file that everyone can
read, where git gives some answer. -/
def hostWhere (answer : Outcome) : Host where
  files :=
    ((FileTree.workspace []).addFile [".env".toList]
      (Utf8.encode "A=1\nB=sem://googlecloud:sm/p/s".toList) none).addFile [".cache.env".toList]
        (Utf8.encode "A='0'\n".toList) none
  environment := .empty
  git := some fun _ => answer
  gcloud := some fun _ => ⟨Utf8.encode "x".toList, [], some 0⟩

/-- Git does not ignore the file. -/
def refusal : Outcome := ⟨[], [], some 1⟩

/-- Git finds no repository. -/
def complaint : Outcome := ⟨[], Utf8.encode "fatal: not a git repository".toList, some 128⟩

end Update

open Update in
/-- Where git refuses, the older cache file stays. Where it finds no repository, the cache file
is replaced and closed to others, and all else stays. -/
theorem session_update_answers :
    (Session.run (hostWhere refusal) ["update".toList]).files = (hostWhere refusal).files ∧
      (Session.run (hostWhere complaint) ["update".toList, "-q".toList]).files.item?
          [".cache.env".toList] = some (.file (Utf8.encode "A=1\nB=x\n".toList) 0o600) ∧
      ∀ p, p ≠ [".cache.env".toList] →
        (Session.run (hostWhere complaint) ["update".toList, "-q".toList]).files.item? p =
          (hostWhere complaint).files.item? p := by
  have quoted : CommandLine.parse (hostWhere refusal).environment ["update".toList] =
      .ok ⟨false, .update ⟨".env".toList, none, false, false⟩⟩ := by
    rfl
  have bare : CommandLine.parse (hostWhere complaint).environment
      ["update".toList, "-q".toList] = .ok ⟨false, .update ⟨".env".toList, none, true, false⟩⟩ := by
    rfl
  refine ⟨(session_update quoted).1 ?_, ?_, fun p elsewhere => ?_⟩
  · decide +kernel
  · decide +kernel
  · obtain ⟨⟨_, _, _, -, -, -, written⟩, -⟩ := (session_update bare).2 (by decide +kernel)
    exact (written.item? p).trans (if_neg elsewhere)

end SecretEnv

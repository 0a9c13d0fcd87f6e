import SecretEnv.Proofs.Update.AllOrNothing

/-!
# Where an update writes

* `CacheFile.name_notMem_components`: the name of a cache file is no part of the path of the
  input, however that is spelled, as it is longer than the whole of it;
* `Update.writesHere_of_run`: what an update writes is in the working directory;
* `Update.name_and_place`: which inputs share a cache file, and that no update writes onto its
  own input.
-/

namespace SecretEnv

theorem CacheFile.name_notMem_components (input : Text) :
    CacheFile.name input ∉ input.splitOn '/' := by
  intro mem
  have part : CacheFile.name input <:+: input := by
    have found := Parts.infix_intercalate ['/'] mem
    rwa [List.intercalate_splitOn] at found
  exact absurd part.length_le (Nat.not_le.2 (length_lt_length_name input))

namespace Update

/-- An update fails and leaves all files as they were, or it ends well and has written the cache
file into the working directory. -/
theorem writesHere_of_run (o : UpdateOptions) (h : Host) :
    ((run o h).exit ≠ 0 ∧ (run o h).files = h.files) ∨
      ((run o h).exit = 0 ∧ ∃ content,
        h.files.WritesHere (run o h).files (CacheFile.name o.input) content 0o600) := by
  rcases run_cases o h with ⟨notices, e, failed⟩ | ⟨_, _, _, _, notices, -, -, written, done⟩
  · rw [failed, Run.exit_fail]
    exact .inl ⟨Nat.one_ne_zero, rfl⟩
  · rw [done]
    exact .inr ⟨rfl, _, CacheFile.writesHere_of_write written⟩

/-- An update leaves what its input leads to as it was. -/
theorem find_input_of_run (o : UpdateOptions) (h : Host) :
    (run o h).files.find o.input = h.files.find o.input := by
  rcases writesHere_of_run o h with ⟨-, same⟩ | ⟨-, content, written⟩
  · rw [same]
  · exact written.find_eq (CacheFile.name_notMem_components o.input)

/-- Two inputs share a cache file exactly if their paths are equal with underscores for slashes
and backslashes, or one of them is then the other with a dot in front that the other lacks. The
name begins with the stem and a dot, has no slash and no backslash, and is longer than the input,
in characters and in bytes. So whatever an update writes is directly in the working directory,
and the path of its input does not lead there: the input is found after the update as before. -/
theorem name_and_place (a b : Text) :
    (CacheFile.name a = CacheFile.name b ↔
      CacheFile.flatten a = CacheFile.flatten b ∨
        (CacheFile.flatten a = '.' :: CacheFile.flatten b ∧
          (CacheFile.flatten b).head? ≠ some '.') ∨
        (CacheFile.flatten b = '.' :: CacheFile.flatten a ∧
          (CacheFile.flatten a).head? ≠ some '.')) ∧
      ".cache.".toList <+: CacheFile.name a ∧
      '/' ∉ CacheFile.name a ∧ '\\' ∉ CacheFile.name a ∧
      a.length < (CacheFile.name a).length ∧
      (Utf8.encode a).length < (Utf8.encode (CacheFile.name a)).length ∧
      ∀ (options : UpdateOptions) (h : Host),
        (((run { options with input := a } h).exit ≠ 0 ∧
            (run { options with input := a } h).files = h.files) ∨
          ((run { options with input := a } h).exit = 0 ∧
            ∃ content, h.files.WritesHere (run { options with input := a } h).files
              (CacheFile.name a) content 0o600)) ∧
        h.files.locate a ≠ .ok (h.files.here ++ [CacheFile.name a]) ∧
        (run { options with input := a } h).files.find a = h.files.find a := by
  refine ⟨CacheFile.name_eq_name_iff, CacheFile.prefix_name a,
    CacheFile.notMem_name (.inl rfl) a, CacheFile.notMem_name (.inr rfl) a,
    CacheFile.length_lt_length_name a, CacheFile.length_encode_lt_name a, fun options h => ?_⟩
  exact ⟨writesHere_of_run { options with input := a } h,
    FileTree.locate_ne_here (CacheFile.name_notMem_components a),
    find_input_of_run { options with input := a } h⟩

/-- A separator in front becomes an underscore, to which the dot is put that is there in the other
path. -/
example : CacheFile.name "/a\\b".toList = CacheFile.name "._a_b".toList := by decide

end Update
end SecretEnv

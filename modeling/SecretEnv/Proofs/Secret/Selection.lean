import SecretEnv.Proofs.Json.Navigation
import SecretEnv.Proofs.Json.WrittenNumbers
import SecretEnv.Proofs.Secret.Cleaning

/-!
# One value of a secret, and all of them

* `Secret.get?_expand`: a scalar of a secret becomes a variable named after its path;
* `Secret.scalar_of_scalarAt`: the path in writing, with dots between its steps, selects the
  same scalar;
* `Secret.expand_and_scalar`: both at once.
-/

namespace SecretEnv.Secret

open Json (ScalarAt)

variable {raw name : Text} {v w : Json} {p : Json.Path}

/-- A scalar whose name no other scalar has becomes the variable of that name. -/
theorem get?_expand (parsed : Json.parse? raw = some v) (container : v.isContainer = true)
    (leaf : ScalarAt v p w)
    (alone : ∀ q u, ScalarAt v q u → q.nameIn name = p.nameIn name → q = p) (fallback : Text) :
    (expand name fallback raw).get? (p.nameIn name) = some w.plain := by
  have distinct := (Json.ordered_of_parse? parsed).distinct
  unfold expand
  rw [parsed]
  simp only [container, if_true, Json.expandInto, Json.leaves_eq]
  refine TextMap.get?_ofPairs_of_mem (List.mem_map_of_mem ((Json.mem_scalars_iff v).2 leaf)) ?_
  intro l mem same
  obtain ⟨⟨q, u⟩, held, rfl⟩ := List.mem_map.1 mem
  have other := (Json.mem_scalars_iff v).1 held
  obtain rfl := alone q u other same
  exact congrArg Json.plain (other.unique distinct leaf)

theorem unwrapQuotes_plain (single : w.isContainer = false) (other : ∀ t, w ≠ .string t) :
    unwrapQuotes w.plain = w.plain := by
  refine unwrapQuotes_of_head fun c head => ?_
  cases w with
  | null => exact Option.some.inj head ▸ by decide
  | bool b => cases b <;> exact Option.some.inj head ▸ by decide
  | number n =>
    have numeral := Json.isNumeralChar_of_mem_render (n := n) (List.mem_of_mem_head? head)
    constructor <;>
      · rintro rfl
        exact absurd numeral (by decide)
  | string t => exact absurd rfl (other t)
  | array items => cases single
  | object members => cases single

/-- The steps to a scalar, with dots between them, select it. -/
theorem scalar_of_scalarAt (parsed : Json.parse? raw = some v) (container : v.isContainer = true)
    (leaf : ScalarAt v p w) (short : ∀ i, .item i ∈ p → i < Json.signedLimit)
    (dotless : ∀ s ∈ p, '.' ∉ s.text) :
    scalar raw (some (List.intercalate ['.'] (p.map Json.Segment.text))) =
      .ok (unwrapQuotes (foundText w)) := by
  have distinct := (Json.ordered_of_parse? parsed).distinct
  have ne : p.map Json.Segment.text ≠ [] := fun e => leaf.ne_nil container (List.map_eq_nil_iff.1 e)
  have parts : ∀ t ∈ p.map Json.Segment.text, '.' ∉ t := List.forall_mem_map.2 dotless
  have small : ∀ i, .item i ∈ p → i < Json.wordLimit :=
    fun i mem => Nat.lt_trans (short i mem) (by decide)
  unfold scalar
  simp only [parsed, Json.segments_intercalate parts ne,
    Json.navigate_of_scalarAt distinct leaf small]

/-- A scalar of a secret becomes the variable that is named after its path, if no other scalar
has that name; and the steps of the path, with dots between them, select it. A string is then
cleaned and its quotes are taken off, and any other scalar is the same text in both. -/
theorem expand_and_scalar (parsed : Json.parse? raw = some v) (container : v.isContainer = true)
    (leaf : ScalarAt v p w) (short : ∀ i, .item i ∈ p → i < Json.signedLimit)
    (dotless : ∀ s ∈ p, '.' ∉ s.text)
    (alone : ∀ q u, ScalarAt v q u → q.nameIn name = p.nameIn name → q = p) (fallback : Text) :
    (expand name fallback raw).get? (p.nameIn name) = some w.plain ∧
      scalar raw (some (List.intercalate ['.'] (p.map Json.Segment.text))) =
        .ok (match w with
          | .string t => unwrapQuotes (clean t)
          | w => w.plain) := by
  refine ⟨get?_expand parsed container leaf alone fallback, ?_⟩
  rw [scalar_of_scalarAt parsed container leaf short dotless]
  split
  · rfl
  · next other =>
    have text : foundText w = w.plain := by
      cases w with
      | string t => exact absurd rfl (other t)
      | _ => rfl
    rw [text, unwrapQuotes_plain leaf.single other]

/-- A secret with an empty name, names that look like indices, and a string with a control
character between quotes. -/
def tangled : Text :=
  "\x7b\"b.b\":0,\"\":[true,\x7b\"-\":\"'x\\u0007'\",\"1\":null\x7d],\"0\":-1\x7d".toList

/-- It is found under the empty name, in the second item, under a minus sign. -/
theorem expand_and_scalar_tangled :
    (expand "P".toList [] tangled).get? "P__1_-".toList = some "'x\x07'".toList ∧
      scalar tangled (some ".1.-".toList) = .ok "x".toList := by
  let inner : Json := .object [(['-'], .string "'x\x07'".toList), (['1'], .null)]
  let root : Json := .object [([], .array [.bool true, inner]), (['0'], .number (.integer (-1))),
    ("b.b".toList, .number (.integer 0))]
  let path : Json.Path := [.member [], .item 1, .member ['-']]
  have parsed : Json.parse? tangled = some root := by decide +kernel
  have leaf : ScalarAt root path (.string "'x\x07'".toList) :=
    .member List.mem_cons_self (.item rfl (.member List.mem_cons_self (.scalar rfl)))
  have short : ∀ i, .item i ∈ path → i < Json.signedLimit := by
    intro i mem
    obtain rfl : i = 1 := by simpa [path] using mem
    decide
  have names : ∀ l ∈ root.scalars, l.1.nameIn ['P'] = path.nameIn ['P'] → l.1 = path := by
    decide +kernel
  have alone : ∀ q u, ScalarAt root q u → q.nameIn ['P'] = path.nameIn ['P'] → q = path :=
    fun q u found => names (q, u) ((Json.mem_scalars_iff root).2 found)
  have found := expand_and_scalar parsed rfl leaf short (by decide +kernel) alone []
  have cleaned : unwrapQuotes (clean "'x\x07'".toList) = "x".toList := by decide +kernel
  rw [← cleaned]
  exact found

end SecretEnv.Secret

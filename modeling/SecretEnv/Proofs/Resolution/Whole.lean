import SecretEnv.Proofs.Json.RoundTrip
import SecretEnv.Proofs.Listing.Lines
import SecretEnv.Proofs.Resolution.Names
import SecretEnv.Proofs.Secret.Cleaning

/-!
# Secrets that are kept whole

What becomes of the JSON value of a secret that is not divided.

* `Secret.exists_scalar_whole`: cleaned and without quotes, an object or array is one still;
* `Listing.shownValue_of_container`: without blanks it is shown as its own text;
* `resolveLines_whole`: an entry gives one variable with such a value, the value of the secret
  unless a character of a string was dropped.
-/

namespace SecretEnv

variable {raw value : Text} {u v : Json}

namespace Registry

variable {g : Registry} {e : Entry} {a : Address} {whole : Bool}

/-- The secret under a name of its own. -/
def renamed : Entry := ⟨1, ['K'], "sem://aws:sm/a/s".toList⟩

end Registry
end SecretEnv

import SecretEnv.Backend
import SecretEnv.Text.Ascending
import SecretEnv.Text.Escaped

/-!
# The registry of backends

Backends are registered for platforms. A later one takes the place of an
earlier one for the same platform, and brings an empty cache with it.

* `Registry.fetch` asks the cache of the address's platform, then its backend.
  Only successes are cached.
* `Registry.fetchDirect` asks one backend and leaves the caches alone.

Every backend counts its calls, be it replaced or not.
-/

namespace SecretEnv

/-- A backend that was registered. -/
structure Registered where
  platform : Text
  backend : Backend
  /-- What was fetched through the registry, under cache keys. -/
  cache : TextMap
  /-- How often the backend was asked. -/
  calls : Nat

namespace Registered

/-- Ask the backend. -/
def ask (r : Registered) (a : Address) : Except BackendError Text × Registered :=
  (r.backend.answer a, { r with calls := r.calls + 1 })

/-- Ask the cache, then the backend, and cache its success. -/
def fetch (r : Registered) (a : Address) : Except BackendError Text × Registered :=
  match r.cache.get? a.cacheKey with
  | some secret => (.ok secret, r)
  | none =>
    match r.backend.answer a with
    | .ok secret =>
      (.ok secret, { r with calls := r.calls + 1, cache := r.cache.insert a.cacheKey secret })
    | .error e => (.error e, { r with calls := r.calls + 1 })

end Registered

/-- All backends that were ever registered, the latest first. -/
structure Registry where
  latestFirst : List Registered

namespace Registry

/-- The registry without backends. -/
def empty : Registry := ⟨[]⟩

/-- Register a backend for a platform. -/
def register (g : Registry) (platform : Text) (backend : Backend) : Registry :=
  ⟨⟨platform, backend, TextMap.empty, 0⟩ :: g.latestFirst⟩

/-- The backend that serves a platform: the latest one registered for it. -/
def serving? (g : Registry) (platform : Text) : Option Registered :=
  g.latestFirst.find? fun r => r.platform = platform

/-- Whether a platform is served. -/
def contains (g : Registry) (platform : Text) : Bool := (g.serving? platform).isSome

/-- How many secrets of a platform are cached. -/
def cached (g : Registry) (platform : Text) : Nat :=
  ((g.serving? platform).map fun r => r.cache.size).getD 0

/-- The platforms that are served, in ascending order. -/
def platforms (g : Registry) : List Text :=
  Text.ascending (g.latestFirst.map Registered.platform)

/-- Whether no platform is served. -/
def isEmpty (g : Registry) : Bool := g.latestFirst.isEmpty

/-- The calls of every backend in the order of registration. -/
def callCounts (g : Registry) : List Nat := (g.latestFirst.map Registered.calls).reverse

/-- Fetch through the first backend for the address's platform. -/
def fetchFrom (a : Address) :
    List Registered → Option (Except BackendError Text) × List Registered
  | [] => (none, [])
  | r :: rest =>
    if r.platform = a.platform then (some (r.fetch a).1, (r.fetch a).2 :: rest)
    else ((fetchFrom a rest).1, r :: (fetchFrom a rest).2)

/-- Fetch a secret; nothing comes back if its platform is not served. -/
def fetch (g : Registry) (a : Address) : Option (Except BackendError Text) × Registry :=
  ((fetchFrom a g.latestFirst).1, ⟨(fetchFrom a g.latestFirst).2⟩)

/-- Ask the backend that was registered as the `n`th, from 0, past the caches. -/
def fetchDirect (g : Registry) (n : Nat) (a : Address) :
    Option (Except BackendError Text) × Registry :=
  let i := g.latestFirst.length - 1 - n
  if n < g.latestFirst.length then
    match g.latestFirst[i]? with
    | some r => (some (r.ask a).1, ⟨g.latestFirst.set i (r.ask a).2⟩)
    | none => (none, g)
  else (none, g)

/-- The registry as shown to a developer. -/
def render (g : Registry) : Text :=
  "Backends \x7b platforms: [".toList ++
    List.intercalate [',', ' '] (g.platforms.map Text.Escaped.quoted) ++ "] \x7d".toList

end Registry
end SecretEnv

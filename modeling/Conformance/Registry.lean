import Conformance.Item.Basic
import Conformance.Segment.Compile

/-!
The pattern registry: item types by name, and a cache of compiled segments.

Types are kept in the order of their first registration, a name equal up to ASCII case replacing
its type in place, and lookups trim the name and ignore ASCII case. The cache maps a segment, its
number of external groups and its case rule to the matcher compiled from them, each entry numbered
by its insertion, and keeps no failure; compilations run in `Build`, which keeps the registry when
an error ends them.
-/

set_option autoImplicit false

namespace Conformance

open Conformance.Text

/-- What a cached matcher was compiled from. -/
structure SegmentKey where
  segment : String
  external : Nat
  ignoreCase : Bool
deriving Repr, BEq, DecidableEq, Inhabited

/-- A cached matcher and the number of its insertion. -/
structure CacheEntry where
  key : SegmentKey
  serial : Nat
  matcher : Matcher
deriving Inhabited

/-- Item types and compiled segments. -/
structure Registry where
  types : List ItemType := []
  cache : List CacheEntry := []
  /-- The number the next cache entry gets. -/
  serial : Nat := 0
deriving Inhabited

/-- A compilation against the registry; an error keeps the registry as it was then. -/
abbrev Build := EStateM Error Registry

namespace Registry

/-- The registered type with the given name, trimmed and compared up to ASCII case. -/
def itemType? (r : Registry) (name : String) : Option ItemType :=
  r.types.find? fun t => eqIgnoreAsciiCase t.name (trimWhite name)

/-- The names of the registered types, in registration order. -/
def typeNames (r : Registry) : List String := r.types.map (·.name)

/-- Registers a type, replacing in place one whose name is equal up to ASCII case; gives the
replaced type. -/
def registerType (r : Registry) (t : ItemType) : Option ItemType × Registry :=
  match r.types.find? fun u => eqIgnoreAsciiCase u.name t.name with
  | some old =>
    (some old, { r with types := r.types.map fun u =>
      if eqIgnoreAsciiCase u.name t.name then t else u })
  | none => (none, { r with types := r.types ++ [t] })

/-- The registry with the given types registered in order. -/
def ofTypes (ts : List ItemType) : Registry :=
  ts.foldl (fun r t => (r.registerType t).2) {}

/-- The number of cached segments. -/
def cachedSegments (r : Registry) : Nat := r.cache.length

/-- Empties the cache. -/
def clearCache (r : Registry) : Registry := { r with cache := [] }

end Registry

/-- Compiles a segment through the cache; gives the matcher and the number of its cache
entry. -/
def compileSegment (segment : String) (o : Segment.Options) : Build (Matcher × Nat) := do
  let r ← get
  let key : SegmentKey := ⟨segment, o.external, o.ignoreCase⟩
  match r.cache.find? (·.key == key) with
  | some e => pure (e.matcher, e.serial)
  | none =>
    match Segment.compile segment o with
    | .error e => throw e
    | .ok m =>
      let entry : CacheEntry := { key, serial := r.serial, matcher := m }
      set { r with cache := r.cache ++ [entry], serial := r.serial + 1 }
      pure (m, r.serial)

end Conformance

import Highlight.Grammar.Link
/-!
# The cache of dynamic patterns

A grammar compiles the pattern of a dynamic rule while lines are parsed, once the rule's
placeholders are bound, and keeps what it compiled for every later line and every document that
shares the grammar: the compiled pattern of each bound text and case rule, or nothing for one
that does not compile, so that a broken binding is not compiled again at every column. The cache
holds at most `capacity` entries: a miss that finds it full empties it first.

Each compilation gets an identity of its own, and the matcher of a line remembers its searches
under that identity. A text compiled again after the cache was emptied is a new pattern with a new
identity.
-/

namespace Highlight

/-- A compiled dynamic pattern as the cache hands it out. -/
structure CachedRegex where
  /-- The identity of this compilation; no two compilations share one. -/
  id : Nat
  /-- The compiled pattern. -/
  regex : Regex

/-- A grammar's cache of compiled dynamic patterns. -/
structure RegexCache where
  /-- What compiling each bound text and case rule gave since the cache was last emptied, the
  latest first; none for a text that does not compile. -/
  entries : List ((String × Bool) × Option CachedRegex) := []
  /-- The identity the next compilation gets. -/
  nextId : Nat := 0
  deriving Inhabited

namespace RegexCache

/-- The number of entries at which a miss empties the cache. -/
def capacity : Nat := 512

/-- The compiled form of a bound text and case rule: the one remembered, or else a compilation
under a new identity, remembered after emptying the cache if it is full. -/
def get (c : RegexCache) (source : String) (insensitive : Bool) : Option CachedRegex × RegexCache :=
  match c.entries.lookup (source, insensitive) with
  | some hit => (hit, c)
  | none =>
    let r := (Grammar.compilePattern source insensitive).toOption.map (⟨c.nextId, ·⟩)
    let kept := if capacity ≤ c.entries.length then [] else c.entries
    (r, { entries := ((source, insensitive), r) :: kept, nextId := c.nextId + 1 })

theorem get_of_lookup_some {c : RegexCache} {source : String} {insensitive : Bool}
    {hit : Option CachedRegex} (h : c.entries.lookup (source, insensitive) = some hit) :
    c.get source insensitive = (hit, c) := by
  rw [get, h]

theorem get_of_lookup_none {c : RegexCache} {source : String} {insensitive : Bool}
    (h : c.entries.lookup (source, insensitive) = none) :
    c.get source insensitive =
      ((Grammar.compilePattern source insensitive).toOption.map (⟨c.nextId, ·⟩),
        { entries := ((source, insensitive),
            (Grammar.compilePattern source insensitive).toOption.map (⟨c.nextId, ·⟩)) ::
            (if capacity ≤ c.entries.length then [] else c.entries),
          nextId := c.nextId + 1 }) := by
  rw [get, h]

end RegexCache

end Highlight

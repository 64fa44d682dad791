import Highlight.Grammar.Link
import Highlight.Grammar.Read
/-!
# Loading

Loading reads a definition, gathers every definition it reaches through `##Language`
references, and links them. Definitions of other languages come from an `Includes` source.

Gathering is depth first in the order references are first met. A reference to a language on the
current include path, the root included, is a cycle; a language already gathered is not fetched
again.
-/

namespace Highlight

/-- Where the definitions of other languages come from. -/
structure Includes where
  /-- The text of a language's definition, or why it cannot be had. -/
  find : String → Except String String
  /-- How many languages `find` gives a text for, at most. Gathering fetches each language
  once, so it never nests deeper than this. -/
  bound : Nat

namespace Includes

/-- A source with no definitions: every include fails with `reason`. -/
def none (reason : String) : Includes := ⟨fun _ => .error reason, 0⟩

/-- A source with the given texts; any other language fails with `reason`. -/
def ofList (texts : List (String × String)) (reason : String) : Includes :=
  ⟨fun l => match texts.lookup l with
    | some t => .ok t
    | Option.none => .error reason, texts.length⟩

end Includes

namespace Grammar

/-- Gathers the definitions that definition `idx` of `found` refers to, and theirs in turn;
`path` holds the languages from the root down to it. `fuel` bounds the depth. -/
def gather (inc : Includes) :
    Nat → Nat → List String → Array (String × Definition) → Except LoadError (Array (String × Definition))
  | 0, _, _, found => .ok found
  | fuel + 1, idx, path, found =>
    let refs := ((found[idx]?).map (·.2.languages)).getD []
    let here := ((found[idx]?).map (·.1)).getD ""
    let root := ((found[0]?).map (·.1)).getD ""
    refs.foldlM (fun found lang => do
      if path.contains lang then throw (.includeCycle root (path ++ [lang]))
      if found.any (·.1 == lang) then return found
      let text ← match inc.find lang with
        | .ok text => pure text
        | .error reason => throw (.includeNotFound here lang reason)
      let d ← parseDefinition text
      gather inc fuel found.size (path ++ [lang]) (found.push (lang, d))) found

/-- Loads a definition, with the definitions it includes from `inc`. -/
def load (text : String) (inc : Includes) : Except LoadError Grammar := do
  let root ← parseDefinition text
  let name := root.header.name
  let found ← gather inc (inc.bound + 1) 0 [name] #[(name, root)]
  link found

end Grammar

end Highlight

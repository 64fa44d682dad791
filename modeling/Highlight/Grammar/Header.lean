/-!
# Grammar headers

The header of a definition describes the language rather than how to highlight it: its name, the
file names and media types it claims, and the priority that settles a claim shared with another
grammar.
-/

namespace Highlight

/-- What a definition says about its language. -/
structure Header where
  /-- The language name, unique within a registry. -/
  name : String
  /-- The menu section the language belongs to. -/
  category : String := ""
  /-- File-name patterns such as `*.sql` or `Makefile`. -/
  extensions : List String := []
  /-- Media types. -/
  mimeTypes : List String := []
  /-- The definition's own version. -/
  version : String := ""
  /-- The version of the definition format it was written for. -/
  kateVersion : String := ""
  /-- Breaks ties when several grammars claim the same file. -/
  priority : Int := 0
  /-- The authors. -/
  author : String := ""
  /-- The licence of the definition. -/
  license : String := ""
  /-- Hidden grammars exist only to be included by others. -/
  hidden : Bool := false
  /-- The indenter the definition asks for. -/
  indenter : Option String := none
  deriving Repr, Inhabited, BEq

end Highlight

import Highlight.Text.Quote
/-!
# Why a definition does not load

Every cause names the grammar being loaded, so that a host can tell which definition is broken,
and `LoadError.message` words each cause in one sentence.
-/

namespace Highlight

/-- Why a grammar definition could not be loaded. -/
inductive LoadError where
  /-- The text is not well-formed XML. -/
  | malformed (grammar reason : String)
  /-- A required element or attribute (`tag@attribute`) is missing. -/
  | missing (grammar element : String)
  /-- An attribute has a value that cannot be read. -/
  | invalidValue (grammar attr value : String)
  /-- A context holds an element that is no rule. -/
  | unknownRule (grammar context element : String)
  /-- A context refers to a context that does not exist. -/
  | unknownContext (grammar context target : String)
  /-- A context refers to an attribute that does not exist. -/
  | unknownAttribute (grammar context attr : String)
  /-- A rule or a list refers to a keyword list that does not exist. -/
  | unknownKeywordList (grammar context list : String)
  /-- A grammar has no context at all. -/
  | noDefaultContext (grammar : String)
  /-- Grammars include each other in a circle; the path ends where it started. -/
  | includeCycle (grammar : String) (path : List String)
  /-- An included grammar could not be found. -/
  | includeNotFound (grammar language reason : String)
  /-- Rule inclusions between contexts run in a circle. -/
  | ruleIncludeCycle (grammar : String) (path : List String)
  /-- A pattern does not compile. -/
  | invalidPattern (grammar context pattern reason : String)
  /-- A rule that moves on can match the empty string. -/
  | zeroWidth (grammar context rule : String)
  /-- A context uses a placeholder beyond the captures its entry binds. -/
  | dynamicCapture (grammar context : String) (placeholder : Nat) (pusher : String)
      (available : Nat)
  deriving Repr, Inhabited, BEq

namespace LoadError

/-- The grammar whose definition failed to load. -/
def grammar : LoadError → String
  | malformed g .. | missing g .. | invalidValue g .. | unknownRule g .. | unknownContext g ..
  | unknownAttribute g .. | unknownKeywordList g .. | noDefaultContext g | includeCycle g ..
  | includeNotFound g .. | ruleIncludeCycle g .. | invalidPattern g .. | zeroWidth g ..
  | dynamicCapture g .. => g

/-- A name between backticks, as messages cite names. -/
def cite (s : String) : String := "`" ++ s ++ "`"

/-- The sentence that reports a cause. Values that may hold any character are quoted visibly. -/
def message : LoadError → String
  | malformed g reason => g ++ ": malformed definition: " ++ reason
  | missing g element => g ++ ": missing required element or attribute " ++ cite element
  | invalidValue g attr value =>
    g ++ ": invalid value " ++ Text.quote value ++ " for " ++ cite attr
  | unknownRule g context element =>
    g ++ ": unknown rule element " ++ cite element ++ " in context " ++ cite context
  | unknownContext g context target =>
    g ++ ": context " ++ cite context ++ " references unknown context " ++ cite target
  | unknownAttribute g context attr =>
    g ++ ": context " ++ cite context ++ " references unknown attribute " ++ cite attr
  | unknownKeywordList g context list =>
    g ++ ": context " ++ cite context ++ " references unknown keyword list " ++ cite list
  | noDefaultContext g => g ++ ": no default context defined"
  | includeCycle g path => g ++ ": include cycle " ++ " -> ".intercalate path
  | includeNotFound g language reason =>
    g ++ ": included grammar " ++ cite language ++ " not found: " ++ reason
  | ruleIncludeCycle g path => g ++ ": IncludeRules cycle through contexts " ++ " -> ".intercalate path
  | invalidPattern g context pattern reason =>
    g ++ ": invalid regular expression " ++ Text.quote pattern ++ " in context " ++ cite context ++
      ": " ++ reason
  | zeroWidth g context rule =>
    g ++ ": rule " ++ Text.quote rule ++ " in context " ++ cite context ++
      " can match an empty string without lookAhead"
  | dynamicCapture g context placeholder pusher available =>
    g ++ ": context " ++ cite context ++ " uses %" ++ toString placeholder ++ " but " ++ pusher ++
      " binds only " ++ toString available ++ " capture(s)"

end LoadError

end Highlight

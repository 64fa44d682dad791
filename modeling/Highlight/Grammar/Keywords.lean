import Highlight.Text.Blank
import Highlight.Text.Case
/-!
# Keyword lists and word separators

A keyword list is a set of words; a list that ignores case keeps every word lowercased and
lowercases each probe the same way. Separators decide where a word starts and ends: a fixed set of
ASCII punctuation and blanks, plus the characters a definition adds, less those it declares weak.
They are kept as a flag for each ASCII character and a set of the others. Outside ASCII every
blank separates, whatever the definition says.
-/

namespace Highlight

/-- A named set of words, compared exactly or up to case. -/
structure KeywordList where
  /-- The list's name as the definition gives it. -/
  name : String
  /-- The stored words, each once, in the order first met; lowercased when case is ignored. -/
  words : List String
  /-- Whether probes must match a word exactly. -/
  caseSensitive : Bool
  deriving Repr, Inhabited

namespace KeywordList

/-- The stored form of a word: itself, or its lowercase when case is ignored. -/
def normalize (caseSensitive : Bool) (w : String) : String :=
  if caseSensitive then w else Text.lower w

/-- A list from its words; repeated words are kept once. -/
def ofWords (name : String) (words : List String) (caseSensitive : Bool) : KeywordList :=
  { name, caseSensitive,
    words := (words.map (normalize caseSensitive)).foldl
      (fun acc w => if acc.contains w then acc else acc ++ [w]) [] }

/-- Whether `word` is in the list. -/
def contains (k : KeywordList) (word : String) : Bool :=
  k.words.contains (normalize k.caseSensitive word)

/-- The number of distinct stored words. -/
def size (k : KeywordList) : Nat := k.words.length

end KeywordList

/-- The ASCII characters that separate words unless a definition calls them weak: blank, tab and
the punctuation `.():!+,-<=>%&*/;?[]^{|}~\`. -/
def defaultSeparators : List Char :=
  [' ', '\t', '.', '(', ')', ':', '!', '+', ',', '-', '<', '=', '>', '%', '&', '*', '/', ';', '?',
    '[', ']', '^', '\x7b', '|', '\x7d', '~', '\\']

/-- The characters that end a word in one grammar, kept as a flag for each ASCII character and a
set of the others. -/
structure Separators where
  /-- For each ASCII code, whether that character is marked as a separator. -/
  ascii : Vector Bool 128
  /-- The characters beyond ASCII marked as separators, each once. -/
  extra : List Char
  deriving Repr, Inhabited

namespace Separators

/-- No character marked. -/
def empty : Separators := ⟨Vector.replicate 128 false, []⟩

/-- Marks `c` as a separator when `on` holds and unmarks it otherwise: its flag when it is ASCII,
its membership of the other set when not. -/
def mark (s : Separators) (c : Char) (on : Bool) : Separators :=
  if h : c.toNat < 128 then { s with ascii := s.ascii.set c.toNat on h }
  else if on then { s with extra := s.extra.insert c }
  else { s with extra := s.extra.erase c }

/-- The separators of a definition that adds `additional` and weakens `weak`: the defaults and the
additions are marked first, then the weak characters unmarked. -/
def ofDefinition (weak additional : String) : Separators :=
  let added := (defaultSeparators ++ additional.toList).foldl (fun s c => s.mark c true) empty
  weak.toList.foldl (fun s c => s.mark c false) added

/-- Whether `c` separates words: for ASCII, exactly when it is marked; beyond ASCII, when it is
a blank or marked. -/
def contains (s : Separators) (c : Char) : Bool :=
  if h : c.toNat < 128 then s.ascii[c.toNat] else Text.isBlank c || s.extra.contains c

/-- A blank beyond ASCII separates words even when a definition calls it weak. -/
theorem contains_of_isBlank (s : Separators) (c : Char) (h : 128 ≤ c.toNat)
    (hb : Text.isBlank c = true) : s.contains c = true := by
  simp [contains, Nat.not_lt.mpr h, hb]

end Separators

end Highlight

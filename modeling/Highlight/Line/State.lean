import Highlight.Grammar.Basic
/-!
# Line states

The state a line starts in is the context stack left by the line before it. Each frame names a
context and, for a context whose rules use placeholders, the captures that were bound when it was
pushed. Two states are equal when their frames are, which is how reparsing notices that it has
caught up with an earlier parse.
-/

namespace Highlight

/-- One entry of the context stack. -/
structure Frame where
  /-- The context, by index. -/
  context : Nat
  /-- The texts bound by the match that pushed a dynamic context: the whole match first, then
  each group, empty for a group that took no part. -/
  captures : Option (Array String) := none
  deriving Repr, Inhabited, BEq, DecidableEq, ReflBEq, LawfulBEq

namespace Frame

/-- The bound captures, none for a frame of a context without placeholders. -/
def bound (f : Frame) : List String := (f.captures.map Array.toList).getD []

/-- Whether the frame carries captures. -/
def hasCaptures (f : Frame) : Bool := f.captures.isSome

end Frame

/-- The context stack at a line boundary, bottom first. -/
structure LineState where
  /-- The frames, bottom first; there is always at least one. -/
  frames : Array Frame
  deriving Repr, Inhabited, BEq, DecidableEq, ReflBEq, LawfulBEq

namespace LineState

/-- The state of a first line: only the grammar's first context. -/
def initial : LineState := ⟨#[{ context := 0 }]⟩

/-- The number of frames. -/
def depth (s : LineState) : Nat := s.frames.size

/-- The frame whose context is active. -/
def top (s : LineState) : Frame := s.frames.back?.getD { context := 0 }

/-- Applies a switch. Pops stop at the bottom frame; pushes stop once the stack holds `maxDepth`
frames. A pushed context with placeholders takes `bind` as its captures, any other none. -/
def apply (g : Grammar) (s : LineState) (sw : Switch) (bind : Option (Array String))
    (maxDepth : Nat) : LineState :=
  let kept := s.frames.take (max (s.frames.size - sw.pop) 1)
  let pushed := sw.push.foldl (fun (fs : Array Frame) c =>
    if fs.size ≥ maxDepth then fs
    else fs.push { context := c, captures := if (g.context c).isDynamic then bind else none }) kept
  ⟨pushed⟩

end LineState

end Highlight

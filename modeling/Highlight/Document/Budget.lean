import Highlight.Line.Parse
/-!
# Reconciliation budgets and reports

Reparsing a document after an edit is done in slices. A budget says how many lines one slice may
parse; the report says whether the document has caught up, how many lines were parsed and where the
slice began. A slice with work pending always parses its first line, so repeated slices always
finish. How the work is cut into slices never changes the parses the document ends with.
-/

namespace Highlight

/-- How many lines one reconciliation slice may parse; `none` is no limit. -/
structure Budget where
  /-- The most lines one slice parses, none for no limit. -/
  maxLines : Option Nat := some 256
  deriving Repr, Inhabited, BEq, DecidableEq

namespace Budget

/-- A slice that runs until the document has caught up. -/
def unbounded : Budget := ⟨none⟩

/-- A slice of at most `n` lines (and always at least one). -/
def lines (n : Nat) : Budget := ⟨some n⟩

/-- Whether a slice that has already parsed `parsed` lines must stop. The first line is always
allowed, so a budget of zero lines still parses one. -/
def exhausted (b : Budget) (parsed : Nat) : Bool :=
  parsed != 0 && b.maxLines.any (· ≤ parsed)

end Budget

/-- Whether a slice left the document caught up. -/
inductive ReconcileStatus where
  /-- Every line holds its final parse. -/
  | done
  /-- The budget ran out; another slice continues where this one stopped. -/
  | inProgress
  deriving Repr, Inhabited, BEq, DecidableEq

/-- What one reconciliation slice did. -/
structure Report where
  /-- Whether the document has caught up. -/
  status : ReconcileStatus
  /-- How many lines the slice parsed. -/
  linesParsed : Nat
  /-- The first line the slice parsed, none when no work was pending. -/
  resumedAt : Option Nat
  deriving Repr, Inhabited, BEq, DecidableEq

namespace Report

/-- The report of a slice with nothing to do. -/
def idle : Report := ⟨.done, 0, none⟩

/-- Whether the document had caught up when the slice ended. -/
def isDone (r : Report) : Bool := r.status == .done

end Report

end Highlight

import Mathlib.Logic.Function.Iterate
import Highlight.Proofs.Representation
import Highlight.Cli.Report
/-!
# Slices always finish

A reconciliation slice under a budget of `n` lines parses at least one line and at most
`max n 1`: the budget is checked only once a line has been parsed. A slice that leaves work behind
stops at a line after the one it resumed at, and that line is a line of the document. So the number
of lines from the resume point to the end falls with every unfinished slice, and slices repeated
with no edit in between report the document caught up within as many slices as it has lines.

An editor host highlights a text that way, slice by slice until one reports the document caught
up. Its report is the same for every budget: once caught up, a document shows the rescan of its
lines, and slices change neither the lines' texts nor the grammar and limits.

The main statement is `reconcile_slices_progress`.
-/

namespace Highlight

namespace Budget

/-- A budget of `n` lines stops a slice once it has parsed a line and at least `n` lines. -/
theorem lines_exhausted (n parsed : Nat) :
    (lines n).exhausted parsed = (parsed != 0 && decide (n ≤ parsed)) := rfl

/-- A budget of `n` lines lets a slice parse one more line only while it stays within `max n 1`. -/
theorem succ_le_of_not_exhausted {n parsed : Nat} (h : ¬ (lines n).exhausted parsed = true) :
    parsed + 1 ≤ max n 1 := by
  rw [lines_exhausted] at h
  simp only [Bool.and_eq_true, bne_iff_ne, ne_eq, decide_eq_true_eq, not_and, Nat.not_le] at h
  omega

/-- Nothing is exhausted before the first line. -/
@[simp] theorem exhausted_zero (b : Budget) : b.exhausted 0 = false := rfl

/-- A slice without a budget never runs out. -/
@[simp] theorem unbounded_exhausted (parsed : Nat) : unbounded.exhausted parsed = false := by
  simp [exhausted, unbounded]

end Budget

namespace Document

/-! ## One slice of lines -/

section Slice

variable {g : Grammar} {limits : ParseLimits} {budget : Budget}

/-- A slice only adds to the lines it has parsed. -/
theorem le_parsed_reconcileFrom (line parsed : Nat) (state : LineState) (lines : Array LineSlot)
    (count : Nat) : parsed ≤ (reconcileFrom g limits budget line parsed state lines count).parsed := by
  fun_induction reconcileFrom g limits budget line parsed state lines count with
  | case1 => exact Nat.le_refl _
  | case2 line parsed state lines count hl hex slot result conv count' lines' hconv next hn _ ih =>
    exact Nat.le_of_succ_le ih
  | case3 => exact Nat.le_succ _
  | case4 line parsed state lines count hl hex slot result conv count' lines' hconv marked ih =>
    exact Nat.le_of_succ_le ih
  | case5 => exact Nat.le_refl _

/-- A slice that reaches a line of the document with budget left parses it. -/
theorem lt_parsed_reconcileFrom {line parsed : Nat} {state : LineState} {lines : Array LineSlot}
    {count : Nat} (hl : line < lines.size) (hex : budget.exhausted parsed = false) :
    parsed < (reconcileFrom g limits budget line parsed state lines count).parsed := by
  fun_induction reconcileFrom g limits budget line parsed state lines count with
  | case1 line parsed state lines count hl hex' => simp [hex] at hex'
  | case2 line parsed state lines count hl hex slot result conv count' lines' hconv next hn _ ih =>
    exact le_parsed_reconcileFrom ..
  | case3 => exact Nat.lt_succ_self _
  | case4 line parsed state lines count hl hex slot result conv count' lines' hconv marked ih =>
    exact le_parsed_reconcileFrom ..
  | case5 line parsed state lines count hl' => exact absurd hl hl'

/-- Under a budget of `n` lines a slice that has parsed `parsed` lines ends with at most
`max parsed (max n 1)`: it parses another line only while it has parsed none or fewer than `n`. -/
theorem parsed_reconcileFrom_le (n line parsed : Nat) (state : LineState) (lines : Array LineSlot)
    (count : Nat) :
    (reconcileFrom g limits (Budget.lines n) line parsed state lines count).parsed ≤
      max parsed (max n 1) := by
  fun_induction reconcileFrom g limits (Budget.lines n) line parsed state lines count with
  | case1 => exact Nat.le_max_left _ _
  | case2 line parsed state lines count hl hex slot result conv count' lines' hconv next hn _ ih =>
    have := Budget.succ_le_of_not_exhausted hex
    omega
  | case3 line parsed state lines count hl hex slot result conv count' lines' hconv hn =>
    have := Budget.succ_le_of_not_exhausted hex
    exact Nat.le_trans this (Nat.le_max_right _ _)
  | case4 line parsed state lines count hl hex slot result conv count' lines' hconv marked ih =>
    have := Budget.succ_le_of_not_exhausted hex
    omega
  | case5 => exact Nat.le_max_left _ _

/-- A slice stops at a line after the one it started from, unless its budget was already spent
there. -/
theorem reconcileFrom_stoppedAt_gt (line parsed : Nat) (state : LineState) (lines : Array LineSlot)
    (count : Nat) :
    ∀ l, (reconcileFrom g limits budget line parsed state lines count).stoppedAt = some l →
      line < l ∨ (l = line ∧ budget.exhausted parsed = true) := by
  fun_induction reconcileFrom g limits budget line parsed state lines count with
  | case1 line parsed state lines count hl hex =>
    intro l h
    cases h
    exact .inr ⟨rfl, hex⟩
  | case2 line parsed state lines count hl hex slot result conv count' lines' hconv next hn _ ih =>
    -- the slice jumped to a marked line after this one
    intro l h
    have hnext := nextDirty_ge hn
    rcases ih l h with hlt | ⟨rfl, -⟩ <;> exact .inl (by omega)
  | case3 => intro l h; cases h
  | case4 line parsed state lines count hl hex slot result conv count' lines' hconv marked ih =>
    intro l h
    rcases ih l h with hlt | ⟨rfl, -⟩ <;> exact .inl (by omega)
  | case5 => intro l h; cases h

/-- A slice keeps the lines' texts. -/
theorem textsOf_reconcileFrom (line parsed : Nat) (state : LineState) (lines : Array LineSlot)
    (count : Nat) :
    textsOf (reconcileFrom g limits budget line parsed state lines count).lines = textsOf lines := by
  fun_induction reconcileFrom g limits budget line parsed state lines count with
  | case1 => rfl
  | case2 line parsed state lines count hl hex slot result conv count' lines' hconv next hn _ ih =>
    rw [ih]
    exact textsOf_set hl rfl
  | case3 line parsed state lines count hl hex slot result conv count' lines' hconv hn =>
    exact textsOf_set hl rfl
  | case4 line parsed state lines count hl hex slot result conv count' lines' hconv marked ih =>
    rw [ih, markDirtyAt_textsOf]
    exact textsOf_set hl rfl
  | case5 => rfl

end Slice

/-! ## One slice of a document -/

/-- A slice keeps the number of lines. -/
@[simp] theorem lineCount_reconcile (d : Document) (b : Budget) :
    (d.reconcile b).1.lineCount = d.lineCount := by
  unfold Document.reconcile lineCount
  split
  · exact size_reconcileFrom ..
  · rfl

/-- A slice keeps the grammar. -/
@[simp] theorem grammar_reconcile (d : Document) (b : Budget) :
    (d.reconcile b).1.grammar = d.grammar := by
  unfold Document.reconcile
  split <;> rfl

/-- A slice keeps the lines' texts. -/
@[simp] theorem textsOf_reconcile (d : Document) (b : Budget) :
    textsOf (d.reconcile b).1.lines = textsOf d.lines := by
  unfold Document.reconcile
  split
  · exact textsOf_reconcileFrom ..
  · rfl

/-- A slice keeps the limits. -/
@[simp] theorem limits_reconcile (d : Document) (b : Budget) :
    (d.reconcile b).1.limits = d.limits := by
  unfold Document.reconcile
  split <;> rfl

/-- A slice that reports the document unfinished resumed at a line and stopped at a later line
of the document. -/
theorem resume_advance {d : Document} {b : Budget}
    (hin : (d.reconcile b).2.status = .inProgress) :
    ∃ r r', d.resume = some r ∧ (d.reconcile b).1.resume = some r' ∧ r < r' ∧
      r' < d.lineCount := by
  revert hin
  unfold Document.reconcile
  split
  · rename_i g start hg hr
    intro hin
    obtain ⟨l, hl⟩ : ∃ l, (reconcileFrom g d.limits b start 0 (incoming d.lines start) d.lines
        d.dirtyCount).stoppedAt = some l := by
      cases hs : (reconcileFrom g d.limits b start 0 (incoming d.lines start) d.lines
        d.dirtyCount).stoppedAt with
      | none => simp [hs] at hin
      | some l => exact ⟨l, rfl⟩
    have hgt := reconcileFrom_stoppedAt_gt _ _ _ _ _ l hl
    have hlt := reconcileFrom_stoppedAt_lt _ _ _ _ _ l hl
    refine ⟨start, l, hr, hl, ?_, hlt⟩
    rcases hgt with hgt | ⟨-, hex⟩
    · exact hgt
    · simp at hex
  · intro hin
    simp [Report.idle] at hin

/-- **A budgeted slice makes progress.** On a document with a grammar and work pending, a slice
under a budget of `n` lines parses at least one line and at most `max n 1`, and if it leaves work
behind, the resume point moves forward. -/
theorem Rep.reconcile_lines {d : Document} (h : d.Rep) (hwork : d.inProgress = true) (n : Nat) :
    1 ≤ (d.reconcile (.lines n)).2.linesParsed ∧ (d.reconcile (.lines n)).2.linesParsed ≤ max n 1 ∧
      ((d.reconcile (.lines n)).2.status = .inProgress →
        ∃ r r', d.resume = some r ∧ (d.reconcile (.lines n)).1.resume = some r' ∧ r < r') := by
  obtain ⟨g, hg⟩ := Option.isSome_iff_exists.1 (Bool.and_eq_true_iff.1 hwork).1
  obtain ⟨start, hr⟩ := Option.isSome_iff_exists.1 (Bool.and_eq_true_iff.1 hwork).2
  have hstart : start < d.lines.size := h.resume_lt start hr
  refine ⟨?_, ?_, fun hin => ?_⟩
  · simp only [Document.reconcile, hg, hr]
    exact lt_parsed_reconcileFrom hstart (Budget.exhausted_zero _)
  · simp only [Document.reconcile, hg, hr]
    simpa using parsed_reconcileFrom_le n start 0 (incoming d.lines start) d.lines d.dirtyCount
  · obtain ⟨r, r', hr, hr', hlt, -⟩ := resume_advance hin
    exact ⟨r, r', hr, hr', hlt⟩

/-! ## Repeated slices -/

/-- The lines a slice may still have to parse after the line it resumes at: none once the
document has caught up. -/
def linesAfterResume (d : Document) : Nat :=
  match d.resume with
  | some r => d.lineCount - r - 1
  | none => 0

/-- An unfinished slice leaves fewer lines after the resume point. -/
theorem linesAfterResume_reconcile_lt {d : Document} {b : Budget}
    (hin : (d.reconcile b).2.status = .inProgress) :
    (d.reconcile b).1.linesAfterResume < d.linesAfterResume := by
  obtain ⟨r, r', hr, hr', hlt, hlt'⟩ := resume_advance hin
  simp only [linesAfterResume, hr, hr', lineCount_reconcile]
  omega

/-- A slice reports the document done or unfinished. -/
theorem status_cases (s : ReconcileStatus) : s = .done ∨ s = .inProgress := by
  cases s
  · exact .inl rfl
  · exact .inr rfl

/-- Slices repeated with no edit in between report the document caught up within one slice more
than there are lines after the resume point. The induction is on that number of lines, which
every unfinished slice lowers. -/
theorem done_within (d : Document) (b : Budget) :
    ∃ i ≤ d.linesAfterResume,
      (((fun d => (d.reconcile b).1)^[i] d).reconcile b).2.status = .done := by
  suffices hk : ∀ k (d : Document), d.linesAfterResume ≤ k →
      ∃ i ≤ d.linesAfterResume,
        (((fun d => (d.reconcile b).1)^[i] d).reconcile b).2.status = .done from
    hk _ d (Nat.le_refl _)
  intro k
  induction k with
  | zero =>
    intro d hk
    refine ⟨0, Nat.zero_le _, ?_⟩
    rcases status_cases (d.reconcile b).2.status with hdone | hin
    · exact hdone
    · exact absurd (linesAfterResume_reconcile_lt hin) (by omega)
  | succ k ih =>
    intro d hk
    rcases status_cases (d.reconcile b).2.status with hdone | hin
    · exact ⟨0, Nat.zero_le _, hdone⟩
    · -- the slice leaves a document with fewer lines after its resume point
      have hlt := linesAfterResume_reconcile_lt hin
      obtain ⟨i, hi, hdone⟩ := ih (d.reconcile b).1 (by omega)
      exact ⟨i + 1, by omega, by rwa [Function.iterate_succ_apply]⟩

/-- Slices repeated until one reports the document caught up, with enough of them allowed, leave
the document showing the rescan of its lines, which are the lines it started with under the same
grammar and limits. -/
theorem Synced.reconcileInSlices {d : Document} (h : d.Synced) (b : Budget) :
    ∀ fuel, d.linesAfterResume < fuel →
      (Cli.reconcileInSlices b fuel d).ShowsAll ∧
        (Cli.reconcileInSlices b fuel d).grammar = d.grammar ∧
        (Cli.reconcileInSlices b fuel d).limits = d.limits ∧
        (Cli.reconcileInSlices b fuel d).lineCount = d.lineCount ∧
        textsOf (Cli.reconcileInSlices b fuel d).lines = textsOf d.lines := by
  intro fuel
  induction fuel generalizing d with
  | zero => intro hfuel; exact absurd hfuel (Nat.not_lt_zero _)
  | succ fuel ih =>
    intro hfuel
    simp only [Cli.reconcileInSlices]
    rcases status_cases (d.reconcile b).2.status with hdone | hin
    · -- the slice caught up: its document shows the whole rescan
      have hisDone : (d.reconcile b).2.isDone = true := by rw [Report.isDone, hdone]; rfl
      simp only [hisDone, if_true]
      exact ⟨(h.reconcile b).2 hdone, grammar_reconcile d b, limits_reconcile d b,
        lineCount_reconcile d b, textsOf_reconcile d b⟩
    · have hisDone : (d.reconcile b).2.isDone = false := by rw [Report.isDone, hin]; rfl
      simp only [hisDone, Bool.false_eq_true, if_false]
      obtain ⟨hshow, hg, hl, hn, ht⟩ :=
        ih (h.reconcile b).1 (Nat.lt_of_lt_of_le (linesAfterResume_reconcile_lt hin) (by omega))
      exact ⟨hshow, hg.trans (grammar_reconcile d b), hl.trans (limits_reconcile d b),
        hn.trans (lineCount_reconcile d b), ht.trans (textsOf_reconcile d b)⟩

/-- There are fewer lines after the resume point than lines. -/
theorem Rep.linesAfterResume_lt_lineCount {d : Document} (h : d.Rep) :
    d.linesAfterResume < d.lineCount := by
  have hne := h.nonempty
  unfold linesAfterResume lineCount at *
  split <;> omega

end Document

/-! ## Highlighting in slices -/

namespace Cli

/-- A text highlighted slice by slice gives the report of the rescan of its lines. -/
theorem highlightText_eq_rescan (g : Grammar) (text : String) (b : Budget) :
    highlightText g text b =
      { language := g.name,
        lines := (List.range (Document.ofText (some g) text).lineCount).map fun i =>
          { line := i,
            spans := ((Document.rescanOf g {} (Document.ofText (some g) text).lines)[i]?.map
              fun p => p.runs.toList.map fun s =>
                { start := s.start, len := s.len, attrName := g.attrName s.attr,
                  format := g.attrFormat s.attr, kind := s.kind }).getD [] } } := by
  have hrep := Document.Rep.ofText (some g) text
  obtain ⟨hshow, hg, hl, hn, ht⟩ := hrep.synced.reconcileInSlices b
    ((Document.ofText (some g) text).lineCount + 1)
    (Nat.lt_succ_of_lt hrep.linesAfterResume_lt_lineCount)
  unfold highlightText
  dsimp only
  generalize Cli.reconcileInSlices b ((Document.ofText (some g) text).lineCount + 1)
    (Document.ofText (some g) text) = d at hshow hg hl hn ht
  rw [hn]
  congr 1
  refine List.map_congr_left fun i hi => ?_
  have hi' : i < d.lineCount := by rw [hn]; exact List.mem_range.1 hi
  rw [hshow g hg i hi', Document.rescanOf, Document.rescanOf, ht, hl]
  rfl

end Cli

namespace Document

/-- A document an editor can hold: a new document after any run of edits, changes of grammar and
limits, and reconciliation slices. -/
def Reachable (d : Document) : Prop :=
  ∃ grammar text edits, d = (ofText grammar text).applyAll edits

/-- A reachable document keeps the invariant of every operation. -/
theorem Reachable.rep {d : Document} (hd : d.Reachable) : d.Rep := by
  obtain ⟨grammar, text, edits, rfl⟩ := hd
  exact (Rep.ofText grammar text).applyAll edits

/-- **Budgeted reconciliation always progresses and finishes.** On a reachable document with a
grammar and work pending, a slice under a budget of `n` lines parses at least one line and at most
`max n 1`, and when it leaves work behind, the resume point moves forward. Slices of `n` lines
repeated with no edit in between report a reachable document caught up within as many slices as it
has lines. Highlighting a text slice by slice gives the same report for every budget of lines. -/
theorem reconcile_slices_progress {d : Document} (hd : d.Reachable) (n : Nat) :
    (d.inProgress = true →
      1 ≤ (d.reconcile (.lines n)).2.linesParsed ∧ (d.reconcile (.lines n)).2.linesParsed ≤ max n 1 ∧
      ((d.reconcile (.lines n)).2.status = .inProgress →
        ∃ r r', d.resume = some r ∧ (d.reconcile (.lines n)).1.resume = some r' ∧ r < r')) ∧
    (∃ i < d.lineCount,
      (((fun d => (d.reconcile (.lines n)).1)^[i] d).reconcile (.lines n)).2.status = .done) ∧
    ∀ (g : Grammar) (t : String) (m : Nat),
      Cli.highlightText g t (.lines n) = Cli.highlightText g t (.lines m) := by
  have h := hd.rep
  refine ⟨fun hwork => h.reconcile_lines hwork n, ?_, fun g t m => ?_⟩
  · obtain ⟨i, hi, hdone⟩ := done_within d (.lines n)
    exact ⟨i, Nat.lt_of_le_of_lt hi h.linesAfterResume_lt_lineCount, hdone⟩
  · rw [Cli.highlightText_eq_rescan, Cli.highlightText_eq_rescan]

/-- An empty document under the default grammar whose line is replaced by the lines `a` and `b`:
both are marked, and reconciliation resumes at the first. -/
def twoLineDocument : Document :=
  (empty (some default)).applyAll [.replaceLines 0 1 ["a", "b"]]

theorem twoLineDocument_eq :
    twoLineDocument = { grammar := some default, lines := #[.fresh "a", .fresh "b"], dirtyCount := 2,
                        resume := some 0 } := by
  simp only [twoLineDocument, applyAll, List.foldl, Edit.apply, empty, ofText, splitLines_empty]
  rfl

/-- A slice of one line parses the first line of `twoLineDocument` and leaves the second for the
next, so the slice is in progress and the resume point moves on; its slices progress as stated. -/
theorem reconcile_slices_progress_twoLines :
    twoLineDocument.Reachable ∧
      (twoLineDocument.reconcile (.lines 1)).2 = ⟨.inProgress, 1, some 0⟩ ∧
      (twoLineDocument.inProgress = true →
        1 ≤ (twoLineDocument.reconcile (.lines 1)).2.linesParsed ∧
        (twoLineDocument.reconcile (.lines 1)).2.linesParsed ≤ max 1 1 ∧
        ((twoLineDocument.reconcile (.lines 1)).2.status = .inProgress →
          ∃ r r', twoLineDocument.resume = some r ∧
            (twoLineDocument.reconcile (.lines 1)).1.resume = some r' ∧ r < r')) ∧
      (∃ i < twoLineDocument.lineCount,
        (((fun d => (d.reconcile (.lines 1)).1)^[i] twoLineDocument).reconcile
          (.lines 1)).2.status = .done) ∧
      ∀ (g : Grammar) (t : String) (m : Nat),
        Cli.highlightText g t (.lines 1) = Cli.highlightText g t (.lines m) := by
  have hd : twoLineDocument.Reachable := ⟨some default, "", [.replaceLines 0 1 ["a", "b"]], rfl⟩
  -- the first line has no parse to converge with, and then the budget is spent
  have hslice : (reconcileFrom default {} (.lines 1) 0 0 .initial
        #[.fresh "a", .fresh "b"] 2).stoppedAt = some 1 ∧
      (reconcileFrom default {} (.lines 1) 0 0 .initial #[.fresh "a", .fresh "b"] 2).parsed = 1 := by
    rw [reconcileFrom, dif_pos (by decide), if_neg (by decide)]
    dsimp only
    rw [if_neg (by decide), reconcileFrom, dif_pos (by simp [markDirtyAt_size]), if_pos (by decide)]
    exact ⟨rfl, rfl⟩
  have hreport : (twoLineDocument.reconcile (.lines 1)).2 = ⟨.inProgress, 1, some 0⟩ := by
    rw [twoLineDocument_eq]
    unfold reconcile
    simp [hslice, incoming]
  exact ⟨hd, hreport, reconcile_slices_progress hd 1⟩

end Document

end Highlight

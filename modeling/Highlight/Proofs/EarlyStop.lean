import Highlight.Proofs.Slices
import Highlight.Proofs.Totality
/-!
# Early stop after one edit

When one line of a caught-up document changes, reconciliation reparses it from the state the line
before it ends in, and then each following line from the new end state of the line before it, until
a reparsed line ends in the state its stored parse ended in. From there on every line already starts
from the state it was parsed from, and nothing else is marked, so the slice stops. It reparses
exactly the lines from the edited one to that point (or to the last line, when the two chains of
states never meet again), reports that many lines, and leaves every other line's parse as it was.

A slice started on lines where only its first line is marked follows this pattern whatever edit
led there (`reconcileFrom_markedOnly`); setting a line of a caught-up document is one way to get
there (`setLine_caughtUp`). The main statement is `setLine_reconcileAll_reparses`.
-/

namespace Highlight

namespace Document

/-! ## Stored parses -/

/-- The parse stored for line `i`, if the line is there and has one. -/
def storedParse (lines : Array LineSlot) (i : Nat) : Option ParsedLine := lines[i]?.bind (·.parsed)

/-- Settling a line stores its new parse there and nowhere else. -/
theorem storedParse_settleAt (lines : Array LineSlot) (line : Nat) (hl : line < lines.size)
    (p : ParsedLine) (i : Nat) :
    storedParse (settleAt lines line hl p) i = if i = line then some p else storedParse lines i := by
  unfold storedParse settleAt
  rw [Array.getElem?_set]
  by_cases hi : i = line
  · subst hi
    simp
  · simp [hi, Ne.symm hi]

/-- Marking a line keeps every stored parse. -/
@[simp] theorem storedParse_markDirtyAt (lines : Array LineSlot) (count k i : Nat) :
    storedParse (markDirtyAt lines count k).1 i = storedParse lines i := by
  rcases Nat.lt_or_ge k lines.size with hk | hk
  · rw [markDirtyAt_fst lines count k hk]
    unfold storedParse
    rw [Array.getElem?_set]
    split
    · subst_vars
      simp [Array.getElem?_eq_getElem hk, LineSlot.markDirty]
    · rfl
  · rw [markDirtyAt_of_size_le lines count k hk]

/-- The state a line starts in reads only the stored parse of the line before it. -/
theorem incoming_congr {lines lines' : Array LineSlot}
    (h : ∀ i, storedParse lines i = storedParse lines' i) (k : Nat) :
    incoming lines k = incoming lines' k := by
  cases k with
  | zero => rfl
  | succ j =>
    show ((storedParse lines j).map (·.state)).getD _ = ((storedParse lines' j).map (·.state)).getD _
    rw [h j]

/-- A document that has caught up shows the parse stored for each line. -/
theorem parsed?_of_resume_none {d : Document} (hr : d.resume = none) (i : Nat) :
    d.parsed? i = storedParse d.lines i := by
  simp [parsed?, hr, storedParse]

/-- A caught-up document shows the rescan of its lines. -/
theorem Rep.parsed?_eq_rescanOf {d : Document} (h : d.Rep) {g : Grammar} (hg : d.grammar = some g)
    (hr : d.resume = none) (i : Nat) : d.parsed? i = (rescanOf g d.limits d.lines)[i]? := by
  have hs := h.synced
  unfold Synced at hs
  simp only [hg, hr, Option.getD_none] at hs
  rw [parsed?_of_resume_none hr]
  unfold storedParse
  by_cases hi : i < d.lines.size
  · rw [Array.getElem?_eq_getElem hi, Option.bind_some]
    exact (hs.2.2 i hi hi).2
  · rw [Array.getElem?_eq_none (by omega), List.getElem?_eq_none (by simp; omega)]
    rfl

/-- The texts from a line of the document on are its text and those after it. -/
theorem drop_textsOf {lines : Array LineSlot} {line : Nat} (hl : line < lines.size) :
    (textsOf lines).drop line = lines[line].text :: (textsOf lines).drop (line + 1) := by
  rw [List.drop_eq_getElem_cons (by simpa using hl)]
  simp [textsOf]

/-- A reparse has converged exactly when the line's stored parse ended in the state the new parse
ends in. -/
theorem converged_iff {lines : Array LineSlot} {line : Nat} (hl : line < lines.size)
    (r : ParsedLine) :
    lines[line].parsed.any (·.state == r.state) = true ↔
      (storedParse lines line).map (·.state) = some r.state := by
  cases hq : lines[line].parsed <;> simp [storedParse, Array.getElem?_eq_getElem hl, hq]

/-! ## A slice with one marked line -/

/-- The only marked line is `line`. -/
def MarkedOnlyAt (lines : Array LineSlot) (line : Nat) : Prop :=
  ∀ i (h : i < lines.size), lines[i].dirty = decide (i = line)

/-- Marking a clean line sets it to its marked form and counts it. -/
theorem markDirtyAt_of_clean {lines : Array LineSlot} {k : Nat} (count : Nat) (hk : k < lines.size)
    (hd : lines[k].dirty = false) :
    markDirtyAt lines count k = (lines.set k lines[k].markDirty, count + 1) := by
  simp [markDirtyAt, hd, Array.set!_eq_setIfInBounds, Array.setIfInBounds, hk]

/-- Settling the marked line and marking the next one moves the mark to the next line and counts
it. -/
theorem MarkedOnlyAt.advance {lines : Array LineSlot} {line : Nat} (h : MarkedOnlyAt lines line)
    (hl : line < lines.size) (p : ParsedLine) (count : Nat) (hnext : line + 1 < lines.size) :
    MarkedOnlyAt (markDirtyAt (settleAt lines line hl p) count (line + 1)).1 (line + 1) ∧
      (markDirtyAt (settleAt lines line hl p) count (line + 1)).2 = count + 1 := by
  have hnext' : line + 1 < (settleAt lines line hl p).size := by simpa using hnext
  have hclean : (settleAt lines line hl p)[line + 1].dirty = false := by
    simp only [settleAt, Array.getElem_set_ne hl hnext (by omega)]
    simpa using h (line + 1) hnext
  rw [markDirtyAt_of_clean count hnext' hclean]
  refine ⟨fun i hi => ?_, rfl⟩
  simp only [Array.size_set, size_settleAt] at hi
  rw [Array.getElem_set]
  split
  · subst_vars
    simp [LineSlot.markDirty]
  · rename_i hne
    simp only [settleAt, Array.getElem_set]
    split
    · subst_vars
      simp
    · rw [h i hi]
      simp only [decide_eq_decide]
      omega

section Run

variable {g : Grammar} {limits : ParseLimits}

/-- The rescan from a line of the document starts with that line's parse. -/
theorem rescan_drop_zero {lines : Array LineSlot} {line : Nat} (hl : line < lines.size)
    (s : LineState) :
    (g.rescan limits s ((textsOf lines).drop line))[0]? =
      some (g.parseLine lines[line].text s limits) := by
  rw [drop_textsOf hl, Grammar.rescan_cons]
  rfl

/-- The rescan from a line of the document goes on with the rescan from the next line, started
in the state the line's parse ends in. -/
theorem rescan_drop_succ {lines : Array LineSlot} {line : Nat} (hl : line < lines.size)
    (s : LineState) (i : Nat) :
    (g.rescan limits s ((textsOf lines).drop line))[i + 1]? =
      (g.rescan limits (g.parseLine lines[line].text s limits).state
        ((textsOf lines).drop (line + 1)))[i]? := by
  rw [drop_textsOf hl, Grammar.rescan_cons]
  rfl

/-- **A slice with one marked line stops where the new parses reconverge.** Started without a
budget at the only marked line of a document, counted exactly, a slice reparses that line from
`state` and each following line from the new end state before it, up to the first line `m` whose new
end state is the one its stored parse ends in, or to the last line. It reports `m - line + 1` more
lines parsed, leaves no work, stores the new parses on lines `line` to `m`, and keeps every other
stored parse. Past the last line it changes nothing.

The induction follows the slice. A line that ends as before ends the slice at once, since the count
of marked lines is then zero; a line that ends differently hands the mark on to the next line. -/
theorem reconcileFrom_markedOnly (line parsed : Nat) (state : LineState) (lines : Array LineSlot)
    (count : Nat) :
    (lines.size ≤ line →
      reconcileFrom g limits .unbounded line parsed state lines count = ⟨lines, count, none, parsed⟩) ∧
    (line < lines.size → MarkedOnlyAt lines line → count = 1 →
      ∃ m, line ≤ m ∧ m < lines.size ∧
        (∀ j, line ≤ j → j < m →
          ((g.rescan limits state ((textsOf lines).drop line))[j - line]?).map (·.state) ≠
            (storedParse lines j).map (·.state)) ∧
        (((g.rescan limits state ((textsOf lines).drop line))[m - line]?).map (·.state) =
            (storedParse lines m).map (·.state) ∨ m + 1 = lines.size) ∧
        (reconcileFrom g limits .unbounded line parsed state lines count).parsed =
          parsed + (m - line + 1) ∧
        (reconcileFrom g limits .unbounded line parsed state lines count).stoppedAt = none ∧
        ∀ i, storedParse (reconcileFrom g limits .unbounded line parsed state lines count).lines i =
          if line ≤ i ∧ i ≤ m then (g.rescan limits state ((textsOf lines).drop line))[i - line]?
          else storedParse lines i) := by
  fun_induction reconcileFrom g limits Budget.unbounded line parsed state lines count with
  | case1 line parsed state lines count hl hex => simp at hex
  | case2 line parsed state lines count hl hex slot result conv count' lines' hconv next hn _ ih =>
    -- with its only marked line reparsed, the count is zero and no marked line is left
    refine ⟨fun hle => absurd hl (Nat.not_lt.2 hle), fun _ hmark hcount => ?_⟩
    have hzero : count' = 0 := by simp [count', slot, hmark line hl, hcount]
    rw [hzero] at hn
    simp [nextDirty] at hn
  | case3 line parsed state lines count hl hex slot result conv count' lines' hconv hn =>
    -- the reparsed line ends as its stored parse did: the slice ends here
    refine ⟨fun hle => absurd hl (Nat.not_lt.2 hle), fun _ _ _ => ?_⟩
    have hfirst : (g.rescan limits state ((textsOf lines).drop line))[0]? =
        some (g.parseLine lines[line].text state limits) := rescan_drop_zero hl state
    refine ⟨line, Nat.le_refl _, hl, fun j h1 h2 => absurd h2 (by omega), .inl ?_, by simp, rfl,
      fun i => ?_⟩
    · rw [Nat.sub_self, hfirst]
      exact ((converged_iff hl result).1 hconv).symm
    · show storedParse (settleAt lines line hl result) i = _
      rw [storedParse_settleAt]
      by_cases hi : i = line
      · rw [if_pos hi, if_pos (by omega), hi, Nat.sub_self, hfirst]
      · rw [if_neg hi, if_neg (by omega)]
  | case4 line parsed state lines count hl hex slot result conv count' lines' hconv marked ih =>
    refine ⟨fun hle => absurd hl (Nat.not_lt.2 hle), fun _ hmark hcount => ?_⟩
    have hzero : count' = 0 := by simp [count', slot, hmark line hl, hcount]
    have hfirst : (g.rescan limits state ((textsOf lines).drop line))[0]? =
        some (g.parseLine lines[line].text state limits) := rescan_drop_zero hl state
    -- the reparsed line ends in a new state
    have hdiffer : (storedParse lines line).map (·.state) ≠ some result.state :=
      fun heq => hconv ((converged_iff hl result).2 heq)
    have htexts : textsOf marked.1 = textsOf lines := by
      rw [markDirtyAt_textsOf]
      exact textsOf_settleAt lines line hl result
    have hstored : ∀ i, storedParse marked.1 i =
        if i = line then some result else storedParse lines i := fun i => by
      rw [storedParse_markDirtyAt]
      exact storedParse_settleAt lines line hl result i
    have hsize : marked.1.size = lines.size := by simp [marked, lines', size_markDirtyAt]
    rcases Nat.lt_or_ge (line + 1) lines.size with hnext | hnext
    · -- the next line is marked and the slice goes on from it
      obtain ⟨hmark', hcount'⟩ := hmark.advance hl result count' hnext
      have hone : marked.2 = 1 := by
        rw [show marked = markDirtyAt (settleAt lines line hl result) count' (line + 1) from rfl,
          hcount', hzero]
      obtain ⟨m, hm1, hm2, hbefore, hend, hparsed, hstop, hlines⟩ :=
        ih.2 (by rw [hsize]; exact hnext) hmark' hone
      simp only [htexts] at hbefore hend hlines
      refine ⟨m, by omega, by omega, fun j h1 h2 => ?_, ?_, by rw [hparsed]; omega, hstop,
        fun i => ?_⟩
      · rcases Nat.eq_or_lt_of_le h1 with rfl | hlt
        · rw [Nat.sub_self, hfirst]
          exact fun heq => hdiffer heq.symm
        · have := hbefore j hlt h2
          rw [hstored, if_neg (by omega)] at this
          rwa [show j - line = (j - (line + 1)) + 1 by omega, rescan_drop_succ hl]
      · rw [hstored, if_neg (by omega), hsize] at hend
        rwa [show m - line = (m - (line + 1)) + 1 by omega, rescan_drop_succ hl]
      · rw [hlines i, hstored]
        by_cases hi : i = line
        · rw [if_neg (by omega), if_pos hi, if_pos (by omega), hi, Nat.sub_self, hfirst]
        · by_cases hin : line + 1 ≤ i ∧ i ≤ m
          · rw [if_pos hin, if_pos (by omega), show i - line = (i - (line + 1)) + 1 by omega,
              rescan_drop_succ hl]
          · rw [if_neg hin, if_neg hi, if_neg (by omega)]
    · -- the reparsed line was the last one: the slice ends past it
      have hlast : line + 1 = lines.size := by omega
      have hmarked : marked = (lines', count') :=
        markDirtyAt_of_size_le lines' count' (line + 1) (by simp [lines']; omega)
      rw [(ih.1 (by simp [hmarked, lines']; omega))]
      refine ⟨line, Nat.le_refl _, hl, fun j h1 h2 => absurd h2 (by omega), .inr hlast, by simp,
        rfl, fun i => ?_⟩
      show storedParse marked.1 i = _
      rw [hstored]
      by_cases hi : i = line
      · rw [if_pos hi, if_pos (by omega), hi, Nat.sub_self, hfirst]
      · rw [if_neg hi, if_neg (by omega)]
  | case5 line parsed state lines count hl =>
    exact ⟨fun _ => rfl, fun hl' => absurd hl' hl⟩

end Run

/-! ## Setting a line of a caught-up document -/

/-- A document that has caught up has no marked line and counts none. -/
theorem Rep.clean_of_caughtUp {d : Document} (h : d.Rep) (hr : d.resume = none) :
    (∀ i (hi : i < d.lines.size), d.lines[i].dirty = false) ∧ d.dirtyCount = 0 := by
  have hclean := h.consistent.caught_up hr
  refine ⟨hclean, ?_⟩
  rw [h.count_eq, countDirty_eq, Array.countP_eq_zero]
  intro s hs
  obtain ⟨i, hi, rfl⟩ := Array.getElem_of_mem hs
  simp [hclean i hi]

/-- Setting the text of a clean line replaces the line by its new text, marked, counts one more
marked line and resumes at it. -/
theorem setLine_of_clean {d : Document} {k : Nat} (t : String) (hk : k < d.lines.size)
    (hd : d.lines[k].dirty = false) :
    d.setLine k t =
      touch { d with
        lines := d.lines.set k { d.lines[k] with text := t, dirty := true },
        dirtyCount := d.dirtyCount + 1 } k := by
  have hk' : k < (d.lines.modify k fun s => { s with text := t }).size := by simpa using hk
  have hd' : (d.lines.modify k fun s => { s with text := t })[k].dirty = false := by
    simpa [Array.getElem_modify] using hd
  have hlines : (d.lines.modify k fun s => { s with text := t }).set k
      (d.lines.modify k fun s => { s with text := t })[k].markDirty hk' =
        d.lines.set k { d.lines[k] with text := t, dirty := true } hk := by
    apply Array.ext_getElem?
    intro i
    rw [Array.getElem?_set, Array.getElem?_set]
    split
    · simp [LineSlot.markDirty, Array.getElem_modify]
    · rw [Array.getElem?_modify, if_neg (by omega)]
  simp only [setLine, if_pos hk, markDirtyAt_of_clean d.dirtyCount hk' hd', hlines]

/-- A slice of a document with a grammar and a resume point reconciles its lines from there, from
the state that line starts in. -/
theorem reconcile_of_resume {d : Document} {g : Grammar} {k : Nat} (hg : d.grammar = some g)
    (hr : d.resume = some k) (b : Budget) :
    d.reconcile b =
      ({ d with lines := (reconcileFrom g d.limits b k 0 (incoming d.lines k) d.lines d.dirtyCount).lines,
                dirtyCount :=
                  (reconcileFrom g d.limits b k 0 (incoming d.lines k) d.lines d.dirtyCount).dirtyCount,
                resume :=
                  (reconcileFrom g d.limits b k 0 (incoming d.lines k) d.lines d.dirtyCount).stoppedAt },
        { status := if (reconcileFrom g d.limits b k 0 (incoming d.lines k) d.lines
              d.dirtyCount).stoppedAt.isSome then .inProgress else .done,
          linesParsed := (reconcileFrom g d.limits b k 0 (incoming d.lines k) d.lines d.dirtyCount).parsed,
          resumedAt := some k }) := by
  simp only [reconcile, hg, hr]

/-- A slice without a budget never stops early. -/
theorem reconcileFrom_unbounded_stoppedAt {g : Grammar} {limits : ParseLimits} (line parsed : Nat)
    (state : LineState) (lines : Array LineSlot) (count : Nat) :
    (reconcileFrom g limits .unbounded line parsed state lines count).stoppedAt = none := by
  fun_induction reconcileFrom g limits Budget.unbounded line parsed state lines count with
  | case1 line parsed state lines count hl hex => simp at hex
  | case2 line parsed state lines count hl hex slot result conv count' lines' hconv next hn _ ih =>
    exact ih
  | case3 => rfl
  | case4 line parsed state lines count hl hex slot result conv count' lines' hconv marked ih =>
    exact ih
  | case5 => rfl

/-- Reconciliation without a budget leaves a document with a grammar caught up. -/
theorem resume_reconcileAll {d : Document} {g : Grammar} (hg : d.grammar = some g) :
    d.reconcileAll.1.resume = none := by
  cases hr : d.resume with
  | none => simp [reconcileAll, reconcile, hg, hr]
  | some k =>
    rw [reconcileAll, reconcile_of_resume hg hr]
    exact reconcileFrom_unbounded_stoppedAt ..

/-- The parses line `k` and the lines after it get once line `k` holds `t`: line `k` from the state
the line before it ends in (the initial state for the first line), each later line from the end
state of the new parse before it. -/
def reparsesFrom (d : Document) (g : Grammar) (k : Nat) (t : String) : List ParsedLine :=
  g.rescan d.limits (incoming d.lines k) (t :: (textsOf d.lines).drop (k + 1))

/-- **Early stop reparses exactly the edited line and the stretch needed to reconverge.** Take a
reachable document that has caught up under grammar `g`, a line `k` of it and a text `t`. After line
`k` is set to `t`, reconciliation without a budget resumes at `k` and reparses lines `k` to `m`,
where `m` is the first line from `k` on whose new end state is the end state of its stored parse,
or the last line when there is none: it reports the document done after `m - k + 1` lines, lines `k`
to `m` show their new parses, and every other line shows what it showed before the edit. -/
theorem setLine_reconcileAll_reparses {d : Document} (hd : d.Reachable) {g : Grammar}
    (hg : d.grammar = some g) (hcaught : d.inProgress = false) {k : Nat} (hk : k < d.lineCount)
    (t : String) :
    ∃ m, k ≤ m ∧ m < d.lineCount ∧
      (∀ j, k ≤ j → j < m →
        ((d.reparsesFrom g k t)[j - k]?).map (·.state) ≠ (d.parsed? j).map (·.state)) ∧
      (((d.reparsesFrom g k t)[m - k]?).map (·.state) = (d.parsed? m).map (·.state) ∨
        m + 1 = d.lineCount) ∧
      (d.setLine k t).reconcileAll.2 = ⟨.done, m - k + 1, some k⟩ ∧
      (∀ i, k ≤ i → i ≤ m →
        (d.setLine k t).reconcileAll.1.parsed? i = (d.reparsesFrom g k t)[i - k]?) ∧
      ∀ i, (i < k ∨ m < i) → (d.setLine k t).reconcileAll.1.parsed? i = d.parsed? i := by
  have h := hd.rep
  have hr : d.resume = none := by
    simpa [inProgress, hg] using hcaught
  obtain ⟨hclean, hzero⟩ := h.clean_of_caughtUp hr
  have hkl : k < d.lines.size := hk
  -- the edited document: line `k` holds `t` and is the only marked line
  generalize hL : d.lines.set k { d.lines[k] with text := t, dirty := true } = L
  have hLsize : L.size = d.lines.size := by rw [← hL, Array.size_set]
  have hLget : ∀ i, L[i]? = if i = k then some { d.lines[k] with text := t, dirty := true }
      else d.lines[i]? := fun i => by
    rw [← hL, Array.getElem?_set]
    by_cases hi : i = k <;> simp [hi, Ne.symm]
  have hmark : MarkedOnlyAt L k := fun i hi => by
    have hget := hLget i
    rw [Array.getElem?_eq_getElem hi] at hget
    by_cases hik : i = k
    · rw [if_pos hik] at hget
      rw [Option.some.inj hget]
      simp [hik]
    · rw [if_neg hik, Array.getElem?_eq_getElem (by omega)] at hget
      rw [Option.some.inj hget]
      simp [hclean i (by omega), hik]
  have hstored : ∀ i, storedParse L i = storedParse d.lines i := fun i => by
    unfold storedParse
    rw [hLget]
    by_cases hi : i = k
    · subst hi
      simp [Array.getElem?_eq_getElem hkl]
    · rw [if_neg hi]
  have hdrop : (textsOf L).drop k = t :: (textsOf d.lines).drop (k + 1) := by
    rw [drop_textsOf (by omega)]
    have hkL : k < L.size := by omega
    have hLk : L[k] = { d.lines[k] with text := t, dirty := true } := by
      have := hLget k
      rw [if_pos rfl, Array.getElem?_eq_getElem (by omega)] at this
      exact Option.some.inj this
    rw [hLk]
    congr 1
    apply List.ext_getElem?
    intro j
    simp only [List.getElem?_drop, getElem?_textsOf, hLget, if_neg (by omega : ¬ k + 1 + j = k)]
  have hfresh : g.rescan d.limits (incoming L k) ((textsOf L).drop k) = d.reparsesFrom g k t := by
    rw [hdrop, incoming_congr hstored]
    rfl
  rw [setLine_of_clean t hkl (hclean k hkl), hL, hzero]
  generalize hD : touch { d with lines := L, dirtyCount := 0 + 1 } k = D
  have hDg : D.grammar = some g := by rw [← hD]; exact hg
  have hDr : D.resume = some k := by rw [← hD]; simp [touch, hr]
  have hDlines : D.lines = L := by rw [← hD]; rfl
  have hDcount : D.dirtyCount = 1 := by rw [← hD]; rfl
  have hDlimits : D.limits = d.limits := by rw [← hD]; rfl
  obtain ⟨m, hkm, hmL, hbefore, hend, hparsed, hstop, hlines⟩ :=
    (@reconcileFrom_markedOnly g d.limits k 0 (incoming L k) L 1).2
      (by omega) hmark rfl
  rw [hfresh] at hbefore hend hlines
  rw [hLsize] at hmL hend
  have hparsed? : ∀ i, d.parsed? i = storedParse d.lines i := parsed?_of_resume_none hr
  -- the slice after the edit, as the document runs it
  have hslice : D.reconcileAll =
      ({ D with lines := (reconcileFrom g d.limits .unbounded k 0 (incoming L k) L 1).lines,
                dirtyCount := (reconcileFrom g d.limits .unbounded k 0 (incoming L k) L 1).dirtyCount,
                resume := none },
        ⟨.done, m - k + 1, some k⟩) := by
    rw [reconcileAll, reconcile_of_resume hDg hDr, hDlines, hDcount, hDlimits, hstop, hparsed]
    simp
  have hshown : ∀ i, D.reconcileAll.1.parsed? i =
      storedParse (reconcileFrom g d.limits .unbounded k 0 (incoming L k) L 1).lines i := by
    intro i
    rw [hslice]
    exact parsed?_of_resume_none rfl i
  refine ⟨m, hkm, hmL, fun j h1 h2 => ?_, ?_, by rw [hslice], fun i h1 h2 => ?_, fun i hi => ?_⟩
  · rw [hparsed?, ← hstored]
    exact hbefore j h1 h2
  · rw [hparsed?, ← hstored]
    exact hend
  · rw [hshown, hlines i, if_pos ⟨h1, h2⟩]
  · rw [hshown, hlines i, if_neg (by omega), hstored, hparsed?]

/-- The rule of the bracket grammar that matches `ch` and then makes `switch`. -/
def bracketRule (ch : Char) (switch : Switch) : Rule :=
  ⟨.detectChar ch false, 0, switch, false, false, none, false, []⟩

/-- Brackets that span lines: `[` opens a context, kept over line ends, that only `]` closes. -/
def bracketGrammar : Grammar :=
  { (default : Grammar) with
    contexts := #[{ (default : Context) with rules := [bracketRule '[' { push := [1] }] },
      { (default : Context) with rules := [bracketRule ']' { pop := 1 }] }] }

/-- The lines `a` and `]` under the bracket grammar, caught up. -/
def bracketDocument : Document :=
  (empty (some bracketGrammar)).applyAll [.replaceLines 0 1 ["a", "]"], .reconcileAll]

/-- Opening a bracket on the first line of `bracketDocument` reparses both lines: the first now
ends inside the bracket, where its stored parse did not, and the second closes it again. -/
theorem setLine_reconcileAll_reparses_bracket :
    (bracketDocument.setLine 0 "[").reconcileAll.2 = ⟨.done, 2, some 0⟩ ∧
    ∃ m, 0 ≤ m ∧ m < bracketDocument.lineCount ∧
      (∀ j, 0 ≤ j → j < m →
        ((bracketDocument.reparsesFrom bracketGrammar 0 "[")[j - 0]?).map (·.state) ≠
          (bracketDocument.parsed? j).map (·.state)) ∧
      (((bracketDocument.reparsesFrom bracketGrammar 0 "[")[m - 0]?).map (·.state) =
          (bracketDocument.parsed? m).map (·.state) ∨ m + 1 = bracketDocument.lineCount) ∧
      (bracketDocument.setLine 0 "[").reconcileAll.2 = ⟨.done, m - 0 + 1, some 0⟩ ∧
      (∀ i, 0 ≤ i → i ≤ m → (bracketDocument.setLine 0 "[").reconcileAll.1.parsed? i =
        (bracketDocument.reparsesFrom bracketGrammar 0 "[")[i - 0]?) ∧
      ∀ i, (i < 0 ∨ m < i) →
        (bracketDocument.setLine 0 "[").reconcileAll.1.parsed? i = bracketDocument.parsed? i := by
  have hd : bracketDocument.Reachable :=
    ⟨some bracketGrammar, "", [.replaceLines 0 1 ["a", "]"], .reconcileAll], rfl⟩
  have hg : bracketDocument.grammar = some bracketGrammar := rfl
  have hr : bracketDocument.resume = none :=
    resume_reconcileAll (show ((empty (some bracketGrammar)).replaceLines 0 1 ["a", "]"]).grammar =
      some bracketGrammar from rfl)
  have hcaught : bracketDocument.inProgress = false := by simp [inProgress, hr]
  have htexts : textsOf bracketDocument.lines = ["a", "]"] := by
    simp only [bracketDocument, applyAll, List.foldl, Edit.apply, reconcileAll, textsOf_reconcile,
      empty, ofText, splitLines_empty]
    decide
  have hcount : bracketDocument.lineCount = 2 := by
    rw [lineCount, ← length_textsOf, htexts]
    rfl
  have hlimits : bracketDocument.limits = {} := rfl
  have hk : 0 < bracketDocument.lineCount := by rw [hcount]; decide
  have hconc := setLine_reconcileAll_reparses hd hg hcaught hk "["
  refine ⟨?_, hconc⟩
  obtain ⟨m, -, hm, -, hend, hreport, -⟩ := hconc
  -- the first line now ends inside the bracket, where its stored parse did not
  have hfirst : ((bracketDocument.reparsesFrom bracketGrammar 0 "[")[0]?).map (·.state) ≠
      (bracketDocument.parsed? 0).map (·.state) := by
    rw [hd.rep.parsed?_eq_rescanOf hg hr, reparsesFrom, rescanOf, htexts, hlimits]
    simp only [incoming, List.drop_succ_cons, List.drop_zero, Grammar.rescan,
      Grammar.parseLine_eq_passes]
    decide +kernel
  -- so the reparse cannot stop at the first line, and the second is the last
  have hm1 : m = 1 := by
    rw [hcount] at hm hend
    rcases Nat.lt_or_ge m 1 with h0 | h1
    · obtain rfl : m = 0 := by omega
      exact absurd (hend.resolve_right (by decide)) hfirst
    · omega
  rw [hreport, hm1]

end Document

end Highlight

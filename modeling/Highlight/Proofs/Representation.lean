import Highlight.Proofs.Reconcile
/-!
# What every document keeps

A document stores its lines, each with the parse it last received and a mark, together with the
number of marked lines and a resume point. Every document that editing can reach keeps these
consistent (`Document.Consistent`, proved in `applyAll_consistent`):

* there is always a line;
* the count is the number of marked lines, so the subtractions that maintain it never go below
  zero, and the search for the next marked line, which stops at once on a zero count, finds what
  a full search finds;
* the resume point is a line and no line before it is marked; without a resume point no line is
  marked, and without a grammar the resume point is the first line;
* a clean line holds a parse, and with a grammar it is the parse of the line's text from the state
  the parse of the line before it ends in, or from the initial state for the first line.

The proof carries a smaller invariant through every operation (`Document.Rep`): the invariant of
reconciliation (`Synced`), a line, an exact count, a resume point inside the document, and a parse
on every clean line. The rest follows from it.
-/

namespace Highlight

/-! ## Splitting a text into lines -/

theorem splitOnAux_ne_nil (s sep : String) (b i j : String.Pos.Raw) (r : List String) :
    String.splitOnAux s sep b i j r ≠ [] := by
  fun_induction String.splitOnAux s sep b i j r with
  | case1 => simp
  | case2 => assumption
  | case3 => assumption
  | case4 => assumption

/-- A text has at least one line. -/
theorem splitLines_ne_nil (text : String) : splitLines text ≠ [] := by
  unfold splitLines String.splitOn
  split
  · simp
  · simpa using splitOnAux_ne_nil _ _ _ _ _ _

/-- The empty text is one empty line. -/
theorem splitLines_empty : splitLines "" = [""] := by
  unfold splitLines String.splitOn
  rw [if_neg (by decide), String.splitOnAux, if_pos (by decide)]
  rfl

namespace Document

/-! ## Clean lines hold parses -/

/-- Every clean line holds a parse. -/
def CleanParsed (lines : Array LineSlot) : Prop :=
  ∀ i (h : i < lines.size), lines[i].dirty = false → lines[i].parsed.isSome

theorem CleanParsed.of_allDirty {lines : Array LineSlot}
    (h : ∀ i (hi : i < lines.size), lines[i].dirty = true) : CleanParsed lines :=
  fun i hi hc => by simp [h i hi] at hc

/-- A line holding the same slot as a line of lines whose clean lines hold parses is parsed if
clean. -/
theorem CleanParsed.of_same {lines lines' : Array LineSlot} (h : CleanParsed lines) {i j : Nat}
    (hij : lines'[i]? = lines[j]?) (hi : i < lines'.size) (hc : lines'[i].dirty = false) :
    lines'[i].parsed.isSome := by
  rw [Array.getElem?_eq_getElem hi] at hij
  obtain ⟨hj, heq⟩ := Array.getElem?_eq_some_iff.1 hij.symm
  rw [← heq] at hc ⊢
  exact h j hj hc

/-- Putting in a slot that is marked or parsed keeps every clean line parsed. -/
theorem CleanParsed.set {lines : Array LineSlot} (h : CleanParsed lines) {k : Nat}
    (hk : k < lines.size) {v : LineSlot} (hv : v.dirty = false → v.parsed.isSome) :
    CleanParsed (lines.set k v hk) := by
  intro i hi hc
  by_cases hik : k = i
  · subst hik
    simp only [Array.getElem_set_self] at hc ⊢
    exact hv hc
  · exact h.of_same (Array.getElem?_set_ne hk hik) hi hc

/-- Rewriting a slot without touching its mark or parse keeps every clean line parsed. -/
theorem CleanParsed.modify {lines : Array LineSlot} (h : CleanParsed lines) (k : Nat)
    {f : LineSlot → LineSlot} (hd : ∀ s, (f s).dirty = s.dirty) (hp : ∀ s, (f s).parsed = s.parsed) :
    CleanParsed (lines.modify k f) := by
  intro i hi hc
  have hi' : i < lines.size := by simpa using hi
  simp only [Array.getElem_modify] at hc ⊢
  by_cases hki : k = i
  · rw [if_pos hki, hd] at hc
    rw [if_pos hki, hp]
    exact h i hi' hc
  · rw [if_neg hki] at hc ⊢
    exact h i hi' hc

theorem CleanParsed.markDirtyAt {lines : Array LineSlot} (h : CleanParsed lines) (count k : Nat) :
    CleanParsed (markDirtyAt lines count k).1 := by
  rcases Nat.lt_or_ge k lines.size with hk | hk
  · rw [markDirtyAt_fst lines count k hk]
    exact h.set hk (by simp [LineSlot.markDirty])
  · rw [markDirtyAt_of_size_le lines count k hk]
    exact h

/-- Splicing in marked lines keeps every clean line parsed. -/
theorem CleanParsed.splice {lines ins : Array LineSlot} {a b : Nat} (h : CleanParsed lines)
    (ha : a ≤ lines.size) (hins : ∀ x ∈ ins, x.dirty = true) :
    CleanParsed (lines.extract 0 a ++ ins ++ lines.extract b lines.size) := by
  intro i hi hc
  have hget := @getElem?_splice lines ins a b ha i
  -- a line before or after the splice is an old one; a spliced one is marked
  split at hget
  · exact h.of_same hget hi hc
  split at hget
  · rw [Array.getElem?_eq_getElem hi] at hget
    rw [hins _ (Array.mem_of_getElem? hget.symm)] at hc
    cases hc
  · exact h.of_same hget hi hc

/-! ## Counting marked lines -/

/-- Lines that are all marked are all counted. -/
theorem countDirty_of_allDirty {lines : Array LineSlot}
    (h : ∀ i (hi : i < lines.size), lines[i].dirty = true) : countDirty lines = lines.size := by
  rw [countDirty_eq, Array.countP_eq_size]
  intro s hs
  obtain ⟨i, hi, rfl⟩ := Array.getElem_of_mem hs
  exact h i hi

/-- A stretch of lines has no more marked lines than all of them. -/
theorem countDirty_extract_le (lines : Array LineSlot) (a b : Nat) :
    countDirty (lines.extract a b) ≤ countDirty lines := by
  rw [countDirty_eq, countDirty_eq, ← Array.countP_toList, ← Array.countP_toList,
    Array.toList_extract]
  exact ((List.take_sublist _ _).trans (List.drop_sublist _ _)).countP_le

/-- With an exact count, a zero count means no line is marked, so the search for the next marked
line that stops at once on a zero count finds what the full search finds. -/
theorem nextDirty_eq_find {lines : Array LineSlot} {count : Nat} (hc : count = countDirty lines)
    (start : Nat) :
    nextDirty lines count start =
      ((lines.extract start lines.size).findIdx? (·.dirty)).map (start + ·) := by
  unfold nextDirty
  split
  · rename_i hzero
    have hnone : lines.countP (·.dirty) = 0 := by rw [← countDirty_eq, ← hc]; simpa using hzero
    have hclean := Array.countP_eq_zero.1 hnone
    rw [Array.findIdx?_eq_none_iff.2 fun x hx => by
      obtain ⟨k, hk, rfl⟩ := Array.mem_extract_iff_getElem.1 hx
      simpa using hclean _ (Array.getElem_mem _)]
    rfl
  · rfl

/-! ## The invariant -/

@[simp] theorem touch_lines (d : Document) (t : Nat) : (d.touch t).lines = d.lines := rfl

@[simp] theorem touch_dirtyCount (d : Document) (t : Nat) : (d.touch t).dirtyCount = d.dirtyCount :=
  rfl

theorem touch_resume (d : Document) (t : Nat) :
    (d.touch t).resume = some (match d.resume with | some r => min r t | none => t) := rfl

/-- What every operation keeps: the invariant of reconciliation, a line, an exact count of marked
lines, a resume point inside the document, and a parse on every clean line. -/
structure Rep (d : Document) : Prop where
  synced : d.Synced
  nonempty : 0 < d.lines.size
  count_eq : d.dirtyCount = countDirty d.lines
  resume_lt : ∀ r, d.resume = some r → r < d.lines.size
  cleanParsed : CleanParsed d.lines

/-- With a grammar, the invariant of reconciliation keeps the count exact. -/
theorem Synced.count_eq {d : Document} {g : Grammar} (h : d.Synced) (hg : d.grammar = some g) :
    d.dirtyCount = countDirty d.lines := by
  unfold Synced at h
  simp only [hg] at h
  exact h.1

/-- A document whose lines are all marked, counted exactly, resuming at its first line. -/
theorem Rep.of_allDirty {d : Document} (hd : ∀ i (h : i < d.lines.size), d.lines[i].dirty = true)
    (hc : d.dirtyCount = d.lines.size) (hr : d.resume = some 0) (hne : 0 < d.lines.size) :
    d.Rep where
  synced := Synced.of_allDirty hd hc hr
  nonempty := hne
  count_eq := by rw [hc, countDirty_of_allDirty hd]
  resume_lt r h := by
    rw [hr] at h
    cases h
    exact hne
  cleanParsed := CleanParsed.of_allDirty hd

/-- Moving the resume point back to a line of new lines with an exact count and parsed clean
lines keeps the invariant, once the invariant of reconciliation is known there. -/
theorem Rep.touch {d : Document} {lines : Array LineSlot} {count t : Nat}
    (hs : (Document.touch { d with lines, dirtyCount := count } t).Synced)
    (hcount : count = countDirty lines) (hclean : CleanParsed lines) (ht : t < lines.size) :
    (Document.touch { d with lines, dirtyCount := count } t).Rep where
  synced := hs
  nonempty := by simp only [touch_lines]; omega
  count_eq := hcount
  resume_lt r h := by
    simp only [touch_resume, Option.some.injEq] at h
    subst h
    cases d.resume with
    | none => exact ht
    | some r => exact Nat.lt_of_le_of_lt (Nat.min_le_right r t) ht
  cleanParsed := hclean

/-! ## Edits -/

theorem Rep.ofText (grammar : Option Grammar) (text : String) : (ofText grammar text).Rep :=
  Rep.of_allDirty (fun i hi => by simp [Document.ofText, LineSlot.fresh])
    (by simp [Document.ofText]) rfl
    (by simpa [Document.ofText] using List.length_pos_iff.2 (splitLines_ne_nil text))

theorem Rep.setText (d : Document) (text : String) : (d.setText text).Rep :=
  Rep.of_allDirty (fun i hi => by simp [Document.setText, Document.ofText, LineSlot.fresh])
    (by simp [Document.setText, Document.ofText]) rfl
    (by simpa [Document.setText, Document.ofText] using
      List.length_pos_iff.2 (splitLines_ne_nil text))

theorem Rep.invalidateAll {d : Document} (hne : 0 < d.lines.size) : d.invalidateAll.Rep :=
  Rep.of_allDirty (fun i hi => by simp [Document.invalidateAll, LineSlot.invalidate])
    (by simp [Document.invalidateAll]) rfl (by simpa [Document.invalidateAll] using hne)

/-- Changing one line's text keeps the invariant: the line is marked and the resume point moves
back to it. -/
theorem Rep.setLine {d : Document} (h : d.Rep) (line : Nat) (text : String) :
    (d.setLine line text).Rep := by
  have hs := h.synced.setLine line text
  unfold Document.setLine at hs ⊢
  split
  · rename_i hl
    rw [if_pos hl] at hs
    have hl' : line < (d.lines.modify line fun s => { s with text }).size := by simpa using hl
    have hclean : CleanParsed (d.lines.modify line fun s => { s with text }) :=
      h.cleanParsed.modify line (fun _ => rfl) (fun _ => rfl)
    generalize hm : markDirtyAt (d.lines.modify line fun s => { s with text }) d.dirtyCount line = m
      at hs ⊢
    obtain ⟨lines, count⟩ := m
    have hcount := markDirtyAt_snd (d.lines.modify line fun s => { s with text }) d.dirtyCount line
      (by rw [countDirty_modify _ _ (f := fun s => { s with text }) fun _ => rfl]; exact h.count_eq)
    have hparsed := hclean.markDirtyAt d.dirtyCount line
    have hsize := size_markDirtyAt (d.lines.modify line fun s => { s with text }) d.dirtyCount line
    rw [hm] at hcount hparsed hsize
    exact Rep.touch hs hcount hparsed (by simp only at hsize; omega)
  · rw [if_neg ‹_›] at hs
    exact h

/-- Replacing lines keeps the invariant: the spliced lines are marked, the count follows the lines
that went and came, and the resume point moves back to a line of the edited document. -/
theorem Rep.replaceLines {d : Document} (h : d.Rep) (start removed : Nat)
    (inserted : List String) : (d.replaceLines start removed inserted).Rep := by
  have hs := h.synced.replaceLines start removed inserted
  unfold Document.replaceLines at hs ⊢
  dsimp only at hs ⊢
  generalize ha : min start d.lines.size = a at hs ⊢
  generalize hb : min (a + removed) d.lines.size = b at hs ⊢
  have hab : a ≤ b := by omega
  have hbn : b ≤ d.lines.size := by omega
  generalize hins : (List.map LineSlot.fresh inserted).toArray = ins at hs ⊢
  have hfresh : ∀ x ∈ ins, x.dirty = true := by
    subst hins
    simp [LineSlot.fresh]
  have hm : ins.size = inserted.length := by
    subst hins
    simp
  generalize hL : d.lines.extract 0 a ++ ins ++ d.lines.extract b d.lines.size = L at hs ⊢
  have hLsize : L.size = a + ins.size + (d.lines.size - b) := by
    rw [← hL]
    simp
    omega
  have hLcount : d.dirtyCount - countDirty (d.lines.extract a b) + inserted.length =
      countDirty L := by
    rw [← hL, ← hins, countDirty_splice_fresh hab hbn, h.count_eq]
  have hLparsed : CleanParsed L := hL ▸ h.cleanParsed.splice (by omega) hfresh
  by_cases hE : L.isEmpty = true
  · -- every line went and none came: one empty line takes their place
    have hL0 : L.size = 0 := by simpa using hE
    have hA : (inserted.length == 0) = true := by simp only [beq_iff_eq]; omega
    simp only [hE, hA, if_true] at hs ⊢
    have hfresh₀ : CleanParsed #[LineSlot.fresh ""] :=
      CleanParsed.of_allDirty fun i hi => by simp [LineSlot.fresh]
    have hcount₀ : d.dirtyCount - countDirty (d.lines.extract a b) + inserted.length + 1 =
        countDirty #[LineSlot.fresh ""] := by
      have hnone : countDirty L = L.size := countDirty_of_allDirty fun i hi => absurd hi (by omega)
      have hone : countDirty #[LineSlot.fresh ""] = #[LineSlot.fresh ""].size :=
        countDirty_of_allDirty fun i hi => by simp [LineSlot.fresh]
      rw [hLcount, hnone, hone, hL0]
      rfl
    exact Rep.touch hs (markDirtyAt_snd _ _ _ hcount₀) (hfresh₀.markDirtyAt _ _)
      (by rw [size_markDirtyAt]; simp)
  · simp only [hE, if_false, Bool.false_eq_true] at hs ⊢
    have hpos : 0 < L.size := by
      rcases Nat.eq_zero_or_pos L.size with h0 | h0
      · exact absurd (by simpa using h0) hE
      · exact h0
    by_cases hA : (inserted.length == 0) = true
    · -- nothing inserted: the line now after the edit is marked
      simp only [hA, if_true] at hs ⊢
      exact Rep.touch hs (markDirtyAt_snd _ _ _ hLcount) (hLparsed.markDirtyAt _ _)
        (by rw [size_markDirtyAt]; omega)
    · simp only [hA, if_false, Bool.false_eq_true] at hs ⊢
      exact Rep.touch hs hLcount hLparsed (by omega)

/-! ## Reconciling -/

section Slice

variable {g : Grammar} {limits : ParseLimits} {budget : Budget}

/-- A slice keeps the number of lines. -/
theorem size_reconcileFrom (line parsed : Nat) (state : LineState) (lines : Array LineSlot)
    (count : Nat) : (reconcileFrom g limits budget line parsed state lines count).lines.size =
      lines.size := by
  fun_induction reconcileFrom g limits budget line parsed state lines count with
  | case1 => rfl
  | case2 line parsed state lines count hl hex slot result conv count' lines' hconv next hn _ ih =>
    rw [ih]
    simp [lines']
  | case3 line parsed state lines count hl hex slot result conv count' lines' hconv hn =>
    simp [lines']
  | case4 line parsed state lines count hl hex slot result conv count' lines' hconv marked ih =>
    rw [ih, size_markDirtyAt]
    simp [lines']
  | case5 => rfl

/-- A slice that stops early stops at a line of the document. -/
theorem reconcileFrom_stoppedAt_lt (line parsed : Nat) (state : LineState)
    (lines : Array LineSlot) (count : Nat) :
    ∀ l, (reconcileFrom g limits budget line parsed state lines count).stoppedAt = some l →
      l < lines.size := by
  fun_induction reconcileFrom g limits budget line parsed state lines count with
  | case1 line parsed state lines count hl hex =>
    intro l h
    cases h
    exact hl
  | case2 line parsed state lines count hl hex slot result conv count' lines' hconv next hn _ ih =>
    intro l h
    simpa [lines'] using ih l h
  | case3 => intro l h; cases h
  | case4 line parsed state lines count hl hex slot result conv count' lines' hconv marked ih =>
    intro l h
    have := ih l h
    rw [size_markDirtyAt] at this
    simpa [lines'] using this
  | case5 => intro l h; cases h

/-- A slice gives every line it makes clean a parse, and only marks lines. -/
theorem reconcileFrom_cleanParsed (line parsed : Nat) (state : LineState)
    (lines : Array LineSlot) (count : Nat) (h : CleanParsed lines) :
    CleanParsed (reconcileFrom g limits budget line parsed state lines count).lines := by
  fun_induction reconcileFrom g limits budget line parsed state lines count with
  | case1 => exact h
  | case2 line parsed state lines count hl hex slot result conv count' lines' hconv next hn _ ih =>
    exact ih (h.set hl (by simp))
  | case3 line parsed state lines count hl hex slot result conv count' lines' hconv hn =>
    exact h.set hl (by simp)
  | case4 line parsed state lines count hl hex slot result conv count' lines' hconv marked ih =>
    exact ih ((h.set hl (by simp)).markDirtyAt _ _)
  | case5 => exact h

end Slice

/-- A slice keeps the invariant. -/
theorem Rep.reconcile {d : Document} (h : d.Rep) (budget : Budget) :
    (d.reconcile budget).1.Rep := by
  have hs := (h.synced.reconcile budget).1
  revert hs
  unfold Document.reconcile
  split
  · rename_i g start hg hr
    intro hs
    refine ⟨hs, ?_, hs.count_eq hg, fun l hl => ?_, ?_⟩
    · simpa [size_reconcileFrom] using h.nonempty
    · simpa [size_reconcileFrom] using reconcileFrom_stoppedAt_lt _ _ _ _ _ l hl
    · exact reconcileFrom_cleanParsed _ _ _ _ _ h.cleanParsed
  · intro _
    exact h

theorem Rep.apply {d : Document} (h : d.Rep) : ∀ e : Edit, (e.apply d).Rep
  | .setText text => Rep.setText d text
  | .setLine line text => h.setLine line text
  | .insertLines before inserted => h.replaceLines before 0 inserted
  | .removeLines start count => h.replaceLines start count []
  | .replaceLines start removed inserted => h.replaceLines start removed inserted
  | .setGrammar _ => Rep.invalidateAll h.nonempty
  | .clearGrammar => Rep.invalidateAll h.nonempty
  | .setLimits _ => Rep.invalidateAll h.nonempty
  | .reconcile budget => h.reconcile budget
  | .reconcileAll => h.reconcile _

theorem Rep.applyAll {d : Document} (h : d.Rep) (edits : List Edit) : (d.applyAll edits).Rep := by
  induction edits generalizing d with
  | nil => exact h
  | cons e edits ih => exact ih (h.apply e)

/-! ## Consistent documents -/

/-- A document's lines, marks, count and resume point agree with each other. -/
structure Consistent (d : Document) : Prop where
  /-- There is always a line. -/
  nonempty : 0 < d.lineCount
  /-- The count is the number of marked lines. -/
  count_eq : d.dirtyCount = countDirty d.lines
  /-- No stretch of lines has more marked lines than the count: taking a stretch's marks off the
  count never goes below zero. -/
  extract_le : ∀ a b, countDirty (d.lines.extract a b) ≤ d.dirtyCount
  /-- The search for the next marked line finds what a full search finds. -/
  nextDirty_eq : ∀ start, nextDirty d.lines d.dirtyCount start =
    ((d.lines.extract start d.lines.size).findIdx? (·.dirty)).map (start + ·)
  /-- The resume point is a line. -/
  resume_lt : ∀ r, d.resume = some r → r < d.lineCount
  /-- No line before the resume point is marked. -/
  dirty_ge : ∀ r, d.resume = some r → ∀ i (h : i < d.lines.size), d.lines[i].dirty = true → r ≤ i
  /-- Without a resume point no line is marked. -/
  caught_up : d.resume = none → ∀ i (h : i < d.lines.size), d.lines[i].dirty = false
  /-- Without a grammar the resume point is the first line. -/
  no_grammar : d.grammar = none → d.resume = some 0
  /-- A clean line holds a parse: with a grammar, the parse of its text from the initial state
  for the first line, and from the state the parse of the line before it ends in for the others. -/
  clean_parsed : ∀ i (h : i < d.lines.size), d.lines[i].dirty = false →
    ∃ p, d.lines[i].parsed = some p ∧ ∀ g, d.grammar = some g →
      (i = 0 → p = g.parseLine d.lines[i].text LineState.initial d.limits) ∧
      ∀ j (hj : j < d.lines.size) q, i = j + 1 → d.lines[j].parsed = some q →
        p = g.parseLine d.lines[i].text q.state d.limits

/-- The invariant gives consistency: the resume point and the marks come from the settled lines
of `Synced`, the parses of clean lines from its agreement of clean lines. -/
theorem Rep.consistent {d : Document} (h : d.Rep) : d.Consistent where
  nonempty := h.nonempty
  count_eq := h.count_eq
  extract_le a b := h.count_eq ▸ countDirty_extract_le d.lines a b
  nextDirty_eq := nextDirty_eq_find h.count_eq
  resume_lt := h.resume_lt
  dirty_ge r hr i hi hd := by
    have hs := h.synced
    unfold Synced at hs
    split at hs
    · -- without a grammar the resume point is the first line
      rw [hs] at hr
      cases hr
      exact Nat.zero_le i
    · -- with one, every line before the resume point is settled, hence clean
      simp only [hr, Option.getD_some] at hs
      refine Nat.le_of_not_lt fun hlt => ?_
      have hclean := (hs.2.2 i hi hlt).1
      rw [hd] at hclean
      cases hclean
  caught_up hr i hi := by
    have hs := h.synced
    unfold Synced at hs
    split at hs
    · rw [hs] at hr
      cases hr
    · simp only [hr, Option.getD_none] at hs
      exact (hs.2.2 i hi hi).1
  no_grammar hg := by
    have hs := h.synced
    unfold Synced at hs
    simpa only [hg] using hs
  clean_parsed i hi hc := by
    obtain ⟨p, hp⟩ := Option.isSome_iff_exists.1 (h.cleanParsed i hi hc)
    refine ⟨p, hp, fun g hg => ?_⟩
    have hs := h.synced
    unfold Synced at hs
    simp only [hg] at hs
    have hagree := hs.2.1 i hi hc
    refine ⟨fun h0 => ?_, fun j hj q hij hq => ?_⟩
    · subst h0
      have hparse := hagree LineState.initial rfl
      rw [hp] at hparse
      exact Option.some.inj hparse
    · subst hij
      have hparse := hagree q.state (by simp [entryOf_succ, Array.getElem?_eq_getElem hj, hq])
      rw [hp] at hparse
      exact Option.some.inj hparse

/-- Every document reached from a new document by edits, changes of grammar and limits, and
reconciliation slices of any budget is consistent. -/
theorem applyAll_consistent (grammar : Option Grammar) (text : String) (edits : List Edit) :
    ((ofText grammar text).applyAll edits).Consistent :=
  ((Rep.ofText grammar text).applyAll edits).consistent

end Document

end Highlight

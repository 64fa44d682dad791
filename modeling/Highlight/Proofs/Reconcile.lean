import Highlight.Document.Basic
/-!
# Reconciliation agrees with a full rescan

A document keeps, for every line, the parse it last received and a mark saying whether that
parse may be stale. The parses it shows are always a prefix of the parses a rescan from the top
gives, and a slice that reports the document done shows the whole rescan.

The invariant behind it has three parts.

* Lines before the resume point are clean and hold their rescan parse.
* A clean line holds the parse of its text from the state the stored parse of the line before it
  ends in. This is what lets reconciliation stop early: once a reparsed line ends as it did
  before, every clean line after it already starts from the right state.
* The count of marked lines is exact, so the search for the next marked line is never cut short.

Edits keep it because each one marks the lines whose text or predecessor changed, and a slice
keeps it because it marks the next line whenever a reparsed line ends in a new state.
-/

namespace Highlight

/-! ## The full rescan -/

namespace Grammar

variable (g : Grammar) (limits : ParseLimits)

/-- The first line of a rescan is parsed from the state the rescan starts in. -/
theorem rescan_getElem?_zero (s : LineState) (ts : List String) :
    (g.rescan limits s ts)[0]? = ts[0]?.map fun t => g.parseLine t s limits := by
  cases ts <;> rfl

/-- Each later line of a rescan is parsed from the state the line before it ended in. -/
theorem rescan_getElem?_succ (s : LineState) (ts : List String) (i : Nat) :
    (g.rescan limits s ts)[i + 1]? =
      (g.rescan limits s ts)[i]?.bind fun p => ts[i + 1]?.map fun t => g.parseLine t p.state limits := by
  induction ts generalizing s i with
  | nil => rfl
  | cons t ts ih =>
    cases i with
    | zero => cases ts <;> rfl
    | succ i => exact ih _ i

/-- A rescan reads each line's text and nothing after it: two lists of texts that agree up to
line `i` rescan line `i` alike. -/
theorem rescan_getElem?_congr (s : LineState) {ts us : List String} (i : Nat)
    (hagree : ∀ j, j ≤ i → ts[j]? = us[j]?) :
    (g.rescan limits s ts)[i]? = (g.rescan limits s us)[i]? := by
  induction i with
  | zero => rw [rescan_getElem?_zero, rescan_getElem?_zero, hagree 0 (Nat.le_refl 0)]
  | succ i ih =>
    rw [rescan_getElem?_succ, rescan_getElem?_succ, hagree (i + 1) (Nat.le_refl _),
      ih fun j hj => hagree j (by omega)]

end Grammar

/-! ## Lines and the states they start in -/

namespace Document

/-- The texts of some lines. -/
def textsOf (lines : Array LineSlot) : List String := lines.toList.map (·.text)

@[simp] theorem length_textsOf (lines : Array LineSlot) : (textsOf lines).length = lines.size := by
  simp [textsOf]

@[simp] theorem getElem?_textsOf (lines : Array LineSlot) (i : Nat) :
    (textsOf lines)[i]? = lines[i]?.map (·.text) := by
  simp [textsOf]

/-- The rescan of some lines. -/
def rescanOf (g : Grammar) (limits : ParseLimits) (lines : Array LineSlot) : List ParsedLine :=
  g.rescan limits LineState.initial (textsOf lines)

@[simp] theorem length_rescanOf (g : Grammar) (limits : ParseLimits) (lines : Array LineSlot) :
    (rescanOf g limits lines).length = lines.size := by
  simp [rescanOf]

/-- The state line `i` starts in when the line before it is taken at its stored parse: the
initial state for the first line, none when the line before has no parse. -/
def entryOf (lines : Array LineSlot) : Nat → Option LineState
  | 0 => some LineState.initial
  | k + 1 => (lines[k]?.bind (·.parsed)).map (·.state)

@[simp] theorem entryOf_zero (lines : Array LineSlot) : entryOf lines 0 = some LineState.initial :=
  rfl

theorem entryOf_succ (lines : Array LineSlot) (k : Nat) :
    entryOf lines (k + 1) = (lines[k]?.bind (·.parsed)).map (·.state) := rfl

/-- The state a slice feeds a line is its entry state, or the initial state when there is none. -/
theorem incoming_eq_entryOf (lines : Array LineSlot) (i : Nat) :
    incoming lines i = (entryOf lines i).getD LineState.initial := by
  cases i <;> rfl

/-- A line's entry state reads only the line before it. -/
theorem entryOf_congr {lines lines' : Array LineSlot} {i : Nat}
    (h : ∀ k, i = k + 1 → (lines[k]?.bind (·.parsed)) = (lines'[k]?.bind (·.parsed))) :
    entryOf lines i = entryOf lines' i := by
  cases i with
  | zero => rfl
  | succ k => simp only [entryOf_succ, h k rfl]

/-! ## The invariant -/

section Invariant

variable (g : Grammar) (limits : ParseLimits)

/-- Every clean line holds the parse of its text from its entry state, whenever it has one. -/
def CleanAgree (lines : Array LineSlot) : Prop :=
  ∀ i (h : i < lines.size), lines[i].dirty = false → ∀ s, entryOf lines i = some s →
    lines[i].parsed = some (g.parseLine lines[i].text s limits)

/-- Every clean line other than line `k` agrees with its entry state. -/
def CleanAgreeOff (lines : Array LineSlot) (k : Nat) : Prop :=
  ∀ i (h : i < lines.size), i ≠ k → lines[i].dirty = false → ∀ s, entryOf lines i = some s →
    lines[i].parsed = some (g.parseLine lines[i].text s limits)

/-- The lines before `r` are clean and hold their rescan parses. -/
def SettledBelow (lines : Array LineSlot) (r : Nat) : Prop :=
  ∀ i (h : i < lines.size), i < r →
    lines[i].dirty = false ∧ lines[i].parsed = (rescanOf g limits lines)[i]?

variable {g limits}

theorem SettledBelow.mono {lines : Array LineSlot} {r k : Nat} (h : SettledBelow g limits lines r)
    (hk : k ≤ r) : SettledBelow g limits lines k :=
  fun i hi hik => h i hi (by omega)

/-- Past the last line, being settled below one point or another is the same. -/
theorem SettledBelow.of_size_le {lines : Array LineSlot} {r k : Nat}
    (h : SettledBelow g limits lines r) (hr : lines.size ≤ r) : SettledBelow g limits lines k :=
  fun i hi _ => h i hi (by omega)

/-- Below a settled point, a line's entry state exists and its rescan parse is the parse of its
text from it. -/
theorem SettledBelow.entry {lines : Array LineSlot} {r : Nat} (h : SettledBelow g limits lines r)
    {i : Nat} (hir : i ≤ r) (hi : i < lines.size) :
    ∃ s, entryOf lines i = some s ∧
      (rescanOf g limits lines)[i]? = some (g.parseLine lines[i].text s limits) := by
  cases i with
  | zero =>
    refine ⟨LineState.initial, rfl, ?_⟩
    simp [rescanOf, Grammar.rescan_getElem?_zero, Array.getElem?_eq_getElem hi]
  | succ k =>
    have hk : k < lines.size := by omega
    have hparsed := (h k hk (by omega)).2
    obtain ⟨p, hp⟩ : ∃ p, (rescanOf g limits lines)[k]? = some p :=
      Option.ne_none_iff_exists'.1 (by simp [hk])
    refine ⟨p.state, ?_, ?_⟩
    · simp [entryOf_succ, Array.getElem?_eq_getElem hk, hparsed, hp]
    · simp only [rescanOf] at hp ⊢
      simp [Grammar.rescan_getElem?_succ, hp, Array.getElem?_eq_getElem hi]

/-- A clean line right after the settled lines that agrees with its entry state is settled
too. -/
theorem SettledBelow.succ {lines : Array LineSlot} {r : Nat} (h : SettledBelow g limits lines r)
    (hr : r < lines.size) (hclean : lines[r].dirty = false)
    (hagree : ∀ s, entryOf lines r = some s → lines[r].parsed = some (g.parseLine lines[r].text s limits)) :
    SettledBelow g limits lines (r + 1) := by
  intro i hi hir
  rcases Nat.lt_or_ge i r with hlt | hge
  · exact h i hi hlt
  · obtain rfl : i = r := by omega
    obtain ⟨s, hs, hrescan⟩ := h.entry (Nat.le_refl i) hi
    exact ⟨hclean, by rw [hagree s hs, hrescan]⟩

/-- A run of clean lines after the settled lines is settled. -/
theorem SettledBelow.of_clean {lines : Array LineSlot} {r k : Nat} (h : SettledBelow g limits lines r)
    (hc : CleanAgree g limits lines)
    (hclean : ∀ j (hj : j < lines.size), r ≤ j → j < k → lines[j].dirty = false) :
    SettledBelow g limits lines k := by
  induction k with
  | zero => exact fun i _ hi => absurd hi (Nat.not_lt_zero i)
  | succ k ih =>
    rcases Nat.lt_or_ge k r with hkr | hkr
    · exact h.mono (by omega)
    · have hk := ih fun j hj hrj hjk => hclean j hj hrj (by omega)
      rcases Nat.lt_or_ge k lines.size with hks | hks
      · have hck := hclean k hks hkr (by omega)
        exact hk.succ hks hck (hc k hks hck)
      · exact hk.of_size_le hks

/-- Lines that keep the first `k` lines of settled lines, texts included, are settled below
`k`: the rescan of a line reads only the lines up to it. -/
theorem SettledBelow.transfer {lines lines' : Array LineSlot} {r k : Nat}
    (h : SettledBelow g limits lines r) (hk : k ≤ r) (hsame : ∀ i, i < k → lines'[i]? = lines[i]?) :
    SettledBelow g limits lines' k := by
  intro i hi hik
  have hsome := hsame i hik
  rw [Array.getElem?_eq_getElem hi] at hsome
  obtain ⟨hi', heq⟩ := Array.getElem?_eq_some_iff.1 hsome.symm
  obtain ⟨hdirty, hparsed⟩ := h i hi' (by omega)
  have hrescan : (rescanOf g limits lines')[i]? = (rescanOf g limits lines)[i]? := by
    refine g.rescan_getElem?_congr limits _ i fun j hj => ?_
    simp [hsame j (by omega)]
  rw [heq] at hdirty hparsed
  exact ⟨hdirty, by rw [hparsed, hrescan]⟩

end Invariant

/-! ## Marks -/

theorem countDirty_eq (lines : Array LineSlot) : countDirty lines = lines.countP (·.dirty) :=
  Array.countP_eq_size_filter.symm

/-- Marking a line that is there is setting it to its marked form. -/
theorem markDirtyAt_fst (lines : Array LineSlot) (count k : Nat) (hk : k < lines.size) :
    (markDirtyAt lines count k).1 = lines.set k lines[k].markDirty := by
  unfold markDirtyAt
  rw [Array.getElem?_eq_getElem hk]
  by_cases hd : lines[k].dirty
  · have hself : lines[k].markDirty = lines[k] := by
      simp only [LineSlot.markDirty, ← hd]
    simp [hd, hself]
  · simp [hd, Array.set!_eq_setIfInBounds, Array.setIfInBounds, hk]

/-- Marking a line past the end changes nothing. -/
theorem markDirtyAt_of_size_le (lines : Array LineSlot) (count k : Nat) (hk : lines.size ≤ k) :
    markDirtyAt lines count k = (lines, count) := by
  simp [markDirtyAt, Array.getElem?_eq_none hk]

/-- Marking a line that is already marked changes nothing. -/
theorem markDirtyAt_of_dirty (lines : Array LineSlot) (count k : Nat) (hk : k < lines.size)
    (hd : lines[k].dirty = true) : markDirtyAt lines count k = (lines, count) := by
  simp [markDirtyAt, Array.getElem?_eq_getElem hk, hd]

/-- Marking keeps the count exact. -/
theorem markDirtyAt_snd (lines : Array LineSlot) (count k : Nat) (hc : count = countDirty lines) :
    (markDirtyAt lines count k).2 = countDirty (markDirtyAt lines count k).1 := by
  unfold markDirtyAt
  cases hk : lines[k]? with
  | none => exact hc
  | some s =>
    have hlt : k < lines.size := (Array.getElem?_eq_some_iff.1 hk).1
    have hs : lines[k] = s := (Array.getElem?_eq_some_iff.1 hk).2
    by_cases hd : s.dirty
    · simp [hd, hc]
    · simp only [hd, Bool.false_eq_true, if_false, Array.set!_eq_setIfInBounds,
        Array.setIfInBounds, hlt, dif_pos, countDirty_eq, Array.countP_set hlt, hs, hc]
      simp [LineSlot.markDirty]

/-! ## Replacing one line's slot -/

theorem textsOf_set {lines : Array LineSlot} {k : Nat} (hk : k < lines.size) {v : LineSlot}
    (hv : v.text = lines[k].text) : textsOf (lines.set k v) = textsOf lines := by
  apply List.ext_getElem?
  intro i
  simp only [getElem?_textsOf, Array.getElem?_set]
  split
  · subst_vars; simp [Array.getElem?_eq_getElem hk, hv]
  · rfl

/-- Replacing a slot by one whose parse ends in the same state changes no entry state. -/
theorem entryOf_set {lines : Array LineSlot} {k : Nat} (hk : k < lines.size) {v : LineSlot}
    (hv : v.parsed.map (·.state) = lines[k].parsed.map (·.state)) (i : Nat) :
    entryOf (lines.set k v) i = entryOf lines i := by
  cases i with
  | zero => rfl
  | succ j =>
    simp only [entryOf_succ]
    by_cases hj : k = j
    · subst hj
      simpa [Array.getElem?_eq_getElem hk, Option.map_bind] using hv
    · rw [Array.getElem?_set_ne hk hj]

/-- Replacing a slot changes no entry state but that of the line after it. -/
theorem entryOf_set_ne {lines : Array LineSlot} {k : Nat} (hk : k < lines.size) (v : LineSlot)
    {i : Nat} (hi : i ≠ k + 1) : entryOf (lines.set k v) i = entryOf lines i := by
  apply entryOf_congr
  intro j hj
  rw [Array.getElem?_set_ne hk (by omega)]

theorem markDirtyAt_textsOf (lines : Array LineSlot) (count k : Nat) :
    textsOf (markDirtyAt lines count k).1 = textsOf lines := by
  rcases Nat.lt_or_ge k lines.size with hk | hk
  · rw [markDirtyAt_fst lines count k hk, textsOf_set hk (v := lines[k].markDirty) rfl]
  · rw [markDirtyAt_of_size_le lines count k hk]

theorem size_markDirtyAt (lines : Array LineSlot) (count k : Nat) :
    (markDirtyAt lines count k).1.size = lines.size := markDirtyAt_size lines count k

/-- Marking changes no entry state. -/
theorem entryOf_markDirtyAt (lines : Array LineSlot) (count k i : Nat) :
    entryOf (markDirtyAt lines count k).1 i = entryOf lines i := by
  rcases Nat.lt_or_ge k lines.size with hk | hk
  · rw [markDirtyAt_fst lines count k hk, entryOf_set hk (v := lines[k].markDirty) rfl]
  · rw [markDirtyAt_of_size_le lines count k hk]

section Marking

variable {g : Grammar} {limits : ParseLimits}

/-- Marking line `k` makes the lines agree everywhere, if they agreed everywhere but there. -/
theorem CleanAgreeOff.markDirtyAt {lines : Array LineSlot} {k : Nat}
    (h : CleanAgreeOff g limits lines k) (count : Nat) :
    CleanAgree g limits (markDirtyAt lines count k).1 := by
  rcases Nat.lt_or_ge k lines.size with hk | hk
  · rw [markDirtyAt_fst lines count k hk]
    intro i hi hclean s hs
    by_cases hik : k = i
    · subst hik; simp [LineSlot.markDirty] at hclean
    · have hi' : i < lines.size := by simpa using hi
      simp only [Array.getElem_set_ne hk hi' hik] at hclean ⊢
      rw [entryOf_set hk (v := lines[k].markDirty) rfl] at hs
      exact h i hi' (Ne.symm hik) hclean s hs
  · rw [markDirtyAt_of_size_le lines count k hk]
    intro i hi
    have hi' : i < lines.size := hi
    exact h i hi' (by omega)

/-- Marking a line at or after the settled point keeps what is settled. -/
theorem SettledBelow.markDirtyAt {lines : Array LineSlot} {r k : Nat}
    (h : SettledBelow g limits lines r) (hrk : r ≤ k) (count : Nat) :
    SettledBelow g limits (markDirtyAt lines count k).1 r := by
  rcases Nat.lt_or_ge k lines.size with hk | hk
  · rw [markDirtyAt_fst lines count k hk]
    exact h.transfer (Nat.le_refl r) fun i hir => Array.getElem?_set_ne hk (by omega)
  · rw [markDirtyAt_of_size_le lines count k hk]
    exact h

end Marking

/-! ## The next marked line -/

/-- The next marked line is marked, and every line between the start and it is clean. -/
theorem nextDirty_some {lines : Array LineSlot} {count start n : Nat}
    (h : nextDirty lines count start = some n) :
    ∃ hn : n < lines.size, start ≤ n ∧ lines[n].dirty = true ∧
      ∀ j (hj : j < lines.size), start ≤ j → j < n → lines[j].dirty = false := by
  unfold nextDirty at h
  split at h
  · simp at h
  · obtain ⟨i, hi, rfl⟩ := Option.map_eq_some_iff.1 h
    obtain ⟨hsize, hdirty, hbefore⟩ := Array.findIdx?_eq_some_iff_getElem.1 hi
    simp only [Array.size_extract] at hsize
    refine ⟨by omega, by omega, by simpa using hdirty, fun j hj hsj hjn => ?_⟩
    have := hbefore (j - start) (by omega)
    simp only [Array.getElem_extract, Nat.add_sub_cancel' hsj] at this
    simpa using this

/-- With an exact count, no next marked line means no marked line from the start on. -/
theorem nextDirty_none {lines : Array LineSlot} {count start : Nat} (hc : count = countDirty lines)
    (h : nextDirty lines count start = none) :
    ∀ j (hj : j < lines.size), start ≤ j → lines[j].dirty = false := by
  intro j hj hsj
  unfold nextDirty at h
  split at h
  · rename_i hzero
    have hnone : lines.countP (·.dirty) = 0 := by rw [← countDirty_eq, ← hc]; simpa using hzero
    simpa using Array.countP_eq_zero.1 hnone lines[j] (Array.getElem_mem hj)
  · have hnone := Array.findIdx?_eq_none_iff.1 (Option.map_eq_none_iff.1 h)
    have hmem : lines[j] ∈ lines.extract start lines.size := by
      rw [Array.mem_extract_iff_getElem]
      exact ⟨j - start, by simp; omega, by simp [Nat.add_sub_cancel' hsj]⟩
    exact hnone _ hmem

/-! ## One slice -/

section Slice

variable {g : Grammar} {limits : ParseLimits}

/-- What holds before a slice reparses line `line` from `state`: the lines above it are
settled, `state` is the line's entry state, clean lines agree and the count is exact. -/
structure SliceInv (g : Grammar) (limits : ParseLimits) (line : Nat) (state : LineState)
    (lines : Array LineSlot) (count : Nat) : Prop where
  count_eq : count = countDirty lines
  settled : SettledBelow g limits lines line
  clean : CleanAgree g limits lines
  entry : line < lines.size → entryOf lines line = some state

/-- The lines with line `line` holding `p` as its parse, clean. -/
def settleAt (lines : Array LineSlot) (line : Nat) (hl : line < lines.size) (p : ParsedLine) :
    Array LineSlot :=
  lines.set line ⟨lines[line].text, some p, false⟩ hl

@[simp] theorem size_settleAt (lines : Array LineSlot) (line : Nat) (hl : line < lines.size)
    (p : ParsedLine) : (settleAt lines line hl p).size = lines.size := by
  simp [settleAt]

theorem textsOf_settleAt (lines : Array LineSlot) (line : Nat) (hl : line < lines.size)
    (p : ParsedLine) : textsOf (settleAt lines line hl p) = textsOf lines :=
  textsOf_set hl rfl

variable {line : Nat} {state : LineState} {lines : Array LineSlot} {count : Nat}

/-- Reparsing keeps every clean line but the next one in agreement, the reparsed line
included. -/
theorem SliceInv.reparse_cleanOff (h : SliceInv g limits line state lines count)
    (hl : line < lines.size) :
    CleanAgreeOff g limits (settleAt lines line hl (g.parseLine lines[line].text state limits))
      (line + 1) := by
  intro i hi hne hclean s hs
  rw [settleAt, entryOf_set_ne hl _ hne] at hs
  by_cases hil : line = i
  · subst hil
    rw [h.entry hl] at hs
    cases hs
    simp [settleAt]
  · have hi' : i < lines.size := by simpa using hi
    simp only [settleAt, Array.getElem_set_ne hl hi' hil] at hclean ⊢
    exact h.clean i hi' hclean s hs

/-- Reparsing settles the reparsed line. -/
theorem SliceInv.reparse_settled (h : SliceInv g limits line state lines count)
    (hl : line < lines.size) :
    SettledBelow g limits (settleAt lines line hl (g.parseLine lines[line].text state limits))
      (line + 1) := by
  have hbelow : SettledBelow g limits
      (settleAt lines line hl (g.parseLine lines[line].text state limits)) line :=
    h.settled.transfer (Nat.le_refl line) fun i hil => Array.getElem?_set_ne hl (by omega)
  refine hbelow.succ (by simpa using hl) (by simp [settleAt]) fun s hs => ?_
  exact h.reparse_cleanOff hl line (by simpa using hl) (by omega) (by simp [settleAt]) s hs

/-- Reparsing keeps the count exact. -/
theorem SliceInv.reparse_count (h : SliceInv g limits line state lines count)
    (hl : line < lines.size) :
    (if lines[line].dirty = true then count - 1 else count) =
      countDirty (settleAt lines line hl (g.parseLine lines[line].text state limits)) := by
  rw [settleAt, countDirty_eq, Array.countP_set hl, h.count_eq, countDirty_eq]
  split <;> simp_all

/-- A reparsed line that ends as its old parse did changes no entry state, so every clean line
keeps agreeing. -/
theorem SliceInv.reparse_clean (h : SliceInv g limits line state lines count)
    (hl : line < lines.size)
    (hconv : lines[line].parsed.any (·.state == (g.parseLine lines[line].text state limits).state)) :
    CleanAgree g limits (settleAt lines line hl (g.parseLine lines[line].text state limits)) := by
  obtain ⟨p, hp, hstate⟩ : ∃ p, lines[line].parsed = some p ∧
      p.state = (g.parseLine lines[line].text state limits).state := by
    cases hq : lines[line].parsed with
    | none => simp [hq] at hconv
    | some p => exact ⟨p, rfl, by simpa [hq] using hconv⟩
  intro i hi hclean s hs
  by_cases hne : i = line + 1
  · subst hne
    have hi' : line + 1 < lines.size := by simpa using hi
    simp only [settleAt, Array.getElem_set_ne hl hi' (by omega)] at hclean ⊢
    rw [settleAt, entryOf_set hl (by simp [hp, hstate])] at hs
    exact h.clean (line + 1) hi' hclean s hs
  · exact h.reparse_cleanOff hl i hi hne hclean s hs

/-- A slice keeps the texts, keeps the count exact and every clean line in agreement, and
settles every line before the point where it stopped (every line, when it caught up). -/
theorem reconcileFrom_spec (budget : Budget) (parsed : Nat)
    (h : SliceInv g limits line state lines count) :
    textsOf (reconcileFrom g limits budget line parsed state lines count).lines = textsOf lines ∧
      (reconcileFrom g limits budget line parsed state lines count).dirtyCount =
        countDirty (reconcileFrom g limits budget line parsed state lines count).lines ∧
      CleanAgree g limits (reconcileFrom g limits budget line parsed state lines count).lines ∧
      SettledBelow g limits (reconcileFrom g limits budget line parsed state lines count).lines
        ((reconcileFrom g limits budget line parsed state lines count).stoppedAt.getD
          (reconcileFrom g limits budget line parsed state lines count).lines.size) := by
  fun_induction reconcileFrom g limits budget line parsed state lines count with
  | case1 line parsed state lines count hl hex =>
    -- the budget ran out before this line: the slice stops here
    exact ⟨rfl, h.count_eq, h.clean, h.settled⟩
  | case2 line parsed state lines count hl hex slot result conv count' lines' hconv next hn _ ih =>
    -- the line ended as before: the slice jumps to the next marked line
    obtain ⟨hnext, hle, -, hbetween⟩ := nextDirty_some hn
    have hcount := h.reparse_count hl
    have hclean := h.reparse_clean hl hconv
    have hsettled : SettledBelow g limits lines' next :=
      (h.reparse_settled hl).of_clean hclean hbetween
    obtain ⟨s, hs, -⟩ := hsettled.entry (Nat.le_refl next) hnext
    have hinv : SliceInv g limits next (incoming lines' next) lines' count' :=
      ⟨hcount, hsettled, hclean, fun _ => by rw [incoming_eq_entryOf, hs]; rfl⟩
    obtain ⟨htexts, hrest⟩ := ih hinv
    exact ⟨htexts.trans (textsOf_settleAt lines line hl result), hrest⟩
  | case3 line parsed state lines count hl hex slot result conv count' lines' hconv hn =>
    -- the line ended as before and no line is marked after it: every line is settled
    have hcount := h.reparse_count hl
    have hclean := h.reparse_clean hl hconv
    refine ⟨textsOf_settleAt lines line hl result, hcount, hclean, ?_⟩
    exact (h.reparse_settled hl).of_clean hclean fun j hj hlj _ =>
      nextDirty_none hcount hn j hj hlj
  | case4 line parsed state lines count hl hex slot result conv count' lines' hconv marked ih =>
    -- the line ends in a new state: the next line is marked and reparsed from it
    have hcount := h.reparse_count hl
    have hinv : SliceInv g limits (line + 1) result.state marked.1 marked.2 := by
      refine ⟨markDirtyAt_snd _ _ _ hcount, (h.reparse_settled hl).markDirtyAt (Nat.le_refl _) _,
        (h.reparse_cleanOff hl).markDirtyAt _, fun _ => ?_⟩
      rw [entryOf_markDirtyAt]
      simp [lines', entryOf_succ, hl]
    obtain ⟨htexts, hrest⟩ := ih hinv
    refine ⟨?_, hrest⟩
    rw [htexts, markDirtyAt_textsOf]
    exact textsOf_settleAt lines line hl result
  | case5 line parsed state lines count hl =>
    -- past the last line: nothing left to do
    exact ⟨rfl, h.count_eq, h.clean, h.settled.of_size_le (by omega)⟩

end Slice

/-! ## The document invariant -/

/-- What every document keeps: without a grammar the resume point is the first line; with one,
the count of marked lines is exact, clean lines agree with their entry states and every line
before the resume point is settled. -/
def Synced (d : Document) : Prop :=
  match d.grammar with
  | none => d.resume = some 0
  | some g => d.dirtyCount = countDirty d.lines ∧ CleanAgree g d.limits d.lines ∧
      SettledBelow g d.limits d.lines (d.resume.getD d.lines.size)

/-- The parses a document shows: with a grammar, the rescan of its lines on the first `r` lines
and nothing from there on; without a grammar, nothing. -/
def ShowsRescan (d : Document) : Prop :=
  match d.grammar with
  | none => ∀ i, d.parsed? i = none
  | some g => ∃ r ≤ d.lineCount, (∀ i < r, d.parsed? i = (rescanOf g d.limits d.lines)[i]?) ∧
      ∀ i, r ≤ i → d.parsed? i = none

/-- The document shows the whole rescan of its lines. -/
def ShowsAll (d : Document) : Prop :=
  ∀ g, d.grammar = some g → ∀ i < d.lineCount, d.parsed? i = (rescanOf g d.limits d.lines)[i]?

/-- A document whose lines are all marked, counted exactly, with the resume point at the first
line, keeps the invariant: nothing is settled and no clean line needs agreeing. -/
theorem Synced.of_allDirty {d : Document} (hd : ∀ i (h : i < d.lines.size), d.lines[i].dirty = true)
    (hc : d.dirtyCount = d.lines.size) (hr : d.resume = some 0) : d.Synced := by
  unfold Synced
  split
  · exact hr
  · refine ⟨?_, fun i hi hclean => by simp [hd i hi] at hclean, ?_⟩
    · rw [hc, countDirty_eq, eq_comm, Array.countP_eq_size]
      intro s hs
      obtain ⟨i, hi, rfl⟩ := Array.getElem_of_mem hs
      exact hd i hi
    · rw [hr]
      exact fun i _ hi => absurd hi (Nat.not_lt_zero i)

/-- The invariant shows a prefix of the rescan. -/
theorem Synced.showsRescan {d : Document} (h : d.Synced) : d.ShowsRescan := by
  unfold Synced at h
  unfold ShowsRescan
  split
  · rename_i hg
    simp only [hg] at h
    intro i
    simp [parsed?, h]
  · rename_i g hg
    simp only [hg] at h
    obtain ⟨-, -, hsettled⟩ := h
    refine ⟨min (d.resume.getD d.lines.size) d.lines.size, Nat.min_le_right _ _, fun i hi => ?_,
      fun i hi => ?_⟩
    · have hi' : i < d.lines.size := by omega
      have hres : d.resume.any (· ≤ i) = false := by
        cases hr : d.resume with
        | none => rfl
        | some r =>
          rw [hr, Option.getD_some] at hi
          rw [Option.any_some, decide_eq_false_iff_not]
          omega
      simp only [parsed?, hres, Bool.false_eq_true, if_false, Array.getElem?_eq_getElem hi',
        Option.bind_some]
      exact (hsettled i hi' (by omega)).2
    · unfold parsed?
      split
      · rfl
      · rename_i hres
        have hsize : d.lines.size ≤ i := by
          cases hr : d.resume with
          | none =>
            rw [hr, Option.getD_none, Nat.min_self] at hi
            exact hi
          | some r =>
            rw [hr, Option.getD_some] at hi
            rw [hr, Option.any_some, decide_eq_true_eq] at hres
            omega
        simp [Array.getElem?_eq_none hsize]

/-! ## Edits -/

theorem Synced.ofText (grammar : Option Grammar) (text : String) : (ofText grammar text).Synced :=
  Synced.of_allDirty (fun i hi => by simp [Document.ofText, LineSlot.fresh])
    (by simp [Document.ofText]) rfl

theorem Synced.setText (d : Document) (text : String) : (d.setText text).Synced :=
  Synced.of_allDirty (fun i hi => by simp [Document.setText, Document.ofText, LineSlot.fresh])
    (by simp [Document.setText, Document.ofText]) rfl

theorem Synced.invalidateAll (d : Document) : d.invalidateAll.Synced :=
  Synced.of_allDirty (fun i hi => by simp [Document.invalidateAll, LineSlot.invalidate])
    (by simp [Document.invalidateAll]) rfl

theorem modify_eq_set {lines : Array LineSlot} {k : Nat} (hk : k < lines.size)
    (f : LineSlot → LineSlot) : lines.modify k f = lines.set k (f lines[k]) hk := by
  apply Array.ext_getElem?
  intro j
  rw [Array.getElem?_modify, Array.getElem?_set]
  split
  · subst_vars; simp [Array.getElem?_eq_getElem hk]
  · rfl

/-- Rewriting a slot without touching its parse changes no entry state. -/
theorem entryOf_modify (lines : Array LineSlot) (k : Nat) {f : LineSlot → LineSlot}
    (hf : ∀ s, (f s).parsed = s.parsed) (i : Nat) :
    entryOf (lines.modify k f) i = entryOf lines i := by
  rcases Nat.lt_or_ge k lines.size with hk | hk
  · rw [modify_eq_set hk, entryOf_set hk (by simp [hf])]
  · rw [Array.modify, Array.modifyM, dif_neg (by omega)]
    rfl

/-- Rewriting a slot without touching its mark keeps the count of marked lines. -/
theorem countDirty_modify (lines : Array LineSlot) (k : Nat) {f : LineSlot → LineSlot}
    (hf : ∀ s, (f s).dirty = s.dirty) : countDirty (lines.modify k f) = countDirty lines := by
  rcases Nat.lt_or_ge k lines.size with hk | hk
  · have hle := Array.boole_getElem_le_countP (p := (·.dirty)) hk
    rw [modify_eq_set hk, countDirty_eq, countDirty_eq, Array.countP_set hk, hf]
    split <;> simp_all
  · rw [Array.modify, Array.modifyM, dif_neg (by omega)]
    rfl

/-! ## Splicing lines in and out -/

section Splice

variable {g : Grammar} {limits : ParseLimits}

/-- Agreement at a line carries over to a line that holds the same slot and has the same entry
state. -/
theorem agree_of_same {lines lines' : Array LineSlot} {i j : Nat} (hij : lines'[i]? = lines[j]?)
    (hentry : entryOf lines' i = entryOf lines j)
    (hagree : ∀ (h : j < lines.size), lines[j].dirty = false → ∀ s, entryOf lines j = some s →
      lines[j].parsed = some (g.parseLine lines[j].text s limits))
    (hi : i < lines'.size) (hc : lines'[i].dirty = false) (s : LineState)
    (hs : entryOf lines' i = some s) :
    lines'[i].parsed = some (g.parseLine lines'[i].text s limits) := by
  rw [Array.getElem?_eq_getElem hi] at hij
  obtain ⟨hj, heq⟩ := Array.getElem?_eq_some_iff.1 hij.symm
  rw [← heq] at hc ⊢
  exact hagree hj hc s (hentry ▸ hs)

/-- Where each line of the lines with `a ..< b` replaced by `ins` comes from. -/
theorem getElem?_splice {lines ins : Array LineSlot} {a b : Nat} (ha : a ≤ lines.size) (i : Nat) :
    (lines.extract 0 a ++ ins ++ lines.extract b lines.size)[i]? =
      if i < a then lines[i]?
      else if i < a + ins.size then ins[i - a]?
      else lines[i - a - ins.size + b]? := by
  have hsize : (lines.extract 0 a).size = a := by simp; omega
  by_cases h₁ : i < a
  · rw [if_pos h₁, Array.getElem?_append_left (by simp; omega),
      Array.getElem?_append_left (by omega), Array.getElem?_extract, if_pos (by omega),
      Nat.zero_add]
  by_cases h₂ : i < a + ins.size
  · rw [if_neg h₁, if_pos h₂, Array.getElem?_append_left (by simp; omega),
      Array.getElem?_append_right (by omega), hsize]
  · rw [if_neg h₁, if_neg h₂, Array.getElem?_append_right (by simp; omega), Array.getElem?_extract]
    simp only [Array.size_append, hsize, Nat.min_self]
    split
    · congr 1
      omega
    · rw [Array.getElem?_eq_none (by omega)]

/-- Splicing keeps the count of marked lines exact. -/
theorem countDirty_splice {lines ins : Array LineSlot} {a b : Nat} (hab : a ≤ b)
    (hb : b ≤ lines.size) :
    countDirty (lines.extract 0 a ++ ins ++ lines.extract b lines.size) =
      countDirty lines - countDirty (lines.extract a b) + countDirty ins := by
  have hsplit : lines.extract 0 a ++ lines.extract a b ++ lines.extract b lines.size = lines := by
    rw [Array.extract_append_extract, show min 0 a = 0 by omega, show max a b = b by omega,
      Array.extract_append_extract, show min 0 b = 0 by omega,
      show max b lines.size = lines.size by omega, Array.extract_size]
  have hsum := congrArg (Array.countP (·.dirty)) hsplit
  simp only [Array.countP_append] at hsum
  simp only [countDirty_eq, Array.countP_append]
  omega

/-- Inserted lines are all marked: replacing lines counts one for each inserted line in place of
those that went. -/
theorem countDirty_splice_fresh {lines : Array LineSlot} {a b : Nat} (hab : a ≤ b)
    (hb : b ≤ lines.size) (inserted : List String) :
    countDirty (lines.extract 0 a ++ (inserted.map LineSlot.fresh).toArray ++
        lines.extract b lines.size) =
      countDirty lines - countDirty (lines.extract a b) + inserted.length := by
  rw [countDirty_splice hab hb, countDirty_eq (inserted.map LineSlot.fresh).toArray,
    Array.countP_eq_size.2 (by simp [LineSlot.fresh]), List.size_toArray, List.length_map]

/-- After splicing in marked lines without parses, every clean line agrees except perhaps the
one at the splice point, whose predecessor changed. -/
theorem CleanAgree.splice {lines ins : Array LineSlot} {a b : Nat}
    (h : CleanAgree g limits lines) (hab : a ≤ b) (hb : b ≤ lines.size)
    (hins : ∀ x ∈ ins, x.dirty = true ∧ x.parsed = none) :
    CleanAgreeOff g limits (lines.extract 0 a ++ ins ++ lines.extract b lines.size) a := by
  have hget := @getElem?_splice lines ins a b (Nat.le_trans hab hb)
  intro i hi hne hc s hs
  rcases Nat.lt_or_ge i a with hia | hia
  · -- before the splice: the old line, after the old line
    refine agree_of_same (j := i) (by rw [hget, if_pos hia]) (entryOf_congr fun k hk => ?_)
      (h i) hi hc s hs
    rw [hget, if_pos (by omega)]
  rcases Nat.lt_or_ge i (a + ins.size) with hin | hin
  · -- a spliced line is marked
    have hmem : (lines.extract 0 a ++ ins ++ lines.extract b lines.size)[i] ∈ ins := by
      have := hget i
      rw [Array.getElem?_eq_getElem hi, if_neg (by omega), if_pos hin] at this
      exact Array.mem_of_getElem? this.symm
    rw [(hins _ hmem).1] at hc
    cases hc
  rcases Nat.lt_or_ge (a + ins.size) i with hlt | hle
  · -- after the splice, the old line after the old line
    refine agree_of_same (j := i - a - ins.size + b)
      (by rw [hget, if_neg (by omega), if_neg (by omega)]) ?_ (h _) hi hc s hs
    obtain ⟨k, rfl⟩ : ∃ k, i = k + 1 := ⟨i - 1, by omega⟩
    rw [show k + 1 - a - ins.size + b = (k - a - ins.size + b) + 1 by omega, entryOf_succ,
      entryOf_succ, hget k, if_neg (by omega), if_neg (by omega)]
  · -- right after the spliced lines: its predecessor is a spliced line without a parse
    obtain ⟨k, rfl⟩ : ∃ k, i = k + 1 := ⟨i - 1, by omega⟩
    have hk : (lines.extract 0 a ++ ins ++ lines.extract b lines.size)[k]? = ins[k - a]? := by
      rw [hget, if_neg (by omega), if_pos (by omega)]
    obtain ⟨x, hx⟩ : ∃ x, ins[k - a]? = some x := Option.ne_none_iff_exists'.1 (by simp; omega)
    rw [entryOf_succ, hk, hx, Option.bind_some, (hins x (Array.mem_of_getElem? hx)).2] at hs
    simp at hs

end Splice

/-- New lines with an exact count and agreeing clean lines keep the invariant when the resume
point moves back to a point below which the lines are the old ones. -/
theorem Synced.touch {d : Document} (h : d.Synced) (lines : Array LineSlot) (count t : Nat)
    (hcount : ∀ g, d.grammar = some g → count = countDirty lines)
    (hclean : ∀ g, d.grammar = some g → CleanAgree g d.limits lines)
    (hkeep : ∀ i, i < t → lines[i]? = d.lines[i]?) (ht : t ≤ d.lines.size) :
    (Document.touch { d with lines, dirtyCount := count } t).Synced := by
  unfold Synced at h ⊢
  simp only [Document.touch]
  split
  · rename_i hg
    simp only [hg] at h
    simp [h]
  · rename_i g hg
    simp only [hg] at h
    obtain ⟨-, -, hsettled⟩ := h
    refine ⟨hcount g hg, hclean g hg, hsettled.transfer ?_ fun i hi => hkeep i ?_⟩
    -- the new resume point is the old one or the edited line, whichever comes first
    · cases d.resume with
      | none => exact ht
      | some r => exact Nat.min_le_left r t
    · revert hi
      cases d.resume with
      | none => exact id
      | some r => exact fun hi => Nat.lt_of_lt_of_le hi (Nat.min_le_right r t)

/-- Changing one line's text marks it and moves the resume point back to it. -/
theorem Synced.setLine {d : Document} (h : d.Synced) (line : Nat) (text : String) :
    (d.setLine line text).Synced := by
  unfold Document.setLine
  split
  · rename_i hl
    have hcount : ∀ g, d.grammar = some g → d.dirtyCount = countDirty d.lines := fun g hg => by
      unfold Synced at h
      simp only [hg] at h
      exact h.1
    have hl' : line < (d.lines.modify line fun s => { s with text }).size := by simpa using hl
    generalize hm : markDirtyAt (d.lines.modify line fun s => { s with text }) d.dirtyCount line = m
    obtain ⟨lines, count⟩ := m
    have hlines : lines = (d.lines.modify line fun s => { s with text }).set line
        (d.lines.modify line fun s => { s with text })[line].markDirty hl' := by
      rw [← markDirtyAt_fst _ d.dirtyCount, hm]
    refine h.touch lines count line (fun g hg => ?_) (fun g hg => ?_) (fun i hi => ?_)
      (Nat.le_of_lt hl)
    · have := markDirtyAt_snd (d.lines.modify line fun s => { s with text }) d.dirtyCount line
        (by rw [countDirty_modify _ _ (f := fun s => { s with text }) fun _ => rfl]; exact hcount g hg)
      rwa [hm] at this
    · unfold Synced at h
      simp only [hg] at h
      have hoff : CleanAgreeOff g d.limits (d.lines.modify line fun s => { s with text }) line := by
        intro i hi hne hc s hs
        have hi' : i < d.lines.size := by simpa using hi
        rw [entryOf_modify _ _ (f := fun s => { s with text }) fun _ => rfl] at hs
        simp only [Array.getElem_modify, if_neg (Ne.symm hne)] at hc ⊢
        exact h.2.1 i hi' hc s hs
      have := hoff.markDirtyAt d.dirtyCount
      rwa [hm] at this
    · rw [hlines, Array.getElem?_set_ne _ (by omega), Array.getElem?_modify, if_neg (by omega)]
  · exact h

/-- Replacing lines marks the inserted ones (or, when none is inserted, the line that now
follows the edit) and moves the resume point back to the edit. -/
theorem Synced.replaceLines {d : Document} (h : d.Synced) (start removed : Nat)
    (inserted : List String) : (d.replaceLines start removed inserted).Synced := by
  unfold Document.replaceLines
  dsimp only
  generalize ha : min start d.lines.size = a
  generalize hb : min (a + removed) d.lines.size = b
  have hab : a ≤ b := by omega
  have hbn : b ≤ d.lines.size := by omega
  generalize hins : (List.map LineSlot.fresh inserted).toArray = ins
  have hfresh : ∀ x ∈ ins, x.dirty = true ∧ x.parsed = none := by
    subst hins
    simp [LineSlot.fresh]
  have hm : ins.size = inserted.length := by
    subst hins
    simp
  have hsynced : ∀ g, d.grammar = some g →
      d.dirtyCount = countDirty d.lines ∧ CleanAgree g d.limits d.lines := fun g hg => by
    unfold Synced at h
    simp only [hg] at h
    exact ⟨h.1, h.2.1⟩
  generalize hL : d.lines.extract 0 a ++ ins ++ d.lines.extract b d.lines.size = L
  have hLsize : L.size = a + ins.size + (d.lines.size - b) := by
    rw [← hL]
    simp
    omega
  have hLcount : ∀ g, d.grammar = some g →
      d.dirtyCount - countDirty (d.lines.extract a b) + inserted.length = countDirty L := by
    intro g hg
    rw [← hL, ← hins, countDirty_splice_fresh hab hbn, (hsynced g hg).1]
  have hLclean : ∀ g, d.grammar = some g → CleanAgreeOff g d.limits L a := fun g hg =>
    hL ▸ (hsynced g hg).2.splice hab hbn hfresh
  have hLkeep : ∀ i, i < a → L[i]? = d.lines[i]? := fun i hi => by
    rw [← hL, getElem?_splice (by omega), if_pos hi]
  by_cases hE : L.isEmpty = true
  · -- every line went and none came: one empty line takes their place
    have hL0 : L.size = 0 := by simpa using hE
    have ha0 : a = 0 := by omega
    have hA : (inserted.length == 0) = true := by simp only [beq_iff_eq]; omega
    simp only [hE, hA, if_true]
    subst ha0
    rw [markDirtyAt_of_dirty _ _ _ (by simp) (by simp [LineSlot.fresh])]
    refine h.touch _ _ _ (fun g hg => ?_) (fun g hg => ?_) (fun i hi => by omega) (by omega)
    · have h0 : countDirty L = 0 := by
        have : L.countP (·.dirty) ≤ L.size := Array.countP_le_size
        rw [countDirty_eq]
        omega
      rw [hLcount g hg, h0]
      simp [countDirty_eq, LineSlot.fresh]
    · intro i hi hc
      simp [LineSlot.fresh] at hc
  · simp only [hE, if_false, Bool.false_eq_true]
    by_cases hA : (inserted.length == 0) = true
    · -- nothing inserted: the line now after the edit has a new predecessor and is marked
      simp only [hA, if_true]
      refine h.touch _ _ _ (fun g hg => markDirtyAt_snd _ _ _ (hLcount g hg))
        (fun g hg => (hLclean g hg).markDirtyAt _) (fun i hi => ?_) (by omega)
      rw [← hLkeep i (by omega)]
      rcases Nat.lt_or_ge a L.size with haL | haL
      · rw [markDirtyAt_fst _ _ _ haL, Array.getElem?_set_ne _ (by omega)]
      · rw [markDirtyAt_of_size_le _ _ _ haL]
    · -- lines inserted: the first of them is marked, so the line after the edit is checked
      -- when the slice reaches it
      simp only [hA, if_false, Bool.false_eq_true]
      have hpos : 0 < ins.size := by simp only [beq_iff_eq] at hA; omega
      refine h.touch _ _ _ (fun g hg => hLcount g hg) (fun g hg => fun i hi hc s hs => ?_)
        (fun i hi => hLkeep i (by omega)) (by omega)
      by_cases hia : i = a
      · subst hia
        have hget : L[i]? = ins[0]? := by
          rw [← hL, getElem?_splice (by omega), if_neg (by omega), if_pos (by omega), Nat.sub_self]
        obtain ⟨x, hx⟩ : ∃ x, ins[0]? = some x := ⟨ins[0], Array.getElem?_eq_getElem hpos⟩
        rw [Array.getElem?_eq_getElem hi, hx, Option.some.injEq] at hget
        rw [hget, (hfresh x (Array.mem_of_getElem? hx)).1] at hc
        cases hc
      · exact hLclean g hg i hi hia hc s hs

/-! ## Reconciling a document -/

/-- A slice keeps the invariant, and when it reports the document done every line is settled. -/
theorem Synced.reconcile {d : Document} (h : d.Synced) (budget : Budget) :
    (d.reconcile budget).1.Synced ∧
      ((d.reconcile budget).2.status = .done → (d.reconcile budget).1.ShowsAll) := by
  unfold Document.reconcile
  split
  · rename_i g start hg hr
    unfold Synced at h
    simp only [hg] at h
    obtain ⟨hcount, hclean, hsettled⟩ := h
    rw [hr] at hsettled
    have hinv : SliceInv g d.limits start (incoming d.lines start) d.lines d.dirtyCount := by
      refine ⟨hcount, hsettled, hclean, fun hs => ?_⟩
      obtain ⟨s, hentry, -⟩ := hsettled.entry (Nat.le_refl start) hs
      rw [incoming_eq_entryOf, hentry]
      rfl
    obtain ⟨-, hcount', hclean', hsettled'⟩ := reconcileFrom_spec budget 0 hinv
    generalize reconcileFrom g d.limits budget start 0 (incoming d.lines start) d.lines
      d.dirtyCount = r at hcount' hclean' hsettled' ⊢
    refine ⟨?_, fun hdone => ?_⟩
    · unfold Synced
      simp only [hg]
      exact ⟨hcount', hclean', hsettled'⟩
    · intro g' hg' i hi
      simp only [hg, Option.some.injEq] at hg'
      subst hg'
      have hstop : r.stoppedAt = none := by
        cases hs : r.stoppedAt <;> simp_all
      rw [hstop] at hsettled'
      have hi' : i < r.lines.size := hi
      simp only [parsed?, hstop, Option.any_none, Bool.false_eq_true, if_false,
        Array.getElem?_eq_getElem hi', Option.bind_some]
      exact (hsettled' i hi' hi').2
  · -- no slice ran: with a grammar and no resume point, every line is already settled
    rename_i hnot
    refine ⟨h, fun _ g hg i hi => ?_⟩
    replace hg : d.grammar = some g := hg
    have hr : d.resume = none := by
      cases hr : d.resume with
      | none => rfl
      | some r => exact absurd hr (hnot g r hg)
    unfold Synced at h
    simp only [hg, hr, Option.getD_none] at h
    have hi' : i < d.lines.size := hi
    simp only [parsed?, hr, Option.any_none, Bool.false_eq_true, if_false,
      Array.getElem?_eq_getElem hi', Option.bind_some]
    exact (h.2.2 i hi' hi').2

/-! ## Runs of edits -/

/-- An operation an editor performs on a document. -/
inductive Edit where
  | setText (text : String)
  | setLine (line : Nat) (text : String)
  | insertLines (before : Nat) (inserted : List String)
  | removeLines (start count : Nat)
  | replaceLines (start removed : Nat) (inserted : List String)
  | setGrammar (g : Grammar)
  | clearGrammar
  | setLimits (limits : ParseLimits)
  | reconcile (budget : Budget)
  | reconcileAll

/-- The document after one operation; the report of a reconciliation is dropped. -/
def Edit.apply : Edit → Document → Document
  | .setText text, d => d.setText text
  | .setLine line text, d => d.setLine line text
  | .insertLines before inserted, d => d.insertLines before inserted
  | .removeLines start count, d => d.removeLines start count
  | .replaceLines start removed inserted, d => d.replaceLines start removed inserted
  | .setGrammar g, d => d.setGrammar g
  | .clearGrammar, d => d.clearGrammar
  | .setLimits limits, d => d.setLimits limits
  | .reconcile budget, d => (d.reconcile budget).1
  | .reconcileAll, d => d.reconcileAll.1

/-- The document after a run of operations, in order. -/
def applyAll (d : Document) (edits : List Edit) : Document :=
  edits.foldl (fun d e => e.apply d) d

theorem Synced.apply {d : Document} (h : d.Synced) : ∀ e : Edit, (e.apply d).Synced
  | .setText text => Synced.setText d text
  | .setLine line text => h.setLine line text
  | .insertLines before inserted => h.replaceLines before 0 inserted
  | .removeLines start count => h.replaceLines start count []
  | .replaceLines start removed inserted => h.replaceLines start removed inserted
  | .setGrammar _ => Synced.invalidateAll _
  | .clearGrammar => Synced.invalidateAll _
  | .setLimits _ => Synced.invalidateAll _
  | .reconcile budget => (h.reconcile budget).1
  | .reconcileAll => (h.reconcile _).1

theorem Synced.applyAll {d : Document} (h : d.Synced) (edits : List Edit) :
    (d.applyAll edits).Synced := by
  induction edits generalizing d with
  | nil => exact h
  | cons e edits ih => exact ih (h.apply e)

/-- Incremental reparsing agrees with parsing the whole document from the top. After any run of
edits and reconciliation slices on a new document, the final parses shown are a prefix of the
rescan of the current lines (none at all without a grammar), and a slice that reports the document
caught up leaves every line showing its rescan. -/
theorem applyAll_shows_rescan (grammar : Option Grammar) (text : String) (edits : List Edit) :
    ((ofText grammar text).applyAll edits).ShowsRescan ∧
      ∀ budget, (((ofText grammar text).applyAll edits).reconcile budget).2.status = .done →
        (((ofText grammar text).applyAll edits).reconcile budget).1.ShowsAll := by
  have h := (Synced.ofText grammar text).applyAll edits
  exact ⟨h.showsRescan, fun budget => (h.reconcile budget).2⟩

end Document

end Highlight

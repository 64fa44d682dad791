import Highlight.Proofs.Coverage
/-!
# Parsing a line is total

Parsing a line runs two loops. The main loop makes one pass per column it moves past or per
switch it makes without consuming; the line-end loop applies the active context's line-end
switch until the stack stops changing, for at most the depth bound. Both are total in the logic,
and this module says how much work they do and what they read.

Each loop is the iteration of its body (`scanPass`, `closePass`). A pass of the main loop either
moves the column forward and resets the count of non-consuming switches, or makes one more such
switch at the same column, below the limit, so the passes left are at most
`(columns left) * (limit + 1)` less the switches already made (`passesLeft`), and that many passes
reach the end of the line (`size_le_iterate_scanPass`). The line-end loop stops early only where
one more pass would change nothing, so it is its body iterated exactly `maxDepth` times
(`closeLine_eq_iterate`).

Every lookup a pass makes is inside its table (`LineState.LooksUpInRange`) as long as the stack
has a frame and each frame names a context of the table (`LineState.InRange`): over a grammar that
loading produced, every index a context holds is inside its table (`Proofs/Tables`), and every
switch pushes contexts of the table, so each pass keeps the stack in range. Every read of the line
is on it (`ReadsLine`): the column of a pass never passes the line's end, words end at most there,
and so do the matches of disciplined patterns. `parseLine_total` puts this together for every
state of that kind, every text and every pair of limits.
-/

namespace Highlight

/-! ## Stacks in range -/

namespace LineState

/-- A stack a line can be parsed from: it has a frame, and every frame names a context of the
table. -/
structure InRange (g : Grammar) (s : LineState) : Prop where
  depth_pos : 0 < s.depth
  context_lt : ∀ f ∈ s.frames, f.context < g.contexts.size

variable {g : Grammar} {d : Nat} {s s₀ : LineState} {sw : Switch} {bind : Option (Array String)}

theorem WellFormed.inRange (h : s.WellFormed g d) : s.InRange g := ⟨h.depth_pos, h.context_lt⟩

theorem InRange.top_lt (hs : s.InRange g) : s.top.context < g.contexts.size :=
  hs.context_lt _ (top_mem hs.depth_pos)

/-- The top of a stack with a frame is its last frame. -/
theorem back?_eq_top (hs : 0 < s.depth) : s.frames.back? = some s.top := by
  have hlast : s.frames.size - 1 < s.frames.size := Nat.sub_lt hs Nat.one_pos
  simp only [top, Array.back?_eq_getElem?, Array.getElem?_eq_getElem hlast, Option.getD_some]

/-- One step keeps a stack in range: pops keep the bottom frame, and the grammar pushes only
contexts of its table. -/
theorem InRange.apply (hg : g.Linked) (hs : s.InRange g) (hsw : g.SwitchOf s sw bind) :
    (s.apply g sw bind d).InRange g := by
  have hpush := hsw.push_lt hg hs.top_lt
  refine ⟨depth_apply_pos hs.depth_pos, fun f hf => ?_⟩
  rcases mem_apply hf with hf | ⟨c, hc, rfl⟩
  · exact hs.context_lt f hf
  · exact hpush c hc

theorem Reaches.inRange (hg : g.Linked) (h : Reaches g d s₀ s) (h₀ : s₀.InRange g) :
    s.InRange g := by
  induction h with
  | refl => exact h₀
  | step _ hsw ih => exact ih.apply hg hsw

/-! ## What a pass looks up -/

/-- Every entry a pass of the parser on stack `s` looks up is in its table: the top frame, the
active context, that context's attribute and word separators, for each of its rules at any depth
the attribute, the keyword list and the contexts it pushes or continues a range in, and the
contexts its own line-end, empty-line and fallthrough switches push. -/
structure LooksUpInRange (g : Grammar) (s : LineState) : Prop where
  top : s.frames.back? = some s.top
  context : s.top.context < g.contexts.size
  tables : (g.context s.top.context).RefsIn g.attributes.size g.lists.size g.separators.size
  rules : ∀ r ∈ Rule.subrulesOf (g.context s.top.context).rules,
    (∀ x ∈ r.switch.push, x < g.contexts.size) ∧
      ∀ c ∈ r.kind.continuation?, c < g.contexts.size
  lineEnd : ∀ x ∈ (g.context s.top.context).lineEnd.push, x < g.contexts.size
  lineEmpty : ∀ sw ∈ (g.context s.top.context).lineEmpty, ∀ x ∈ sw.push, x < g.contexts.size
  fallthrough :
    ∀ sw ∈ (g.context s.top.context).fallthrough, ∀ x ∈ sw.push, x < g.contexts.size

/-- On a grammar that refers inside its tables, a stack in range looks up only entries that are
there. -/
theorem InRange.looksUpInRange (hg : g.Linked) (htables : g.TablesInRange)
    (hrefs : g.ContextRefsInRange) (hs : s.InRange g) : s.LooksUpInRange g := by
  have hk := Grammar.context_mem hs.top_lt
  exact ⟨back?_eq_top hs.depth_pos, hs.top_lt, htables _ hk, hrefs _ hk,
    fun x hx => (hg.lineEnd_push _ hk x hx).1,
    fun sw hsw x hx => (hg.lineEmpty_push _ hk sw hsw x hx).1,
    fun sw hsw x hx => (hg.fallthrough_push _ hk sw hsw x hx).1⟩

end LineState

/-! ## The main loop -/

section Scan

variable (g : Grammar) (limits : ParseLimits) (line : Line)

/-- One pass of the main loop on the column, progress and matcher it keeps: a step of the parser
while the column is on the line, nothing once it is past the end. -/
def scanPass (x : Nat × Progress × Matcher) : Nat × Progress × Matcher :=
  if x.1 < line.size then scanStep g limits line x.1 x.2.1 x.2.2 else x

/-- The passes the main loop has left from `x`: each column left is worth one pass per
non-consuming switch the limit allows and one more to leave it, less the switches already made
at the current column. -/
def passesLeft (x : Nat × Progress × Matcher) : Nat :=
  (line.size - x.1) * (limits.maxZeroWidthSteps + 1) - x.2.1.zeroSteps

variable {g limits line}

/-- A pass does what the main loop does next. -/
theorem scan_scanPass (x : Nat × Progress × Matcher) :
    scan g limits line (scanPass g limits line x).1 (scanPass g limits line x).2.1
      (scanPass g limits line x).2.2 = scan g limits line x.1 x.2.1 x.2.2 := by
  unfold scanPass
  split
  · next h => exact (scan_of_lt h).symm
  · rfl

/-- The main loop computes what it computes after any number of its passes. -/
theorem scan_iterate (n : Nat) (x : Nat × Progress × Matcher) :
    scan g limits line ((scanPass g limits line)^[n] x).1 ((scanPass g limits line)^[n] x).2.1
      ((scanPass g limits line)^[n] x).2.2 = scan g limits line x.1 x.2.1 x.2.2 := by
  induction n generalizing x with
  | zero => rfl
  | succ n ih => rw [Function.iterate_succ_apply, ih, scan_scanPass]

/-- A pass on the line keeps the count of non-consuming switches within the limit and leaves
one pass fewer. -/
theorem passesLeft_scanPass {x : Nat × Progress × Matcher} (hpos : x.1 < line.size)
    (hz : x.2.1.zeroSteps ≤ limits.maxZeroWidthSteps) :
    (scanPass g limits line x).2.1.zeroSteps ≤ limits.maxZeroWidthSteps ∧
      passesLeft limits line (scanPass g limits line x) < passesLeft limits line x := by
  obtain ⟨pos, p, m⟩ := x
  simp only [scanPass, if_pos hpos, passesLeft] at hpos hz ⊢
  generalize hM : limits.maxZeroWidthSteps = M at hz ⊢
  rcases scanStep_advances g limits line pos p m with ⟨hlt, hzero⟩ | ⟨hstay, hsucc, hbelow⟩
  · -- the column moves on and the count starts again: a whole column's worth is spent
    refine ⟨by omega, ?_⟩
    rw [hzero, Nat.sub_zero]
    have hcols : line.size - (scanStep g limits line pos p m).1 + 1 ≤ line.size - pos := by omega
    calc (line.size - (scanStep g limits line pos p m).1) * (M + 1)
        ≤ (line.size - pos) * (M + 1) - (M + 1) := by
          rw [Nat.le_sub_iff_add_le (Nat.le_mul_of_pos_left _ (by omega)), ← Nat.succ_mul]
          exact Nat.mul_le_mul_right _ hcols
      _ < (line.size - pos) * (M + 1) - p.zeroSteps := by
          have : M + 1 ≤ (line.size - pos) * (M + 1) := Nat.le_mul_of_pos_left _ (by omega)
          omega
  · -- one more switch at the same column, below the limit
    rw [hstay, hsucc]
    rw [hM] at hbelow
    have : p.zeroSteps + 1 ≤ (line.size - pos) * (M + 1) :=
      Nat.le_trans (by omega) (Nat.le_mul_of_pos_left _ (by omega))
    exact ⟨by omega, by omega⟩

/-- **The main loop ends within its passes left.** From a column and a count of non-consuming
switches within the limit, `passesLeft` passes reach the end of the line. -/
theorem size_le_iterate_scanPass {n : Nat} {x : Nat × Progress × Matcher}
    (hz : x.2.1.zeroSteps ≤ limits.maxZeroWidthSteps) (hn : passesLeft limits line x ≤ n) :
    line.size ≤ ((scanPass g limits line)^[n] x).1 := by
  induction n generalizing x with
  | zero =>
    -- no passes left means no column left: a column on the line is worth a pass
    simp only [passesLeft, Nat.le_zero] at hn
    rw [Function.iterate_zero_apply]
    by_contra hlt
    have : limits.maxZeroWidthSteps + 1 ≤ (line.size - x.1) * (limits.maxZeroWidthSteps + 1) :=
      Nat.le_mul_of_pos_left _ (by omega)
    omega
  | succ n ih =>
    rw [Function.iterate_succ_apply]
    by_cases hpos : x.1 < line.size
    · obtain ⟨hz', hless⟩ := passesLeft_scanPass hpos hz
      exact ih hz' (by omega)
    · have hfix : scanPass g limits line x = x := if_neg hpos
      rw [hfix, Function.iterate_fixed hfix]
      omega

/-- A pass reaches the stack it leaves and keeps the matcher's compiled patterns right. -/
theorem scanPass_reaches {x : Nat × Progress × Matcher} (hm : x.2.2.Compiled) :
    LineState.Reaches g limits.maxDepth x.2.1.state (scanPass g limits line x).2.1.state ∧
      (scanPass g limits line x).2.2.Compiled := by
  unfold scanPass
  split
  · exact LineState.scanStep_reaches hm
  · exact ⟨.refl, hm⟩

/-- Any number of passes reaches the stack it leaves. -/
theorem iterate_scanPass_reaches (n : Nat) {x : Nat × Progress × Matcher} (hm : x.2.2.Compiled) :
    LineState.Reaches g limits.maxDepth x.2.1.state ((scanPass g limits line)^[n] x).2.1.state ∧
      ((scanPass g limits line)^[n] x).2.2.Compiled := by
  induction n generalizing x with
  | zero => exact ⟨.refl, hm⟩
  | succ n ih =>
    rw [Function.iterate_succ_apply]
    obtain ⟨hr, hm'⟩ := scanPass_reaches hm
    obtain ⟨hr', hm''⟩ := ih hm'
    exact ⟨hr.trans hr', hm''⟩

/-- Any number of passes from a column at most the line's end stays at most at its end. -/
theorem iterate_scanPass_column_le (hg : ∀ r ∈ g.patterns, r.Disciplined) (n : Nat)
    {x : Nat × Progress × Matcher} (hm : x.2.2.Compiled) (hx : x.1 ≤ line.size) :
    ((scanPass g limits line)^[n] x).1 ≤ line.size := by
  induction n generalizing x with
  | zero => exact hx
  | succ n ih =>
    rw [Function.iterate_succ_apply]
    have hpass : (scanPass g limits line x).1 ≤ line.size := by
      unfold scanPass
      split
      · next hpos => exact scanStep_column_le hg hm hpos
      · exact hx
    exact ih (scanPass_reaches hm).2 hpass

variable (g line)

/-- The reads of the line that a pass at `x` makes are on it. Its column is at most the line's
end, and the pass runs only while the column is before the end, so the rules read the column's
character, the one before it where a word may start, and the characters from it on. A keyword
reads its word, from the column to where the word ends, at most the line's end; and the match the
pass takes stops at most at the line's end, where the next pass starts and before which alone
child rules are tried. -/
structure ReadsLine (x : Nat × Progress × Matcher) : Prop where
  column_le : x.1 ≤ line.size
  word : x.1 ≤ line.wordEnd (g.separatorsOf x.2.1.state.top.context) x.1 ∧
    line.wordEnd (g.separatorsOf x.2.1.state.top.context) x.1 ≤ line.size
  stop_le : ∀ r hit, ((firstMatch g line (g.separatorsOf x.2.1.state.top.context) x.2.1.state.top
    x.1 (g.context x.2.1.state.top.context)).run x.2.2).1 = some (r, hit) → hit.stop ≤ line.size

variable {g line}

/-- With disciplined patterns, a pass from a column at most the line's end, with a matcher that
remembers only compiled patterns, reads only the line. -/
theorem readsLine_of_compiled (hg : ∀ r ∈ g.patterns, r.Disciplined)
    {x : Nat × Progress × Matcher} (hm : x.2.2.Compiled) (hx : x.1 ≤ line.size) :
    ReadsLine g line x :=
  ⟨hx, ⟨Line.le_wordEnd _ hx, Line.wordEnd_le_size _ _ _⟩,
    fun r hit h => firstMatch_stop_le hg hm rfl r hit h⟩

end Scan

/-! ## The line-end loop -/

section Close

variable (g : Grammar) (d : Nat)

/-- One pass of the line-end loop: the active context's line-end switch, unless that context
survives line ends. -/
def closePass (s : LineState) : LineState :=
  if (g.context s.top.context).lineEnd.isStay then s
  else s.apply g (g.context s.top.context).lineEnd none d

variable {g d}

/-- **The line-end loop is its pass made `n` times.** It stops early only where the context
survives line ends or the switch leaves the stack as it was, and there one more pass changes
nothing. -/
theorem closeLine_eq_iterate :
    ∀ (n : Nat) (s : LineState), closeLine g d n s = (closePass g d)^[n] s
  | 0, s => rfl
  | n + 1, s => by
    rw [Function.iterate_succ_apply, closeLine]
    dsimp only
    by_cases hstay : (g.context s.top.context).lineEnd.isStay
    · have hfix : closePass g d s = s := if_pos hstay
      rw [if_pos hstay, hfix, Function.iterate_fixed hfix]
    · have hpass : closePass g d s = s.apply g (g.context s.top.context).lineEnd none d :=
        if_neg hstay
      rw [if_neg hstay, hpass]
      split
      · next hsame =>
        have hfix : closePass g d s = s := hpass.trans (eq_of_beq hsame)
        rw [← hpass, hfix, Function.iterate_fixed hfix]
      · exact closeLine_eq_iterate n _

/-- Any number of line-end passes reaches the stack it leaves. -/
theorem iterate_closePass_reaches (n : Nat) (s : LineState) :
    LineState.Reaches g d s ((closePass g d)^[n] s) := by
  induction n generalizing s with
  | zero => exact .refl
  | succ n ih =>
    rw [Function.iterate_succ_apply]
    refine LineState.Reaches.trans ?_ (ih _)
    unfold closePass
    split
    · exact .refl
    · exact .single .lineEnd

end Close

/-! ## Parsing a line -/

/-- The progress a line starts with: the stack the line before it left, and nothing else yet. -/
def Progress.start (s : LineState) : Progress :=
  { state := s, spans := #[], zeroSteps := 0, continued := false }

/-- From the start of a line, the main loop computes what its passes leave once
`size * (maxZeroWidthSteps + 1)` of them are made, whatever the grammar. -/
theorem scan_start_eq_iterate (g : Grammar) (limits : ParseLimits) (line : Line) (s : LineState) :
    scan g limits line 0 (.start s) {} =
      ((scanPass g limits line)^[line.size * (limits.maxZeroWidthSteps + 1)] (0, .start s, {})).2.1 := by
  have hstart : passesLeft limits line (0, .start s, {}) =
      line.size * (limits.maxZeroWidthSteps + 1) := by
    simp [passesLeft, Progress.start]
  rw [← scan_iterate _ (0, .start s, {})]
  exact scan_of_size_le (size_le_iterate_scanPass (g := g) (Nat.zero_le _) hstart.le)

/-- **A line's parse is what a bounded number of passes leave.** The main loop is written out as
passes made a number of times fixed by the line and the limits, so the parse of a given line can
be computed pass by pass. -/
theorem Grammar.parseLine_eq_passes (g : Grammar) (text : String) (s : LineState)
    (limits : ParseLimits) :
    g.parseLine text s limits =
      let line := Line.ofString text
      let p := ((scanPass g limits line)^[line.size * (limits.maxZeroWidthSteps + 1)]
        (0, .start s, {})).2.1
      ⟨p.spans, if p.continued then p.state else endOfLine g limits p.state (line.size == 0)⟩ := by
  rw [Grammar.parseLine_eq]
  dsimp only
  rw [show ({ state := s, spans := #[], zeroSteps := 0, continued := false } : Progress) =
    .start s from rfl, scan_start_eq_iterate]

/-- How parsing `line` from stack `s` with `limits` runs. The main loop has reached the end of
the line after `size * (maxZeroWidthSteps + 1)` passes, and its result is what those passes
leave; the line-end loop is its pass made `maxDepth` times; every pass of either loop looks up
only entries that are in their tables; and every pass of the main loop reads only the line. -/
structure RunsWithin (g : Grammar) (limits : ParseLimits) (line : Line) (s : LineState) : Prop where
  scan_ends : line.size ≤
    ((scanPass g limits line)^[line.size * (limits.maxZeroWidthSteps + 1)] (0, .start s, {})).1
  scan_eq : scan g limits line 0 (.start s) {} =
    ((scanPass g limits line)^[line.size * (limits.maxZeroWidthSteps + 1)] (0, .start s, {})).2.1
  scan_looksUp : ∀ i, ((scanPass g limits line)^[i] (0, .start s, {})).2.1.state.LooksUpInRange g
  scan_reads : ∀ i, ReadsLine g line ((scanPass g limits line)^[i] (0, .start s, {}))
  close_eq : ∀ s', closeLine g limits.maxDepth limits.maxDepth s' =
    (closePass g limits.maxDepth)^[limits.maxDepth] s'
  close_looksUp : ∀ i,
    ((closePass g limits.maxDepth)^[i] (scan g limits line 0 (.start s) {}).state).LooksUpInRange g

/-- **Parsing a line is total.** Over a grammar that loading produced, from any stack with a
frame whose frames all name contexts of the table, with any limits and any text, both loops run
within their bounds and look up only entries that are in their tables, and the line leaves a
stack of the same kind for the next one. -/
theorem parseLine_total {text : String} {inc : Includes} {g : Grammar}
    (h : Grammar.load text inc = .ok g) (limits : ParseLimits) (input : String) {s : LineState}
    (hs : s.InRange g) :
    RunsWithin g limits (Line.ofString input) s ∧
      (g.parseLine input s limits).state.InRange g := by
  obtain ⟨defs, hne, hlink⟩ := Grammar.load_link h
  have hg := Grammar.link_linked hne hlink
  have hlooks : ∀ {s' : LineState}, s'.InRange g → s'.LooksUpInRange g :=
    fun hs' => hs'.looksUpInRange hg (Grammar.link_tablesInRange hne hlink)
      (Grammar.link_contextRefsInRange hne hlink)
  -- the stack the main loop ends with is reached from `s`, so it is in range
  have hscan : (scan g limits (Line.ofString input) 0 (.start s) {}).state.InRange g :=
    (LineState.scan_reaches Matcher.compiled_empty).inRange hg hs
  have hstart : passesLeft limits (Line.ofString input) (0, .start s, {}) =
      (Line.ofString input).size * (limits.maxZeroWidthSteps + 1) := by
    simp [passesLeft, Progress.start]
  have hends := size_le_iterate_scanPass (g := g) (Nat.zero_le _) hstart.le
  have hdisc := Grammar.load_patterns_disciplined h
  refine ⟨⟨hends, scan_start_eq_iterate g limits _ s, fun i => ?_, fun i => ?_,
    closeLine_eq_iterate _, fun i => hlooks ((iterate_closePass_reaches i _).inRange hg hscan)⟩, ?_⟩
  · exact hlooks ((iterate_scanPass_reaches i Matcher.compiled_empty).1.inRange hg hs)
  · exact readsLine_of_compiled hdisc (iterate_scanPass_reaches i Matcher.compiled_empty).2
      (iterate_scanPass_column_le hdisc i Matcher.compiled_empty (Nat.zero_le _))
  · exact (LineState.parseLine_reaches input s).inRange hg hs

/-- A definition whose one context pops at the line end and where no rule matches, has a rule
that pops past the bottom frame, a look-ahead that pops, and a range. -/
def popsDefinitionText : String :=
  "<language name=\"T\"><highlighting><contexts>" ++
  "<context name=\"A\" attribute=\"N\" lineEndContext=\"#pop\" fallthrough=\"true\" " ++
  "fallthroughContext=\"#pop\"><DetectChar char=\")\" context=\"#pop#pop#pop#pop\"/>" ++
  "<DetectChar char=\"x\" lookAhead=\"true\" context=\"#pop\"/>" ++
  "<RangeDetect attribute=\"C\" char=\"/*\" char1=\"*/\"/></context></contexts>" ++
  "<itemDatas><itemData name=\"N\" defStyleNum=\"dsNormal\"/>" ++
  "<itemData name=\"C\" defStyleNum=\"dsComment\"/></itemDatas></highlighting></language>"

theorem parseLine_total_pops :
    ∃ g, Grammar.load popsDefinitionText (Includes.none "") = .ok g ∧
      (⟨#[{ context := 0 }, { context := 1 }]⟩ : LineState).InRange g ∧
      RunsWithin g { maxDepth := 0, maxZeroWidthSteps := 0 } (Line.ofString "x)/*y")
        ⟨#[{ context := 0 }, { context := 1 }]⟩ ∧
      (g.parseLine "x)/*y" ⟨#[{ context := 0 }, { context := 1 }]⟩
        { maxDepth := 0, maxZeroWidthSteps := 0 }).state.InRange g := by
  have hsize : ((Grammar.load popsDefinitionText (Includes.none "")).map
      (·.contexts.size)).toOption = some 2 := by decide +kernel
  cases h : Grammar.load popsDefinitionText (Includes.none "") with
  | error e =>
    rw [h] at hsize
    cases hsize
  | ok g =>
    rw [h] at hsize
    have hg : g.contexts.size = 2 := Option.some.inj hsize
    have hs : (⟨#[{ context := 0 }, { context := 1 }]⟩ : LineState).InRange g :=
      ⟨by decide, by simp [hg]⟩
    exact ⟨g, rfl, hs, parseLine_total h _ _ hs⟩

end Highlight

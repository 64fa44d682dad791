import Highlight.Proofs.Totality
import Highlight.Proofs.Respects
import Highlight.Proofs.HitBounds
/-!
# A range left open continues on the next lines

A range rule whose closing text does not occur on the rest of its line colours the rest of the
line and pushes its continuation context. That context has one rule, which matches the closing
text bound from the frame the range was matched in; it keeps the range's attribute and its case
rule, and on a match it pops the continuation and then does the range's own switch.

So a range closed on a later line has the effect it would have had on its own line: the columns
before the closing text are coloured with the range's attribute, the stack is left alone until
then, and right after the closing text the stack is what the range's switch makes of the stack it
was matched on. The pop of the continuation is counted into the switch with a saturating add
(`Switch.afterPops`), so this holds as long as that count does not saturate below the depth of the
stack (`apply_afterPops_push`).
-/

namespace Highlight

/-! ## Texts -/

namespace Line

/-- A text that does not occur at any column from `start` on is not found from `start`. -/
theorem findLiteral_eq_none {l : Line} {start : Nat} {text : String} {ins : Bool}
    (h : ∀ q, start ≤ q → l.literalAt q text ins = none) : l.findLiteral start text ins = none := by
  unfold findLiteral
  dsimp only
  split
  · rfl
  · next hcs =>
    simp only [Bool.or_eq_true, not_or, Bool.not_eq_true] at hcs
    rw [Option.map_eq_none_iff, List.find?_eq_none]
    intro i _ hi
    have hat : l.literalAt (start + i) text ins = some (start + i + text.toList.length) := by
      simp only [Bool.and_eq_true, decide_eq_true_eq] at hi
      simp [literalAt, hcs.1, hi.2]
    rw [h (start + i) (Nat.le_add_right _ _)] at hat
    cases hat

/-- A text found at a column ends past it. -/
theorem lt_of_literalAt {l : Line} {pos stop : Nat} {text : String} {ins : Bool}
    (h : l.literalAt pos text ins = some stop) : pos < stop := by
  unfold literalAt at h
  dsimp only at h
  split at h
  · cases h
  · next hcs =>
    split at h
    · cases h
      have : text.toList ≠ [] := by simpa using hcs
      have := List.length_pos_of_ne_nil this
      omega
    · cases h

end Line

theorem Placeholder.substitute_of_highest_eq_zero {t : String} (h : Placeholder.highest t = 0)
    (captures : List String) (escape : Bool) : Placeholder.substitute t captures escape = t :=
  if_pos h

/-! ## Stacks -/

namespace LineState

variable {g : Grammar} {d : Nat}

theorem take_push_of_le {α : Type} (a : Array α) (x : α) {n : Nat} (h : n ≤ a.size) :
    (a.push x).take n = a.take n := by
  rw [Array.take_eq_extract, Array.take_eq_extract, Array.extract_push, if_pos h]

/-- Pushing one context on a stack with room for it adds one frame, with the captures `bind` when
the context reads captures. -/
theorem apply_push_one (s : LineState) (hs : 0 < s.frames.size) (hd : s.frames.size < d) (c : Nat)
    (bind : Option (Array String)) :
    s.apply g { push := [c] } bind d =
      ⟨s.frames.push ⟨c, if (g.context c).isDynamic then bind else none⟩⟩ := by
  have hkeep : s.frames.take (max (s.frames.size - 0) 1) = s.frames := by
    rw [Nat.sub_zero, Nat.max_eq_left hs, Array.take_eq_extract, Array.extract_size]
  simp only [apply, hkeep, List.foldl_cons, List.foldl_nil, if_neg (Nat.not_le.2 hd)]

/-- Popping one level more than `sw`, from a stack with one frame pushed on `s`, is doing `sw` on
`s`, as long as the count of pops does not saturate below the depth of `s`. -/
theorem apply_afterPops_push (s : LineState) (hs : 0 < s.frames.size) (cf : Frame) (sw : Switch)
    (hsat : sw.pop < Definition.maxPops ∨ s.frames.size ≤ Definition.maxPops)
    (bind : Option (Array String)) :
    (⟨s.frames.push cf⟩ : LineState).apply g (sw.afterPops 1) bind d = s.apply g sw bind d := by
  -- both keep the same frames of `s`; the pushes after that are the same
  have hkeep : (s.frames.push cf).take (max ((s.frames.push cf).size -
      min Definition.maxPops (sw.pop + 1)) 1) = s.frames.take (max (s.frames.size - sw.pop) 1) := by
    rw [Array.size_push]
    rcases hsat with hpop | hsize
    · rw [Nat.min_eq_right (by omega), show s.frames.size + 1 - (sw.pop + 1) =
        s.frames.size - sw.pop by omega]
      exact take_push_of_le _ _ (by omega)
    · by_cases hpop : sw.pop < Definition.maxPops
      · rw [Nat.min_eq_right (by omega), show s.frames.size + 1 - (sw.pop + 1) =
          s.frames.size - sw.pop by omega]
        exact take_push_of_le _ _ (by omega)
      · rw [Nat.min_eq_left (by omega), Nat.max_eq_right (by omega), Nat.max_eq_right (by omega)]
        exact take_push_of_le _ _ (by omega)
  simp only [apply, Switch.afterPops, hkeep]

end LineState

/-! ## Continuation contexts -/

namespace Grammar

/-- In a laid-out table, a range rule of any context is a rule of a declared context, and it
continues in the context it names: one whose only rules close the range, with the range's
attribute, kept at the line end. -/
theorem LaidOut.continuation {defs : Array (String × Definition)} {g : Grammar}
    (h : g.LaidOut defs) {c : Nat} {R : Rule} (hR : R ∈ (g.context c).rules) {o e : String}
    {cont : Nat} {ins : Bool} (hk : R.kind = .rangeDetect o e cont ins) :
    (g.context cont).rules = Rule.closingRules e ins R.attr R.dynamic R.switch ∧
      ∃ label source sw,
        (g.context cont).ContinuesRange label source R.attr R.dynamic e ins sw := by
  obtain ⟨C, E, hctx, -, hlaid, -⟩ := h
  -- the rules of a continuation context only close, so `R` is a rule of a declared context
  have hdecl : R ∈ C.toList.flatMap (·.rules) := by
    unfold Grammar.context at hR
    rw [hctx] at hR
    cases hc : (C ++ E)[c]? with
    | none =>
      rw [hc] at hR
      exact absurd hR List.not_mem_nil
    | some k =>
      rw [hc, Option.getD_some] at hR
      by_cases hlt : c < C.size
      · rw [Array.getElem?_append_left hlt] at hc
        exact List.mem_flatMap.2 ⟨k, Array.mem_toList_iff.2 (Array.mem_of_getElem? hc), hR⟩
      · rw [Array.getElem?_append_right (Nat.not_lt.1 hlt)] at hc
        obtain ⟨_, -, _, _, _, _, -, _, -, sw, -, hcont⟩ :=
          hlaid.ranges.exists_of_mem (Array.mem_of_getElem? hc)
        rw [hcont.rules] at hR
        have := (Rule.mem_subrulesOf_closingRules (Rule.mem_subrulesOf hR)).1
        rw [hk] at this
        cases this
  obtain ⟨k, hk', hrules⟩ := hlaid.closing R hdecl o e cont ins hk
  obtain ⟨host, -, -, sw, -, k', hk'', hcont⟩ :=
    hlaid.ranges.continues R (Rule.mem_subrulesOf hdecl) o e cont ins hk
  rw [hk'] at hk''
  cases hk''
  -- the continuation is numbered after the declared contexts
  have hge : C.size ≤ cont := by
    have := List.mem_range'_1.1
      (hlaid.ranges.numbered ▸ cont_mem_filterMap (Rule.mem_subrulesOf hdecl) hk)
    omega
  have hctxk : g.context cont = k := by
    unfold Grammar.context
    rw [hctx, Array.getElem?_append_right hge, ← Nat.add_zero C.size, hk']
    rfl
  rw [hctxk]
  exact ⟨hrules, _, _, sw, hcont⟩

end Grammar

/-! ## Matching at a column -/

/-- A text of rule `r` as it is matched in `frame`: with the frame's captures in place of its
placeholders when the rule is dynamic. -/
def Rule.boundIn (r : Rule) (frame : Frame) (t : String) : String :=
  if r.dynamic then Placeholder.substitute t frame.bound false else t

/-- The delimiters, continuation and case rule of a range rule. -/
def RuleKind.range? : RuleKind → Option (String × String × Nat × Bool)
  | .rangeDetect o e cont ins => some (o, e, cont, ins)
  | _ => none

theorem RuleKind.eq_of_range? {k : RuleKind} {o e : String} {cont : Nat} {ins : Bool}
    (h : k.range? = some (o, e, cont, ins)) : k = .rangeDetect o e cont ins := by
  cases k <;> cases h
  rfl

/-- The closing rule of a range with a closing text: it matches that text with the range's case
rule and attribute, pops the continuation before the range's own switch, and is dynamic when the
range is and the text has placeholders. -/
def Rule.closing (closing : String) (ins : Bool) (attr : Nat) (dyn : Bool) (sw : Switch) : Rule :=
  ⟨.stringDetect closing ins, attr, sw.afterPops 1, false, false, none,
    dyn && decide (Placeholder.highest closing > 0), []⟩

theorem Rule.closingRules_of_ne {closing : String} (h : closing ≠ "") (ins : Bool) (attr : Nat)
    (dyn : Bool) (sw : Switch) :
    Rule.closingRules closing ins attr dyn sw = [Rule.closing closing ins attr dyn sw] := by
  rw [Rule.closingRules, if_neg (by simpa using h)]
  rfl

/-- The frame a range left open pushes: its continuation, with the captures of the frame the
range was matched in when the continuation reads captures. -/
def Grammar.continuationFrame (g : Grammar) (cont : Nat) (frame : Frame) : Frame :=
  ⟨cont, if (g.context cont).isDynamic then frame.captures else none⟩

/-- The closing rule, in the frame its range pushed, looks for the closing text as the range
bound it in the frame it was matched in: the continuation takes the captures exactly when the
closing text reads them. -/
theorem Rule.boundIn_closing {k : Context} {e : String} {dyn : Bool}
    (hmax : k.maxPlaceholder =
      if dyn && Placeholder.highest e > 0 then Placeholder.highest e else 0)
    (ins : Bool) (attr : Nat) (sw : Switch) (c : Nat) (frame : Frame) :
    (Rule.closing e ins attr dyn sw).boundIn ⟨c, if k.isDynamic then frame.captures else none⟩ e =
      if dyn then Placeholder.substitute e frame.bound false else e := by
  unfold Rule.boundIn Rule.closing Context.isDynamic
  rw [hmax]
  cases dyn with
  | false => simp
  | true =>
    by_cases h0 : Placeholder.highest e = 0
    · simp [h0, Placeholder.substitute_of_highest_eq_zero h0]
    · have hpos : 0 < Placeholder.highest e := Nat.pos_of_ne_zero h0
      simp [hpos, Frame.bound]

section Match

open Matcher

variable {g : Grammar} {line : Line} {seps : Separators} {frame : Frame} {pos : Nat}

/-- A string rule with no column conditions and no children matches where its text, bound in the
frame, occurs, and reads nothing the matcher remembers. -/
theorem matchRule_stringDetect {r : Rule} {t : String} {ins : Bool}
    (hk : r.kind = .stringDetect t ins) (hfns : r.firstNonSpace = false) (hcol : r.column = none)
    (hch : r.children = []) (hpos : pos < line.size) (m : Matcher) :
    (matchRule g line seps frame pos r).run m =
      ((line.literalAt pos (r.boundIn frame t) ins).map fun stop => { stop }, m) := by
  obtain ⟨kind, attr, sw, la, fns, col, dyn, ch⟩ := r
  cases hk
  cases hfns
  cases hcol
  cases hch
  unfold matchRule
  simp only [Bool.false_and, Option.any_none, dif_pos hpos, matchKind]
  cases hlit : line.literalAt pos (Rule.boundIn ⟨_, attr, sw, la, false, none, dyn, []⟩ frame t) ins
  · simp only [Rule.boundIn] at hlit
    simp only [Bool.false_eq_true, ↓reduceIte, hlit, Option.bind_none, bind_pure_comp, pure_bind,
      StateT.run_pure, Option.map_none]
    rfl
  · simp only [Rule.boundIn] at hlit
    simp only [Bool.false_eq_true, ↓reduceIte, hlit, Option.bind_some, ge_iff_le, Bool.or_eq_true,
      decide_eq_true_eq, bind_pure_comp, pure_bind, Option.isSome_none, false_or, Option.map_some]
    -- a hit short of the line end is extended by no child
    split
    · rfl
    · simp only [matchChildren]
      rfl

/-- The first match in a context with one rule is that rule's match. -/
theorem firstMatch_of_rules_eq {ctx : Context} {r : Rule} (hrules : ctx.rules = [r]) (m : Matcher) :
    (firstMatch g line seps frame pos ctx).run m =
      (((matchRule g line seps frame pos r).run m).1.map (r, ·),
        ((matchRule g line seps frame pos r).run m).2) := by
  unfold firstMatch
  rw [hrules, List.findSomeM?_cons]
  simp only [Matcher.run_bind_eq]
  cases (matchRule g line seps frame pos r).run m with
  | mk o m' =>
    cases o with
    | none => rfl
    | some hit => rfl

/-- The first match in a context is a match of its rule, from some matcher. -/
theorem firstMatch_some {ctx : Context} {r : Rule} {hit : Hit} {m m' : Matcher}
    (h : (firstMatch g line seps frame pos ctx).run m = (some (r, hit), m')) :
    ∃ m₀, (matchRule g line seps frame pos r).run m₀ = (some hit, m') := by
  obtain ⟨m₀, -, h₀⟩ := firstMatch_some_inv (P := fun _ => True) (fun _ _ _ _ _ _ => trivial)
    trivial h
  exact ⟨m₀, h₀⟩

/-- A range whose closing text does not occur after its opening text runs off the line: its hit
ends at the line end, continues in its continuation, and carries the frame's captures. -/
theorem matchRule_range_open {R : Rule} {o e : String} {cont : Nat} {ins : Bool}
    (hk : R.kind = .rangeDetect o e cont ins)
    (hno : ∀ a, line.literalAt pos (R.boundIn frame o) ins = some a →
      ∀ q, a ≤ q → line.literalAt q (R.boundIn frame e) ins = none)
    {m m' : Matcher} {hit : Hit} (h : (matchRule g line seps frame pos R).run m = (some hit, m')) :
    hit = { stop := line.size, bind := frame.captures, continuation := some cont } := by
  obtain ⟨kind, attr, sw, la, fns, col, dyn, ch⟩ := R
  cases hk
  simp only [Rule.boundIn] at hno
  unfold matchRule at h
  split at h
  · cases h
  split at h
  · cases h
  split at h
  · obtain ⟨o₁, m₁, h₁, h₂⟩ := stateM_bind_eq h
    simp only [matchKind] at h₁
    obtain ⟨rfl, rfl⟩ := stateM_pure_eq h₁
    cases hopen : line.literalAt pos (if dyn = true then Placeholder.substitute o frame.bound false
        else o) ins with
    | none =>
      simp only [hopen, Option.bind_eq_bind, Option.bind_none, StateT.run_pure] at h₂
      cases h₂
    | some a =>
      have hclose := Line.findLiteral_eq_none (hno a hopen)
      simp only [hopen, Option.bind_eq_bind, Option.bind_some, hclose, Option.isSome_some,
        ge_iff_le, Std.le_refl, decide_true, Bool.or_self, ↓reduceIte, StateT.run_pure] at h₂
      exact (Option.some.inj (Prod.mk.inj h₂).1).symm
  · cases h

end Match

/-! ## Parsing steps -/

section Scan

variable {g : Grammar} {limits : ParseLimits} {line : Line} {pos : Nat} {p : Progress}

/-- In a context whose one rule is a plain string rule and which has no fallthrough, a column
where the rule's text does not occur is coloured with the context's attribute. -/
theorem scanStep_single_none {r : Rule} {t : String} {ins : Bool}
    (hrules : (g.context p.state.top.context).rules = [r])
    (hfall : (g.context p.state.top.context).fallthrough = none)
    (hk : r.kind = .stringDetect t ins) (hfns : r.firstNonSpace = false)
    (hcol : r.column = none) (hch : r.children = []) (hpos : pos < line.size)
    (hnone : line.literalAt pos (r.boundIn p.state.top t) ins = none) (m : Matcher) :
    scanStep g limits line pos p m = (pos + 1, p.unmatched g pos p.state.top, m) := by
  unfold scanStep
  dsimp only
  rw [firstMatch_of_rules_eq hrules, matchRule_stringDetect hk hfns hcol hch hpos, hnone]
  simp only [Option.map_none, hfall]

/-- In a context whose one rule is a plain string rule, a column where the rule's text occurs is
consumed up to its end, with the rule's attribute and switch. -/
theorem scanStep_single_some {r : Rule} {t : String} {ins : Bool} {stop : Nat}
    (hrules : (g.context p.state.top.context).rules = [r])
    (hk : r.kind = .stringDetect t ins) (hfns : r.firstNonSpace = false)
    (hcol : r.column = none) (hch : r.children = []) (hla : r.lookAhead = false)
    (hpos : pos < line.size) (hsome : line.literalAt pos (r.boundIn p.state.top t) ins = some stop)
    (m : Matcher) :
    scanStep g limits line pos p m = (stop, { p with
      zeroSteps := 0, state := p.state.apply g r.switch none limits.maxDepth, continued := false,
      spans := p.spans.push ⟨pos, stop - pos, r.attr, textKind g r.attr
        (if r.switch.push.isEmpty then p.state.top
          else (p.state.apply g r.switch none limits.maxDepth).top)⟩ }, m) := by
  have hstop := Line.lt_of_literalAt hsome
  unfold scanStep
  dsimp only
  rw [firstMatch_of_rules_eq hrules, matchRule_stringDetect hk hfns hcol hch hpos, hsome]
  simp only [Option.map_some, hla, Bool.false_or, decide_eq_true_eq, if_neg (Nat.not_le.2 hstop)]

/-- Columns where the one rule's text does not occur are coloured one by one with the context's
attribute, and leave the stack alone. -/
theorem scan_single_unmatched {s : LineState} {r : Rule} {t : String} {ins : Bool}
    (hrules : (g.context s.top.context).rules = [r])
    (hfall : (g.context s.top.context).fallthrough = none)
    (hk : r.kind = .stringDetect t ins) (hfns : r.firstNonSpace = false)
    (hcol : r.column = none) (hch : r.children = []) :
    ∀ (n j : Nat) (p : Progress) (m : Matcher), p.state = s → p.zeroSteps = 0 →
      j + n ≤ line.size →
      (∀ i, j ≤ i → i < j + n → line.literalAt i (r.boundIn s.top t) ins = none) →
      scan g limits line j p m = scan g limits line (j + n) { p with
        spans := p.spans ++ ((List.range' j n).map fun i =>
          (⟨i, 1, (g.context s.top.context).attr,
            textKind g (g.context s.top.context).attr s.top⟩ : Span)).toArray } m := by
  intro n
  -- the induction is on the number of columns still to colour
  induction n with
  | zero =>
    intro j p m _ _ _ _
    simp only [Nat.add_zero, List.range'_zero, List.map_nil, Array.append_empty]
  | succ n ih =>
    intro j p m hs hz hn hno
    subst hs
    have hj : j < line.size := by omega
    rw [scan_of_lt hj, scanStep_single_none hrules hfall hk hfns hcol hch hj (hno j le_rfl (by omega))]
    dsimp only
    rw [ih (j + 1) (p.unmatched g j p.state.top) m rfl rfl (by omega)
        fun i hi hi' => hno i (by omega) (by omega),
      show j + 1 + n = j + (n + 1) by omega]
    congr 1
    simp only [Progress.unmatched, hz, List.range'_succ, List.map_cons, List.push_append_toArray]

/-- A range that is the first match at a column and whose closing text does not occur after its
opening text colours the rest of the line with its attribute and pushes its continuation, with
the captures of the frame it was matched in. -/
theorem scanStep_range_open {R : Rule} {o e : String} {cont : Nat} {ins : Bool} {hit : Hit}
    {m m' : Matcher}
    (hfirst : (firstMatch g line (g.separatorsOf p.state.top.context) p.state.top pos
      (g.context p.state.top.context)).run m = (some (R, hit), m'))
    (hk : R.kind = .rangeDetect o e cont ins) (hla : R.lookAhead = false)
    (hno : ∀ a, line.literalAt pos (R.boundIn p.state.top o) ins = some a →
      ∀ q, a ≤ q → line.literalAt q (R.boundIn p.state.top e) ins = none)
    (hpos : pos < line.size) :
    scanStep g limits line pos p m = (line.size, { p with
      zeroSteps := 0, continued := false,
      state := p.state.apply g { push := [cont] } p.state.top.captures limits.maxDepth,
      spans := p.spans.push ⟨pos, line.size - pos, R.attr, textKind g R.attr
        (p.state.apply g { push := [cont] } p.state.top.captures limits.maxDepth).top⟩ }, m') := by
  obtain ⟨m₀, h₀⟩ := firstMatch_some hfirst
  have hhit := matchRule_range_open hk hno h₀
  subst hhit
  unfold scanStep
  dsimp only
  rw [hfirst]
  simp only [hla, Bool.false_or, decide_eq_true_eq, if_neg (Nat.not_le.2 hpos),
    List.isEmpty_cons, Bool.false_eq_true, if_false]

end Scan

/-- A context kept at the line end and without an empty-line switch is left as it is at the end
of a line. -/
theorem endOfLine_of_persists {g : Grammar} {limits : ParseLimits} {s : LineState}
    (hend : (g.context s.top.context).lineEnd = .stay)
    (hempty : (g.context s.top.context).lineEmpty = none) (empty : Bool) :
    endOfLine g limits s empty = s := by
  have hclose : ∀ n, closeLine g limits.maxDepth n s = s := by
    intro n
    cases n with
    | zero => rfl
    | succ n => simp [closeLine, hend, Switch.stay, Switch.isStay]
  unfold endOfLine
  cases empty <;> simp only [hempty, hclose]

/-! ## Lines in a continuation -/

section Continue

variable {g : Grammar} {limits : ParseLimits} {s : LineState} {label : String} {source attr : Nat}
  {dyn : Bool} {e : String} {ins : Bool} {sw sw' : Switch}

/-- In a continuation, the first match at a column is its closing rule where the closing text
occurs, and nothing elsewhere. -/
theorem firstMatch_continuation {line : Line} {seps : Separators} {frame : Frame} {pos : Nat}
    {ctx : Context} (hrules : ctx.rules = Rule.closingRules e ins attr dyn sw) (he : e ≠ "")
    (hpos : pos < line.size) (m : Matcher) :
    (firstMatch g line seps frame pos ctx).run m =
      ((line.literalAt pos ((Rule.closing e ins attr dyn sw).boundIn frame e) ins).map
        fun stop => (Rule.closing e ins attr dyn sw, { stop }), m) := by
  rw [firstMatch_of_rules_eq (hrules.trans (Rule.closingRules_of_ne he ins attr dyn sw)),
    matchRule_stringDetect rfl rfl rfl rfl hpos]
  cases line.literalAt pos ((Rule.closing e ins attr dyn sw).boundIn frame e) ins <;> rfl

/-- In a continuation, the columns before the first occurrence of the closing text are coloured
with the range's attribute. -/
theorem scan_continuation_unmatched
    (hk : (g.context s.top.context).ContinuesRange label source attr dyn e ins sw')
    (hrules : (g.context s.top.context).rules = Rule.closingRules e ins attr dyn sw) (he : e ≠ "")
    {line : Line} {n : Nat} (hn : n ≤ line.size)
    (hno : ∀ i < n,
      line.literalAt i ((Rule.closing e ins attr dyn sw).boundIn s.top e) ins = none) :
    scan g limits line 0 (.start s) {} = scan g limits line n { Progress.start s with
      spans := ((List.range n).map fun i => (⟨i, 1, attr, textKind g attr s.top⟩ : Span)).toArray }
      {} := by
  rw [scan_single_unmatched (hrules.trans (Rule.closingRules_of_ne he ins attr dyn sw))
    hk.fallthrough rfl rfl rfl rfl n 0 (.start s) {} rfl rfl (by omega)
    fun i _ hi => hno i (by omega)]
  simp only [Nat.zero_add, Progress.start, hk.attr, List.range_eq_range',
    Array.empty_append]

/-- **A line without the closing text stays in the continuation.** It is coloured column by
column with the range's attribute, and leaves the stack as it found it. -/
theorem parseLine_continuation_none
    (hk : (g.context s.top.context).ContinuesRange label source attr dyn e ins sw')
    (hrules : (g.context s.top.context).rules = Rule.closingRules e ins attr dyn sw) (he : e ≠ "")
    (t : String)
    (hno : ∀ q, (Line.ofString t).literalAt q ((Rule.closing e ins attr dyn sw).boundIn s.top e)
      ins = none) :
    g.parseLine t s limits =
      ⟨((List.range (Line.ofString t).size).map fun i =>
        (⟨i, 1, attr, textKind g attr s.top⟩ : Span)).toArray, s⟩ := by
  have hscan : scan g limits (Line.ofString t) 0 (.start s) {} = _ :=
    scan_continuation_unmatched hk hrules he le_rfl fun i _ => hno i
  rw [Grammar.parseLine_eq]
  dsimp only
  rw [show ({ state := s, spans := #[], zeroSteps := 0, continued := false } : Progress) =
    .start s from rfl, hscan, scan_of_size_le le_rfl]
  simp only [Progress.start, Bool.false_eq_true, if_false,
    endOfLine_of_persists hk.lineEnd hk.lineEmpty]

/-- **The first occurrence of the closing text closes the range.** The columns before it are
coloured with the range's attribute, the closing text too, and the line goes on from its end with
the continuation's switch done on the stack. -/
theorem scan_continuation_close
    (hk : (g.context s.top.context).ContinuesRange label source attr dyn e ins sw')
    (hrules : (g.context s.top.context).rules = Rule.closingRules e ins attr dyn sw) (he : e ≠ "")
    {line : Line} {q stop : Nat} (hq : q < line.size)
    (hat : line.literalAt q ((Rule.closing e ins attr dyn sw).boundIn s.top e) ins = some stop)
    (hbefore : ∀ i < q,
      line.literalAt i ((Rule.closing e ins attr dyn sw).boundIn s.top e) ins = none) :
    scan g limits line 0 (.start s) {} = scan g limits line stop
      { state := s.apply g (sw.afterPops 1) none limits.maxDepth,
        spans := ((List.range q).map fun i => (⟨i, 1, attr, textKind g attr s.top⟩ : Span)).toArray
          |>.push ⟨q, stop - q, attr, textKind g attr (if sw.push.isEmpty then s.top
            else (s.apply g (sw.afterPops 1) none limits.maxDepth).top)⟩,
        zeroSteps := 0, continued := false } {} := by
  rw [scan_continuation_unmatched hk hrules he hq.le hbefore, scan_of_lt hq]
  dsimp only [Progress.start]
  rw [scanStep_single_some (p := ⟨s, _, 0, false⟩)
    (hrules.trans (Rule.closingRules_of_ne he ins attr dyn sw)) rfl rfl rfl rfl rfl hq hat]
  rfl

end Continue

/-! ## A range closed on a later line -/

/-- **A range left open has the effect of one closed on its own line.** Let `R` be a range rule,
with a closing text and not a look-ahead, of the active context of a stack `S` with room for one
more frame, in a grammar that loading produced. Where `R` is the first match at a column and its
closing text, bound in the top frame, does not occur after its opening text, the rest of the line
is one span of `R`'s attribute and the stack is `S` with the continuation pushed, which the line
end keeps. On any later line the continuation's rule matches exactly where that same text occurs;
a line without it is coloured with `R`'s attribute and leaves the stack alone; and right after its
first occurrence the line goes on with the stack `R`'s switch makes of `S`, unless counting the
continuation's pop into that switch saturates below the depth of `S`. -/
theorem range_continuation_same_effect {text : String} {inc : Includes} {g : Grammar}
    (hg : Grammar.load text inc = .ok g) (limits : ParseLimits) {S : LineState}
    (hS : 0 < S.frames.size) (hdepth : S.frames.size < limits.maxDepth) {R : Rule}
    (hR : R ∈ (g.context S.top.context).rules) {o e : String} {cont : Nat} {ins : Bool}
    (hkind : R.kind = .rangeDetect o e cont ins) (he : e ≠ "") (hlook : R.lookAhead = false) :
    (∀ (line : Line) (pos : Nat) (p : Progress) (m : Matcher), p.state = S → pos < line.size →
      ((firstMatch g line (g.separatorsOf S.top.context) S.top pos
        (g.context S.top.context)).run m).1.map Prod.fst = some R →
      (∀ a, line.literalAt pos (R.boundIn S.top o) ins = some a →
        ∀ q, a ≤ q → line.literalAt q (R.boundIn S.top e) ins = none) →
      scan g limits line pos p m = { p with
        state := ⟨S.frames.push (g.continuationFrame cont S.top)⟩, zeroSteps := 0,
        continued := false,
        spans := p.spans.push ⟨pos, line.size - pos, R.attr,
          textKind g R.attr (g.continuationFrame cont S.top)⟩ }) ∧
    (∀ empty, endOfLine g limits ⟨S.frames.push (g.continuationFrame cont S.top)⟩ empty =
      ⟨S.frames.push (g.continuationFrame cont S.top)⟩) ∧
    (∀ (line : Line) (q : Nat) (m : Matcher), q < line.size →
      (firstMatch g line (g.separatorsOf cont) (g.continuationFrame cont S.top) q
        (g.context cont)).run m =
        ((line.literalAt q (R.boundIn S.top e) ins).map
          fun stop => (Rule.closing e ins R.attr R.dynamic R.switch, { stop }), m)) ∧
    (∀ t : String, (∀ q, (Line.ofString t).literalAt q (R.boundIn S.top e) ins = none) →
      g.parseLine t ⟨S.frames.push (g.continuationFrame cont S.top)⟩ limits =
        ⟨((List.range (Line.ofString t).size).map fun i =>
          (⟨i, 1, R.attr, textKind g R.attr (g.continuationFrame cont S.top)⟩ : Span)).toArray,
          ⟨S.frames.push (g.continuationFrame cont S.top)⟩⟩) ∧
    (R.switch.pop < Definition.maxPops ∨ S.frames.size ≤ Definition.maxPops →
      ∀ (line : Line) (q stop : Nat), q < line.size →
        line.literalAt q (R.boundIn S.top e) ins = some stop →
        (∀ i < q, line.literalAt i (R.boundIn S.top e) ins = none) →
        scan g limits line 0 (.start ⟨S.frames.push (g.continuationFrame cont S.top)⟩) {} =
          scan g limits line stop
            { state := S.apply g R.switch none limits.maxDepth,
              spans := ((List.range q).map fun i =>
                (⟨i, 1, R.attr, textKind g R.attr (g.continuationFrame cont S.top)⟩ : Span)).toArray
                |>.push ⟨q, stop - q, R.attr, textKind g R.attr
                  (if R.switch.push.isEmpty then g.continuationFrame cont S.top
                    else (S.apply g R.switch none limits.maxDepth).top)⟩,
              zeroSteps := 0, continued := false } {}) := by
  obtain ⟨-, -, -, -, defs, -, -, hlaid⟩ := Grammar.load_wellFormed hg
  obtain ⟨hrules, label, source, sw', hcont⟩ := hlaid.continuation hR hkind
  -- the stack with the continuation pushed, whose top frame is the continuation's
  have hpush : S.apply g { push := [cont] } S.top.captures limits.maxDepth =
      ⟨S.frames.push (g.continuationFrame cont S.top)⟩ :=
    LineState.apply_push_one S hS hdepth cont _
  have htop : LineState.top ⟨S.frames.push (g.continuationFrame cont S.top)⟩ =
      g.continuationFrame cont S.top := by
    simp [LineState.top]
  have hcontT : (g.context (LineState.top ⟨S.frames.push (g.continuationFrame cont S.top)⟩).context
      ).ContinuesRange label source R.attr R.dynamic e ins sw' := by
    rw [htop]
    exact hcont
  have hrulesT : (g.context (LineState.top ⟨S.frames.push (g.continuationFrame cont S.top)⟩).context
      ).rules = Rule.closingRules e ins R.attr R.dynamic R.switch := by
    rw [htop]
    exact hrules
  -- the closing rule looks for the text the range looked for
  have hE : (Rule.closing e ins R.attr R.dynamic R.switch).boundIn
      (g.continuationFrame cont S.top) e = R.boundIn S.top e :=
    Rule.boundIn_closing hcont.maxPlaceholder ins R.attr R.switch cont S.top
  refine ⟨?_, fun empty => endOfLine_of_persists hcontT.lineEnd hcontT.lineEmpty empty, ?_, ?_, ?_⟩
  · intro line pos p m hp hpos hfirst hno
    subst hp
    obtain ⟨hit, m', hrun⟩ : ∃ hit m', (firstMatch g line (g.separatorsOf p.state.top.context)
        p.state.top pos (g.context p.state.top.context)).run m = (some (R, hit), m') := by
      rcases h : (firstMatch g line (g.separatorsOf p.state.top.context) p.state.top pos
        (g.context p.state.top.context)).run m with ⟨_ | ⟨R', hit⟩, m'⟩
      · rw [h] at hfirst
        cases hfirst
      · rw [h] at hfirst
        cases hfirst
        exact ⟨hit, m', rfl⟩
    rw [scan_of_lt hpos, scanStep_range_open hrun hkind hlook hno hpos]
    dsimp only
    rw [scan_of_size_le le_rfl, hpush, htop]
  · intro line q m hq
    rw [firstMatch_continuation hrules he hq, hE]
  · intro t hno
    rw [parseLine_continuation_none hcontT hrulesT he t (by rw [htop, hE]; exact hno), htop]
  · intro hsat line q stop hq hat hbefore
    rw [scan_continuation_close hcontT hrulesT he hq (by rw [htop, hE]; exact hat)
      (by rw [htop, hE]; exact hbefore), htop,
      LineState.apply_afterPops_push S hS _ R.switch hsat none]

theorem range_continuation_same_effect_bracket :
    ∃ (g : Grammar) (R : Rule),
      Grammar.load Grammar.rangeDefinitionText (Includes.none "") = .ok g ∧
      R ∈ (g.context 0).rules ∧ R.kind = .rangeDetect "[" "]" 1 false ∧
      g.parseLine "ab" ⟨LineState.initial.frames.push (g.continuationFrame 1 LineState.initial.top)⟩
        {} = ⟨((List.range (Line.ofString "ab").size).map fun i =>
          (⟨i, 1, R.attr, textKind g R.attr (g.continuationFrame 1 LineState.initial.top)⟩ : Span)
            ).toArray,
          ⟨LineState.initial.frames.push (g.continuationFrame 1 LineState.initial.top)⟩⟩ := by
  have hok : ((Grammar.load Grammar.rangeDefinitionText (Includes.none "")).toOption.map fun g =>
      (g.context 0).rules.any fun r => decide (r.kind.range? = some ("[", "]", 1, false)) &&
        !r.lookAhead && !r.dynamic) = some true := by decide +kernel
  cases h : Grammar.load Grammar.rangeDefinitionText (Includes.none "") with
  | error err =>
    rw [h] at hok
    cases hok
  | ok g =>
    rw [h] at hok
    obtain ⟨R, hR, hprop⟩ := List.any_eq_true.1 (Option.some.inj hok)
    simp only [Bool.and_eq_true, Bool.not_eq_true', decide_eq_true_eq] at hprop
    obtain ⟨⟨hrange, hla⟩, hdyn⟩ := hprop
    have hk := RuleKind.eq_of_range? hrange
    refine ⟨g, R, rfl, hR, hk, ?_⟩
    refine (range_continuation_same_effect h {} (by decide) (by decide) hR hk (by decide)
      hla).2.2.2.1 "ab" fun q => ?_
    simp only [Rule.boundIn, hdyn, Bool.false_eq_true, if_false]
    rcases q with _ | _ | q <;> simp [Line.literalAt, Line.ofString, Line.charsEq]

end Highlight

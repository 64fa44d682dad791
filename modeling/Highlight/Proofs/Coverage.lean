import Highlight.Proofs.HitBounds
import Highlight.Proofs.Stack
import Highlight.Proofs.Tables
/-!
# The spans of a line tile it

Parsing a line colours every column exactly once: its spans start at column 0, each starts where
the one before it stops, none is empty, and the last stops at the end of the line; an empty line
has no span (`Span.Tiling`).

The main loop keeps this as an invariant of the columns it has passed (`Span.Cover`). A pass that
colours one character adds a span of one column; a pass that switches without consuming adds
nothing and stays at its column; a match that consumes adds the span from the column to where the
match stops, which is past the column, or the pass would not consume, and within the line
(`firstMatch_stop_le`). So when the loop reaches the end of the line, its spans cover the line
exactly (`scan_cover`), for every grammar that loading produced, every stack, every text and every
pair of limits (`parseLine_spans_tile`).
-/

namespace Highlight

/-! ## Spans one after another -/

namespace Span

/-- `spans` cover the columns from `a` to `b` one after another, each at least one column wide. -/
def Cover : List Span → Nat → Nat → Prop
  | [], a, b => a = b
  | s :: ss, a, b => s.start = a ∧ 0 < s.len ∧ Cover ss s.stop b

/-- Spans tile the columns `0 … n`: the first starts at column 0, each starts where the one
before it stops, none is empty, the last stops at `n`, and there is none exactly when `n` is 0. -/
structure Tiling (spans : Array Span) (n : Nat) : Prop where
  first : ∀ s, spans[0]? = some s → s.start = 0
  next : ∀ k s s', spans[k]? = some s → spans[k + 1]? = some s' → s'.start = s.start + s.len
  len_pos : ∀ s ∈ spans, 0 < s.len
  last : ∀ s, spans.back? = some s → s.start + s.len = n
  empty_iff : spans = #[] ↔ n = 0

namespace Cover

theorem le : ∀ {ss : List Span} {a b : Nat}, Cover ss a b → a ≤ b
  | [], _, _, h => Nat.le_of_eq h
  | s :: ss, a, b, ⟨hs, hlen, h⟩ => by
    have := le h
    unfold stop at this
    omega

/-- A span that starts where the covered columns stop, and is not empty, extends them. -/
theorem append_single : ∀ {ss : List Span} {a b c : Nat} {s : Span}, Cover ss a b →
    s.start = b → 0 < s.len → s.stop = c → Cover (ss ++ [s]) a c
  | [], _, _, _, _, h, hs, hlen, hc => ⟨hs.trans h.symm, hlen, hc⟩
  | _ :: _, _, _, _, _, ⟨h₁, h₂, h⟩, hs, hlen, hc => ⟨h₁, h₂, append_single h hs hlen hc⟩

theorem start_of_head {ss : List Span} {a b : Nat} (h : Cover ss a b) {s : Span}
    (hs : ss[0]? = some s) : s.start = a := by
  cases ss with
  | nil => cases hs
  | cons s' ss =>
    cases hs
    exact h.1

theorem start_succ : ∀ {ss : List Span} {a b : Nat}, Cover ss a b → ∀ {k : Nat} {s s' : Span},
    ss[k]? = some s → ss[k + 1]? = some s' → s'.start = s.start + s.len
  | [], _, _, _, _, _, _, hs, _ => by cases hs
  | s₀ :: ss, _, _, ⟨_, _, h⟩, 0, s, s', hs, hs' => by
    cases hs
    exact h.start_of_head hs'
  | _ :: ss, _, _, ⟨_, _, h⟩, k + 1, s, s', hs, hs' => h.start_succ hs hs'

theorem len_pos : ∀ {ss : List Span} {a b : Nat}, Cover ss a b → ∀ s ∈ ss, 0 < s.len
  | [], _, _, _, _, hs => by cases hs
  | _ :: _, _, _, ⟨_, hlen, h⟩, s, hs => by
    rcases List.mem_cons.1 hs with rfl | hs
    · exact hlen
    · exact h.len_pos s hs

theorem stop_of_getLast : ∀ {ss : List Span} {a b : Nat}, Cover ss a b → ∀ {s : Span},
    ss.getLast? = some s → s.start + s.len = b
  | [], _, _, _, _, hs => by cases hs
  | [s₀], _, _, ⟨_, _, h⟩, s, hs => by
    cases hs
    exact h
  | _ :: s₁ :: ss, _, _, ⟨_, _, h⟩, s, hs => by
    rw [List.getLast?_cons_cons] at hs
    exact h.stop_of_getLast hs

theorem eq_nil_iff {ss : List Span} {a b : Nat} (h : Cover ss a b) : ss = [] ↔ a = b := by
  cases ss with
  | nil => exact ⟨fun _ => h, fun _ => rfl⟩
  | cons s ss =>
    -- a first span is not empty, so the columns it starts are not all covered yet
    obtain ⟨hs, hlen, h⟩ := h
    have := h.le
    unfold stop at this
    refine ⟨fun h => ?_, fun hab => ?_⟩
    · cases h
    · omega

/-- Spans that cover the columns `0 … n` tile them. -/
theorem tiling {spans : Array Span} {n : Nat} (h : Cover spans.toList 0 n) : Tiling spans n where
  first s hs := h.start_of_head (by rwa [Array.getElem?_toList])
  next k s s' hs hs' := h.start_succ (by rwa [Array.getElem?_toList])
    (by rwa [Array.getElem?_toList])
  len_pos s hs := h.len_pos s (Array.mem_toList_iff.2 hs)
  last s hs := h.stop_of_getLast (by rwa [Array.getLast?_toList])
  empty_iff := by
    rw [← Array.toList_eq_nil_iff, h.eq_nil_iff]
    exact eq_comm

end Cover

end Span

/-! ## The main loop covers the columns it passes -/

theorem Progress.zeroWidth_spans {g : Grammar} {limits : ParseLimits} {p q : Progress}
    {sw : Switch} {bind : Option (Array String)} (h : p.zeroWidth g limits sw bind = some q) :
    q.spans = p.spans := by
  unfold Progress.zeroWidth at h
  split at h
  · cases h
  · dsimp only at h
    split at h
    · cases h
    · cases h
      rfl

/-- Colouring one character extends the covered columns by one. -/
theorem Progress.cover_unmatched {g : Grammar} {p : Progress} {pos : Nat} (frame : Frame)
    (h : Span.Cover p.spans.toList 0 pos) :
    Span.Cover (p.unmatched g pos frame).spans.toList 0 (pos + 1) := by
  simp only [Progress.unmatched, Array.toList_push]
  exact h.append_single rfl Nat.one_pos rfl

section Scan

variable {g : Grammar} {limits : ParseLimits} {line : Line}

/-- A pass from a column on the line moves to a column at most the line's end: the same one, the
next one, or where the match it takes stops. -/
theorem scanStep_column_le (hg : ∀ r ∈ g.patterns, r.Disciplined) {pos : Nat} {p : Progress}
    {m : Matcher} (hm : m.Compiled) (hpos : pos < line.size) :
    (scanStep g limits line pos p m).1 ≤ line.size := by
  unfold scanStep
  dsimp only
  split
  next found m' hrun =>
    cases found with
    | none =>
      dsimp only
      cases (g.context p.state.top.context).fallthrough with
      | none => exact hpos
      | some sw =>
        dsimp only
        cases p.zeroWidth g limits sw none with
        | none => exact hpos
        | some q => exact hpos.le
    | some found =>
      obtain ⟨rule, hit⟩ := found
      dsimp only
      split
      · split
        · exact hpos.le
        · exact hpos
      · exact firstMatch_stop_le hg hm hrun rule hit rfl

/-- **One pass of the main loop keeps the columns it passed covered.** -/
theorem scanStep_cover (hg : ∀ r ∈ g.patterns, r.Disciplined) {pos : Nat} {p : Progress}
    {m : Matcher} (hm : m.Compiled) (hpos : pos < line.size)
    (hc : Span.Cover p.spans.toList 0 pos) :
    (scanStep g limits line pos p m).2.2.Compiled ∧ (scanStep g limits line pos p m).1 ≤ line.size ∧
      Span.Cover (scanStep g limits line pos p m).2.1.spans.toList 0
        (scanStep g limits line pos p m).1 := by
  refine ⟨(LineState.scanStep_reaches hm).2, scanStep_column_le hg hm hpos, ?_⟩
  unfold scanStep
  dsimp only
  split
  next found m' hrun =>
    cases found with
    | none =>
      -- no rule matched: the fallthrough switches, or a character is coloured
      dsimp only
      cases (g.context p.state.top.context).fallthrough with
      | none => exact p.cover_unmatched _ hc
      | some sw =>
        dsimp only
        cases hz : p.zeroWidth g limits sw none with
        | none => exact p.cover_unmatched _ hc
        | some q => exact (Progress.zeroWidth_spans hz).symm ▸ hc
    | some found =>
      obtain ⟨rule, hit⟩ := found
      dsimp only
      split
      · -- the match switches without consuming, or a character is coloured
        split
        · next q hz => exact (Progress.zeroWidth_spans hz).symm ▸ hc
        · exact p.cover_unmatched _ hc
      · -- the match consumes up to where it stops, past the column
        next hconsume =>
        simp only [Bool.or_eq_true, decide_eq_true_eq, not_or, Nat.not_le] at hconsume
        rw [Array.toList_push]
        exact hc.append_single rfl (Nat.sub_pos_of_lt hconsume.2)
          (Nat.add_sub_cancel' hconsume.2.le)

/-- **The main loop covers the line.** From a column on the line whose columns before it are
covered, with a matcher that remembers only compiled patterns, the loop ends with every column of
the line covered. -/
theorem scan_cover (hg : ∀ r ∈ g.patterns, r.Disciplined) {pos : Nat} {p : Progress}
    {m : Matcher} (hm : m.Compiled) (hpos : pos ≤ line.size)
    (hc : Span.Cover p.spans.toList 0 pos) :
    Span.Cover (scan g limits line pos p m).spans.toList 0 line.size := by
  fun_induction scanLoop g limits line pos p m with
  | case1 pos p m hlt next ih =>
    obtain ⟨hm', hle, hc'⟩ := scanStep_cover hg hm hlt hc
    rw [scan_of_lt hlt]
    exact ih hm' hle hc'
  | case2 pos p m hge =>
    rw [scan_of_size_le (by omega)]
    rwa [show line.size = pos by omega]

end Scan

/-- **The spans of a line tile it.** For a grammar that loading produced, from any stack, with
any limits, the spans of any text start at column 0, follow one another without gap or overlap,
are never empty, and end at the text's last character; an empty text has none. -/
theorem parseLine_spans_tile {text : String} {inc : Includes} {g : Grammar}
    (hg : Grammar.load text inc = .ok g) (limits : ParseLimits) (t : String) (s : LineState) :
    Span.Tiling (g.parseLine t s limits).spans t.length := by
  have hcover : Span.Cover (scan g limits (Line.ofString t) 0
      { state := s, spans := #[], zeroSteps := 0, continued := false } {}).spans.toList 0
      (Line.ofString t).size :=
    scan_cover (Grammar.load_patterns_disciplined hg) Matcher.compiled_empty (Nat.zero_le _) rfl
  have hsize : (Line.ofString t).size = t.length := by
    simp [Line.ofString, Line.size, String.length_toList]
  rw [hsize] at hcover
  exact hcover.tiling

theorem parseLine_spans_tile_range :
    ∃ g, Grammar.load Grammar.rangeDefinitionText (Includes.none "") = .ok g ∧
      Span.Tiling (g.parseLine "a[b" LineState.initial {}).spans 3 := by
  obtain ⟨g, h⟩ := Grammar.rangeDefinition_loads
  exact ⟨g, h, parseLine_spans_tile h {} "a[b" LineState.initial⟩

end Highlight

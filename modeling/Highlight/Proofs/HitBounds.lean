import Highlight.Proofs.Layout
import Highlight.Proofs.Matcher
import Highlight.Proofs.MatchBounds
/-!
# Matches stay within their line

A rule that matches at a column of a line reports where its match stops, and the parser colours
the columns up to there. That column is never past the end of the line, whatever the rule's kind:
a text is found only where all its characters are there, the literal scanners never report more
characters than they were given, a keyword stops at a separator or at the line end, and a pattern
search reports positions of the text it searched (`Regex.search_spans_within`), for every fixed
pattern of a loaded grammar and every dynamic one alike, since both were compiled from a pattern
text. Child rules extend a match from a column they found a character at, so they too stop within
the line (`firstMatch_stop_le`).
-/

namespace Highlight

/-! ## Fixed patterns are compiled ones -/

namespace Grammar

/-- Every fixed pattern a link state holds compiles from some pattern text. -/
def LinkState.PatternsCompiled (st : LinkState) : Prop :=
  ∀ r ∈ st.patterns, ∃ source ins, compilePattern source ins = .ok r

section LinkM

variable {α β : Type}

/-- Mapping linking steps that each keep an invariant keeps it. -/
theorem linkM_mapM_inv {f : α → LinkM β} {I : LinkState → Prop} :
    ∀ (xs : List α), (∀ a ∈ xs, ∀ st b st', I st → (f a).run st = .ok (b, st') → I st') →
      ∀ st ys st', I st → (xs.mapM f).run st = .ok (ys, st') → I st'
  | [], _, st, ys, st', hI, h => by
    obtain ⟨rfl, rfl⟩ := linkM_pure_ok h
    exact hI
  | a :: as, hf, st, ys, st', hI, h => by
    obtain ⟨b, st₁, bs, hb, hbs, rfl⟩ := linkM_mapM_cons_ok h
    exact linkM_mapM_inv as (fun a' ha' => hf a' (List.mem_cons_of_mem _ ha')) st₁ bs _
      (hf a List.mem_cons_self st b st₁ hI hb) hbs

end LinkM

namespace Tables

variable {t : Tables} {g : Nat} {context : String} {st st' : LinkState}

/-- Compiling a pattern the first time adds what compiling its text gave. -/
theorem pattern_patternsCompiled {source : String} {ins : Bool} {id : Nat}
    (hI : st.PatternsCompiled) (h : (t.pattern g context source ins).run st = .ok (id, st')) :
    st'.PatternsCompiled := by
  simp only [pattern, StateT.run_bind, StateT.run_get, pure_bind] at h
  split at h
  · cases h
    exact hI
  · split at h
    · cases h
    · next r hr =>
      simp only [StateT.run_bind, StateT.run_set, StateT.run_pure, pure_bind] at h
      cases h
      intro r' hr'
      rcases Array.mem_push.1 hr' with hr' | rfl
      · exact hI r' hr'
      · exact ⟨source, ins, hr⟩

/-- Compiling a rule's kind adds only compiled patterns. -/
theorem compileKind_patternsCompiled {w : Definition.Rule} {attrIdx : Nat} {sw : Switch}
    {kind : RuleKind} (hI : st.PatternsCompiled)
    (h : (t.compileKind g context w attrIdx sw).run st = .ok (kind, st')) :
    st'.PatternsCompiled := by
  rcases compileKind_run h with ⟨_, _, _, -, -, hcont⟩ | ⟨_, _, -, -, hpat⟩ | ⟨rfl, -⟩
  · -- a continuation context holds no pattern
    simp only [continuation, StateT.run_bind, StateT.run_get, StateT.run_set, StateT.run_pure,
      pure_bind] at hcont
    cases hcont
    exact hI
  · exact pattern_patternsCompiled hI hpat
  · exact hI

variable (g context)

mutual

/-- Compiling a rule adds only compiled patterns. -/
theorem compileRule_patternsCompiled (da : Nat) :
    ∀ (w : Definition.Rule) (st st' : LinkState) (r : Rule), st.PatternsCompiled →
      (t.compileRule g context da w).run st = .ok (r, st') → st'.PatternsCompiled
  | ⟨element, kind, attr, switch, lookAhead, firstNonSpace, column, dynamic, insensitive,
      children⟩, st, st', r, hI, h => by
    obtain ⟨attrIdx, _, _, st₁, kids, -, -, -, hkind, hkids, -⟩ := compileRule_run h
    exact compileChildren_patternsCompiled attrIdx children st₁ st' kids
      (compileKind_patternsCompiled hI hkind) hkids

/-- Compiling child rules adds only compiled patterns. -/
theorem compileChildren_patternsCompiled (da : Nat) :
    ∀ (cs : List Definition.Rule) (st st' : LinkState) (ks : List Rule), st.PatternsCompiled →
      (t.compileChildren g context da cs).run st = .ok (ks, st') → st'.PatternsCompiled
  | [], st, st', ks, hI, h => by
    obtain ⟨-, rfl⟩ := compileChildren_nil_run h
    exact hI
  | c :: cs, st, st', ks, hI, h => by
    obtain ⟨k, st₁, ks', hk, hks, -⟩ := compileChildren_cons_run h
    exact compileChildren_patternsCompiled da cs st₁ st' ks'
      (compileRule_patternsCompiled da c st st₁ k hI hk) hks

end

variable {g context}

/-- Compiling the declared contexts adds only compiled patterns. -/
theorem compileContexts_patternsCompiled {out : Array Context} (hI : st.PatternsCompiled)
    (h : t.compileContexts.run st = .ok (out, st')) : st'.PatternsCompiled := by
  obtain ⟨ks, hks, -⟩ := compileContexts_run h
  refine linkM_mapM_inv _ (fun gc _ st k st' hI hk => ?_) st ks _ hI hks
  obtain ⟨placed, -, -, hrules, -⟩ := compileContext_run hk
  exact linkM_mapM_inv _ (fun p _ st r st' hI hr => compileRule_patternsCompiled _ _ _ p.rule
    st st' r hI hr) st _ st' hI hrules

end Tables

/-- **Every fixed pattern of a loaded grammar is disciplined.** It was compiled from a pattern
text, and compiling keeps a pattern's counters away from its groups. -/
theorem load_patterns_disciplined {text : String} {inc : Includes} {g : Grammar}
    (h : load text inc = .ok g) : ∀ r ∈ g.patterns, r.Disciplined := by
  obtain ⟨defs, -, hlink⟩ := load_link h
  obtain ⟨t, _, _, st, -, -, -, -, -, -, -, -, hbuild, -, -, -, -, -, hpat⟩ := link_run hlink
  have hst : st.PatternsCompiled :=
    Tables.compileContexts_patternsCompiled (fun r hr => absurd hr (Array.not_mem_empty r)) hbuild
  intro r hr
  obtain ⟨source, ins, hc⟩ := hst r (hpat ▸ hr)
  exact Regex.compile_disciplined hc

end Grammar

/-! ## The literal scanners -/

namespace Literal

/-- A scanner that never reports more characters than it was given. -/
def Within (f : List Char → Option Nat) : Prop := ∀ cs n, f cs = some n → n ≤ cs.length

theorem runLength_le (p : Char → Bool) (cs : List Char) : runLength p cs ≤ cs.length :=
  (List.takeWhile_prefix p).length_le

theorem int_within : Within int := by
  intro cs n h
  unfold int at h
  dsimp only at h
  split at h
  · cases h
    exact runLength_le _ _
  · cases h

theorem exponent_within : Within exponent := by
  intro cs n h
  match cs, h with
  | c :: [], h =>
    simp only [exponent, List.drop_nil, runLength, List.takeWhile_nil, List.length_nil] at h
    split at h <;> simp at h
  | c :: s :: rest, h =>
    simp only [exponent] at h
    split at h
    · -- the sign, when there is one, is the character after the exponent mark
      have hd := runLength_le isDecimal rest
      have hs := runLength_le isDecimal (s :: rest)
      split at h
      · split at h
        · cases h
          simp only [List.drop_succ_cons, List.drop_zero, List.length_cons] at hd ⊢
          omega
        · cases h
      · split at h
        · cases h
          simp only [List.drop_zero, List.length_cons] at hs ⊢
          omega
        · cases h
    · cases h

theorem float_within : Within float := by
  intro cs n h
  have hwhole := runLength_le isDecimal cs
  unfold float at h
  dsimp only at h
  split at h
  · next rest hd =>
    -- the digits, the point and the digits after it are characters of `cs`
    rw [if_pos rfl, if_pos rfl] at h
    have hd' := congrArg List.length hd
    rw [List.length_drop, List.length_cons] at hd'
    have hr := runLength_le isDecimal rest
    split at h
    · cases h
    · split at h
      · next e he =>
        cases h
        have := exponent_within _ _ he
        rw [List.length_drop] at this
        omega
      · cases h
        omega
  · rw [if_neg Bool.false_ne_true, if_neg Bool.false_ne_true] at h
    split at h
    · cases h
    · split at h
      · next e he =>
        cases h
        have := exponent_within _ _ he
        rw [List.length_drop] at this
        omega
      · cases h

theorem cOctal_within : Within cOctal := by
  intro cs n h
  unfold cOctal at h
  split at h
  · next rest =>
    dsimp only at h
    split at h
    · cases h
      have h₁ := runLength_le isOctal rest
      have h₂ := runLength_le isIntSuffix (rest.drop (runLength isOctal rest))
      rw [List.length_drop] at h₂
      simp only [List.length_cons]
      omega
    · cases h
  · cases h

theorem cHex_within : Within cHex := by
  intro cs n h
  unfold cHex at h
  split at h
  · next x rest =>
    split at h
    · dsimp only at h
      split at h
      · cases h
        have h₁ := runLength_le isHex rest
        have h₂ := runLength_le isIntSuffix (rest.drop (runLength isHex rest))
        rw [List.length_drop] at h₂
        simp only [List.length_cons]
        omega
      · cases h
    · cases h
  · cases h

theorem cStringChar_within : Within cStringChar := by
  intro cs n h
  unfold cStringChar at h
  split at h
  · next c rest =>
    simp only [List.length_cons]
    split at h
    · cases h
      omega
    · split at h
      · dsimp only at h
        split at h
        · cases h
          have := runLength_le isHex rest
          omega
        · cases h
      · split at h
        · cases h
          have := runLength_le isOctal (c :: rest)
          simp only [List.length_cons] at this
          omega
        · cases h
  · cases h

theorem cChar_within : Within cChar := by
  intro cs n h
  unfold cChar at h
  split at h
  · next rest =>
    -- the escape is followed by the closing quote, which is a character of `cs`
    simp only [Option.bind_eq_bind, Option.bind_eq_some_iff] at h
    obtain ⟨k, -, h⟩ := h
    split at h
    · next hq =>
      cases h
      have := (List.getElem?_eq_some_iff.1 (beq_iff_eq.1 hq)).1
      simp only [List.length_cons] at this ⊢
      omega
    · cases h
  · cases h
  · next c rest _ _ =>
    split at h
    · next hq =>
      cases h
      cases rest with
      | nil => cases hq
      | cons _ _ => simp
    · cases h
  · cases h

end Literal

/-! ## Texts on a line -/

namespace Line

theorem length_rest (l : Line) (pos : Nat) : (l.rest pos).length = l.size - pos := by
  simp [rest, size]

/-- A text is found only where all its characters are on the line. -/
theorem literalAt_le {l : Line} {pos stop : Nat} {text : String} {ins : Bool}
    (h : l.literalAt pos text ins = some stop) : stop ≤ l.size := by
  unfold literalAt at h
  dsimp only at h
  split at h
  · cases h
  · next hcs =>
    split at h
    · next hall =>
      cases h
      have hlen : 0 < text.toList.length :=
        List.length_pos_of_ne_nil (by simpa using hcs)
      -- the last character of the text is matched, so it is on the line
      have hlast : text.toList[text.toList.length - 1]? =
          some text.toList[text.toList.length - 1] := List.getElem?_eq_getElem (by omega)
      have hmem := List.all_eq_true.1 hall
        (text.toList[text.toList.length - 1], text.toList.length - 1)
        (List.mem_zipIdx_iff_getElem?.2 hlast)
      cases hch : l.chars[pos + (text.toList.length - 1)]? with
      | none => simp [hch] at hmem
      | some x =>
        have := (Array.getElem?_eq_some_iff.1 hch).1
        unfold size
        omega
    · cases h

/-- A text found from a column ends on the line. -/
theorem findLiteral_le {l : Line} {start stop : Nat} {text : String} {ins : Bool}
    (h : l.findLiteral start text ins = some stop) : stop ≤ l.size := by
  unfold findLiteral at h
  dsimp only at h
  split at h
  · cases h
  · obtain ⟨i, hi, rfl⟩ := Option.map_eq_some_iff.1 h
    have := List.find?_some hi
    simp only [Bool.and_eq_true, decide_eq_true_eq] at this
    exact this.1

/-- A word ends at the first separator from its column, which is on the line, or at the line's
end. -/
theorem wordEnd_le_size (l : Line) (seps : Separators) (pos : Nat) : l.wordEnd seps pos ≤ l.size := by
  unfold wordEnd
  cases hf : (l.chars.extract pos l.size).findIdx? seps.contains with
  | none => exact Nat.le_refl _
  | some i =>
    have hi := (Array.findIdx?_eq_some_iff_findIdx_eq.1 hf).1
    rw [Array.size_extract] at hi
    simp only [Option.map_some, Option.getD_some]
    unfold size at hi ⊢
    omega

/-- A word from a column on the line or at its end ends at or after that column. -/
theorem le_wordEnd {l : Line} (seps : Separators) {pos : Nat} (hpos : pos ≤ l.size) :
    pos ≤ l.wordEnd seps pos := by
  unfold wordEnd
  cases (l.chars.extract pos l.size).findIdx? seps.contains with
  | none => exact hpos
  | some i => exact Nat.le_add_right pos i

end Line

/-! ## Matches -/

/-- The compiled pattern a pattern rule stands for is disciplined: a fixed one is in the table of
a loaded grammar, a dynamic one compiles from its bound text. -/
theorem Pattern.disciplined_of_compilesTo {g : Grammar} (hg : ∀ r ∈ g.patterns, r.Disciplined)
    {frame : Frame} {p : Pattern} {regex : Regex} (h : p.CompilesTo g frame regex) :
    regex.Disciplined := by
  cases p with
  | fixed _ id => exact hg regex (Array.mem_of_getElem? h)
  | dynamic source ins => exact Regex.compile_disciplined h

section Match

variable {g : Grammar} {line : Line} {seps : Separators} {frame : Frame} {pos : Nat}
  {m m' : Matcher}

/-- A pattern rule's match ends where the search's whole match ends, within the line. -/
theorem searchPattern_stop_le (hg : ∀ r ∈ g.patterns, r.Disciplined) {r : Rule} {p : Pattern}
    {o : Option Hit} (hm : m.Compiled) (hpos : pos ≤ line.size)
    (h : (searchPattern g line frame r p pos).run m = (o, m')) :
    ∀ hit, o = some hit → hit.stop ≤ line.size := by
  rintro hit rfl
  obtain ⟨key, regex, gs, b, hpat, hfound, hwhole, rfl⟩ := searchPattern_eq_some h
  obtain ⟨-, -, hregex⟩ := patternIn_spec hm (m := m) rfl
  have hdisc := Pattern.disciplined_of_compilesTo hg (hregex key regex hpat)
  have hg0 : gs[0]? = some (some (pos, b)) := by
    simpa [Option.join_eq_some_iff] using hwhole
  exact (Regex.search_spans_within hdisc hpos hfound hg0).2

/-- A literal found by a scanner from a column ends within the line. -/
theorem scanned_stop_le {f : List Char → Option Nat} (hf : Literal.Within f)
    (hpos : pos ≤ line.size) {hit : Hit}
    (h : (f (line.rest pos)).bind (fun n => some ({ stop := pos + n } : Hit)) = some hit) :
    hit.stop ≤ line.size := by
  obtain ⟨n, hn, hhit⟩ := Option.bind_eq_some_iff.1 h
  cases hhit
  have := hf _ _ hn
  rw [Line.length_rest] at this
  dsimp only
  omega

/-- A literal scanned where a word may start ends within the line. -/
theorem scannedAtWord_stop_le {f : List Char → Option Nat} (hf : Literal.Within f)
    (hpos : pos ≤ line.size) {word : Bool} {hit : Hit}
    (h : (if word = true then (f (line.rest pos)).bind (fun n => some ({ stop := pos + n } : Hit))
      else none) = some hit) :
    hit.stop ≤ line.size := by
  split at h
  · exact scanned_stop_le hf hpos h
  · cases h

/-- **What a rule's kind matches at a column of the line ends within the line.** -/
theorem matchKind_stop_le (hg : ∀ r ∈ g.patterns, r.Disciplined) {r : Rule} {o : Option Hit}
    (hm : m.Compiled) (hpos : pos < line.size)
    (h : (matchKind g line seps frame pos hpos r).run m = (o, m')) :
    ∀ hit, o = some hit → hit.stop ≤ line.size := by
  unfold matchKind at h
  cases hk : r.kind <;> simp only [hk] at h
  case regExpr p => exact searchPattern_stop_le hg hm hpos.le h
  case detectIdentifier =>
    split at h
    all_goals
      obtain ⟨rfl, -⟩ := stateM_pure_eq h
      intro hit hhit
    · cases hhit
      have := Literal.runLength_le (fun c => c.isAlphanum || c == '_') (line.rest pos)
      rw [Line.length_rest] at this
      dsimp only
      omega
    · cases hhit
  all_goals
    obtain ⟨rfl, -⟩ := stateM_pure_eq h
    intro hit hhit
  -- the kinds that take one or two characters at the column
  case detectChar | anyChar =>
    split at hhit
    · cases hhit
      exact hpos
    · cases hhit
  case dynamicChar =>
    simp only [Option.bind_eq_bind, Option.bind_eq_some_iff] at hhit
    obtain ⟨_, -, c, -, hc⟩ := hhit
    split at hc
    · cases hc
      exact hpos
    · cases hc
  case detect2Chars =>
    simp only [Option.bind_eq_bind, Option.bind_eq_some_iff] at hhit
    obtain ⟨next, hnext, hc⟩ := hhit
    split at hc
    · cases hc
      have := (Array.getElem?_eq_some_iff.1 hnext).1
      show pos + 2 ≤ line.chars.size
      omega
    · cases hc
  case lineContinue =>
    split at hhit
    · next hc =>
      cases hhit
      exact hpos
    · cases hhit
  -- the kinds that find a text
  case stringDetect =>
    obtain ⟨stop, hstop, hhit⟩ := Option.bind_eq_some_iff.1 hhit
    cases hhit
    exact Line.literalAt_le hstop
  case wordDetect =>
    split at hhit
    · cases hhit
    · simp only [Option.bind_eq_bind, Option.bind_eq_some_iff] at hhit
      obtain ⟨stop, hstop, hc⟩ := hhit
      split at hc
      · cases hc
        exact Line.literalAt_le hstop
      · cases hc
  case rangeDetect =>
    simp only [Option.bind_eq_bind, Option.bind_eq_some_iff] at hhit
    obtain ⟨after, -, hc⟩ := hhit
    split at hc
    · next stop hstop =>
      cases hc
      exact Line.findLiteral_le hstop
    · cases hc
      exact Nat.le_refl _
  -- a keyword stops at the first separator, or at the line end
  case keyword =>
    split at hhit
    · cases hhit
    · split at hhit
      · cases hhit
      · split at hhit
        · cases hhit
          exact Line.wordEnd_le_size line seps pos
        · cases hhit
  -- the kinds that scan a literal or a run of characters
  case int => exact scannedAtWord_stop_le Literal.int_within hpos.le hhit
  case float => exact scannedAtWord_stop_le Literal.float_within hpos.le hhit
  case hlCOct => exact scannedAtWord_stop_le Literal.cOctal_within hpos.le hhit
  case hlCHex => exact scannedAtWord_stop_le Literal.cHex_within hpos.le hhit
  case hlCStringChar => exact scanned_stop_le Literal.cStringChar_within hpos.le hhit
  case hlCChar => exact scanned_stop_le Literal.cChar_within hpos.le hhit
  case detectSpaces =>
    split at hhit
    · cases hhit
      have := Literal.runLength_le Text.isBlank (line.rest pos)
      rw [Line.length_rest] at this
      dsimp only
      omega
    · cases hhit

variable (g line seps frame)

mutual

/-- **A rule's match ends within the line.** Child rules extend it only from a column inside the
line, where they match within the line in turn. -/
theorem matchRule_stop_le (hg : ∀ r ∈ g.patterns, r.Disciplined) :
    ∀ (pos : Nat) (r : Rule) (m m' : Matcher) (o : Option Hit), m.Compiled →
      (matchRule g line seps frame pos r).run m = (o, m') →
        ∀ hit, o = some hit → hit.stop ≤ line.size
  | pos, ⟨kind, attr, switch, lookAhead, firstNonSpace, column, dynamic, children⟩, m, m', o, hm,
      h => by
    unfold matchRule at h
    -- the column conditions and the line end refuse
    split at h
    · obtain ⟨rfl, -⟩ := stateM_pure_eq h
      simp
    split at h
    · obtain ⟨rfl, -⟩ := stateM_pure_eq h
      simp
    split at h
    · next hpos =>
      obtain ⟨o₁, m₁, h₁, h₂⟩ := stateM_bind_eq h
      have hkind := matchKind_stop_le hg hm hpos h₁
      have hm₁ := (matchKind_spec hm h₁).1
      split at h₂
      · next hit₁ =>
        split at h₂
        · obtain ⟨rfl, -⟩ := stateM_pure_eq h₂
          rintro hit ⟨⟩
          exact hkind _ rfl
        · -- a child rule extends the match from where it stopped
          obtain ⟨o₂, m₂, h₃, h₄⟩ := stateM_bind_eq h₂
          obtain ⟨rfl, -⟩ := stateM_pure_eq h₄
          rintro hit ⟨⟩
          split
          · rename_i e
            exact matchChildren_stop_le hg _ _ _ _ _ hm₁ h₃ e rfl
          · exact hkind _ rfl
      · obtain ⟨rfl, -⟩ := stateM_pure_eq h₂
        simp
    · obtain ⟨rfl, -⟩ := stateM_pure_eq h
      simp

/-- The first child rule that matches ends within the line. -/
theorem matchChildren_stop_le (hg : ∀ r ∈ g.patterns, r.Disciplined) :
    ∀ (pos : Nat) (rs : List Rule) (m m' : Matcher) (o : Option Hit), m.Compiled →
      (matchChildren g line seps frame pos rs).run m = (o, m') →
        ∀ hit, o = some hit → hit.stop ≤ line.size
  | pos, [], m, m', o, hm, h => by
    obtain ⟨rfl, -⟩ := stateM_pure_eq h
    simp
  | pos, c :: cs, m, m', o, hm, h => by
    unfold matchChildren at h
    obtain ⟨o₁, m₁, h₁, h₂⟩ := stateM_bind_eq h
    split at h₂
    · obtain ⟨rfl, -⟩ := stateM_pure_eq h₂
      exact matchRule_stop_le hg pos c m m₁ _ hm h₁
    · exact matchChildren_stop_le hg pos cs m₁ m' o (matchRule_spec g line seps frame pos c m m₁ _
        hm h₁).1 h₂

end

variable {g line seps frame}

/-- The first match in a context is a match of its rule from a matcher that the earlier rules'
matches lead to, so any property of matchers that every rule match keeps holds of that matcher. -/
theorem firstMatch_some_inv {P : Matcher → Prop}
    (hstep : ∀ r m₁ o m₂, P m₁ → (matchRule g line seps frame pos r).run m₁ = (o, m₂) → P m₂)
    {ctx : Context} {r : Rule} {hit : Hit} (hm : P m)
    (h : (firstMatch g line seps frame pos ctx).run m = (some (r, hit), m')) :
    ∃ m₀, P m₀ ∧ (matchRule g line seps frame pos r).run m₀ = (some hit, m') := by
  unfold firstMatch at h
  generalize ctx.rules = rs at h
  induction rs generalizing m with
  | nil => cases h
  | cons r' rs ih =>
    rw [List.findSomeM?_cons] at h
    obtain ⟨o₁, m₁, h₁, h₂⟩ := stateM_bind_eq h
    obtain ⟨o₂, m₂, h₃, h₄⟩ := stateM_bind_eq h₁
    obtain ⟨rfl, rfl⟩ := stateM_pure_eq h₄
    cases o₂ with
    | some hit' =>
      obtain ⟨hsome, rfl⟩ := stateM_pure_eq h₂
      cases hsome
      exact ⟨m, hm, h₃⟩
    | none => exact ih (hstep r' m _ _ hm h₃) h₂

/-- **The first match in a context ends within the line.** -/
theorem firstMatch_stop_le (hg : ∀ r ∈ g.patterns, r.Disciplined) {ctx : Context}
    {o : Option (Rule × Hit)} (hm : m.Compiled)
    (h : (firstMatch g line seps frame pos ctx).run m = (o, m')) :
    ∀ r hit, o = some (r, hit) → hit.stop ≤ line.size := by
  rintro r hit rfl
  -- the rule matched from a matcher that still remembers only compiled patterns
  obtain ⟨m₀, hm₀, h₀⟩ := firstMatch_some_inv
    (fun r m₁ o m₂ hm₁ h₁ => (matchRule_spec g line seps frame pos r m₁ m₂ o hm₁ h₁).1) hm h
  exact matchRule_stop_le g line seps frame hg pos r m₀ _ _ hm₀ h₀ hit rfl

end Match

end Highlight

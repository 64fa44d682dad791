import Highlight.Proofs.Matcher
import Highlight.Line.Parse
/-!
# The context stack stays well formed

Parsing a line changes the context stack only by applying switches, and only switches of a
few kinds (`Grammar.SwitchOf`): the fallthrough of the active context, a rule of the active
context with what its match binds, the continuation of one of its ranges, and its line-end and
empty-line switches. `LineState.Reaches` is the closure of these steps, and every state that parsing
lines in order produces is reached from the initial state (`rescan_reaches`).

Over a linked grammar every reached stack is well formed (`LineState.WellFormed`): it holds
between one frame and the depth bound, every frame names a context of the table, and only frames
of contexts with placeholders carry captures. Every frame of such a context also carries more
captures than the context's highest placeholder (`LineState.CapturesBound`) as long as each
binding of a dynamic pattern compiles to at least the groups linking counted for it
(`Grammar.CountsDynamicGroups`). Linking counts the groups of a dynamic pattern with its
placeholders left empty, so a bound text that changes the pattern's meaning can break this.
-/

namespace Highlight

/-! ## Applying a switch -/

namespace LineState

section Push

variable {mk : Nat → Frame} {d : Nat}

/-- Pushing frames in order while the stack holds fewer than `d` adds only frames of pushed
contexts. -/
theorem mem_foldl_push {cs : List Nat} {fs : Array Frame} {f : Frame}
    (h : f ∈ cs.foldl (fun (fs : Array Frame) c => if fs.size ≥ d then fs else fs.push (mk c)) fs) :
    f ∈ fs ∨ ∃ c ∈ cs, f = mk c := by
  induction cs generalizing fs with
  | nil => exact .inl h
  | cons c cs ih =>
    rw [List.foldl_cons] at h
    rcases ih h with hf | ⟨c', hc', rfl⟩
    · split at hf
      · exact .inl hf
      · rcases Array.mem_push.1 hf with hf | rfl
        · exact .inl hf
        · exact .inr ⟨c, List.mem_cons_self, rfl⟩
    · exact .inr ⟨c', List.mem_cons_of_mem _ hc', rfl⟩

/-- Pushing frames never shrinks the stack. -/
theorem size_le_foldl_push {cs : List Nat} {fs : Array Frame} :
    fs.size ≤ (cs.foldl (fun (fs : Array Frame) c =>
      if fs.size ≥ d then fs else fs.push (mk c)) fs).size := by
  induction cs generalizing fs with
  | nil => exact Nat.le_refl _
  | cons c cs ih =>
    rw [List.foldl_cons]
    refine Nat.le_trans ?_ ih
    split
    · exact Nat.le_refl _
    · simp

/-- Pushing frames stops at `d` frames. -/
theorem size_foldl_push_le {cs : List Nat} {fs : Array Frame} :
    (cs.foldl (fun (fs : Array Frame) c =>
      if fs.size ≥ d then fs else fs.push (mk c)) fs).size ≤ max d fs.size := by
  induction cs generalizing fs with
  | nil => exact Nat.le_max_right _ _
  | cons c cs ih =>
    rw [List.foldl_cons]
    refine Nat.le_trans ih ?_
    split
    · exact Nat.le_refl _
    · simp only [Array.size_push]
      omega

end Push

variable {g : Grammar} {s : LineState} {sw : Switch} {bind : Option (Array String)} {d : Nat}

/-- The frame a switch pushes for context `c`: it takes the binding only when `c` has
placeholders. -/
abbrev pushed (g : Grammar) (bind : Option (Array String)) (c : Nat) : Frame :=
  { context := c, captures := if (g.context c).isDynamic then bind else none }

/-- A frame after a switch was there before, or was pushed by the switch. -/
theorem mem_apply {f : Frame} (h : f ∈ (s.apply g sw bind d).frames) :
    f ∈ s.frames ∨ ∃ c ∈ sw.push, f = pushed g bind c := by
  rcases mem_foldl_push h with hf | hf
  · obtain ⟨k, hk, rfl⟩ := Array.mem_extract_iff_getElem.1 hf
    exact .inl (Array.getElem_mem _)
  · exact .inr hf

/-- A switch keeps at least the bottom frame. -/
theorem depth_apply_pos (hs : 0 < s.depth) : 0 < (s.apply g sw bind d).depth := by
  refine Nat.lt_of_lt_of_le ?_ size_le_foldl_push
  simp only [depth] at hs
  simp only [Array.take_eq_extract, Array.size_extract]
  omega

/-- A switch never leaves more frames than the depth bound or the frames it started from. -/
theorem depth_apply_le : (s.apply g sw bind d).depth ≤ max d s.depth := by
  refine Nat.le_trans size_foldl_push_le ?_
  simp only [depth, Array.take_eq_extract, Array.size_extract]
  omega

/-- The active frame is on the stack when the stack is not empty. -/
theorem top_mem (hs : 0 < s.depth) : s.top ∈ s.frames := by
  simp only [depth] at hs
  simp only [top, Array.back?_eq_getElem?, Array.getElem?_eq_getElem (Nat.sub_lt hs Nat.one_pos),
    Option.getD_some]
  exact Array.getElem_mem _

end LineState

/-! ## One step of parsing -/

namespace Grammar

/-- The switches parsing applies to the stack `s`, each with the binding it is applied with. -/
inductive SwitchOf (g : Grammar) (s : LineState) : Switch → Option (Array String) → Prop
  /-- The active context's fallthrough, where no rule matched. -/
  | fallthrough {sw : Switch} : (g.context s.top.context).fallthrough = some sw → SwitchOf g s sw none
  /-- The switch of a rule of the active context, with what its match binds. -/
  | rule {r : Rule} {bind : Option (Array String)} : r ∈ (g.context s.top.context).rules →
      r.Binds g s.top bind → SwitchOf g s r.switch bind
  /-- The continuation of a range of the active context that ran off the line: it keeps the
  captures of the frame the range matched in. -/
  | continuation {r : Rule} {o e : String} {cont : Nat} {ins : Bool} :
      r ∈ (g.context s.top.context).rules → r.kind = .rangeDetect o e cont ins →
      SwitchOf g s { push := [cont] } s.top.captures
  /-- The active context's line-end switch. -/
  | lineEnd : SwitchOf g s (g.context s.top.context).lineEnd none
  /-- The active context's empty-line switch. -/
  | lineEmpty {sw : Switch} : (g.context s.top.context).lineEmpty = some sw → SwitchOf g s sw none

/-- Every binding of a dynamic pattern of the grammar compiles to at least the groups that
linking counted for it with its placeholders left empty. -/
def CountsDynamicGroups (g : Grammar) : Prop :=
  ∀ k ∈ g.contexts, ∀ r ∈ k.rules, ∀ source insensitive,
    r.kind = .regExpr (.dynamic source insensitive) → ∀ captures regex,
      compilePattern (Placeholder.substitute source captures true) insensitive = .ok regex →
        boundCaptures g r ≤ regex.groups

variable {g : Grammar}

theorem context_mem {id : Nat} (h : id < g.contexts.size) : g.context id ∈ g.contexts := by
  rw [context, Array.getElem?_eq_getElem h, Option.getD_some]
  exact Array.getElem_mem h

/-- A rule that binds no pattern's groups binds none. -/
theorem boundCaptures_eq_zero {r : Rule} (h : ∀ p, r.kind ≠ .regExpr p) : boundCaptures g r = 0 := by
  unfold boundCaptures
  split
  · exact absurd ‹_› (h _)
  · exact absurd ‹_› (h _)
  · rfl

/-- The pattern of a rule binds at least the groups linking counted for it. -/
theorem boundCaptures_le (hc : g.CountsDynamicGroups) {k : Context} {r : Rule} {p : Pattern}
    {frame : Frame} {regex : Regex} (hk : k ∈ g.contexts) (hr : r ∈ k.rules)
    (hkind : r.kind = .regExpr p) (hp : p.CompilesTo g frame regex) :
    boundCaptures g r ≤ regex.groups := by
  cases p with
  | fixed source id =>
    simp only [Pattern.CompilesTo] at hp
    simp [boundCaptures, hkind, hp]
  | dynamic source insensitive => exact hc k hk r hr source insensitive hkind _ regex hp

variable {s : LineState} {sw : Switch} {bind : Option (Array String)}

/-- Over a linked grammar, a step from a stack whose active context is in the table pushes
contexts of the table. -/
theorem SwitchOf.push_lt (hg : g.Linked) (htop : s.top.context < g.contexts.size)
    (hsw : g.SwitchOf s sw bind) : ∀ c ∈ sw.push, c < g.contexts.size := by
  have hk := context_mem htop
  intro c hc
  cases hsw with
  | fallthrough h => exact (hg.fallthrough_push _ hk sw h c hc).1
  | rule hr _ => exact (hg.rule_push _ hk _ hr c hc).1
  | continuation hr hkind =>
    rw [List.mem_singleton.1 hc]
    exact (hg.continuation _ hk _ hr _ _ _ _ hkind).1
  | lineEnd => exact (hg.lineEnd_push _ hk c hc).1
  | lineEmpty h => exact (hg.lineEmpty_push _ hk sw h c hc).1

/-- The switch a hit of a rule of the active context makes: its continuation when a range ran
off the line, otherwise the rule's own switch. -/
theorem switchOf_hit {rule : Rule} {hit : Hit} (hr : rule ∈ (g.context s.top.context).rules)
    (hf : hit.Fits g s.top rule) :
    g.SwitchOf s (match hit.continuation with
      | some c => { push := [c] }
      | none => rule.switch) hit.bind := by
  cases hc : hit.continuation with
  | some c =>
    obtain ⟨⟨o, e, ins, hk⟩, hb⟩ := hf.continuation c hc
    rw [hb]
    exact .continuation hr hk
  | none => exact .rule hr (hf.binds hc)

end Grammar

/-! ## Well-formed stacks -/

namespace LineState

/-- A stack parsing can work with: between one frame and the depth bound, every frame naming a
context of the table, and captures only on frames of contexts with placeholders. -/
structure WellFormed (g : Grammar) (d : Nat) (s : LineState) : Prop where
  depth_pos : 0 < s.depth
  depth_le : s.depth ≤ max d 1
  context_lt : ∀ f ∈ s.frames, f.context < g.contexts.size
  captures_dynamic : ∀ f ∈ s.frames, f.hasCaptures = true → (g.context f.context).isDynamic = true

/-- Every frame of a context with placeholders carries more captures than the highest
placeholder of its context, so each placeholder its rules read is bound. -/
def CapturesBound (g : Grammar) (s : LineState) : Prop :=
  ∀ f ∈ s.frames, (g.context f.context).isDynamic = true →
    ∃ cs, f.captures = some cs ∧ (g.context f.context).maxPlaceholder < cs.size

/-- The stacks parsing reaches from `s₀` with depth bound `d`. -/
inductive Reaches (g : Grammar) (d : Nat) (s₀ : LineState) : LineState → Prop
  | refl : Reaches g d s₀ s₀
  | step {s : LineState} {sw : Switch} {bind : Option (Array String)} :
      Reaches g d s₀ s → g.SwitchOf s sw bind → Reaches g d s₀ (s.apply g sw bind d)

variable {g : Grammar} {d : Nat} {s s₀ s₁ : LineState} {sw : Switch} {bind : Option (Array String)}

theorem Reaches.trans (h₁ : Reaches g d s₀ s₁) (h₂ : Reaches g d s₁ s) : Reaches g d s₀ s := by
  induction h₂ with
  | refl => exact h₁
  | step _ hsw ih => exact .step ih hsw

theorem Reaches.single (hsw : g.SwitchOf s sw bind) : Reaches g d s (s.apply g sw bind d) :=
  .step .refl hsw

/-- The state of a first line is well formed. -/
theorem wellFormed_initial (hg : g.Linked) : initial.WellFormed g d where
  depth_pos := by decide
  depth_le := Nat.le_max_right _ _
  context_lt f hf := by
    obtain rfl : f = { context := 0 } := by simpa [initial] using hf
    exact hg.nonempty
  captures_dynamic f hf := by
    obtain rfl : f = { context := 0 } := by simpa [initial] using hf
    simp [Frame.hasCaptures]

/-- The frame of the first context needs no captures. -/
theorem capturesBound_initial (hg : g.Linked) : initial.CapturesBound g := by
  intro f hf hdyn
  obtain rfl : f = { context := 0 } := by simpa [initial] using hf
  simp [Context.isDynamic, hg.first_static] at hdyn

/-- One step keeps a stack well formed. -/
theorem WellFormed.apply (hg : g.Linked) (hs : s.WellFormed g d) (hsw : g.SwitchOf s sw bind) :
    (s.apply g sw bind d).WellFormed g d := by
  have hpush := hsw.push_lt hg (hs.context_lt _ (top_mem hs.depth_pos))
  refine ⟨depth_apply_pos hs.depth_pos, ?_, fun f hf => ?_, fun f hf => ?_⟩
  · have := hs.depth_le
    have := @depth_apply_le g s sw bind d
    omega
  · rcases mem_apply hf with hf | ⟨c, hc, rfl⟩
    · exact hs.context_lt f hf
    · exact hpush c hc
  · rcases mem_apply hf with hf | ⟨c, hc, rfl⟩
    · exact hs.captures_dynamic f hf
    · intro hcap
      by_contra hdyn
      simp [Frame.hasCaptures, hdyn] at hcap

/-- Every stack reached from a well-formed one is well formed. -/
theorem Reaches.wellFormed (hg : g.Linked) (h : Reaches g d s₀ s) (h₀ : s₀.WellFormed g d) :
    s.WellFormed g d := by
  induction h with
  | refl => exact h₀
  | step _ hsw ih => exact ih.apply hg hsw

/-- A step binds enough captures for every context with placeholders it pushes: a rule binds
the groups of its pattern, a continuation the captures of the frame its range matched in, and
the other switches push no such context. -/
theorem binds_pushed (hg : g.Linked) (hcount : g.CountsDynamicGroups) (hs : s.WellFormed g d)
    (hb : s.CapturesBound g) (hsw : g.SwitchOf s sw bind) :
    ∀ c ∈ sw.push, (g.context c).isDynamic = true →
      ∃ cs, bind = some cs ∧ (g.context c).maxPlaceholder < cs.size := by
  have htop := top_mem hs.depth_pos
  have hk := Grammar.context_mem (hs.context_lt _ htop)
  intro c hc hdyn
  have hpos : 0 < (g.context c).maxPlaceholder := by simpa [Context.isDynamic] using hdyn
  cases hsw with
  | fallthrough h => exact absurd (hg.fallthrough_push _ hk sw h c hc).2 (by omega)
  | lineEnd => exact absurd (hg.lineEnd_push _ hk c hc).2 (by omega)
  | lineEmpty h => exact absurd (hg.lineEmpty_push _ hk sw h c hc).2 (by omega)
  | @rule r bind hr hbind =>
    -- only a pattern rule counts groups, so only it may push a context with placeholders
    have hle := (hg.rule_push _ hk r hr c hc).2
    by_cases hpat : ∃ p, r.kind = .regExpr p
    · obtain ⟨p, hkind⟩ := hpat
      have hdynr : r.pushesDynamic g = true := List.any_eq_true.2 ⟨c, hc, hdyn⟩
      obtain ⟨regex, cs, hp, rfl, hsize⟩ := hbind p hkind hdynr
      have := Grammar.boundCaptures_le hcount hk hr hkind hp
      exact ⟨cs, rfl, by omega⟩
    · rw [Grammar.boundCaptures_eq_zero (fun p hp => hpat ⟨p, hp⟩)] at hle
      omega
  | @continuation r o e cont ins hr hkind =>
    -- the continuation needs no more captures than the context of the range
    rw [List.mem_singleton.1 hc] at hdyn hpos ⊢
    have hle := (hg.continuation _ hk r hr o e cont ins hkind).2
    obtain ⟨cs, hcs, hlt⟩ := hb _ htop (by simp [Context.isDynamic]; omega)
    exact ⟨cs, hcs, by omega⟩

/-- One step keeps every frame of a context with placeholders bound. -/
theorem CapturesBound.apply (hg : g.Linked) (hcount : g.CountsDynamicGroups) (hs : s.WellFormed g d)
    (hb : s.CapturesBound g) (hsw : g.SwitchOf s sw bind) : (s.apply g sw bind d).CapturesBound g := by
  intro f hf hdyn
  rcases mem_apply hf with hf | ⟨c, hc, rfl⟩
  · exact hb f hf hdyn
  · obtain ⟨cs, rfl, hlt⟩ := binds_pushed hg hcount hs hb hsw c hc hdyn
    exact ⟨cs, by simp [hdyn], hlt⟩

/-- Every stack reached from a well-formed, bound one is bound. -/
theorem Reaches.capturesBound (hg : g.Linked) (hcount : g.CountsDynamicGroups) (h : Reaches g d s₀ s)
    (h₀ : s₀.WellFormed g d) (hb₀ : s₀.CapturesBound g) : s.CapturesBound g := by
  induction h with
  | refl => exact hb₀
  | step hr hsw ih => exact ih.apply hg hcount (hr.wellFormed hg h₀) hsw

end LineState

/-! ## Parsing reaches its states -/

theorem Progress.zeroWidth_state {g : Grammar} {limits : ParseLimits} {p q : Progress} {sw : Switch}
    {bind : Option (Array String)} (h : p.zeroWidth g limits sw bind = some q) :
    q.state = p.state.apply g sw bind limits.maxDepth := by
  unfold Progress.zeroWidth at h
  split at h
  · cases h
  · dsimp only at h
    split at h
    · cases h
    · cases h
      rfl

namespace LineState

variable {g : Grammar} {limits : ParseLimits}

/-- A pass of the parser reaches the stack it leaves, by one switch or none, and keeps what the
matcher remembers right. -/
theorem scanStep_reaches {line : Line} {pos : Nat} {p : Progress} {m : Matcher}
    (hm : m.Compiled) :
    Reaches g limits.maxDepth p.state (scanStep g limits line pos p m).2.1.state ∧
      (scanStep g limits line pos p m).2.2.Compiled := by
  unfold scanStep
  dsimp only
  split
  next found m' hrun =>
    obtain ⟨hm', hfits⟩ := firstMatch_spec hm hrun
    cases found with
    | none =>
      -- no rule matched: the fallthrough switches, or a character is coloured
      dsimp only
      cases hf : (g.context p.state.top.context).fallthrough with
      | none => exact ⟨.refl, hm'⟩
      | some sw =>
        dsimp only
        cases hz : p.zeroWidth g limits sw none with
        | none => exact ⟨.refl, hm'⟩
        | some q =>
          rw [Progress.zeroWidth_state hz]
          exact ⟨.single (.fallthrough hf), hm'⟩
    | some found =>
      -- a rule matched: its switch is made, consuming or not, or a character is coloured
      obtain ⟨rule, hit⟩ := found
      obtain ⟨hr, hf⟩ := hfits rule hit rfl
      have hsw := Grammar.switchOf_hit hr hf
      dsimp only
      split
      · split
        · next q hz =>
          rw [Progress.zeroWidth_state hz]
          exact ⟨.single hsw, hm'⟩
        · exact ⟨.refl, hm'⟩
      · exact ⟨.single hsw, hm'⟩

/-- Scanning a line from any column reaches the stack it ends with. -/
theorem scan_reaches {line : Line} {pos : Nat} {p : Progress} {m : Matcher} (hm : m.Compiled) :
    Reaches g limits.maxDepth p.state (scan g limits line pos p m).state := by
  fun_induction scanLoop g limits line pos p m with
  | case1 pos p m hpos next ih =>
    obtain ⟨hr, hm'⟩ := scanStep_reaches hm
    rw [scan_of_lt hpos]
    exact hr.trans (ih hm')
  | case2 pos p m hpos =>
    rw [scan_of_size_le (Nat.not_lt.1 hpos)]
    exact .refl

/-- The line-end switches reach the stack they end with. -/
theorem closeLine_reaches {d : Nat} : ∀ (n : Nat) (s : LineState), Reaches g d s (closeLine g d n s)
  | 0, s => .refl
  | n + 1, s => by
    unfold closeLine
    dsimp only
    split
    · exact .refl
    · split
      · exact .refl
      · exact (Reaches.single .lineEnd).trans (closeLine_reaches n _)

theorem endOfLine_reaches (s : LineState) (empty : Bool) :
    Reaches g limits.maxDepth s (endOfLine g limits s empty) := by
  unfold endOfLine
  split
  · next sw h => exact .single (.lineEmpty h)
  · exact closeLine_reaches _ _

/-- Parsing a line reaches the state it leaves for the next line. -/
theorem parseLine_reaches (text : String) (s : LineState) :
    Reaches g limits.maxDepth s (g.parseLine text s limits).state := by
  have hscan := @scan_reaches g limits (Line.ofString text) 0
    { state := s, spans := #[], zeroSteps := 0, continued := false } {} Matcher.compiled_empty
  rw [Grammar.parseLine_eq]
  dsimp only
  split
  · exact hscan
  · exact hscan.trans (endOfLine_reaches _ _)

/-- Every state that parsing lines in order leaves is reached from the state it started in. -/
theorem rescan_reaches {s : LineState} {lines : List String} :
    ∀ p ∈ g.rescan limits s lines, Reaches g limits.maxDepth s p.state := by
  induction lines generalizing s with
  | nil => simp
  | cons t ts ih =>
    intro p hp
    rw [Grammar.rescan_cons, List.mem_cons] at hp
    rcases hp with rfl | hp
    · exact parseLine_reaches t s
    · exact (parseLine_reaches t s).trans (ih p hp)

end LineState

/-! ## Lines parsed in order -/

/-- Every state that parsing lines in order leaves from the state of a first line has a
well-formed stack; and when every binding of a dynamic pattern compiles to at least the groups
linking counted for it, every frame of a context with placeholders has each of them bound. -/
theorem rescan_stack_wellFormed {defs : Array (String × Definition)} {g : Grammar}
    (hne : 0 < defs.size) (h : Grammar.link defs = .ok g) (limits : ParseLimits)
    (lines : List String) :
    ∀ p ∈ g.rescan limits LineState.initial lines,
      p.state.WellFormed g limits.maxDepth ∧ (g.CountsDynamicGroups → p.state.CapturesBound g) := by
  have hg := Grammar.link_linked hne h
  have h₀ := LineState.wellFormed_initial (d := limits.maxDepth) hg
  intro p hp
  have hr := LineState.rescan_reaches p hp
  exact ⟨hr.wellFormed hg h₀, fun hc => hr.capturesBound hg hc h₀ (LineState.capturesBound_initial hg)⟩

/-- Two contexts: `a` opens the second, which the line end closes. -/
def twoContextDefinition : Definition where
  header := { name := "T" }
  lists := []
  styles := [⟨"Text", "dsNormal"⟩, ⟨"Open", "dsKeyword"⟩]
  contexts := [
    { name := "A", attr := some "Text", lineEnd := {}, lineEmpty := none, fallthrough := none,
      rules := [
        { element := "DetectChar", kind := .detectChar "a", attr := some "Open",
          switch := { push := [{ context := some "B", language := none }] }, lookAhead := false,
          firstNonSpace := false, column := none, dynamic := false, insensitive := false,
          children := [] }] },
    { name := "B", attr := some "Text", lineEnd := { pop := 1 }, lineEmpty := none,
      fallthrough := none, rules := [] }]
  keywordsCaseSensitive := true
  weakDeliminators := ""
  additionalDeliminators := ""
  comments := {}

theorem twoContext_stack_wellFormed :
    ∃ g, Grammar.link #[("T", twoContextDefinition)] = .ok g ∧
      ∀ p ∈ g.rescan {} LineState.initial ["ab", "b"],
        p.state.WellFormed g 256 ∧ (g.CountsDynamicGroups → p.state.CapturesBound g) := by
  have hok : (Grammar.link #[("T", twoContextDefinition)]).toBool = true := by decide +kernel
  cases h : Grammar.link #[("T", twoContextDefinition)] with
  | error e =>
    rw [h] at hok
    cases hok
  | ok g => exact ⟨g, rfl, rescan_stack_wellFormed (by decide) h {} ["ab", "b"]⟩

end Highlight

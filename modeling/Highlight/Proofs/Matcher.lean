import Highlight.Proofs.Linked
import Highlight.Line.Match
/-!
# What a rule match binds

Matching a rule returns a hit, and the parser builds its next switch from it: a range that runs
off the line continues in its continuation context with the captures of the frame it matched in
(`Hit.Fits.continuation`), and a pattern rule that pushes a context with placeholders binds one
text for the whole match and one for each group of its pattern (`Rule.Binds`). Every other rule
binds nothing. `firstMatch_spec` says this of the first rule of a context that matches.

Dynamic patterns are compiled while matching and remembered in the matcher; what it remembers is
always what compiling the bound text gives (`Matcher.Compiled`), so a remembered pattern is the
pattern of the frame's binding.
-/

namespace Highlight

/-! ## Matcher steps -/

section StateM

variable {σ α β : Type}

/-- A run is the pair of what it gives and the state it leaves. -/
theorem stateM_run_eq (x : StateM σ α) (s : σ) : x.run s = ((x.run s).1, (x.run s).2) := rfl

theorem stateM_bind_eq {x : StateM σ α} {f : α → StateM σ β} {s s' : σ} {b : β}
    (h : (x >>= f).run s = (b, s')) : ∃ a s₁, x.run s = (a, s₁) ∧ (f a).run s₁ = (b, s') :=
  ⟨_, _, rfl, h⟩

theorem stateM_pure_eq {a b : α} {s s' : σ} (h : (pure a : StateM σ α).run s = (b, s')) :
    b = a ∧ s' = s := by
  cases h
  exact ⟨rfl, rfl⟩

theorem stateM_get_eq {a s s' : σ} (h : (get : StateM σ σ).run s = (a, s')) : a = s ∧ s' = s := by
  cases h
  exact ⟨rfl, rfl⟩

theorem stateM_modify_eq {f : σ → σ} {s s' : σ} {u : PUnit}
    (h : (modify f : StateM σ PUnit).run s = (u, s')) : s' = f s := by
  cases h
  rfl

end StateM

namespace Regex

theorem size_spansOf (groups : Nat) (slots : Slots) : (spansOf groups slots).size = groups + 1 := by
  unfold spansOf
  rw [Array.size_map, Array.size_range]

/-- A match has one span, or none, for the whole match and one for each group. -/
theorem size_of_search {regex : Regex} {text : Array Char} {start : Nat}
    {gs : Array (Option (Nat × Nat))} (h : regex.search text start = .spans gs) :
    gs.size = regex.groups + 1 := by
  unfold search at h
  -- the run is generalised before its outcome is inspected, so it is never evaluated
  generalize regex.engine.run text start (2 * (regex.groups + 1)) = out at h
  cases out with
  | matched slots =>
    rw [← Found.spans.inj h]
    exact size_spansOf _ _
  | failed => exact Found.noConfusion h
  | exhausted => exact Found.noConfusion h

end Regex

/-! ## The cache of dynamic patterns -/

namespace RegexCache

/-- A cache as parses leave it: each entry is what compiling its text gives, under an identity
handed out before the next one, two entries under one identity hold one pattern, and there are at
most `capacity` entries. -/
structure Valid (c : RegexCache) : Prop where
  compiled : ∀ e ∈ c.entries, e.2.map (·.regex) = (Grammar.compilePattern e.1.1 e.1.2).toOption
  below : ∀ e ∈ c.entries, ∀ r ∈ e.2, r.id < c.nextId
  same : ∀ e ∈ c.entries, ∀ e' ∈ c.entries, ∀ r ∈ e.2, ∀ r' ∈ e'.2, r.id = r'.id →
    r.regex = r'.regex
  size_le : c.entries.length ≤ capacity

theorem valid_empty : ({} : RegexCache).Valid :=
  ⟨(fun _ h => by cases h), (fun _ h => by cases h), (fun _ h => by cases h), Nat.zero_le _⟩

variable {c : RegexCache} {source : String} {ins : Bool}

/-- A miss remembers the new compilation, under the next identity, in front of what the cache
kept: everything, or nothing when it was full. -/
theorem mem_get_of_lookup_none (h : c.entries.lookup (source, ins) = none)
    {e : (String × Bool) × Option CachedRegex} (he : e ∈ (c.get source ins).2.entries) :
    e = ((source, ins), (c.get source ins).1) ∨ e ∈ c.entries := by
  rw [get_of_lookup_none h] at he ⊢
  rcases List.mem_cons.1 he with rfl | he
  · exact .inl rfl
  · split at he
    · cases he
    · exact .inr he

/-- A lookup gives what compiling the text gives, and leaves a cache of the same kind: a hit is
an entry, and a miss compiles the text under the next identity, emptying a full cache first. -/
theorem Valid.get (hc : c.Valid) :
    (c.get source ins).1.map (·.regex) = (Grammar.compilePattern source ins).toOption ∧
      (c.get source ins).2.Valid := by
  cases hl : c.entries.lookup (source, ins) with
  | some hit =>
    rw [get_of_lookup_some hl]
    obtain ⟨l₁, l₂, hsplit, -⟩ := List.lookup_eq_some_iff.1 hl
    exact ⟨hc.compiled ((source, ins), hit) (by simp [hsplit]), hc⟩
  | none =>
    have hnew : (c.get source ins).1 =
        (Grammar.compilePattern source ins).toOption.map (⟨c.nextId, ·⟩) := by
      rw [get_of_lookup_none hl]
    have hnext : (c.get source ins).2.nextId = c.nextId + 1 := by
      rw [get_of_lookup_none hl]
    -- the new compilation's identity is the next one, which no kept entry holds
    have hfresh : ∀ r ∈ (c.get source ins).1, r.id = c.nextId := by
      intro r hr
      rw [hnew] at hr
      obtain ⟨r', -, rfl⟩ := Option.mem_map.1 hr
      rfl
    have hentry : ∀ e ∈ (c.get source ins).2.entries,
        (e = ((source, ins), (c.get source ins).1) ∧ ∀ r ∈ e.2, r.id = c.nextId) ∨
          e ∈ c.entries := by
      intro e he
      rcases mem_get_of_lookup_none hl he with rfl | he
      · exact .inl ⟨rfl, hfresh⟩
      · exact .inr he
    have hregex : (c.get source ins).1.map (·.regex) = (Grammar.compilePattern source ins).toOption := by
      rw [hnew, Option.map_map]
      exact Option.map_id'
    refine ⟨hregex, ⟨fun e he => ?_, fun e he r hr => ?_, fun e he e' he' r hr r' hr' hid => ?_, ?_⟩⟩
    · rcases hentry e he with ⟨rfl, -⟩ | he
      · exact hregex
      · exact hc.compiled e he
    · rw [hnext]
      rcases hentry e he with ⟨-, hid⟩ | he
      · rw [hid r hr]
        exact Nat.lt_succ_self _
      · exact Nat.lt_succ_of_lt (hc.below e he r hr)
    · -- only the new compilation has the next identity
      rcases hentry e he with ⟨rfl, hnew⟩ | he
      · rcases hentry e' he' with ⟨rfl, -⟩ | he'
        · rw [Option.mem_def] at hr hr'
          rw [hr] at hr'
          cases hr'
          rfl
        · exact absurd ((hnew r hr).symm.trans hid) (Nat.ne_of_gt (hc.below e' he' r' hr'))
      · rcases hentry e' he' with ⟨rfl, hnew'⟩ | he'
        · exact absurd (hid.trans (hnew' r' hr')) (Nat.ne_of_lt (hc.below e he r hr))
        · exact hc.same e he e' he' r hr r' hr' hid
    · rw [get_of_lookup_none hl]
      dsimp only
      split
      · exact Nat.succ_le_of_lt (by decide)
      · next hfull => simp only [List.length_cons]; omega

/-- Looking a text up again right after gives the same compilation and leaves the cache alone. -/
theorem get_get : (c.get source ins).2.get source ins = c.get source ins := by
  cases hl : c.entries.lookup (source, ins) with
  | some hit => rw [get_of_lookup_some hl, get_of_lookup_some hl]
  | none =>
    have hhead : (c.get source ins).2.entries.lookup (source, ins) = some (c.get source ins).1 := by
      rw [get_of_lookup_none hl]
      simp
    rw [get_of_lookup_some hhead]

end RegexCache

namespace Matcher

/-- The grammar's cache the matcher reads is as parses leave it. -/
def Compiled (m : Matcher) : Prop := m.cache.Valid

theorem compiled_empty : ({} : Matcher).Compiled := RegexCache.valid_empty

/-- Refusing to match leaves the matcher as it was and gives nothing. -/
theorem refuse_spec {α : Type} {P : α → Prop} {o : Option α} {m m' : Matcher} (hm : m.Compiled)
    (h : (pure none : StateM Matcher (Option α)).run m = (o, m')) :
    m'.Compiled ∧ ∀ a, o = some a → P a := by
  obtain ⟨rfl, rfl⟩ := stateM_pure_eq h
  exact ⟨hm, by simp⟩

/-- Looking up a dynamic pattern is a lookup in the grammar's cache; the searches stay. -/
theorem dynamicRegex_run (source : String) (ins : Bool) (m : Matcher) :
    (dynamicRegex source ins).run m =
      ((m.cache.get source ins).1, { m with cache := (m.cache.get source ins).2 }) := rfl

/-- Looking up a dynamic pattern gives what compiling it gives, and keeps the cache as parses
leave it. -/
theorem dynamicRegex_spec {m m' : Matcher} {source : String} {ins : Bool} {r : Option CachedRegex}
    (hm : m.Compiled) (h : (dynamicRegex source ins).run m = (r, m')) :
    r.map (·.regex) = (Grammar.compilePattern source ins).toOption ∧ m'.Compiled ∧
      m'.searches = m.searches := by
  rw [dynamicRegex_run] at h
  obtain ⟨rfl, rfl⟩ := Prod.mk.inj h
  exact ⟨(RegexCache.Valid.get hm).1, (RegexCache.Valid.get hm).2, rfl⟩

end Matcher

/-! ## What a match binds -/

/-- The compiled pattern a pattern stands for in `frame`: a fixed pattern is looked up in the
pattern table, a dynamic one is compiled with the frame's captures in place of its placeholders. -/
def Pattern.CompilesTo (g : Grammar) (frame : Frame) : Pattern → Regex → Prop
  | .fixed _ id, regex => g.patterns[id]? = some regex
  | .dynamic source insensitive, regex =>
    Grammar.compilePattern (Placeholder.substitute source frame.bound true) insensitive = .ok regex

/-- What a match of a pattern rule in `frame` binds when the rule pushes a context with
placeholders: one text for the whole match and one for each group of the pattern. -/
def Rule.Binds (g : Grammar) (frame : Frame) (r : Rule) (bind : Option (Array String)) : Prop :=
  ∀ p, r.kind = .regExpr p → r.pushesDynamic g = true →
    ∃ regex cs, p.CompilesTo g frame regex ∧ bind = some cs ∧ cs.size = regex.groups + 1

/-- What a hit of rule `r` in `frame` carries into the next switch: a continuation only from a
range of `r`, with the frame's own captures, and otherwise what `r` binds. -/
structure Hit.Fits (g : Grammar) (frame : Frame) (r : Rule) (hit : Hit) : Prop where
  continuation : ∀ cont, hit.continuation = some cont →
    (∃ o e ins, r.kind = .rangeDetect o e cont ins) ∧ hit.bind = frame.captures
  binds : hit.continuation = none → r.Binds g frame hit.bind

/-- A hit without a continuation of a rule that is not a pattern rule fits it. -/
theorem Hit.fits_of_plain {g : Grammar} {frame : Frame} {r : Rule} {hit : Hit}
    (hk : ∀ p, r.kind ≠ .regExpr p) (hc : hit.continuation = none) : hit.Fits g frame r :=
  ⟨fun cont h => (by rw [hc] at h; cases h), fun _ p hp => absurd hp (hk p)⟩

/-! ## Matching preserves the matcher and fits the rule -/

section Match

variable {g : Grammar} {line : Line} {seps : Separators} {frame : Frame} {pos : Nat}
  {m m' : Matcher}

/-- The pattern a rule searches is the one it stands for in the frame; only the cache changes. -/
theorem patternIn_spec {p : Pattern} {o : Option (PatternKey × Regex)} (hm : m.Compiled)
    (h : (patternIn g frame p).run m = (o, m')) :
    m'.Compiled ∧ m'.searches = m.searches ∧
      ∀ key regex, o = some (key, regex) → p.CompilesTo g frame regex := by
  cases p with
  | fixed source id =>
    obtain ⟨rfl, rfl⟩ := stateM_pure_eq h
    refine ⟨hm, rfl, fun key regex ho => ?_⟩
    obtain ⟨r, hr, hkr⟩ := Option.map_eq_some_iff.1 ho
    cases hkr
    exact hr
  | dynamic source ins =>
    obtain ⟨r, m₁, hr, h₁⟩ := stateM_bind_eq h
    obtain ⟨rfl, rfl⟩ := stateM_pure_eq h₁
    obtain ⟨hregex, hm₁, hs⟩ := Matcher.dynamicRegex_spec hm hr
    refine ⟨hm₁, hs, fun key regex ho => ?_⟩
    obtain ⟨c, hc, hkc⟩ := Option.map_eq_some_iff.1 ho
    cases hkc
    rw [hc] at hregex
    show Grammar.compilePattern _ ins = .ok c.regex
    cases hcomp : Grammar.compilePattern (Placeholder.substitute source frame.bound true) ins with
    | error e => simp [hcomp, Except.toOption] at hregex
    | ok r' => simpa [hcomp, Except.toOption] using hregex.symm

/-- The texts a pattern match binds: one for each span of the match, empty for a group that did
not take part. -/
def Line.bindSpans (line : Line) (gs : Array (Option (Nat × Nat))) : Array String :=
  gs.map fun o => match o with
    | some (x, y) => line.slice x y
    | none => ""

/-- A pattern search changes only the searches: the cache is as the lookup of the pattern left
it. -/
theorem searchPattern_cache {r : Rule} {p : Pattern} {o : Option Hit}
    (h : (searchPattern g line frame r p pos).run m = (o, m')) :
    m'.cache = ((patternIn g frame p).run m).2.cache := by
  unfold searchPattern at h
  obtain ⟨o₁, m₁, hpat, h₁⟩ := stateM_bind_eq h
  rw [hpat]
  rcases o₁ with _ | ⟨key, regex⟩
  · rw [(stateM_pure_eq h₁).2]
  dsimp only at h₁
  generalize regex.search line.chars pos = found at h₁
  obtain ⟨m₂, m₃, hget, h₂⟩ := stateM_bind_eq h₁
  obtain ⟨rfl, rfl⟩ := stateM_get_eq hget
  split at h₂
  · rw [(stateM_pure_eq h₂).2]
  obtain ⟨u, m₄, hmod, h₃⟩ := stateM_bind_eq h₂
  -- remembering a search leaves the cache alone
  cases found with
  | spans gs =>
    dsimp only at h₃
    split at h₃
    · split at h₃ <;> rw [(stateM_pure_eq h₃).2, stateM_modify_eq hmod] <;> rfl
    · rw [(stateM_pure_eq h₃).2, stateM_modify_eq hmod]
      rfl
  | none =>
    rw [(stateM_pure_eq h₃).2, stateM_modify_eq hmod]
    rfl
  | gaveUp =>
    rw [(stateM_pure_eq h₃).2, stateM_modify_eq hmod]
    rfl

/-- **A pattern rule matches only where a search finds a whole match starting at its column.**
The hit stops where that match ends and binds its spans when the rule pushes a context with
placeholders. -/
theorem searchPattern_eq_some {r : Rule} {p : Pattern} {hit : Hit}
    (h : (searchPattern g line frame r p pos).run m = (some hit, m')) :
    ∃ key regex gs b, ((patternIn g frame p).run m).1 = some (key, regex) ∧
      regex.search line.chars pos = .spans gs ∧ gs[0]?.join = some (pos, b) ∧
      hit = { stop := b, bind := if r.pushesDynamic g then some (line.bindSpans gs) else none } := by
  unfold searchPattern at h
  obtain ⟨o₁, m₁, hpat, h₁⟩ := stateM_bind_eq h
  rcases o₁ with _ | ⟨key, regex⟩
  · cases (stateM_pure_eq h₁).1
  dsimp only at h₁
  generalize hfound : regex.search line.chars pos = found at h₁
  obtain ⟨m₂, m₃, hget, h₂⟩ := stateM_bind_eq h₁
  obtain ⟨rfl, rfl⟩ := stateM_get_eq hget
  split at h₂
  · cases (stateM_pure_eq h₂).1
  obtain ⟨u, m₄, -, h₃⟩ := stateM_bind_eq h₂
  cases found with
  | spans gs =>
    dsimp only at h₃
    split at h₃
    · next a b hwhole =>
      split at h₃
      · cases (stateM_pure_eq h₃).1
      · next hne =>
        have ha : a = pos := by simpa using hne
        subst ha
        refine ⟨key, regex, gs, b, by rw [hpat], hfound, by simpa using hwhole, ?_⟩
        exact (Option.some.inj (stateM_pure_eq h₃).1).symm ▸ rfl
    · cases (stateM_pure_eq h₃).1
  | none => cases (stateM_pure_eq h₃).1
  | gaveUp => cases (stateM_pure_eq h₃).1

/-- A search hit has no continuation, and binds one text for each span of the match when the
rule pushes a context with placeholders. -/
theorem searchPattern_spec {r : Rule} {p : Pattern} {o : Option Hit} (hm : m.Compiled)
    (h : (searchPattern g line frame r p pos).run m = (o, m')) :
    m'.Compiled ∧ ∀ hit, o = some hit → hit.continuation = none ∧
      (r.pushesDynamic g = true → ∃ regex cs, p.CompilesTo g frame regex ∧ hit.bind = some cs ∧
        cs.size = regex.groups + 1) := by
  obtain ⟨hm₁, -, hregex⟩ := patternIn_spec hm (m := m) rfl
  refine ⟨show m'.cache.Valid from (searchPattern_cache h) ▸ hm₁, fun hit ho => ?_⟩
  subst ho
  obtain ⟨key, regex, gs, b, hpat, hfound, -, rfl⟩ := searchPattern_eq_some h
  refine ⟨rfl, fun hdyn => ⟨regex, line.bindSpans gs, hregex key regex hpat,
    by simp only [hdyn, if_true], ?_⟩⟩
  rw [Line.bindSpans, Array.size_map, Regex.size_of_search hfound]

/-- Matching what a rule's kind matches fits the rule. -/
theorem matchKind_spec {r : Rule} {hpos : pos < line.size} {o : Option Hit} (hm : m.Compiled)
    (h : (matchKind g line seps frame pos hpos r).run m = (o, m')) :
    m'.Compiled ∧ ∀ hit, o = some hit → hit.Fits g frame r := by
  unfold matchKind at h
  cases hk : r.kind <;> simp only [hk] at h
  case regExpr p =>
    obtain ⟨hm', hhit⟩ := searchPattern_spec hm h
    refine ⟨hm', fun hit ho => ⟨fun cont hc => ?_, fun _ p' hp' hdyn => ?_⟩⟩
    · rw [(hhit hit ho).1] at hc
      cases hc
    · rw [hk] at hp'
      cases hp'
      exact (hhit hit ho).2 hdyn
  case rangeDetect opening closing cont ins =>
    -- only a range that finds no closing text on the line continues
    obtain ⟨rfl, rfl⟩ := stateM_pure_eq h
    refine ⟨hm, fun hit ho => ⟨fun c hc => ?_, fun _ p hp => by rw [hk] at hp; cases hp⟩⟩
    simp only [Option.bind_eq_bind, Option.bind_eq_some_iff] at ho
    obtain ⟨after, -, ho⟩ := ho
    split at ho
    · cases ho
      cases hc
    · cases ho
      cases hc
      exact ⟨⟨opening, closing, ins, hk⟩, rfl⟩
  case detectIdentifier =>
    split at h
    all_goals
      obtain ⟨rfl, rfl⟩ := stateM_pure_eq h
      refine ⟨hm, fun hit ho => Hit.fits_of_plain (by simp [hk]) ?_⟩
      grind
  -- the other kinds build hits that only say where they stop
  all_goals
    obtain ⟨rfl, rfl⟩ := stateM_pure_eq h
    refine ⟨hm, fun hit ho => Hit.fits_of_plain (by simp [hk]) ?_⟩
    grind [Option.bind_eq_some_iff, Option.bind_eq_bind]

variable (g line seps frame)

mutual

/-- Matching a rule fits it: child rules only move where the match stops. -/
theorem matchRule_spec : ∀ (pos : Nat) (r : Rule) (m m' : Matcher) (o : Option Hit), m.Compiled →
    (matchRule g line seps frame pos r).run m = (o, m') →
      m'.Compiled ∧ ∀ hit, o = some hit → hit.Fits g frame r
  | pos, ⟨kind, attr, switch, lookAhead, firstNonSpace, column, dynamic, children⟩, m, m', o, hm,
      h => by
    unfold matchRule at h
    -- the column conditions and the line end refuse without touching the matcher
    split at h
    · exact Matcher.refuse_spec hm h
    split at h
    · exact Matcher.refuse_spec hm h
    split at h
    · obtain ⟨o₁, m₁, h₁, h₂⟩ := stateM_bind_eq h
      obtain ⟨hm₁, hfits⟩ := matchKind_spec hm h₁
      split at h₂
      · split at h₂
        · obtain ⟨rfl, rfl⟩ := stateM_pure_eq h₂
          exact ⟨hm₁, fun hit ho => by cases ho; exact hfits _ rfl⟩
        · obtain ⟨o₂, m₂, h₃, h₄⟩ := stateM_bind_eq h₂
          obtain ⟨rfl, rfl⟩ := stateM_pure_eq h₄
          refine ⟨matchChildren_spec _ _ _ _ _ hm₁ h₃, fun hit ho => ?_⟩
          cases ho
          have hhit := hfits _ rfl
          split
          · exact ⟨hhit.1, hhit.2⟩
          · exact hhit
      · exact Matcher.refuse_spec hm₁ h₂
    · exact Matcher.refuse_spec hm h

/-- Matching child rules keeps the matcher's compiled patterns right. -/
theorem matchChildren_spec : ∀ (pos : Nat) (rs : List Rule) (m m' : Matcher) (o : Option Hit),
    m.Compiled → (matchChildren g line seps frame pos rs).run m = (o, m') → m'.Compiled
  | pos, [], m, m', o, hm, h => by
    obtain ⟨rfl, rfl⟩ := stateM_pure_eq h
    exact hm
  | pos, c :: cs, m, m', o, hm, h => by
    unfold matchChildren at h
    obtain ⟨o₁, m₁, h₁, h₂⟩ := stateM_bind_eq h
    have hm₁ := (matchRule_spec pos c m m₁ o₁ hm h₁).1
    split at h₂
    · obtain ⟨rfl, rfl⟩ := stateM_pure_eq h₂
      exact hm₁
    · exact matchChildren_spec pos cs m₁ m' o hm₁ h₂

end

variable {g line seps frame}

/-- The first rule of a context that matches is one of its rules, and its hit fits it. -/
theorem firstMatch_spec {ctx : Context} {o : Option (Rule × Hit)} (hm : m.Compiled)
    (h : (firstMatch g line seps frame pos ctx).run m = (o, m')) :
    m'.Compiled ∧ ∀ r hit, o = some (r, hit) → r ∈ ctx.rules ∧ hit.Fits g frame r := by
  unfold firstMatch at h
  generalize ctx.rules = rs at h ⊢
  induction rs generalizing m with
  | nil =>
    obtain ⟨rfl, rfl⟩ := stateM_pure_eq h
    exact ⟨hm, by simp⟩
  | cons r rs ih =>
    rw [List.findSomeM?_cons] at h
    obtain ⟨o₁, m₁, h₁, h₂⟩ := stateM_bind_eq h
    obtain ⟨o₂, m₂, h₃, h₄⟩ := stateM_bind_eq h₁
    obtain ⟨rfl, rfl⟩ := stateM_pure_eq h₄
    obtain ⟨hm₂, hfits⟩ := matchRule_spec g line seps frame pos r m _ o₂ hm h₃
    cases o₂ with
    | some hit =>
      obtain ⟨rfl, rfl⟩ := stateM_pure_eq h₂
      refine ⟨hm₂, fun r' hit' ho => ?_⟩
      cases ho
      exact ⟨List.mem_cons_self, hfits _ rfl⟩
    | none =>
      obtain ⟨hm', hrs⟩ := ih hm₂ h₂
      exact ⟨hm', fun r' hit' ho => ⟨List.mem_cons_of_mem _ (hrs r' hit' ho).1, (hrs r' hit' ho).2⟩⟩

end Match

end Highlight

import Highlight.Proofs.Respects
/-!
# The search memo never changes a match

A pattern rule is matched at a column by searching its pattern forward from that column and
keeping the match only if it starts there. The matcher of a line remembers, for each pattern, the
column its latest search started at and where the match found starts; a later column at or after
that start and before the match found cannot be a match start, so its search is skipped and
answered with no match (`Matcher.ruledOut`). Searches are remembered under the pattern's identity:
its index in the grammar's table, or the identity the grammar's cache gave its compilation.

This is sound when the regex engine searches like an oracle for the leftmost match: whether a
match starts at a column, and which, does not depend on where the search started, and a search
finds the first column from its start that has one (`Regex.SearchesLeftmost`). Then every search
the matcher remembers is what searching gives (`Matcher.SoundWith`), a skipped search would not
have matched, and each search gives what a search with an empty memo gives
(`searchPattern_fresh`). The cache may forget a compilation and compile its text again under a new
identity; soundness names every identity ever handed out by the pattern it stands for (`Names`),
so a remembered search stays right after the cache forgets it. Matching respects soundness rule
by rule (`Matcher.RespectsBy`), so any sequence of queries put to one matcher is answered as each
query is from an empty memo (`MatchQuery.answers_fresh`).

A search that gives up is not such an oracle. The memo records it as one that found nothing, so
every later column of its pattern is answered with no match without a search
(`searchPattern_after_gaveUp`), even where a search from that column would find a match there;
`stall_answers` shows a line where this changes an answer.
-/

namespace Highlight

open Matcher

/-! ## Pattern keys -/

theorem PatternKey.eq_of_beq {a b : PatternKey} (h : (a == b) = true) : a = b := by
  cases a <;> cases b
  · change ((_ : Nat) == _) = true at h
    rw [beq_iff_eq] at h
    rw [h]
  · cases h
  · cases h
  · change ((_ : Nat) == _) = true at h
    rw [beq_iff_eq] at h
    rw [h]

theorem PatternKey.beq_self (a : PatternKey) : (a == a) = true := by
  cases a <;> exact beq_self_eq_true (α := Nat) _

/-- The pattern a key names: a fixed pattern from the grammar's table, a dynamic one by what
`known` gives its identity. -/
def PatternKey.regexIn (g : Grammar) (known : Nat → Option Regex) : PatternKey → Option Regex
  | .fixed id => g.patterns[id]?
  | .dynamic id => known id

theorem Matcher.ruledOut_congr {m m' : Matcher} (h : m.searches = m'.searches) (key : PatternKey)
    (pos : Nat) : m.ruledOut key pos = m'.ruledOut key pos := by
  simp only [Matcher.ruledOut, h]

/-- A search remembered as having found nothing from `b` rules out every column from `b` on. -/
theorem Matcher.ruledOut_remember_none (m : Matcher) (key : PatternKey) {b pos : Nat}
    (hb : b ≤ pos) : (m.remember ⟨key, b, none⟩).ruledOut key pos = true := by
  simp [Matcher.ruledOut, Matcher.remember, PatternKey.beq_self, hb]

/-- The compiled form a pattern lookup gives does not depend on the matcher, as long as the
cache is as parses leave it. -/
theorem patternIn_regex (g : Grammar) (frame : Frame) {m m' : Matcher} (hm : m.Compiled)
    (hm' : m'.Compiled) (p : Pattern) :
    ((patternIn g frame p).run m).1.map Prod.snd = ((patternIn g frame p).run m').1.map Prod.snd := by
  cases p with
  | fixed source id => rfl
  | dynamic source ins =>
    let bound := Placeholder.substitute source frame.bound true
    obtain ⟨hr, -, -⟩ := dynamicRegex_spec hm (stateM_run_eq (dynamicRegex bound ins) m)
    obtain ⟨hr', -, -⟩ := dynamicRegex_spec hm' (stateM_run_eq (dynamicRegex bound ins) m')
    show (((dynamicRegex bound ins).run m).1.map _).map Prod.snd =
      (((dynamicRegex bound ins).run m').1.map _).map Prod.snd
    rw [Option.map_map, Option.map_map]
    exact hr.trans hr'.symm

/-- Looking up a dynamic pattern is a lookup of its bound text in the grammar's cache. -/
theorem patternIn_dynamic_run (g : Grammar) (frame : Frame) (source : String) (ins : Bool)
    (m : Matcher) :
    (patternIn g frame (.dynamic source ins)).run m =
      ((((dynamicRegex (Placeholder.substitute source frame.bound true) ins).run m).1.map
        fun r => (PatternKey.dynamic r.id, r.regex)),
        ((dynamicRegex (Placeholder.substitute source frame.bound true) ins).run m).2) := rfl

/-- Looking a pattern up again after only remembering a search gives the same key and pattern,
and changes nothing: a fixed pattern is in the table, and a dynamic one is now in the cache. -/
theorem patternIn_again (g : Grammar) (frame : Frame) (p : Pattern) (m : Matcher) (s : Search) :
    (patternIn g frame p).run (((patternIn g frame p).run m).2.remember s) =
      (((patternIn g frame p).run m).1, ((patternIn g frame p).run m).2.remember s) := by
  cases p with
  | fixed source id => rfl
  | dynamic source ins =>
    simp only [patternIn_dynamic_run, dynamicRegex_run, Matcher.remember, RegexCache.get_get]

/-! ## Searching like an oracle -/

namespace Regex

/-- Where the whole match a search found starts: nothing when it found none or gave up. -/
def Found.start? : Found → Option Nat
  | .spans gs => (gs[0]?.join).map (·.1)
  | _ => Option.none

/-- The search of `regex` on `text` is an oracle for the leftmost match: some `matchAt` says
whether a match starts at each column, and which, whatever column a search started from, and a
search from `b` finds the match of the first column from `b` on that has one, or finds nothing
when none has. -/
def SearchesLeftmost (regex : Regex) (text : Array Char) : Prop :=
  ∃ matchAt : Nat → Option (Array (Option (Nat × Nat))),
    (∀ p gs, matchAt p = some gs → (Found.spans gs).start? = some p) ∧
    ∀ b, (regex.search text b = .none ∧ ∀ p, b ≤ p → matchAt p = none) ∨
      ∃ p gs, b ≤ p ∧ (∀ q, b ≤ q → q < p → matchAt q = none) ∧ matchAt p = some gs ∧
        regex.search text b = .spans gs

/-- Under the oracle, once a search from `b ≤ pos` found nothing, or a match starting after `pos`,
no match starts at `pos`: the search from `pos` does not find one there. -/
theorem SearchesLeftmost.start?_ne {regex : Regex} {text : Array Char}
    (h : regex.SearchesLeftmost text) {b pos : Nat} (hb : b ≤ pos)
    (hfound : (regex.search text b).start?.all (· > pos) = true) :
    (regex.search text pos).start? ≠ some pos := by
  obtain ⟨matchAt, hstart, hsearch⟩ := h
  have hnone : matchAt pos = none := by
    rcases hsearch b with ⟨-, hall⟩ | ⟨p, gs, -, hbefore, hp, hs⟩
    · exact hall pos hb
    · rw [hs, hstart p gs hp] at hfound
      exact hbefore pos hb (by simpa using hfound)
  rcases hsearch pos with ⟨hs, -⟩ | ⟨p, gs, -, -, hgs, hs⟩
  · rw [hs]
    simp [Found.start?]
  · rw [hs, hstart p gs hgs]
    intro hp
    cases hp
    rw [hnone] at hgs
    cases hgs

end Regex

/-! ## Sound matchers -/

namespace RegexCache

/-- The identities of a cache's compilations name patterns by `known`: it gives each compilation
in the cache its pattern, and names no identity the cache has still to hand out. The cache forgets
what it empties; `known` does not, so a search remembered under an identity still names its
pattern after the cache was emptied. -/
structure Names (c : RegexCache) (known : Nat → Option Regex) : Prop where
  cached : ∀ e ∈ c.entries, ∀ r ∈ e.2, known r.id = some r.regex
  unused : ∀ id, c.nextId ≤ id → known id = none

variable {c : RegexCache} {known : Nat → Option Regex}

/-- A lookup keeps a naming, extended on a miss by the new compilation under the next identity:
the compilation handed out is named by its identity, and every identity named before keeps its
pattern. -/
theorem Names.get (hc : c.Valid) (hn : c.Names known) (source : String) (ins : Bool) :
    ∃ known', (c.get source ins).2.Names known' ∧
      (∀ r ∈ (c.get source ins).1, known' r.id = some r.regex) ∧
      ∀ id, known id ≠ none → known' id = known id := by
  cases hl : c.entries.lookup (source, ins) with
  | some hit =>
    -- a hit hands out a cached compilation and changes nothing
    rw [get_of_lookup_some hl]
    obtain ⟨l₁, l₂, hsplit, -⟩ := List.lookup_eq_some_iff.1 hl
    exact ⟨known, hn, fun r hr => hn.cached ((source, ins), hit) (by simp [hsplit]) r hr,
      fun _ _ => rfl⟩
  | none =>
    rw [get_of_lookup_none hl]
    -- the new compilation takes the next identity, which nothing was named by
    have hnew : ∀ r ∈ (Grammar.compilePattern source ins).toOption.map
        (fun x => (⟨c.nextId, x⟩ : CachedRegex)), r.id = c.nextId := by
      intro r hr
      obtain ⟨r', -, rfl⟩ := Option.mem_map.1 hr
      rfl
    have hsome : ∀ r ∈ (Grammar.compilePattern source ins).toOption.map
        (fun x => (⟨c.nextId, x⟩ : CachedRegex)),
        ((Grammar.compilePattern source ins).toOption.map
          (fun x => (⟨c.nextId, x⟩ : CachedRegex))).map (·.regex) = some r.regex := by
      intro r hr
      rw [Option.mem_def.1 hr, Option.map_some]
    refine ⟨fun id => if id = c.nextId then
        ((Grammar.compilePattern source ins).toOption.map
          (fun x => (⟨c.nextId, x⟩ : CachedRegex))).map (·.regex)
        else known id, ⟨fun e he r hr => ?_, fun id hid => ?_⟩, fun r hr => ?_, fun id hid => ?_⟩
    · rcases List.mem_cons.1 he with rfl | he
      · simpa only [if_pos (hnew r hr)] using hsome r hr
      · have hold : e ∈ c.entries := by
          split at he
          · cases he
          · exact he
        simpa only [if_neg (Nat.ne_of_lt (hc.below e hold r hr))] using hn.cached e hold r hr
    · have hid' : c.nextId + 1 ≤ id := hid
      simpa only [if_neg (show id ≠ c.nextId by omega)] using hn.unused id (by omega)
    · simpa only [if_pos (hnew r hr)] using hsome r hr
    · simp only [if_neg fun (heq : id = c.nextId) => hid (hn.unused id (Nat.le_of_eq heq.symm))]

end RegexCache

namespace Matcher

/-- Everything the matcher remembers is right, with dynamic identities named by `known`: its
cache is as parses leave it, and each remembered search is of a pattern that searches like the
oracle, with the match start that searching from its column finds. -/
structure SoundWith (g : Grammar) (text : Array Char) (known : Nat → Option Regex) (m : Matcher) :
    Prop where
  compiled : m.Compiled
  names : m.cache.Names known
  searches : ∀ s ∈ m.searches, ∃ regex, s.key.regexIn g known = some regex ∧
    regex.SearchesLeftmost text ∧ s.found = (regex.search text s.start).start?

/-- Everything the matcher remembers is right, under some naming of dynamic identities. -/
def Sound (g : Grammar) (text : Array Char) (m : Matcher) : Prop :=
  ∃ known, m.SoundWith g text known

variable {g : Grammar} {text : Array Char} {known : Nat → Option Regex}

theorem soundWith_empty : ({} : Matcher).SoundWith g text fun _ => none :=
  ⟨compiled_empty, ⟨(fun _ h => by cases h), fun _ _ => rfl⟩, fun _ h => by cases h⟩

theorem sound_empty : ({} : Matcher).Sound g text := ⟨_, soundWith_empty⟩

theorem SoundWith.remember {m : Matcher} (hm : m.SoundWith g text known) {s : Search}
    {regex : Regex} (hkey : s.key.regexIn g known = some regex)
    (hleft : regex.SearchesLeftmost text) (hfound : s.found = (regex.search text s.start).start?) :
    (m.remember s).SoundWith g text known := by
  refine ⟨hm.compiled, hm.names, fun s' hs' => ?_⟩
  rcases List.mem_cons.1 hs' with rfl | hs'
  · exact ⟨regex, hkey, hleft, hfound⟩
  · exact hm.searches s' (List.mem_of_mem_filter hs')

/-- A column a sound matcher rules out is one where searching would find no match starting. -/
theorem SoundWith.ruledOut {m : Matcher} (hm : m.SoundWith g text known) {key : PatternKey}
    {pos : Nat} {regex : Regex} (hkey : key.regexIn g known = some regex)
    (h : m.ruledOut key pos = true) : (regex.search text pos).start? ≠ some pos := by
  unfold Matcher.ruledOut at h
  split at h
  next prev hprev =>
    have hb := List.find?_some hprev
    have hk : prev.key = key := PatternKey.eq_of_beq hb
    obtain ⟨regex', hkey', hleft, hfound⟩ := hm.searches prev (List.mem_of_find?_eq_some hprev)
    rw [hk, hkey] at hkey'
    cases hkey'
    simp only [Bool.and_eq_true, decide_eq_true_eq] at h
    exact hleft.start?_ne h.1 (hfound ▸ h.2)
  next => cases h

/-- A lookup in the cache keeps the matcher sound, and the compilation handed out is named by its
identity. -/
theorem SoundWith.dynamicRegex {m : Matcher} (hm : m.SoundWith g text known) (source : String)
    (ins : Bool) :
    ∃ known', ((dynamicRegex source ins).run m).2.SoundWith g text known' ∧
      ∀ r ∈ ((dynamicRegex source ins).run m).1, known' r.id = some r.regex := by
  obtain ⟨known', hnames, hnamed, hkeep⟩ := hm.names.get hm.compiled source ins
  rw [dynamicRegex_run]
  refine ⟨known', ⟨(RegexCache.Valid.get hm.compiled).2, hnames, fun s hs => ?_⟩, hnamed⟩
  -- every remembered search names its pattern by an identity named before
  obtain ⟨regex, hkey, hleft, hfound⟩ := hm.searches s hs
  refine ⟨regex, ?_, hleft, hfound⟩
  cases hs : s.key with
  | fixed id =>
    rw [hs] at hkey
    exact hkey
  | dynamic id =>
    rw [hs] at hkey
    exact (hkeep id (by rw [show known id = _ from hkey]; exact Option.some_ne_none _)).trans hkey

/-- Looking a pattern up keeps the matcher sound and its searches as they were, and the key it
gives names the pattern it gives. -/
theorem SoundWith.patternIn {m : Matcher} (hm : m.SoundWith g text known) (frame : Frame)
    (p : Pattern) :
    ∃ known', ((patternIn g frame p).run m).2.SoundWith g text known' ∧
      ((patternIn g frame p).run m).2.searches = m.searches ∧
      ∀ key regex, ((patternIn g frame p).run m).1 = some (key, regex) →
        key.regexIn g known' = some regex := by
  cases p with
  | fixed source id =>
    refine ⟨known, hm, rfl, fun key regex h => ?_⟩
    obtain ⟨r, hr, hkr⟩ := Option.map_eq_some_iff.1 h
    cases hkr
    exact hr
  | dynamic source ins =>
    obtain ⟨known', hm', hnamed⟩ :=
      hm.dynamicRegex (Placeholder.substitute source frame.bound true) ins
    refine ⟨known', hm', rfl, fun key regex h => ?_⟩
    obtain ⟨r, hr, hkr⟩ := Option.map_eq_some_iff.1 h
    cases hkr
    exact hnamed r hr

end Matcher

/-! ## A search step -/

section Search

variable {g : Grammar} {line : Line} {frame : Frame} {known : Nat → Option Regex}

/-- From a sound matcher a pattern search answers as it does from an empty memo, and leaves a
sound matcher. A skipped search answers no match, as searching would: the column is ruled out.
Otherwise the search is made and remembered, and the answer does not read the memo. -/
theorem searchPattern_fresh {m : Matcher} (hm : m.SoundWith g line.chars known) (r : Rule)
    {p : Pattern} (pos : Nat)
    (hleft : ∀ regex, p.CompilesTo g frame regex → regex.SearchesLeftmost line.chars) :
    ((searchPattern g line frame r p pos).run m).1 = ((searchPattern g line frame r p pos).run {}).1 ∧
      ((searchPattern g line frame r p pos).run m).2.Sound g line.chars := by
  obtain ⟨known₁, hm₁, hsearches, hkey⟩ := hm.patternIn frame p
  obtain ⟨-, -, hcomp⟩ := patternIn_spec hm.compiled (stateM_run_eq (patternIn g frame p) m)
  obtain ⟨-, hsearches₀, -⟩ := patternIn_spec compiled_empty (stateM_run_eq (patternIn g frame p) {})
  have hregex := patternIn_regex g frame hm.compiled compiled_empty p
  unfold searchPattern
  rw [run_bind_eq, run_bind_eq]
  generalize ((patternIn g frame p).run m).2 = m₁ at hm₁ hsearches
  generalize ((patternIn g frame p).run {}).2 = m₁' at hsearches₀
  generalize ((patternIn g frame p).run m).1 = o at hkey hcomp hregex
  generalize ((patternIn g frame p).run {}).1 = o₀ at hregex
  rcases o with _ | ⟨key, regex⟩ <;> rcases o₀ with _ | ⟨key₀, regex₀⟩
  · exact ⟨rfl, _, hm₁⟩
  · cases hregex
  · cases hregex
  -- both lookups give the same pattern; only the memo differs
  cases Option.some.inj hregex
  have hkey₁ := hkey key regex rfl
  have hfresh : m₁'.ruledOut key₀ pos = false := by
    simp [Matcher.ruledOut, hsearches₀]
  dsimp only
  rw [run_get_bind, run_get_bind, hfresh, if_neg Bool.false_ne_true, run_bind_eq]
  have hstart : m₁.ruledOut key pos = true → (regex.search line.chars pos).start? ≠ some pos :=
    hm₁.ruledOut hkey₁
  -- the answer depends on the search only through its outcome
  generalize hF : regex.search line.chars pos = F at hstart ⊢
  by_cases hr : m₁.ruledOut key pos = true
  · rw [if_pos hr]
    have hne := hstart hr
    cases F with
    | spans gs =>
      refine ⟨?_, _, hm₁⟩
      simp only [Option.bind_some]
      cases hw : gs[0]?.join with
      | none => rfl
      | some ab =>
        obtain ⟨a, b⟩ := ab
        have ha : a ≠ pos := by simpa [Regex.Found.start?, hw] using hne
        dsimp only
        rw [if_pos (bne_iff_ne.2 ha)]
        rfl
    | none => exact ⟨rfl, _, hm₁⟩
    | gaveUp => exact ⟨rfl, _, hm₁⟩
  · rw [if_neg hr, run_bind_eq]
    have hleft' := hleft regex (hcomp key regex rfl)
    cases F with
    | spans gs =>
      simp only [Option.bind_some]
      cases hw : gs[0]?.join with
      | none =>
        exact ⟨rfl, _, hm₁.remember hkey₁ hleft' (by rw [hF]; simp [Regex.Found.start?, hw])⟩
      | some ab =>
        obtain ⟨a, b⟩ := ab
        have hrem := hm₁.remember (s := ⟨key, pos, some a⟩) hkey₁ hleft'
          (by rw [hF]; simp [Regex.Found.start?, hw])
        dsimp only
        by_cases hap : (a != pos) = true
        · rw [if_pos hap]
          exact ⟨rfl, _, hrem⟩
        · rw [if_neg hap]
          exact ⟨rfl, _, hrem⟩
    | none => exact ⟨rfl, _, hm₁.remember hkey₁ hleft' (by rw [hF]; rfl)⟩
    | gaveUp => exact ⟨rfl, _, hm₁.remember hkey₁ hleft' (by rw [hF]; rfl)⟩

theorem searchPattern_respects_sound (r : Rule) {p : Pattern} (pos : Nat)
    (hleft : ∀ regex, p.CompilesTo g frame regex → regex.SearchesLeftmost line.chars) :
    RespectsBy (fun m m' => m.Sound g line.chars ∧ m'.Sound g line.chars)
      (searchPattern g line frame r p pos) := by
  intro m m' ⟨⟨_, hm⟩, ⟨_, hm'⟩⟩
  obtain ⟨h₁, h₂⟩ := searchPattern_fresh hm r pos hleft
  obtain ⟨h₁', h₂'⟩ := searchPattern_fresh hm' r pos hleft
  exact ⟨h₁.trans h₁'.symm, h₂, h₂'⟩

/-- A search the matcher rules out answers that nothing matches, without searching. -/
theorem searchPattern_of_ruledOut {m : Matcher} (r : Rule) {p : Pattern} {pos : Nat}
    {key : PatternKey} {regex : Regex}
    (hpat : ((patternIn g frame p).run m).1 = some (key, regex)) (h : m.ruledOut key pos = true) :
    ((searchPattern g line frame r p pos).run m).1 = none := by
  have hsearches : ((patternIn g frame p).run m).2.searches = m.searches := by
    cases p <;> rfl
  unfold searchPattern
  rw [run_bind_eq, hpat]
  dsimp only
  rw [run_get_bind, Matcher.ruledOut_congr hsearches, if_pos h]
  rfl

/-- A search that gives up is remembered as one that found nothing, so every later column of its
pattern is answered with no match. -/
theorem searchPattern_after_gaveUp {m : Matcher} (r : Rule) {p : Pattern} {b : Nat} (pos : Nat)
    {key : PatternKey} {regex : Regex}
    (hpat : ((patternIn g frame p).run m).1 = some (key, regex))
    (hgave : regex.search line.chars b = .gaveUp) (hfirst : m.ruledOut key b = false)
    (hb : b ≤ pos) :
    ((searchPattern g line frame r p b).run m).1 = none ∧
      ((searchPattern g line frame r p pos).run ((searchPattern g line frame r p b).run m).2).1 =
        none := by
  have hsearches : ((patternIn g frame p).run m).2.searches = m.searches := by
    cases p <;> rfl
  have hrun : (searchPattern g line frame r p b).run m =
      (none, ((patternIn g frame p).run m).2.remember ⟨key, b, none⟩) := by
    unfold searchPattern
    rw [run_bind_eq, hpat]
    dsimp only
    rw [run_get_bind, Matcher.ruledOut_congr hsearches, hfirst, if_neg Bool.false_ne_true,
      run_bind_eq, hgave]
    rfl
  rw [hrun]
  -- the second lookup gives the same key, now ruled out from `b` on
  refine ⟨rfl, searchPattern_of_ruledOut r (by rw [patternIn_again, hpat])
    (Matcher.ruledOut_remember_none _ _ hb)⟩

end Search

/-! ## Queries -/

/-- A question put to the matcher of a line: the first rule of `context` that matches at `pos`, in
the frame `frame` and with the word separators `seps`. -/
structure MatchQuery where
  context : Context
  seps : Separators
  frame : Frame
  pos : Nat

namespace MatchQuery

variable (g : Grammar) (line : Line)

/-- Puts the query to the matcher. -/
def ask (q : MatchQuery) : StateM Matcher (Option (Rule × Hit)) :=
  firstMatch g line q.seps q.frame q.pos q.context

/-- Every pattern the query could search, in its frame, searches the line like the oracle. -/
def SearchesLeftmost (q : MatchQuery) : Prop :=
  ∀ r ∈ Rule.subrulesOf q.context.rules, ∀ p, r.kind = .regExpr p →
    ∀ regex, p.CompilesTo g q.frame regex → regex.SearchesLeftmost line.chars

variable {g line}

/-- From a sound matcher a query is answered as from an empty memo, and leaves a sound matcher. -/
theorem ask_fresh {m : Matcher} (hm : m.Sound g line.chars) {q : MatchQuery}
    (hq : q.SearchesLeftmost g line) :
    ((q.ask g line).run m).1 = (q.ask g line).run' {} ∧
      ((q.ask g line).run m).2.Sound g line.chars := by
  have hsearch : SearchesRespect (fun m m' => m.Sound g line.chars ∧ m'.Sound g line.chars) g line
      q.frame (Rule.subrulesOf q.context.rules) :=
    fun r hr p hp pos => searchPattern_respects_sound r pos (hq r hr p hp)
  obtain ⟨h₁, h₂, -⟩ := firstMatch_respectsBy g line q.seps q.frame q.pos q.context hsearch m {}
    ⟨hm, sound_empty⟩
  exact ⟨h₁, h₂⟩

/-- A sequence of queries put to one sound matcher is answered as each is from an empty memo. -/
theorem answers_fresh (qs : List MatchQuery) (hqs : ∀ q ∈ qs, q.SearchesLeftmost g line)
    {m : Matcher} (hm : m.Sound g line.chars) :
    (qs.mapM (ask g line)).run' m = qs.map fun q => (q.ask g line).run' {} := by
  -- the induction carries the soundness of the matcher each query leaves
  induction qs generalizing m with
  | nil => rfl
  | cons q qs ih =>
    obtain ⟨h₁, h₂⟩ := ask_fresh hm (hqs q List.mem_cons_self)
    rw [List.mapM_cons, List.map_cons]
    show ((q.ask g line).run m).1 :: (qs.mapM (ask g line)).run' ((q.ask g line).run m).2 = _
    rw [h₁, ih (fun q' hq' => hqs q' (List.mem_cons_of_mem _ hq')) h₂]

end MatchQuery

/-! ## A search that gives up -/

namespace Regex

/-- A program that, searched from the start of a text that is not empty, waits there forever for
the end of the text, and elsewhere matches a `c`. -/
def stall : Program where
  ops := #[.split 1 4, .assert .startText, .split 3 2, .assert .endText, .save 0, .char 'c' false,
    .save 1, .done]
  slots := 2

/-- Waiting for the end of the text at column 0 resumes the same alternative until the machine
gives up. -/
theorem stall_runFor {text : Array Char} (hne : text.size ≠ 0) {start : Nat} :
    ∀ fuel (m : Machine), m.pc = 2 → m.pos = 0 → m.depth < stackLimit →
      stall.runFor text start fuel m = .exhausted := by
  intro fuel
  induction fuel using Nat.strong_induction_on with
  | _ fuel ih =>
  intro m hpc hpos hdepth
  match fuel with
  | 0 => rfl
  | 1 => simp [Program.runFor, Program.step, stall, hpc, Machine.push, Nat.not_le.2 hdepth]
  | n + 2 =>
    have hend : ¬ 0 = text.size := fun h => hne h.symm
    simp [Program.runFor, Program.step, stall, hpc, hpos, Machine.push, Nat.not_le.2 hdepth,
      Assertion.holds, Machine.pop, hend]
    intro _
    exact ih n (by omega) _ rfl rfl hdepth

def stallRegex : Regex := ⟨"", 0, .backtracking stall⟩

theorem stallRegex_gaveUp : stallRegex.search #['x', 'c'] 0 = .gaveUp := by
  obtain ⟨k, hk⟩ : ∃ k, (backtrackLimit + 2) * (stall.ops.size + 2) * (#['x', 'c'].size + 2) =
      k + 2 := ⟨_, (Nat.sub_add_cancel (by decide)).symm⟩
  simp only [stallRegex, Regex.search, Engine.run, Program.run]
  rw [hk]
  simp only [Program.runFor, Program.step, stall]
  simp [Machine.push, Assertion.holds, stackLimit]
  show Outcome.found 0 (stall.runFor _ _ k _) = _
  rw [stall_runFor (by decide) k _ rfl rfl (by decide)]
  rfl

theorem stallRegex_matches : stallRegex.search #['x', 'c'] 1 = .spans #[some (1, 2)] := by
  obtain ⟨k, hk⟩ : ∃ k, (backtrackLimit + 2) * (stall.ops.size + 2) * (#['x', 'c'].size + 2) =
      k + 6 := ⟨_, (Nat.sub_add_cancel (by decide)).symm⟩
  simp only [stallRegex, Regex.search, Engine.run, Program.run]
  rw [hk]
  simp [Program.runFor, Program.step, stall, Machine.push, Machine.pop, Machine.write,
    Assertion.holds, charMatches, Outcome.found, spansOf, stackLimit, backtrackLimit]
  exact ⟨0, rfl, rfl⟩

end Regex

/-- A rule that searches the first pattern of the table. -/
def stallRule : Rule := ⟨.regExpr (.fixed "" 0), 0, {}, false, false, none, false, []⟩

def stallGrammar : Grammar := { (default : Grammar) with patterns := #[Regex.stallRegex] }

/-- The rule asked for at column 0, then at column 1. -/
def stallQueries : List MatchQuery :=
  [⟨{ (default : Context) with rules := [stallRule] }, default, default, 0⟩,
   ⟨{ (default : Context) with rules := [stallRule] }, default, default, 1⟩]

/-- On the line `xc`, the search from column 0 gives up and is remembered as finding nothing, so
the memo answers no match at column 1, where a search from an empty memo finds `c`. -/
theorem stall_answers :
    (stallQueries.mapM (MatchQuery.ask stallGrammar ⟨#['x', 'c'], 0⟩)).run' {} = [none, none] ∧
      (stallQueries.map fun q => (q.ask stallGrammar ⟨#['x', 'c'], 0⟩).run' {}) =
        [none, some (stallRule, { stop := 2 })] := by
  constructor
  · simp [stallQueries, MatchQuery.ask, firstMatch, matchRule, matchKind, searchPattern, patternIn,
      stallGrammar, stallRule, Regex.stallRegex_gaveUp, Matcher.ruledOut, Matcher.remember]
    rfl
  · simp [stallQueries, MatchQuery.ask, firstMatch, matchRule, matchKind, searchPattern, patternIn,
      stallGrammar, stallRule, Regex.stallRegex_gaveUp, Regex.stallRegex_matches, Matcher.ruledOut,
      Matcher.remember, Line.size, Rule.pushesDynamic]
    exact ⟨rfl, rfl⟩

/-- The search memo never changes an answer while the regex engine searches like an oracle for
the leftmost match, and stops being sound once a search gives up. Every sequence of queries put to
one matcher of a line, at any columns in any order, in any contexts and frames, is answered as
each query is from an empty memo, when every pattern the queries could search searches the line
like the oracle. A search that gives up is remembered as one that found nothing, so every later
column of its pattern is answered with no match; on some line this changes an answer. -/
theorem searchMemo_answers_fresh :
    (∀ (g : Grammar) (line : Line) (qs : List MatchQuery), (∀ q ∈ qs, q.SearchesLeftmost g line) →
      (qs.mapM (MatchQuery.ask g line)).run' {} = qs.map fun q => (q.ask g line).run' {}) ∧
    (∀ (g : Grammar) (line : Line) (frame : Frame) (r : Rule) (p : Pattern) (b pos : Nat)
        (key : PatternKey) (regex : Regex) (m : Matcher),
        ((patternIn g frame p).run m).1 = some (key, regex) →
        regex.search line.chars b = .gaveUp → m.ruledOut key b = false → b ≤ pos →
        ((searchPattern g line frame r p pos).run
          ((searchPattern g line frame r p b).run m).2).1 = none) ∧
    ∃ (g : Grammar) (line : Line) (qs : List MatchQuery) (regex : Regex),
      g.patterns[0]? = some regex ∧ regex.search line.chars 0 = .gaveUp ∧
      regex.search line.chars 1 = .spans #[some (1, 2)] ∧
      (qs.mapM (MatchQuery.ask g line)).run' {} ≠ qs.map fun q => (q.ask g line).run' {} := by
  refine ⟨fun g line qs hqs => MatchQuery.answers_fresh qs hqs sound_empty,
    fun g line frame r p b pos key regex m hpat hgave hfirst hb =>
      (searchPattern_after_gaveUp r pos hpat hgave hfirst hb).2,
    stallGrammar, ⟨#['x', 'c'], 0⟩, stallQueries, Regex.stallRegex, rfl, Regex.stallRegex_gaveUp,
    Regex.stallRegex_matches, ?_⟩
  rw [stall_answers.1, stall_answers.2]
  intro h
  cases h

/-! ## A pattern that searches like the oracle -/

namespace Regex

/-- A program that scans forward for a `c`. -/
def scanC : Program where
  ops := #[.split 3 1, .any true, .jump 0, .save 0, .char 'c' false, .save 1, .done]
  slots := 2

def scanRegex : Regex := ⟨"c", 0, .backtracking scanC⟩

theorem scanRegex_search_zero : scanRegex.search #['x', 'c'] 0 = .spans #[some (1, 2)] := by
  obtain ⟨k, hk⟩ : ∃ k, (backtrackLimit + 2) * (scanC.ops.size + 2) * (#['x', 'c'].size + 2) =
      k + 10 := ⟨_, (Nat.sub_add_cancel (by decide)).symm⟩
  simp only [scanRegex, Regex.search, Engine.run, Program.run]
  rw [hk]
  simp [Program.runFor, Program.step, scanC, Machine.push, Machine.pop, Machine.write,
    charMatches, anyMatches, Outcome.found, spansOf, stackLimit, backtrackLimit]
  exact ⟨0, rfl, rfl⟩

theorem scanRegex_search_one : scanRegex.search #['x', 'c'] 1 = .spans #[some (1, 2)] := by
  obtain ⟨k, hk⟩ : ∃ k, (backtrackLimit + 2) * (scanC.ops.size + 2) * (#['x', 'c'].size + 2) =
      k + 5 := ⟨_, (Nat.sub_add_cancel (by decide)).symm⟩
  simp only [scanRegex, Regex.search, Engine.run, Program.run]
  rw [hk]
  simp [Program.runFor, Program.step, scanC, Machine.push, Machine.write, charMatches,
    Outcome.found, spansOf, stackLimit]
  exact ⟨0, rfl, rfl⟩

theorem scanRegex_search_end {b : Nat} (hb : 2 ≤ b) : scanRegex.search #['x', 'c'] b = .none := by
  obtain ⟨k, hk⟩ : ∃ k, (backtrackLimit + 2) * (scanC.ops.size + 2) * (#['x', 'c'].size + 2) =
      k + 4 := ⟨_, (Nat.sub_add_cancel (by decide)).symm⟩
  have hend : (#['x', 'c'] : Array Char)[b]? = none := Array.getElem?_eq_none (by simpa using hb)
  simp only [scanRegex, Regex.search, Engine.run, Program.run]
  rw [hk]
  simp [Program.runFor, Program.step, scanC, Machine.push, Machine.pop, Machine.write,
    hend, Outcome.found, stackLimit, backtrackLimit]

/-- On `xc` the only match starts at column 1, and every search from column 1 or before finds it. -/
theorem scanRegex_leftmost : scanRegex.SearchesLeftmost #['x', 'c'] := by
  refine ⟨fun p => if p = 1 then some #[some (1, 2)] else none, fun p gs h => ?_, fun b => ?_⟩
  · dsimp only at h
    split at h
    · cases h
      simp [Found.start?, *]
    · cases h
  · match b with
    | 0 => exact .inr ⟨1, _, Nat.zero_le _, fun q _ hq => by simp; omega, if_pos rfl,
        scanRegex_search_zero⟩
    | 1 => exact .inr ⟨1, _, le_rfl, fun q hq hq' => by omega, if_pos rfl, scanRegex_search_one⟩
    | b + 2 => exact .inl ⟨scanRegex_search_end (by omega), fun p hp => if_neg (by omega)⟩

end Regex

def scanRule : Rule := ⟨.regExpr (.fixed "c" 0), 0, {}, false, false, none, false, []⟩

def scanGrammar : Grammar := { (default : Grammar) with patterns := #[Regex.scanRegex] }

/-- The rule asked for at column 1, then at column 0. -/
def scanQueries : List MatchQuery :=
  [⟨{ (default : Context) with rules := [scanRule] }, default, default, 1⟩,
   ⟨{ (default : Context) with rules := [scanRule] }, default, default, 0⟩]

theorem scanQueries_searchesLeftmost :
    ∀ q ∈ scanQueries, q.SearchesLeftmost scanGrammar ⟨#['x', 'c'], 0⟩ := by
  intro q hq r hr p hp regex hc
  have hrules : q.context.rules = [scanRule] := by
    simp only [scanQueries, List.mem_cons, List.not_mem_nil, or_false] at hq
    rcases hq with rfl | rfl <;> rfl
  rw [hrules] at hr
  simp only [Rule.subrulesOf_cons, Rule.subrules_eq, Rule.subrulesOf_nil, List.mem_cons,
    List.append_nil] at hr
  rcases hr with rfl | hr
  · cases hp
    cases hc
    exact Regex.scanRegex_leftmost
  · simp [scanRule] at hr

theorem searchMemo_answers_fresh_scan :
    (∀ q ∈ scanQueries, q.SearchesLeftmost scanGrammar ⟨#['x', 'c'], 0⟩) ∧
      (scanQueries.mapM (MatchQuery.ask scanGrammar ⟨#['x', 'c'], 0⟩)).run' {} =
        scanQueries.map fun q => (q.ask scanGrammar ⟨#['x', 'c'], 0⟩).run' {} :=
  ⟨scanQueries_searchesLeftmost,
    searchMemo_answers_fresh.1 _ _ _ scanQueries_searchesLeftmost⟩

end Highlight

import Highlight.Proofs.SearchMemo
import Highlight.Proofs.Stack
/-!
# Parses that share a grammar's cache

A grammar keeps the dynamic patterns it compiled for every later parse: of later lines of one
document, and of every other document parsed with it. What the cache holds after any earlier
parses is as parses leave it (`cacheAfter_valid`), so looking a pattern up in it gives what
compiling the pattern gives, whatever the cache held and after any number of times it was emptied.

The identities of compilations are what the matcher of a line remembers its searches under, and a
pattern compiled again after the cache was emptied gets a new one. While the regex engine searches
the line like an oracle for the leftmost match, the memo never changes an answer, whatever the
identities are (`Matcher.SoundWith`): a line parses with the cache earlier parses left exactly as
with an empty one (`parseLineWith_eq_parseLine`), and so parsing lines in order with one cache is
parsing each afresh (`parseLines_eq_rescan`).
-/

namespace Highlight

namespace RegexCache

variable {c : RegexCache}

/-- The pattern an identity stands for in a cache: that of an entry compiled under it. -/
def regexOf (c : RegexCache) (id : Nat) : Option Regex :=
  c.entries.findSome? fun e => (e.2.filter (·.id == id)).map (·.regex)

/-- In a cache as parses leave it, every identity names the pattern of its compilation and no
identity still to be handed out names one. -/
theorem Valid.names (hc : c.Valid) : c.Names c.regexOf := by
  refine ⟨fun e he r hr => ?_, fun id hid => ?_⟩
  · -- some entry holds a compilation under `r.id`, and all of them hold `r`'s pattern
    have hsome : ((e.2.filter (·.id == r.id)).map (·.regex)) = some r.regex := by
      rw [Option.mem_def.1 hr]
      simp
    cases hfind : c.entries.findSome? fun e => (e.2.filter (·.id == r.id)).map (·.regex) with
    | none =>
      have hnone := List.findSome?_eq_none_iff.1 hfind e he
      rw [hsome] at hnone
      cases hnone
    | some regex =>
    obtain ⟨e', he', hr'⟩ := List.exists_of_findSome?_eq_some hfind
    obtain ⟨r', hr'mem, hid, rfl⟩ : ∃ r' ∈ e'.2, r'.id = r.id ∧ r'.regex = regex := by
      obtain ⟨r', hfilt, rfl⟩ := Option.map_eq_some_iff.1 hr'
      obtain ⟨hmem, hid⟩ := Option.filter_eq_some_iff.1 hfilt
      exact ⟨r', hmem, beq_iff_eq.1 hid, rfl⟩
    rw [regexOf, hfind, hc.same e' he' e he r' hr'mem r hr hid]
  · -- every identity in the cache was handed out before `nextId`
    refine List.findSome?_eq_none_iff.2 fun e he => ?_
    cases hr : e.2 with
    | none => rfl
    | some r =>
      have hlt := hc.below e he r hr
      have hne : r.id ≠ id := by omega
      simp [hne]

end RegexCache

namespace Matcher

/-- A matcher that starts a line with a cache as parses leave it remembers nothing wrong. -/
theorem sound_ofCache {g : Grammar} {text : Array Char} {c : RegexCache} (hc : c.Valid) :
    ({ cache := c } : Matcher).Sound g text :=
  ⟨c.regexOf, hc, hc.names, fun _ h => by cases h⟩

end Matcher

namespace Grammar

/-- Every pattern any rule of any context could search, in any frame, searches the line like the
oracle for the leftmost match. -/
def SearchesLeftmost (g : Grammar) (line : Line) : Prop :=
  ∀ (frame : Frame) (id : Nat), ∀ r ∈ Rule.subrulesOf (g.context id).rules, ∀ p,
    r.kind = .regExpr p → ∀ regex, p.CompilesTo g frame regex → regex.SearchesLeftmost line.chars

end Grammar

section Shared

variable {g : Grammar} {limits : ParseLimits}

/-- The main loop leaves the cache as parses leave it. -/
theorem scanLoop_compiled {line : Line} {pos : Nat} {p : Progress} {m : Matcher}
    (hm : m.Compiled) : (scanLoop g limits line pos p m).2.Compiled := by
  fun_induction scanLoop g limits line pos p m with
  | case1 pos p m hpos next ih => exact ih (LineState.scanStep_reaches hm).2
  | case2 pos p m hpos => exact hm

theorem parseLineWith_valid {c : RegexCache} (hc : c.Valid) (text : String)
    (previous : LineState) (limits : ParseLimits) : (g.parseLineWith c text previous limits).2.Valid :=
  scanLoop_compiled (m := { cache := c }) hc

/-- **A line parses with a cache earlier parses left as with an empty one**, while its patterns
search it like the oracle. Both parses run the same main loop, from a matcher that remembers no
search; every pattern search from two sound matchers answers alike and leaves sound matchers, so
the two loops make the same passes. -/
theorem parseLineWith_eq_parseLine {c : RegexCache} (hc : c.Valid) {text : String}
    (hleft : g.SearchesLeftmost (Line.ofString text)) (previous : LineState) (limits : ParseLimits) :
    (g.parseLineWith c text previous limits).1 = g.parseLine text previous limits := by
  have hsearch : ∀ (frame : Frame) (id : Nat), Matcher.SearchesRespect
      (fun m m' => m.Sound g (Line.ofString text).chars ∧ m'.Sound g (Line.ofString text).chars)
      g (Line.ofString text) frame (Rule.subrulesOf (g.context id).rules) :=
    fun frame id r hr p hp pos => searchPattern_respects_sound r pos (hleft frame id r hr p hp)
  have hloop := (scanLoop_respectsBy limits hsearch 0
    { state := previous, spans := #[], zeroSteps := 0, continued := false } { cache := c } {}
    ⟨Matcher.sound_ofCache hc, Matcher.sound_empty⟩).1
  unfold Grammar.parseLine Grammar.parseLineWith
  dsimp only
  rw [hloop]

/-- Lines parsed in order with one cache, as a document parses them, parse as each does afresh,
while their patterns search them like the oracle. -/
theorem parseLines_eq_rescan : ∀ {c : RegexCache} {s : LineState} (texts : List String),
    c.Valid → (∀ text ∈ texts, g.SearchesLeftmost (Line.ofString text)) →
      g.parseLines limits c s texts = g.rescan limits s texts
  | _, _, [], _, _ => rfl
  | c, s, text :: texts, hc, hleft => by
    have hline := parseLineWith_eq_parseLine hc (hleft text List.mem_cons_self) s limits
    rw [Grammar.parseLines, Grammar.rescan_cons, hline,
      parseLines_eq_rescan texts (parseLineWith_valid hc text s limits)
        fun t ht => hleft t (List.mem_cons_of_mem _ ht)]

end Shared

end Highlight

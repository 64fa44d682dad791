import Highlight.Proofs.Matcher
import Highlight.Proofs.Layout
import Highlight.Line.Parse
/-!
# Matching steps that respect a relation between matchers

The matcher a line is matched with holds only what matching remembers: the latest search of each
pattern, and the grammar's cache of dynamic patterns. To show that something remembered never
changes a match, it is enough to find a relation between matchers that every matching step
respects: from related matchers a step gives the same result and leaves related matchers
(`Matcher.RespectsBy`).

Of all the rule kinds only a pattern search reads the matcher. So a relation that the pattern
searches of a context's rules respect, at every column, is respected by every kind of rule, by a
rule with its children and by the first match in the context (`firstMatch_respectsBy`), and then by
each pass of the parser and its whole main loop (`scanLoop_respectsBy`). These proofs are made once
here, for any relation.
-/

namespace Highlight

namespace Matcher

/-- A matching step respects `R`: from related matchers it gives the same result and leaves
related matchers. -/
def RespectsBy {α : Type} (R : Matcher → Matcher → Prop) (x : StateM Matcher α) : Prop :=
  ∀ m m', R m m' → (x.run m).1 = (x.run m').1 ∧ R (x.run m).2 (x.run m').2

section RespectsBy

variable {α β : Type} {R : Matcher → Matcher → Prop}

theorem run_bind_eq (x : StateM Matcher α) (f : α → StateM Matcher β) (m : Matcher) :
    (x >>= f).run m = (f (x.run m).1).run (x.run m).2 := rfl

theorem run_get_bind (f : Matcher → StateM Matcher α) (m : Matcher) :
    (get >>= f).run m = (f m).run m := rfl

theorem RespectsBy.pure (a : α) : RespectsBy R (pure a : StateM Matcher α) :=
  fun _ _ h => ⟨rfl, h⟩

theorem RespectsBy.bind {x : StateM Matcher α} {f : α → StateM Matcher β} (hx : RespectsBy R x)
    (hf : ∀ a, RespectsBy R (f a)) : RespectsBy R (x >>= f) := by
  intro m m' h
  obtain ⟨h₁, h₂⟩ := hx m m' h
  rw [run_bind_eq, run_bind_eq, ← h₁]
  exact hf _ _ _ h₂

end RespectsBy

/-- Every pattern search of one of `rules` respects `R`, at every column. -/
def SearchesRespect (R : Matcher → Matcher → Prop) (g : Grammar) (line : Line) (frame : Frame)
    (rules : List Rule) : Prop :=
  ∀ r ∈ rules, ∀ p, r.kind = .regExpr p → ∀ pos, RespectsBy R (searchPattern g line frame r p pos)

end Matcher

open Matcher

section Match

variable {R : Matcher → Matcher → Prop} (g : Grammar) (line : Line) (seps : Separators)
  (frame : Frame)

theorem matchKind_respectsBy {pos : Nat} {r : Rule} (hpos : pos < line.size)
    (h : ∀ p, r.kind = .regExpr p → RespectsBy R (searchPattern g line frame r p pos)) :
    RespectsBy R (matchKind g line seps frame pos hpos r) := by
  unfold matchKind
  cases hk : r.kind <;> simp only
  case regExpr p => exact h p hk
  case detectIdentifier => split <;> exact RespectsBy.pure _
  -- every other kind matches without the matcher
  all_goals exact RespectsBy.pure _

mutual

theorem matchRule_respectsBy : ∀ (pos : Nat) (r : Rule), SearchesRespect R g line frame r.subrules →
    RespectsBy R (matchRule g line seps frame pos r)
  | pos, ⟨kind, attr, switch, lookAhead, firstNonSpace, column, dynamic, children⟩, h => by
    rw [Rule.subrules_eq] at h
    have hown := fun p hp => h _ List.mem_cons_self p hp pos
    have hchildren : SearchesRespect R g line frame (Rule.subrulesOf children) :=
      fun r' hr' => h r' (List.mem_cons_of_mem _ hr')
    unfold matchRule
    -- the column conditions and the line end refuse without the matcher
    split
    · exact RespectsBy.pure _
    split
    · exact RespectsBy.pure _
    split
    · refine RespectsBy.bind (matchKind_respectsBy g line seps frame _ hown) fun o => ?_
      split
      · split
        · exact RespectsBy.pure _
        · exact RespectsBy.bind (matchChildren_respectsBy _ _ hchildren) fun _ => RespectsBy.pure _
      · exact RespectsBy.pure _
    · exact RespectsBy.pure _

theorem matchChildren_respectsBy : ∀ (pos : Nat) (rs : List Rule),
    SearchesRespect R g line frame (Rule.subrulesOf rs) →
      RespectsBy R (matchChildren g line seps frame pos rs)
  | pos, [], _ => RespectsBy.pure _
  | pos, c :: cs, h => by
    unfold matchChildren
    refine RespectsBy.bind
      (matchRule_respectsBy pos c fun r hr => h r (List.mem_append_left _ hr)) fun o => ?_
    split
    · exact RespectsBy.pure _
    · exact matchChildren_respectsBy pos cs fun r hr => h r (List.mem_append_right _ hr)

end

theorem firstMatch_respectsBy (pos : Nat) (ctx : Context)
    (h : SearchesRespect R g line frame (Rule.subrulesOf ctx.rules)) :
    RespectsBy R (firstMatch g line seps frame pos ctx) := by
  unfold firstMatch
  generalize ctx.rules = rs at h
  induction rs with
  | nil => exact RespectsBy.pure _
  | cons r rs ih =>
    rw [List.findSomeM?_cons]
    have hr : SearchesRespect R g line frame r.subrules :=
      fun r' hr' => h r' (List.mem_append_left _ hr')
    refine RespectsBy.bind (RespectsBy.bind (matchRule_respectsBy g line seps frame pos r hr)
      fun _ => RespectsBy.pure _) fun o => ?_
    split
    · exact RespectsBy.pure _
    · exact ih fun r' hr' => h r' (List.mem_append_right _ hr')

end Match

/-! ## Parsing respects a relation -/

section Scan

variable {R : Matcher → Matcher → Prop} {g : Grammar} {line : Line}

/-- A pass of the parser from related matchers reaches the same column and progress, and leaves
related matchers, when the first match at its column respects the relation. -/
theorem scanStep_respectsBy (limits : ParseLimits) {pos : Nat} {p : Progress}
    (h : RespectsBy R (firstMatch g line (g.separatorsOf p.state.top.context) p.state.top pos
      (g.context p.state.top.context))) {m m' : Matcher} (hR : R m m') :
    (scanStep g limits line pos p m).1 = (scanStep g limits line pos p m').1 ∧
      (scanStep g limits line pos p m).2.1 = (scanStep g limits line pos p m').2.1 ∧
      R (scanStep g limits line pos p m).2.2 (scanStep g limits line pos p m').2.2 := by
  obtain ⟨hfound, hrel⟩ := h m m' hR
  unfold scanStep
  dsimp only
  generalize (firstMatch g line (g.separatorsOf p.state.top.context) p.state.top pos
    (g.context p.state.top.context)).run m = x at hfound hrel ⊢
  generalize (firstMatch g line (g.separatorsOf p.state.top.context) p.state.top pos
    (g.context p.state.top.context)).run m' = x' at hfound hrel ⊢
  obtain ⟨found, m₁⟩ := x
  obtain ⟨found', m₁'⟩ := x'
  dsimp only at hfound hrel ⊢
  subst hfound
  -- every branch returns the matcher the search left
  split <;> (try split) <;> (try split) <;> exact ⟨rfl, rfl, hrel⟩

/-- **The main loop respects a relation that every pattern search respects.** When the pattern
searches of every context's rules respect `R` in every frame, the main loop from related matchers
ends with the same progress and leaves related matchers. -/
theorem scanLoop_respectsBy (limits : ParseLimits)
    (hsearch : ∀ (frame : Frame) (id : Nat),
      SearchesRespect R g line frame (Rule.subrulesOf (g.context id).rules))
    (pos : Nat) (p : Progress) (m : Matcher) :
    ∀ m', R m m' → (scanLoop g limits line pos p m).1 = (scanLoop g limits line pos p m').1 ∧
      R (scanLoop g limits line pos p m).2 (scanLoop g limits line pos p m').2 := by
  -- the induction follows the loop from `m`; the loop from `m'` makes the same passes
  fun_induction scanLoop g limits line pos p m with
  | case1 pos p m hpos next ih =>
    intro m' h
    obtain ⟨h₁, h₂, h₃⟩ := scanStep_respectsBy limits
      (firstMatch_respectsBy g line _ _ pos _ (hsearch p.state.top p.state.top.context)) h
    rw [scanLoop_of_lt hpos, ← h₁, ← h₂]
    exact ih _ h₃
  | case2 pos p m hpos =>
    intro m' h
    rw [scanLoop_of_size_le (Nat.not_lt.1 hpos)]
    exact ⟨rfl, h⟩

end Scan

end Highlight

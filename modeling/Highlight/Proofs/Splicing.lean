import Highlight.Proofs.Walks
import Highlight.Proofs.Layout
/-!
# Splicing included rules

A rule `IncludeRules` stands for the rules of another context, which may include rules in turn.
Compiling a context replaces every inclusion, in place and in order, by the rules of the context
it names, flattened the same way (`Tables.Flattens`); every other rule is compiled in the
definition and context it is written in, and takes that context's attribute as its default. The
context's own attribute is that of the context named by its last inclusion that adopts
attributes, if there is one (`Tables.adopted`).

Splicing follows inclusions depth first and keeps the contexts on its path, failing when an
inclusion names a context on the path. It keeps no record of what it spliced before, so a context
included along two paths is spliced twice and only the path decides. When every inclusion reached
from a context resolves, splicing the context fails exactly when some walk of inclusions from it
comes back to a context it passed, and otherwise gives the flattened rules (`expand_flattens`).

The proof carries two facts through the search. Going down, every context on the path is reached
from the start and reaches the current one, so an inclusion back onto the path closes a cycle
(`expand_error`). Coming back up, a context whose splicing succeeded reaches no context on the
path and lies on no cycle (`expand_ok`). The fuel, one more than the number of contexts, is never
used up, because the path holds distinct declared contexts.
-/

namespace Highlight

namespace Grammar

namespace Tables

open Relation

variable (t : Tables)

/-- Context `v` includes the rules of context `w`: one of its rules is an inclusion naming `w`. -/
def Splices (v w : Nat × Nat) : Prop :=
  ∃ rule ∈ (t.contextDef v.1 v.2).rules, ∃ r a, rule.kind = .includeRules r a ∧ t.target v.1 r = some w

/-- `t.Flattens g c rules placed`: `placed` is `rules`, written in context `c` of definition `g`,
with every inclusion replaced in place by the rules of the context it names, flattened the same
way, and every other rule placed with the context it is written in. -/
inductive Flattens (t : Tables) : Nat → Nat → List Definition.Rule → List Placed → Prop
  | nil {g c : Nat} : Flattens t g c [] []
  | splice {g c : Nat} {rule : Definition.Rule} {rules : List Definition.Rule}
      {r : Definition.Target} {a : Bool} {tg tc : Nat} {inner rest : List Placed} :
      rule.kind = .includeRules r a → t.target g r = some (tg, tc) →
      Flattens t tg tc (t.contextDef tg tc).rules inner → Flattens t g c rules rest →
      Flattens t g c (rule :: rules) (inner ++ rest)
  | written {g c : Nat} {rule : Definition.Rule} {rules : List Definition.Rule}
      {rest : List Placed} :
      (∀ r a, rule.kind ≠ .includeRules r a) → Flattens t g c rules rest →
      Flattens t g c (rule :: rules) (⟨g, c, rule⟩ :: rest)

/-- The context named by the last inclusion among `rules`, written in definition `g`, that adopts
the attributes of the context it includes. -/
def adopted (g : Nat) (rules : List Definition.Rule) : Option (Nat × Nat) :=
  (rules.filterMap fun rule => match rule.kind with
    | .includeRules r true => t.target g r
    | _ => none).getLast?

variable {t}

/-- Flattening two runs of rules flattens them one after the other. -/
theorem Flattens.append {g c : Nat} {xs ys : List Definition.Rule} {ps qs : List Placed}
    (hx : t.Flattens g c xs ps) (hy : t.Flattens g c ys qs) : t.Flattens g c (xs ++ ys) (ps ++ qs) := by
  induction hx with
  | nil => exact hy
  | splice hk ht hinner _ _ ih => simpa [List.append_assoc] using Flattens.splice hk ht hinner (ih hy)
  | written hk _ ih => exact Flattens.written hk (ih hy)

/-- An inclusion at the end adopts the context it names when it adopts attributes. -/
theorem adopted_snoc_include {g : Nat} {rules : List Definition.Rule} {rule : Definition.Rule}
    {r : Definition.Target} {a : Bool} {w : Nat × Nat} (hk : rule.kind = .includeRules r a)
    (ht : t.target g r = some w) :
    t.adopted g (rules ++ [rule]) = if a then some w else t.adopted g rules := by
  cases a <;> simp [adopted, List.filterMap_append, hk, ht]

/-- A rule that includes nothing leaves the adopted context alone. -/
theorem adopted_snoc_written {g : Nat} {rules : List Definition.Rule} {rule : Definition.Rule}
    (hk : ∀ r a, rule.kind ≠ .includeRules r a) : t.adopted g (rules ++ [rule]) = t.adopted g rules := by
  have hnone : (match rule.kind with
      | .includeRules r true => t.target g r
      | _ => none) = none := by
    split
    · next r h => exact absurd h (hk r true)
    · rfl
  simp [adopted, List.filterMap_append, hnone]

/-- A path of distinct declared contexts is no longer than the number of declared contexts. -/
theorem length_le_of_declared {S : List (Nat × Nat)} (hS : ∀ x ∈ S, t.Declares x.1 x.2)
    (hnd : S.Nodup) : S.length ≤ (contextRefs t.defs).length :=
  hnd.length_le_of_subset fun x hx => mem_contextRefs.2 (hS x hx)

/-- Splicing fails only by closing a cycle, when every inclusion reached from `root` resolves.
Going down, every context on the path is reached from `root` and reaches the current context, so
an inclusion back onto the path closes a cycle through that context. -/
theorem expand_error {root : Nat × Nat}
    (hres : ∀ v, ReflTransGen t.Splices root v → ∀ rule ∈ (t.contextDef v.1 v.2).rules,
      ∀ r a, rule.kind = .includeRules r a → t.target v.1 r ≠ none) :
    ∀ (fuel g c : Nat) (S : List (Nat × Nat)) (e : LoadError),
      (∀ x ∈ S ++ [(g, c)], ReflTransGen t.Splices root x ∧ ReflTransGen t.Splices x (g, c)) →
      t.expand fuel g c S = .error e → CycleFrom t.Splices root ∧ ∃ n p, e = .ruleIncludeCycle n p
  | 0, _, _, _, _, _, h => by cases h
  | fuel + 1, g, c, S, e, hpath, h => by
    rw [expand] at h
    dsimp only at h
    obtain ⟨⟨out, adopt⟩, rule, hrule, hstep⟩ := foldlM_error_mem h
    have hgc := (hpath (g, c) (List.mem_append_right _ (List.mem_singleton_self _))).1
    dsimp only at hstep
    split at hstep
    · next r a hkind =>
      split at hstep
      · next tg tc htarget =>
        have hsplice : t.Splices (g, c) (tg, tc) := ⟨rule, hrule, r, a, hkind, htarget⟩
        split at hstep
        · -- the inclusion names a context on the path: a cycle through it
          next hon =>
          cases hstep
          obtain ⟨hfrom, hto⟩ := hpath (tg, tc) (List.contains_iff_mem.1 hon)
          exact ⟨⟨(tg, tc), hfrom, TransGen.tail' hto hsplice⟩, _, _, rfl⟩
        · -- splicing the named context failed, on the longer path
          rcases except_bind_error hstep with hstep | ⟨⟨inner, adopt'⟩, -, hstep⟩
          · refine expand_error hres fuel tg tc _ e (fun x hx => ?_) hstep
            rcases List.mem_append.1 hx with hx | hx
            · obtain ⟨hfrom, hto⟩ := hpath x hx
              exact ⟨hfrom, hto.tail hsplice⟩
            · rw [List.mem_singleton.1 hx]
              exact ⟨hgc.tail hsplice, .refl⟩
          · cases hstep
      · -- an inclusion reached from `root` resolves
        next htarget =>
        obtain ⟨⟨tg, tc⟩, hsome⟩ := Option.ne_none_iff_exists'.1 (hres (g, c) hgc rule hrule r a hkind)
        exact absurd hsome (htarget tg tc)
    · cases hstep

variable (ht : t.Sound) (hnames : t.names.size = t.defs.size)
include ht hnames

/-- Splicing a context off the path `S` that succeeds: no context reached from it is on the
path or on a cycle, its rules are flattened, and it adopts the attribute of its last adopting
inclusion. The induction is on the fuel, which the path's length leaves enough of. -/
theorem expand_ok :
    ∀ (fuel g c : Nat) (S : List (Nat × Nat)) (placed : List Placed) (adopt : Option (Nat × Nat)),
      (contextRefs t.defs).length + 1 ≤ fuel + S.length → (∀ x ∈ S, t.Declares x.1 x.2) →
      S.Nodup → t.Declares g c → (g, c) ∉ S → t.expand fuel g c S = .ok (placed, adopt) →
      (∀ u, ReflTransGen t.Splices (g, c) u → u ∉ S ∧ ¬TransGen t.Splices u u) ∧
        t.Flattens g c (t.contextDef g c).rules placed ∧ adopt = t.adopted g (t.contextDef g c).rules
  | 0, g, c, S, placed, adopt, hfuel, hS, hnd, hgc, hout, _ => by
    have := length_le_of_declared (S := (g, c) :: S)
      (fun x hx => (List.mem_cons.1 hx).elim (fun h => h ▸ hgc) (hS x)) (List.nodup_cons.2 ⟨hout, hnd⟩)
    simp only [List.length_cons] at this
    omega
  | fuel + 1, g, c, S, placed, adopt, hfuel, hS, hnd, hgc, hout, h => by
    rw [expand] at h
    dsimp only at h
    -- the contexts it includes are spliced away from the path extended by `(g, c)`
    have hS' : ∀ x ∈ S ++ [(g, c)], t.Declares x.1 x.2 := by
      intro x hx
      rcases List.mem_append.1 hx with hx | hx
      · exact hS x hx
      · rw [List.mem_singleton.1 hx]
        exact hgc
    have hnd' : (S ++ [(g, c)]).Nodup := by
      rw [List.nodup_append]
      refine ⟨hnd, List.nodup_singleton _, fun a ha b hb => ?_⟩
      rw [List.mem_singleton.1 hb]
      exact fun hab => hout (hab ▸ ha)
    have hfuel' : (contextRefs t.defs).length + 1 ≤ fuel + (S ++ [(g, c)]).length := by
      simp only [List.length_append, List.length_singleton]
      omega
    -- each rule extends what is spliced so far
    have hrun := foldlM_ok_prefix (P := fun pre (acc : List Placed × Option (Nat × Nat)) =>
        (∀ rule ∈ pre, ∀ r a w, rule.kind = .includeRules r a → t.target g r = some w →
          ∀ u, ReflTransGen t.Splices w u → u ∉ S ++ [(g, c)] ∧ ¬TransGen t.Splices u u) ∧
        t.Flattens g c pre acc.1 ∧ acc.2 = t.adopted g pre)
      _ (fun pre acc rule acc' hrule hP hstep => ?_) [] _ _ ⟨by simp, .nil, rfl⟩ h
    · obtain ⟨hreach, hflat, hadopt⟩ := hrun
      rw [List.nil_append] at hreach hflat hadopt
      -- what `(g, c)` reaches is itself or reached through one of its inclusions
      refine ⟨fun u hu => (reach_of_successors (Q := fun _ => True) trivial hout
        (fun w hw u hwu => ?_) u hu).2, hflat, hadopt⟩
      obtain ⟨rule, hrule, r, a, hk, htw⟩ := hw
      exact ⟨trivial, hreach rule hrule r a w hk htw u hwu⟩
    obtain ⟨out, adopt₀⟩ := acc
    obtain ⟨hreach₀, hflat₀, hadopt₀⟩ := hP
    dsimp only at hstep
    split at hstep
    · -- an inclusion splices the context it names, which must be off the path
      next r a hkind =>
      split at hstep
      · next tg tc htarget =>
        split at hstep
        · cases hstep
        · next hnot =>
          obtain ⟨⟨inner, adopt'⟩, hinner, hstep⟩ := except_bind_ok hstep
          cases hstep
          have hw : (tg, tc) ∉ S ++ [(g, c)] := fun hm => hnot (List.contains_iff_mem.2 hm)
          obtain ⟨hreach', hflat', -⟩ := expand_ok fuel tg tc _ inner adopt' hfuel' hS' hnd'
            (ht.target_declares hnames hgc.1 htarget) hw hinner
          refine ⟨fun rule' hrule' r' a' w hk' ht' => ?_, ?_, ?_⟩
          · rcases List.mem_append.1 hrule' with hrule' | hrule'
            · exact hreach₀ rule' hrule' r' a' w hk' ht'
            · rw [List.mem_singleton.1 hrule', hkind] at hk'
              cases hk'
              rw [htarget] at ht'
              cases ht'
              exact hreach'
          · simpa using hflat₀.append (Flattens.splice hkind htarget hflat' .nil)
          · rw [adopted_snoc_include hkind htarget, ← hadopt₀]
      · cases hstep
    · -- any other rule is placed with the context itself
      next hkind =>
      cases hstep
      refine ⟨fun rule' hrule' r' a' w hk' ht' => ?_, hflat₀.append (.written hkind .nil), ?_⟩
      · rcases List.mem_append.1 hrule' with hrule' | hrule'
        · exact hreach₀ rule' hrule' r' a' w hk' ht'
        · rw [List.mem_singleton.1 hrule'] at hk'
          exact absurd hk' (hkind r' a')
      · rw [adopted_snoc_written hkind, ← hadopt₀]

end Tables

/-- Splicing included rules flattens them in place, and fails exactly on cycles. For tables as
linking builds them (every definition has a context, references resolve to declared contexts, and
there are no more contexts than declared), take a declared context all of whose inclusions,
reached through inclusions, resolve. Splicing it fails, with a cycle of inclusions, exactly when
some walk of inclusions from it comes back to a context it passed. Otherwise it gives the
context's rules with every inclusion replaced in place by the rules it names, flattened the same
way, and adopts the context of its last adopting inclusion. Whenever the context compiles, its
rules are those flattened rules, each compiled in the definition and context it is written in and
with that context's attribute as its default, and the context takes the attribute of the context
its last adopting inclusion names, or else its own. -/
theorem Tables.expand_flattens {t : Tables} (ht : t.Sound) (hnames : t.names.size = t.defs.size)
    (hcount : (contextRefs t.defs).length ≤ t.declared) {g c : Nat} (hgc : t.Declares g c)
    (hres : ∀ v, Relation.ReflTransGen t.Splices (g, c) v → ∀ rule ∈ (t.contextDef v.1 v.2).rules,
      ∀ r a, rule.kind = .includeRules r a → t.target v.1 r ≠ none) :
    ((∃ n p, t.expand (t.declared + 1) g c [] = .error (.ruleIncludeCycle n p)) ↔
        CycleFrom t.Splices (g, c)) ∧
      (¬CycleFrom t.Splices (g, c) → ∃ placed, t.Flattens g c (t.contextDef g c).rules placed ∧
        t.expand (t.declared + 1) g c [] = .ok (placed, t.adopted g (t.contextDef g c).rules)) ∧
      ∀ st k st', (t.compileContext g c).run st = .ok (k, st') →
        ∃ placed, t.Flattens g c (t.contextDef g c).rules placed ∧
          (placed.mapM fun p => t.compileRule p.grammar (t.contextDef p.grammar p.context).name
            (t.contextAttr p.grammar p.context) p.rule).run st = .ok (k.rules, st') ∧
          k.attr = ((t.adopted g (t.contextDef g c).rules).map fun w => t.contextAttr w.1 w.2).getD
            (t.contextAttr g c) := by
  -- splicing from the empty path: success means no cycle, failure a cycle
  have hok : ∀ placed adopt, t.expand (t.declared + 1) g c [] = .ok (placed, adopt) →
      ¬CycleFrom t.Splices (g, c) ∧ t.Flattens g c (t.contextDef g c).rules placed ∧
        adopt = t.adopted g (t.contextDef g c).rules := by
    intro placed adopt h
    obtain ⟨hreach, hflat, hadopt⟩ := Tables.expand_ok ht hnames _ g c [] placed adopt
      (by simp only [List.length_nil]; omega) (by simp) List.nodup_nil hgc List.not_mem_nil h
    exact ⟨fun ⟨u, hu, hcyc⟩ => (hreach u hu).2 hcyc, hflat, hadopt⟩
  have herr : ∀ e, t.expand (t.declared + 1) g c [] = .error e →
      CycleFrom t.Splices (g, c) ∧ ∃ n p, e = .ruleIncludeCycle n p :=
    fun e h => Tables.expand_error hres _ g c [] e (by simpa using Relation.ReflTransGen.refl) h
  refine ⟨⟨fun ⟨n, p, h⟩ => (herr _ h).1, fun hcyc => ?_⟩, fun hno => ?_, fun st k st' h => ?_⟩
  · cases hexp : t.expand (t.declared + 1) g c [] with
    | error e =>
      obtain ⟨-, n, p, rfl⟩ := herr e hexp
      exact ⟨n, p, rfl⟩
    | ok res => exact absurd hcyc (hok res.1 res.2 hexp).1
  · cases hexp : t.expand (t.declared + 1) g c [] with
    | error e => exact absurd (herr e hexp).1 hno
    | ok res =>
      obtain ⟨-, hflat, hadopt⟩ := hok res.1 res.2 hexp
      exact ⟨res.1, hflat, by rw [← hadopt]⟩
  · obtain ⟨placed, adopt, hexp, hrules, -, -, hattr, -⟩ := Tables.compileContext_run h
    obtain ⟨-, hflat, rfl⟩ := hok placed adopt hexp
    refine ⟨placed, hflat, hrules, ?_⟩
    rw [hattr]
    cases t.adopted g (t.contextDef g c).rules <;> rfl

/-- Context `A` splices in context `B` and takes its attribute. -/
def adoptingDefinition : Definition where
  header := { name := "T" }
  lists := []
  styles := [⟨"Text", "dsNormal"⟩, ⟨"Inner", "dsKeyword"⟩]
  contexts := [
    { name := "A", attr := some "Text", lineEnd := {}, lineEmpty := none, fallthrough := none,
      rules := [
        { element := "IncludeRules", kind := .includeRules ⟨some "B", none⟩ true, attr := none,
          switch := {}, lookAhead := false, firstNonSpace := false, column := none,
          dynamic := false, insensitive := false, children := [] }] },
    { name := "B", attr := some "Inner", lineEnd := {}, lineEmpty := none, fallthrough := none,
      rules := [
        { element := "DetectChar", kind := .detectChar "b", attr := none, switch := {},
          lookAhead := false, firstNonSpace := false, column := none, dynamic := false,
          insensitive := false, children := [] }] }]
  keywordsCaseSensitive := true
  weakDeliminators := ""
  additionalDeliminators := ""
  comments := {}

/-- The tables linking builds for `adoptingDefinition` alone. -/
def adoptingTables : Tables where
  names := #["T"]
  defs := #[adoptingDefinition]
  contextBase := #[0]
  declared := 2
  attrIds := #[[("Text", 0), ("Inner", 1)]]
  listIds := #[[]]
  contextAttrs := #[0, 1]

theorem adoptingTables_sound : adoptingTables.Sound :=
  Tables.sound_of_bases (by decide)
    (by simp [adoptingTables, adoptingDefinition]) rfl rfl rfl

theorem adoptingTables_includes_resolve (g c : Nat) :
    ∀ rule ∈ (adoptingTables.contextDef g c).rules, ∀ r a, rule.kind = .includeRules r a →
      adoptingTables.target g r ≠ none := by
  intro rule hrule r a hk
  have hnone : (default : Definition.Context).rules = [] := rfl
  have hempty : (default : Definition).contexts = [] := rfl
  match g, c with
  | 0, 0 =>
    simp [Tables.contextDef, Tables.definition, adoptingTables, adoptingDefinition] at hrule
    subst hrule
    cases hk
    decide
  | 0, 1 =>
    simp [Tables.contextDef, Tables.definition, adoptingTables, adoptingDefinition] at hrule
    subst hrule
    cases hk
  | 0, _ + 2 =>
    simp [Tables.contextDef, Tables.definition, adoptingTables, adoptingDefinition, hnone] at hrule
  | _ + 1, _ =>
    simp [Tables.contextDef, Tables.definition, adoptingTables, hempty, hnone] at hrule

theorem expand_flattens_adopting :
    ((∃ n p, adoptingTables.expand 3 0 0 [] = .error (.ruleIncludeCycle n p)) ↔
        CycleFrom adoptingTables.Splices (0, 0)) ∧
      (¬CycleFrom adoptingTables.Splices (0, 0) → ∃ placed,
        adoptingTables.Flattens 0 0 (adoptingTables.contextDef 0 0).rules placed ∧
        adoptingTables.expand 3 0 0 [] =
          .ok (placed, adoptingTables.adopted 0 (adoptingTables.contextDef 0 0).rules)) ∧
      ∀ st k st', (adoptingTables.compileContext 0 0).run st = .ok (k, st') →
        ∃ placed, adoptingTables.Flattens 0 0 (adoptingTables.contextDef 0 0).rules placed ∧
          (placed.mapM fun p => adoptingTables.compileRule p.grammar
            (adoptingTables.contextDef p.grammar p.context).name
            (adoptingTables.contextAttr p.grammar p.context) p.rule).run st = .ok (k.rules, st') ∧
          k.attr = ((adoptingTables.adopted 0 (adoptingTables.contextDef 0 0).rules).map
            fun w => adoptingTables.contextAttr w.1 w.2).getD (adoptingTables.contextAttr 0 0) :=
  Tables.expand_flattens adoptingTables_sound rfl (by decide) ⟨by decide, by decide⟩
    fun v _ => adoptingTables_includes_resolve v.1 v.2

end Grammar

end Highlight

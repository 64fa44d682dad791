import Highlight.Proofs.Layout
/-!
# Linked grammars refer inside their tables

A context names its attribute and the word separators of the definition it came from, and a rule
names its attribute, the contexts it switches to, for a keyword rule its keyword list, and for a
range the context it continues in, all by index. The parser looks them up with a default so that
it stays total. For a grammar that linking produced every such index lies inside its table, at
every depth of nested rules (`Grammar.TablesInRange`, `Grammar.ContextRefsInRange`), so the
default is never taken.

The proof follows linking: the attribute and keyword-list tables number every name they record
below their size, each declared context takes a recorded attribute, compiling a rule or a context
keeps every index it writes inside the tables, and a continuation context takes its indices from
its range and from the context the range was written in (`Proofs/Layout`). `load_wellFormed`
collects what loading guarantees: the grammar is linked, refers inside its tables, and lays out
its context table as `Grammar.LaidOut` says.
-/
namespace Highlight

/-! ## Indices inside tables -/

/-- The attribute a rule colours with lies below `A`, the keyword list it looks words up in
below `L`, and the same holds of its children. -/
inductive Rule.RefsIn (A L : Nat) : Rule → Prop
  | intro {r : Rule} : r.attr < A → (∀ l, r.kind = .keyword l → l < L) →
      (∀ c ∈ r.children, c.RefsIn A L) → r.RefsIn A L

/-- Changing a rule's switch keeps it inside the tables. -/
theorem Rule.RefsIn.with_switch {A L : Nat} {r : Rule} (h : r.RefsIn A L) (sw : Switch) :
    ({ r with switch := sw } : Rule).RefsIn A L := by
  cases h with
  | intro hattr hlist hkids => exact .intro hattr hlist hkids

mutual

/-- A rule inside the tables has all its nested rules inside them. -/
theorem Rule.RefsIn.subrules {A L : Nat} :
    ∀ {r : Rule}, r.RefsIn A L → ∀ r' ∈ r.subrules, r'.RefsIn A L
  | ⟨kind, attr, switch, lookAhead, firstNonSpace, column, dynamic, children⟩, h, r', hr' => by
    rw [Rule.subrules_eq] at hr'
    rcases List.mem_cons.1 hr' with rfl | hr'
    · exact h
    · cases h with
      | intro _ _ hkids => exact Rule.RefsIn.subrulesOf hkids r' hr'

/-- Rules inside the tables have all their nested rules inside them. -/
theorem Rule.RefsIn.subrulesOf {A L : Nat} :
    ∀ {rs : List Rule}, (∀ c ∈ rs, c.RefsIn A L) → ∀ r' ∈ Rule.subrulesOf rs, r'.RefsIn A L
  | [], _, r', hr' => by simp at hr'
  | c :: cs, h, r', hr' => by
    rw [Rule.subrulesOf_cons] at hr'
    rcases List.mem_append.1 hr' with hr' | hr'
    · exact Rule.RefsIn.subrules (h c List.mem_cons_self) r' hr'
    · exact Rule.RefsIn.subrulesOf (fun c' hc' => h c' (List.mem_cons_of_mem _ hc')) r' hr'

end

/-- The attribute of a context lies below `A`, its separators below `S`, and its rules refer
below `A` and `L`. -/
structure Context.RefsIn (A L S : Nat) (k : Context) : Prop where
  attr : k.attr < A
  separators : k.separators < S
  rules : ∀ r ∈ k.rules, r.RefsIn A L

/-- Every context of the grammar refers inside its attribute, keyword-list and separator
tables. -/
def Grammar.TablesInRange (g : Grammar) : Prop :=
  ∀ k ∈ g.contexts, k.RefsIn g.attributes.size g.lists.size g.separators.size

/-- Every context a rule of the grammar refers to, at any depth, by a switch or as the
continuation of a range, lies inside the context table. -/
def Grammar.ContextRefsInRange (g : Grammar) : Prop :=
  ∀ k ∈ g.contexts, ∀ r ∈ Rule.subrulesOf k.rules,
    (∀ x ∈ r.switch.push, x < g.contexts.size) ∧ ∀ c ∈ r.kind.continuation?, c < g.contexts.size

namespace Grammar

/-- A fold whose every step keeps a property keeps it. -/
theorem foldl_inv {α β : Type} {f : β → α → β} {P : β → Prop} (hf : ∀ acc x, P acc → P (f acc x)) :
    ∀ (xs : List α) (init : β), P init → P (xs.foldl f init)
  | [], _, hP => hP
  | x :: xs, init, hP => foldl_inv hf xs (f init x) (hf init x hP)

/-! ## The attribute and keyword-list tables -/

/-- Declaring a definition's attributes only appends to the table, and numbers every name it
records inside the table. -/
theorem declareStyles_spec (qualify : String → String) (styles : List Definition.Style)
    (attributes : Array Attribute) :
    attributes.size ≤ (declareStyles qualify styles attributes).1.size ∧
      ∀ p ∈ (declareStyles qualify styles attributes).2,
        p.2 < (declareStyles qualify styles attributes).1.size := by
  unfold declareStyles
  refine foldl_inv (P := fun (acc : Array Attribute × List (String × Nat)) =>
      attributes.size ≤ acc.1.size ∧ ∀ p ∈ acc.2, p.2 < acc.1.size)
    (fun acc s ⟨hle, hlt⟩ => ?_) _ _ ⟨Nat.le_refl _, by simp⟩
  -- a name seen before is skipped; a new one is recorded with the index it is pushed at
  split
  · exact ⟨hle, hlt⟩
  · refine ⟨by simp only [Array.size_push]; omega, fun p hp => ?_⟩
    simp only [Array.size_push]
    rcases List.mem_append.1 hp with hp | hp
    · exact Nat.lt_succ_of_lt (hlt p hp)
    · rw [List.mem_singleton.1 hp]
      exact Nat.lt_succ_self _

/-- Every attribute index the attribute table records for a definition lies inside it. -/
theorem attributeTable_lt (names : Array String) (ds : Array Definition) :
    ∀ g : Nat, ∀ p ∈ ((attributeTable names ds).2[g]?).getD [],
      p.2 < (attributeTable names ds).1.size := by
  unfold attributeTable
  refine foldl_inv
    (P := fun (acc : Array Attribute × Array (List (String × Nat))) =>
      ∀ g : Nat, ∀ p ∈ (acc.2[g]?).getD [], p.2 < acc.1.size) (fun acc dg hacc => ?_) _ _
    (by simp)
  obtain ⟨d, gi⟩ := dg
  -- the definition's own names are recorded inside the grown table, the earlier ones stay inside
  obtain ⟨hle, hlt⟩ := declareStyles_spec (fun n => if gi == 0 then n else n ++ "##" ++
    (names[gi]?.getD "")) d.styles acc.1
  intro g p hp
  rw [Array.getElem?_push] at hp
  split at hp
  · exact hlt p hp
  · exact Nat.lt_of_lt_of_le (hacc g p hp) hle

/-- A fold whose every successful step grows a size by the weight of the element adds up the
weights. -/
theorem foldlM_ok_size {ε α β : Type} {f : β → α → Except ε β} {n : β → Nat} {w : α → Nat}
    (hf : ∀ acc x acc', f acc x = .ok acc' → n acc' = n acc + w x) :
    ∀ (xs : List α) (init out : β), xs.foldlM f init = .ok out →
      n out = n init + (xs.map w).sum
  | [], init, out, h => by
    cases h
    simp
  | x :: xs, init, out, h => by
    rw [List.foldlM_cons] at h
    obtain ⟨acc, hacc, h'⟩ := except_bind_ok h
    rw [foldlM_ok_size hf xs acc out h', hf init x acc hacc, List.map_cons, List.sum_cons]
    omega

/-- Every keyword-list index the keyword lists record for a definition lies inside them. -/
theorem keywordLists_lt {t : Tables} {lists : Array KeywordList} {ids : Array (List (String × Nat))}
    (h : t.keywordLists = .ok (lists, ids)) :
    ∀ g : Nat, ∀ p ∈ (ids[g]?).getD [], p.2 < lists.size := by
  unfold Tables.keywordLists at h
  refine foldlM_ok_inv
    (P := fun (acc : Array KeywordList × Array (List (String × Nat))) =>
      ∀ g : Nat, ∀ p ∈ (acc.2[g]?).getD [], p.2 < acc.1.size)
    (fun acc dg acc' hacc hstep => ?_) _ _ _ (by simp) h
  obtain ⟨d, gi⟩ := dg
  obtain ⟨⟨lists', named⟩, hinner, hstep'⟩ := except_bind_ok hstep
  cases hstep'
  -- the definition's own lists are pushed after the earlier ones, each recorded at its index
  obtain ⟨hle, hlt⟩ := foldlM_ok_inv
    (P := fun (acc' : Array KeywordList × List (String × Nat)) =>
      acc.1.size ≤ acc'.1.size ∧ ∀ p ∈ acc'.2, p.2 < acc'.1.size)
    (fun a ll a' ⟨hle, hlt⟩ hs => by
      obtain ⟨words, -, hs'⟩ := except_bind_ok hs
      cases hs'
      refine ⟨by simp only [Array.size_push]; omega, fun p hp => ?_⟩
      simp only [Array.size_push]
      rcases List.mem_append.1 hp with hp | hp
      · exact Nat.lt_succ_of_lt (hlt p hp)
      · rw [List.mem_singleton.1 hp]
        exact Nat.lt_succ_self _)
    _ _ _ ⟨Nat.le_refl _, by simp⟩ hinner
  intro g p hp
  rw [Array.getElem?_push] at hp
  split at hp
  · exact hlt p hp
  · exact Nat.lt_of_lt_of_le (hacc g p hp) hle

/-- A name found in an association list is paired there with what was found. -/
theorem mem_of_lookup {k : String} {b : Nat} {l : List (String × Nat)} (h : l.lookup k = some b) :
    (k, b) ∈ l := by
  obtain ⟨l₁, l₂, rfl, -⟩ := List.lookup_eq_some_iff.1 h
  simp

namespace Tables

variable {t : Tables} {A : Nat}

/-- An attribute found by name is one the definition records. -/
theorem attrId_lt (hA : ∀ g : Nat, ∀ p ∈ (t.attrIds[g]?).getD [], p.2 < A) {g : Nat}
    {context n : String} {id : Nat} (h : t.attrId g context n = .ok id) : id < A := by
  unfold attrId at h
  split at h
  · next id' hid =>
    cases h
    exact hA g _ (mem_of_lookup hid)
  · cases h

/-- The attribute of a declared context is one its definition records. -/
theorem contextAttribute_lt (hA : ∀ g : Nat, ∀ p ∈ (t.attrIds[g]?).getD [], p.2 < A)
    {d : Definition} {g : Nat} {ctx : Definition.Context} {id : Nat}
    (h : t.contextAttribute d g ctx = .ok id) : id < A := by
  unfold contextAttribute at h
  split at h
  · exact attrId_lt hA h
  · exact attrId_lt hA h
  · cases h

/-- The attribute of every declared context is one its definition records, and there is one for
each declared context. -/
theorem contextAttributes_spec (hA : ∀ g : Nat, ∀ p ∈ (t.attrIds[g]?).getD [], p.2 < A)
    {out : Array Nat} (h : t.contextAttributes = .ok out) :
    (∀ a ∈ out, a < A) ∧ out.size = (t.defs.toList.map (·.contexts.length)).sum := by
  unfold contextAttributes at h
  refine ⟨foldlM_ok_inv (P := fun (out : Array Nat) => ∀ a ∈ out, a < A)
    (fun acc dg acc' hacc hstep => ?_) _ _ _ (by simp) h, ?_⟩
  · obtain ⟨d, gi⟩ := dg
    refine foldlM_ok_inv (P := fun (out : Array Nat) => ∀ a ∈ out, a < A)
      (fun acc ctx acc' hacc hstep => ?_) _ _ _ hacc hstep
    obtain ⟨id, hget, hpush⟩ := except_bind_ok hstep
    cases hpush
    intro a ha
    rcases Array.mem_push.1 ha with ha | rfl
    · exact hacc a ha
    · exact contextAttribute_lt hA hget
  · -- one attribute is pushed for every context of every definition
    have hsize := foldlM_ok_size (n := Array.size) (w := fun dg => dg.1.contexts.length)
      (fun acc dg acc' hstep => by
        obtain ⟨d, gi⟩ := dg
        have := foldlM_ok_size (n := Array.size) (w := fun _ => 1)
          (fun acc ctx acc' hstep => by
            obtain ⟨id, -, hpush⟩ := except_bind_ok hstep
            cases hpush
            simp) _ _ _ hstep
        simpa using this) _ _ _ h
    rw [hsize, ← List.zipIdx_map_fst 0 t.defs.toList, List.map_map]
    simp only [Array.size_empty, Nat.zero_add, List.zipIdx_map_fst]
    rfl

/-- The attribute of any context lies inside the table, once every recorded context attribute
does and the table is not empty. -/
theorem contextAttr_lt (hA : ∀ a ∈ t.contextAttrs, a < A) (hpos : 0 < A) (g c : Nat) :
    t.contextAttr g c < A := by
  unfold contextAttr
  cases h : t.contextAttrs[t.contextId g c]? with
  | none => exact hpos
  | some a => exact hA a (Array.mem_of_getElem? h)

variable {L : Nat}

/-- Every result of a successful map of linking steps is what one step made of an input. -/
theorem linkM_mapM_mem {α β : Type} {f : α → LinkM β} :
    ∀ (xs : List α) (st : LinkState) (ys : List β) (st' : LinkState),
      (xs.mapM f).run st = .ok (ys, st') → ∀ y ∈ ys, ∃ x ∈ xs, ∃ s s', (f x).run s = .ok (y, s')
  | [], st, ys, st', h => by
    obtain ⟨rfl, rfl⟩ := linkM_pure_ok h
    simp
  | x :: xs, st, ys, st', h => by
    obtain ⟨b, st₁, bs, hb, hbs, rfl⟩ := linkM_mapM_cons_ok h
    have ih := linkM_mapM_mem xs st₁ bs st' hbs
    intro y hy
    rcases List.mem_cons.1 hy with rfl | hy
    · exact ⟨x, List.mem_cons_self, st, st₁, hb⟩
    · obtain ⟨x', hx', s, s', hrun⟩ := ih y hy
      exact ⟨x', List.mem_cons_of_mem _ hx', s, s', hrun⟩

mutual

/-- A compiled rule refers inside the tables when its default attribute does: its attribute is
one its definition records or the default, and its keyword list one the definition records. -/
theorem compileRule_refsIn (hA : ∀ g : Nat, ∀ p ∈ (t.attrIds[g]?).getD [], p.2 < A)
    (hL : ∀ g : Nat, ∀ p ∈ (t.listIds[g]?).getD [], p.2 < L) (g : Nat) (context : String) :
    ∀ (da : Nat) (w : Definition.Rule) (st st' : LinkState) (r : Rule), da < A →
      (t.compileRule g context da w).run st = .ok (r, st') → r.RefsIn A L
  | da, ⟨element, kind, attr, switch, lookAhead, firstNonSpace, column, dynamic, insensitive,
      children⟩, st, st', r, hda, h => by
    obtain ⟨attrIdx, sw, kind', st₁, kids, hnamed, hdefault, -, hkind, hkids, rfl⟩ :=
      compileRule_run h
    have hattr : attrIdx < A := by
      cases hattr' : attr with
      | some n => exact attrId_lt hA (hnamed n hattr')
      | none => rw [hdefault hattr']; exact hda
    refine .intro hattr (fun l hl => ?_)
      (compileChildren_refsIn hA hL g context attrIdx children st₁ st' kids hattr hkids)
    have hl' : kind' = .keyword l := hl
    rcases compileKind_cases hkind with ⟨o, e, -, hk, -⟩ | ⟨-, -, hlist⟩
    · rw [hk] at hl'
      cases hl'
    · obtain ⟨name, hname⟩ := hlist l hl'
      exact hL g _ (mem_of_lookup hname)

/-- Compiled children refer inside the tables when their default attribute does. -/
theorem compileChildren_refsIn (hA : ∀ g : Nat, ∀ p ∈ (t.attrIds[g]?).getD [], p.2 < A)
    (hL : ∀ g : Nat, ∀ p ∈ (t.listIds[g]?).getD [], p.2 < L) (g : Nat) (context : String) :
    ∀ (da : Nat) (cs : List Definition.Rule) (st st' : LinkState) (ks : List Rule), da < A →
      (t.compileChildren g context da cs).run st = .ok (ks, st') → ∀ k ∈ ks, k.RefsIn A L
  | da, [], st, st', ks, _, h => by
    obtain ⟨rfl, -⟩ := compileChildren_nil_run h
    simp
  | da, c :: cs, st, st', ks, hda, h => by
    obtain ⟨k, st₁, ks', hk, hks, rfl⟩ := compileChildren_cons_run h
    intro k' hk'
    rcases List.mem_cons.1 hk' with rfl | hk'
    · exact (compileRule_refsIn hA hL g context da c st st₁ k hda hk).with_switch _
    · exact compileChildren_refsIn hA hL g context da cs st₁ st' ks' hda hks k' hk'

end

section Compile

variable (hA : ∀ g : Nat, ∀ p ∈ (t.attrIds[g]?).getD [], p.2 < A)
  (hL : ∀ g : Nat, ∀ p ∈ (t.listIds[g]?).getD [], p.2 < L)
include hA hL

/-- A compiled context refers inside the tables: its attribute is a recorded one, its
separators are those of its definition, and each of its rules, compiled with the attribute of
the context it was written in as default, refers inside them. -/
theorem compileContext_refsIn (hAc : ∀ a ∈ t.contextAttrs, a < A) (hpos : 0 < A) {g c : Nat}
    {st st' : LinkState} {k : Context} (h : (t.compileContext g c).run st = .ok (k, st')) :
    k.attr < A ∧ k.separators = g ∧ ∀ r ∈ k.rules, r.RefsIn A L := by
  obtain ⟨placed, adopt, -, hrules, -, hsep, hattr, -⟩ := compileContext_run h
  refine ⟨?_, hsep, fun r hr => ?_⟩
  · rw [hattr]
    split <;> exact contextAttr_lt hAc hpos _ _
  · obtain ⟨p, -, s, s', hp⟩ := linkM_mapM_mem placed st k.rules st' hrules r hr
    exact compileRule_refsIn hA hL _ _ _ p.rule s s' r (contextAttr_lt hAc hpos _ _) hp

/-- Every declared context compiled refers inside the tables, its separators those of a
definition. -/
theorem compileContexts_refsIn (hAc : ∀ a ∈ t.contextAttrs, a < A) (hpos : 0 < A)
    {st' : LinkState} {out : Array Context} (h : t.compileContexts.run {} = .ok (out, st')) :
    ∀ k ∈ out, k.RefsIn A L t.defs.size := by
  obtain ⟨ks, hks, rfl⟩ := compileContexts_run h
  intro k hk
  obtain ⟨gc, hgc, s, s', hrun⟩ := linkM_mapM_mem _ _ _ _ hks k (by simpa using hk)
  obtain ⟨hattr, hsep, hrules⟩ := compileContext_refsIn hA hL hAc hpos hrun
  exact ⟨hattr, hsep ▸ (mem_contextRefs.1 hgc).1, hrules⟩

end Compile

end Tables

/-! ## Linked and loaded grammars -/

/-- **Linked grammars refer inside their tables.** Every attribute, keyword list and set of word
separators a context or a rule at any depth names is in its table: the declared contexts take
them from their definitions, and a continuation context from its range and from the context the
range was written in. -/
theorem link_tablesInRange {defs : Array (String × Definition)} {gr : Grammar}
    (hne : 0 < defs.size) (h : link defs = .ok gr) : gr.TablesInRange := by
  obtain ⟨t, lists, contexts, st, hctx, hnames, hdefs, hbase, hdecl, hattrIds, hkw, hattrs,
    hbuild, hctxs, hattributes, hlists, hseps, -⟩ := link_run h
  have hA : ∀ g : Nat, ∀ p ∈ (t.attrIds[g]?).getD [], p.2 < gr.attributes.size := by
    rw [hattrIds, hattributes]
    exact attributeTable_lt _ _
  have hL : ∀ g : Nat, ∀ p ∈ (t.listIds[g]?).getD [], p.2 < gr.lists.size := by
    rw [hlists]
    exact keywordLists_lt hkw
  have hne' : 0 < t.defs.size := by simpa [hdefs] using hne
  obtain ⟨hAc, hcount⟩ := Tables.contextAttributes_spec hA hattrs
  -- every declared context has an attribute, and there is a declared context
  have hpos : 0 < gr.attributes.size := by
    have hsize : 0 < t.contextAttrs.size := by
      rw [hcount, ← contextBases_back]
      exact contextBases_back_pos hne' hctx
    exact Nat.lt_of_le_of_lt (Nat.zero_le _) (hAc t.contextAttrs[0] (Array.getElem_mem hsize))
  have hdeclared := Tables.compileContexts_refsIn hA hL hAc hpos hbuild
  obtain ⟨-, hlaid, -⟩ := Tables.compileContexts_laid
    (Tables.sound_of_bases hne' hctx rfl (hdefs ▸ hbase) (hdefs ▸ hdecl)) hnames hdefs hbuild
  have hS : t.defs.size = gr.separators.size := by rw [hseps, hdefs, Array.size_map]
  intro k hk
  rw [hctxs] at hk
  rcases Array.mem_append.1 hk with hk | hk
  · exact hS ▸ hdeclared k hk
  · -- a continuation continues a range written in a declared context, which refers inside
    obtain ⟨r, hr, _, _, _, _, -, host, hhost, _, -, hcont⟩ := hlaid.ranges.exists_of_mem hk
    rw [Rule.subrulesOf_flatMap] at hr
    obtain ⟨k', hk', hr'⟩ := List.mem_flatMap.1 hr
    have hrefs := Rule.RefsIn.subrulesOf (hdeclared k' (Array.mem_toList_iff.1 hk')).rules r hr'
    have hattr : r.attr < gr.attributes.size := by
      cases hrefs with
      | intro h _ _ => exact h
    refine ⟨hcont.attr ▸ hattr, ?_, fun r' hr' => ?_⟩
    · rw [hcont.separators, ← hS, hdefs, Array.size_map]
      exact source_lt_of_mem_declaredContexts hhost
    · -- its one rule is the closing delimiter, coloured like the range
      have hmem : r' ∈ Rule.subrulesOf k.rules := Rule.mem_subrulesOf hr'
      rw [hcont.rules] at hmem
      obtain ⟨hkind, hcolour, -, hkids⟩ := Rule.mem_subrulesOf_closingRules hmem
      refine .intro (hcolour ▸ hattr) (fun l hl => ?_) (by simp [hkids])
      rw [hkind] at hl
      cases hl

/-- **Linked grammars switch inside their table.** Every context that a rule at any depth pushes
or continues a range in is in the table: a rule of a declared context pushes declared contexts,
a nested rule pushes nothing, a continuation is numbered after the declared contexts, and the
closing rule of a continuation pushes declared contexts. -/
theorem link_contextRefsInRange {defs : Array (String × Definition)} {gr : Grammar}
    (hne : 0 < defs.size) (h : link defs = .ok gr) : gr.ContextRefsInRange := by
  have hlinked := link_linked hne h
  obtain ⟨C, E, hctx, -, hlaid, -⟩ := link_laidOut hne h
  have hsize : gr.contexts.size = C.size + E.size := by rw [hctx, Array.size_append]
  intro k hk r hr
  rcases Array.mem_append.1 (hctx ▸ hk) with hkC | hkE
  · obtain ⟨top, htop, hrtop⟩ := Rule.exists_of_mem_subrulesOf hr
    have htop' : top ∈ C.toList.flatMap (·.rules) :=
      List.mem_flatMap.2 ⟨k, Array.mem_toList_iff.2 hkC, htop⟩
    refine ⟨fun x hx => ?_, fun c hc => ?_⟩
    · -- a rule of the context pushes what linking resolved, a nested rule nothing
      rw [Rule.subrules_eq] at hrtop
      rcases List.mem_cons.1 hrtop with rfl | hnested
      · exact (hlinked.rule_push k hk r htop x hx).1
      · rw [hlaid.nested top htop' r hnested] at hx
        cases hx
    · -- a continuation is numbered after the declared contexts
      have hall : r ∈ Rule.subrulesOf (C.toList.flatMap (·.rules)) := by
        rw [Rule.subrulesOf_flatMap]
        exact List.mem_flatMap.2 ⟨k, Array.mem_toList_iff.2 hkC, hr⟩
      have hcont := List.mem_range'_1.1
        (hlaid.ranges.numbered ▸ List.mem_filterMap.2 ⟨r, hall, hc⟩)
      omega
  · -- a continuation's one rule closes the range, pushing declared contexts
    obtain ⟨_, -, _, _, _, _, -, _, -, sw, hsw, hcont⟩ := hlaid.ranges.exists_of_mem hkE
    rw [hcont.rules] at hr
    obtain ⟨hkind, -, hpush, -⟩ := Rule.mem_subrulesOf_closingRules hr
    refine ⟨fun x hx => ?_, fun c hc => ?_⟩
    · have := hsw x (hpush ▸ hx)
      omega
    · rw [hkind] at hc
      cases hc

/-- **Loaded grammars are well formed.** A grammar that loading produces is linked: it has a
first context, which needs no captures, and every switch pushes contexts of the table. Every
index it holds, at any depth of rules, lies inside the table it indexes. Its context table is
laid out from the definitions gathered for it, the root's first and then those it includes in
the order they were found: their declared contexts, then one continuation context for each range
rule compiled, in order, named after the context the range was written in. -/
theorem load_wellFormed {text : String} {inc : Includes} {g : Grammar}
    (h : load text inc = .ok g) :
    g.Linked ∧ g.TablesInRange ∧ g.ContextRefsInRange ∧
      ∃ root defs, parseDefinition text = .ok root ∧
        gather inc (inc.bound + 1) 0 [root.header.name] #[(root.header.name, root)] = .ok defs ∧
        g.LaidOut defs := by
  unfold load at h
  obtain ⟨root, hroot, h₁⟩ := except_bind_ok h
  obtain ⟨defs, hdefs, hlink⟩ := except_bind_ok h₁
  have hne : 0 < defs.size := Nat.lt_of_lt_of_le (by simp) (gather_size _ _ _ _ _ hdefs)
  exact ⟨link_linked hne hlink, link_tablesInRange hne hlink, link_contextRefsInRange hne hlink,
    root, defs, hroot, hdefs, link_laidOut hne hlink⟩

/-- A definition with one context and an unterminated-range rule in it. -/
def rangeDefinitionText : String :=
  "<language name=\"T\"><highlighting><contexts><context name=\"Normal\" attribute=\"Normal\">" ++
  "<RangeDetect attribute=\"String\" char=\"[\" char1=\"]\"/></context></contexts><itemDatas>" ++
  "<itemData name=\"Normal\" defStyleNum=\"dsNormal\"/>" ++
  "<itemData name=\"String\" defStyleNum=\"dsString\"/></itemDatas></highlighting></language>"

/-- The range definition loads. -/
theorem rangeDefinition_loads : ∃ g, load rangeDefinitionText (Includes.none "") = .ok g := by
  have hok : (load rangeDefinitionText (Includes.none "")).toBool = true := by decide +kernel
  cases h : load rangeDefinitionText (Includes.none "") with
  | error e =>
    rw [h] at hok
    cases hok
  | ok g => exact ⟨g, rfl⟩

theorem load_wellFormed_range :
    ∃ g, load rangeDefinitionText (Includes.none "") = .ok g ∧
      g.Linked ∧ g.TablesInRange ∧ g.ContextRefsInRange ∧
      ∃ root defs, parseDefinition rangeDefinitionText = .ok root ∧
        gather (Includes.none "") ((Includes.none "").bound + 1) 0 [root.header.name]
          #[(root.header.name, root)] = .ok defs ∧
        g.LaidOut defs := by
  obtain ⟨g, h⟩ := rangeDefinition_loads
  exact ⟨g, h, load_wellFormed h⟩

end Grammar

end Highlight

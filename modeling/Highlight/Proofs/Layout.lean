import Highlight.Proofs.Linked
/-!
# How linking lays out the context table

Linking numbers every context of a grammar in one table. The declared contexts come first: those
of the root as written, then those of each included definition in the order the definitions were
gathered, their names qualified as `Name##Language`. After them come the contexts that continue
unterminated ranges, one for every range rule that linking compiles, children included, in the
order it compiles them; the `k`-th is named after the context its rule was written in, as
`Name#range<k>`.

`LaidOut` states this layout, and `link_laidOut` proves it of every linked grammar. Compiling a
rule appends the continuations of the ranges in it, its own first and then its children's; a
context appends those of its rules in order, and the table those of its contexts in order. Each
of these steps appends a segment of continuations numbered where the previous one stopped
(`RangesLaid.append`), so the whole table is numbered without gaps.
-/

namespace Highlight

/-! ## Rules at every depth -/

mutual

/-- A rule followed by the rules nested under it, depth first, in the order they are written. -/
def Rule.subrules : Rule → List Rule
  | r@⟨_, _, _, _, _, _, _, children⟩ => r :: Rule.subrulesOf children

/-- The rules of a list and the rules nested under them, depth first. -/
def Rule.subrulesOf : List Rule → List Rule
  | [] => []
  | r :: rs => r.subrules ++ Rule.subrulesOf rs

end

mutual

/-- A written rule followed by the rules nested under it, depth first. -/
def Definition.Rule.subrules : Definition.Rule → List Definition.Rule
  | r@⟨_, _, _, _, _, _, _, _, _, children⟩ => r :: Definition.Rule.subrulesOf children

/-- Written rules and the rules nested under them, depth first. -/
def Definition.Rule.subrulesOf : List Definition.Rule → List Definition.Rule
  | [] => []
  | r :: rs => r.subrules ++ Definition.Rule.subrulesOf rs

end

namespace Rule

theorem subrules_eq (r : Rule) : r.subrules = r :: subrulesOf r.children := by
  cases r
  rfl

@[simp] theorem subrulesOf_nil : subrulesOf [] = [] := rfl

@[simp] theorem subrulesOf_cons (r : Rule) (rs : List Rule) :
    subrulesOf (r :: rs) = r.subrules ++ subrulesOf rs := rfl

@[simp] theorem subrulesOf_append (rs rs' : List Rule) :
    subrulesOf (rs ++ rs') = subrulesOf rs ++ subrulesOf rs' := by
  induction rs with
  | nil => rfl
  | cons r rs ih => simp [ih]

theorem subrulesOf_flatMap {α : Type} (xs : List α) (f : α → List Rule) :
    subrulesOf (xs.flatMap f) = xs.flatMap fun x => subrulesOf (f x) := by
  induction xs with
  | nil => rfl
  | cons x xs ih => simp [ih]

/-- A rule at some depth of a list is at some depth of one of the list's rules. -/
theorem exists_of_mem_subrulesOf {r : Rule} {rs : List Rule} (h : r ∈ subrulesOf rs) :
    ∃ t ∈ rs, r ∈ t.subrules := by
  induction rs with
  | nil => simp at h
  | cons t rs ih =>
    rw [subrulesOf_cons] at h
    rcases List.mem_append.1 h with h | h
    · exact ⟨t, List.mem_cons_self, h⟩
    · obtain ⟨t', ht', h'⟩ := ih h
      exact ⟨t', List.mem_cons_of_mem _ ht', h'⟩

/-- A rule of a list is one of the list's rules at any depth. -/
theorem mem_subrulesOf {r : Rule} {rs : List Rule} (h : r ∈ rs) : r ∈ subrulesOf rs := by
  induction rs with
  | nil => cases h
  | cons r' rs ih =>
    rcases List.mem_cons.1 h with rfl | h
    · simp [subrules_eq]
    · exact List.mem_append_right _ (ih h)

end Rule

namespace Definition.Rule

theorem subrules_eq (r : Rule) : r.subrules = r :: subrulesOf r.children := by
  cases r
  rfl

@[simp] theorem subrulesOf_cons (r : Rule) (rs : List Rule) :
    subrulesOf (r :: rs) = r.subrules ++ subrulesOf rs := rfl

/-- The rules under a rule of a list are rules of the list at some depth. -/
theorem subrules_subset {r : Rule} {rs : List Rule} (h : r ∈ rs) :
    ∀ r' ∈ r.subrules, r' ∈ subrulesOf rs := by
  induction rs with
  | nil => cases h
  | cons r'' rs ih =>
    intro r' hr'
    rcases List.mem_cons.1 h with rfl | h
    · exact List.mem_append_left _ hr'
    · exact List.mem_append_right _ (ih h r' hr')

/-- The rules under a rule's children are under the rule. -/
theorem subrulesOf_children_subset (r : Rule) : ∀ r' ∈ subrulesOf r.children, r' ∈ r.subrules := by
  intro r' hr'
  rw [subrules_eq]
  exact List.mem_cons_of_mem _ hr'

end Definition.Rule

/-- The continuation a range rule names, and nothing for other kinds. -/
def RuleKind.continuation? : RuleKind → Option Nat
  | .rangeDetect _ _ cont _ => some cont
  | _ => none

theorem RuleKind.continuation?_eq_none {kind : RuleKind}
    (h : ∀ o e c i, kind ≠ .rangeDetect o e c i) : kind.continuation? = none := by
  cases kind with
  | rangeDetect o e c i => exact absurd rfl (h o e c i)
  | _ => rfl

/-! ## Continuation contexts -/

/-- The rules of the context a range continues in: the closing delimiter, matched with the range's
case rule and coloured with its attribute, which pops the continuation and then does `sw`. An empty
delimiter gives no rule. -/
def Rule.closingRules (closing : String) (insensitive : Bool) (attr : Nat) (dynamic : Bool)
    (sw : Switch) : List Rule :=
  if closing.isEmpty then []
  else [{ kind := .stringDetect closing insensitive, attr, switch := sw.afterPops 1,
          lookAhead := false, firstNonSpace := false, column := none,
          dynamic := dynamic && Placeholder.highest closing > 0, children := [] }]

/-- The closing rule of a continuation matches the closing delimiter, colours with the range's
attribute, pushes what `sw` pushes, and has no children. -/
theorem Rule.mem_subrulesOf_closingRules {closing : String} {ins : Bool} {attr : Nat} {dyn : Bool}
    {sw : Switch} {r : Rule} (h : r ∈ Rule.subrulesOf (Rule.closingRules closing ins attr dyn sw)) :
    r.kind = .stringDetect closing ins ∧ r.attr = attr ∧ r.switch.push = sw.push ∧
      r.children = [] := by
  unfold Rule.closingRules at h
  split at h
  · simp at h
  · simp only [Rule.subrulesOf_cons, Rule.subrulesOf_nil, List.append_nil, Rule.subrules_eq,
      List.mem_cons, List.not_mem_nil, or_false] at h
    subst h
    exact ⟨rfl, rfl, rfl, rfl⟩

/-- `k` is the context a range continues in when a line ends inside it: named `label`, with the
word separators of definition `source`, coloured like the range, kept at the line end, and with
only the closing delimiter as a rule. It needs captures only if its delimiter reads some. -/
structure Context.ContinuesRange (label : String) (source colour : Nat) (dynamic : Bool)
    (closing : String) (insensitive : Bool) (sw : Switch) (k : Context) : Prop where
  name : k.name = label
  separators : k.separators = source
  attr : k.attr = colour
  lineEnd : k.lineEnd = .stay
  lineEmpty : k.lineEmpty = none
  fallthrough : k.fallthrough = none
  rules : k.rules = Rule.closingRules closing insensitive colour dynamic sw
  maxPlaceholder : k.maxPlaceholder =
    if dynamic && Placeholder.highest closing > 0 then Placeholder.highest closing else 0

namespace Grammar

/-! ## The declared contexts -/

/-- A declared context as the context table lists it: its name, the definition it comes from, and
the context as written. -/
structure DeclaredContext where
  /-- The name, qualified as `Name##Language` for an included definition. -/
  name : String
  /-- The index of the definition it comes from. -/
  source : Nat
  /-- The context as written. -/
  written : Definition.Context

/-- The declared contexts of definitions, each with the name it is referred to by, in table order:
the root's under their own names, then those of each included definition with `##` and its
language appended. -/
def declaredContexts (defs : Array (String × Definition)) : List DeclaredContext :=
  defs.toList.zipIdx.flatMap fun ((lang, d), g) =>
    d.contexts.map fun ctx => ⟨if g = 0 then ctx.name else ctx.name ++ "##" ++ lang, g, ctx⟩

/-- There is one declared context for each context of each definition. -/
theorem length_declaredContexts (defs : Array (String × Definition)) :
    (declaredContexts defs).length = ((defs.map (·.2)).toList.map (·.contexts.length)).sum := by
  simp only [declaredContexts, List.length_flatMap, List.length_map, Array.toList_map,
    List.map_map]
  conv_rhs => rw [← List.zipIdx_map_fst 0 defs.toList, List.map_map]
  rfl

/-- A declared context comes from one of the definitions. -/
theorem source_lt_of_mem_declaredContexts {defs : Array (String × Definition)}
    {x : DeclaredContext} (h : x ∈ declaredContexts defs) : x.source < defs.size := by
  simp only [declaredContexts, List.mem_flatMap, List.mem_map] at h
  obtain ⟨⟨⟨lang, d⟩, g⟩, hmem, ctx, -, rfl⟩ := h
  exact (List.getElem?_eq_some_iff.1 (List.mem_zipIdx_iff_getElem?.1 hmem)).1.trans_eq
    (by simp)

/-! ## Segments of continuation contexts -/

section Laid

variable (hosts : List DeclaredContext) (D : Nat)

/-- `X` holds the continuation contexts of the range rules among `rs`, numbered from `D + n`:
the continuations `rs` names are `D + n, D + n + 1, …` in order, one for each range, and each
range continues in its own context of `X`, named after a context of `hosts` in which a range with
the same delimiters is written. The closing delimiter ends with a switch that pushes contexts
below `D`. -/
structure RangesLaid (n : Nat) (rs : List Rule) (X : Array Context) : Prop where
  numbered : rs.filterMap (·.kind.continuation?) = List.range' (D + n) X.size
  continues : ∀ r ∈ rs, ∀ o e cont ins, r.kind = .rangeDetect o e cont ins →
    ∃ host ∈ hosts,
      (∃ w ∈ Definition.Rule.subrulesOf host.written.rules, w.kind = .rangeDetect o e) ∧
      ∃ sw, (∀ x ∈ sw.push, x < D) ∧ ∃ k, X[cont - (D + n)]? = some k ∧
        k.ContinuesRange (host.name ++ "#range" ++ toString (cont - D)) host.source r.attr
          r.dynamic e ins sw

/-- `X` holds the continuation contexts of the rules `rs` and of the rules nested in them,
numbered from `D + n`. A range of `rs` itself closes with its own switch, and the rules nested
in `rs` never switch. -/
structure RulesLaid (n : Nat) (rs : List Rule) (X : Array Context) : Prop where
  ranges : RangesLaid hosts D n (Rule.subrulesOf rs) X
  closing : ∀ r ∈ rs, ∀ o e cont ins, r.kind = .rangeDetect o e cont ins →
    ∃ k, X[cont - (D + n)]? = some k ∧
      k.rules = Rule.closingRules e ins r.attr r.dynamic r.switch
  nested : ∀ r ∈ rs, ∀ r' ∈ Rule.subrulesOf r.children, r'.switch = .stay

variable {hosts D}

/-- A range of a list names one of the list's continuations. -/
theorem cont_mem_filterMap {rs : List Rule} {r : Rule} {o e : String} {cont : Nat} {ins : Bool}
    (hr : r ∈ rs) (hk : r.kind = .rangeDetect o e cont ins) :
    cont ∈ rs.filterMap (·.kind.continuation?) :=
  List.mem_filterMap.2 ⟨r, hr, by simp [hk, RuleKind.continuation?]⟩

theorem RangesLaid.nil (n : Nat) : RangesLaid hosts D n [] #[] :=
  ⟨by simp, by simp⟩

/-- A segment laid after another continues the numbering where the first stops. -/
theorem RangesLaid.append {n : Nat} {rs rs' : List Rule} {X Y : Array Context}
    (h₁ : RangesLaid hosts D n rs X) (h₂ : RangesLaid hosts D (n + X.size) rs' Y) :
    RangesLaid hosts D n (rs ++ rs') (X ++ Y) := by
  refine ⟨?_, fun r hr o e cont ins hk => ?_⟩
  · rw [List.filterMap_append, h₁.numbered, h₂.numbered, Array.size_append, ← Nat.add_assoc,
      List.range'_append_1]
  rcases List.mem_append.1 hr with hr | hr
  · -- a range of the first segment names a context of it
    have hcont := List.mem_range'_1.1 (h₁.numbered ▸ cont_mem_filterMap hr hk)
    obtain ⟨host, hh, hw, sw, hsw, k, hk', hc⟩ := h₁.continues r hr o e cont ins hk
    exact ⟨host, hh, hw, sw, hsw, k, by rw [Array.getElem?_append_left (by omega), hk'], hc⟩
  · -- one of the second segment names a context past the first
    have hcont := List.mem_range'_1.1 (h₂.numbered ▸ cont_mem_filterMap hr hk)
    obtain ⟨host, hh, hw, sw, hsw, k, hk', hc⟩ := h₂.continues r hr o e cont ins hk
    refine ⟨host, hh, hw, sw, hsw, k, ?_, hc⟩
    rw [Array.getElem?_append_right (by omega), ← hk']
    congr 1
    omega

/-- Changing the switch of the first rule changes nothing the layout states. -/
theorem RangesLaid.cons_switch {n : Nat} {r : Rule} {rs : List Rule} {X : Array Context}
    (h : RangesLaid hosts D n (r :: rs) X) (sw : Switch) :
    RangesLaid hosts D n ({ r with switch := sw } :: rs) X := by
  refine ⟨by rw [← h.numbered]; rfl, fun r' hr' => ?_⟩
  rcases List.mem_cons.1 hr' with rfl | hr'
  · exact h.continues r List.mem_cons_self
  · exact h.continues r' (List.mem_cons_of_mem _ hr')

/-- A rule that is not a range adds nothing to the layout. -/
theorem RangesLaid.cons_none {n : Nat} {r : Rule} {rs : List Rule} {X : Array Context}
    (hr : r.kind.continuation? = none) (h : RangesLaid hosts D n rs X) :
    RangesLaid hosts D n (r :: rs) X := by
  refine ⟨by simpa [List.filterMap_cons, hr] using h.numbered, fun r' hr' o e cont ins hk => ?_⟩
  rcases List.mem_cons.1 hr' with rfl | hr'
  · simp [hk, RuleKind.continuation?] at hr
  · exact h.continues r' hr' o e cont ins hk

/-- A range numbered `D + n`, whose continuation is the one context laid for it. -/
theorem RangesLaid.single {n : Nat} {r : Rule} {o e : String} {ins : Bool} {k : Context}
    {host : DeclaredContext} {sw : Switch} (hr : r.kind = .rangeDetect o e (D + n) ins)
    (hhost : host ∈ hosts)
    (hw : ∃ w ∈ Definition.Rule.subrulesOf host.written.rules, w.kind = .rangeDetect o e)
    (hsw : ∀ x ∈ sw.push, x < D)
    (hk : k.ContinuesRange (host.name ++ "#range" ++ toString n) host.source r.attr r.dynamic e
      ins sw) :
    RangesLaid hosts D n [r] #[k] := by
  refine ⟨by simp [hr, RuleKind.continuation?], fun r' hr' o' e' cont ins' hk' => ?_⟩
  rw [List.mem_singleton] at hr'
  subst hr'
  rw [hr] at hk'
  cases hk'
  refine ⟨host, hhost, hw, sw, hsw, k, by simp, ?_⟩
  rwa [Nat.add_sub_cancel_left]

/-- Every context of a laid-out segment continues one of the segment's ranges. -/
theorem RangesLaid.exists_of_mem {n : Nat} {rs : List Rule} {X : Array Context}
    (h : RangesLaid hosts D n rs X) {k : Context} (hk : k ∈ X) :
    ∃ r ∈ rs, ∃ o e cont ins, r.kind = .rangeDetect o e cont ins ∧ ∃ host ∈ hosts, ∃ sw,
      (∀ x ∈ sw.push, x < D) ∧
      k.ContinuesRange (host.name ++ "#range" ++ toString (cont - D)) host.source r.attr
        r.dynamic e ins sw := by
  obtain ⟨j, hj, rfl⟩ := Array.getElem_of_mem hk
  -- the `j`-th context is the continuation numbered `D + n + j`, which some range names
  have hmem : D + n + j ∈ rs.filterMap (·.kind.continuation?) := by
    rw [h.numbered]
    exact List.mem_range'_1.2 ⟨by omega, by omega⟩
  obtain ⟨r, hr, hc⟩ := List.mem_filterMap.1 hmem
  cases hkind : r.kind <;> simp only [hkind, RuleKind.continuation?, reduceCtorEq] at hc
  case rangeDetect o e cont ins =>
    cases hc
    obtain ⟨host, hh, -, sw, hsw, k', hk', hcont⟩ := h.continues r hr o e _ ins hkind
    rw [show D + n + j - (D + n) = j by omega, Array.getElem?_eq_getElem hj] at hk'
    cases hk'
    exact ⟨r, hr, o, e, _, ins, hkind, host, hh, sw, hsw, hcont⟩

theorem RulesLaid.nil (n : Nat) : RulesLaid hosts D n [] #[] :=
  ⟨RangesLaid.nil n, by simp, by simp⟩

/-- The rules of a segment laid after another continue the numbering where the first stops. -/
theorem RulesLaid.append {n : Nat} {rs rs' : List Rule} {X Y : Array Context}
    (h₁ : RulesLaid hosts D n rs X) (h₂ : RulesLaid hosts D (n + X.size) rs' Y) :
    RulesLaid hosts D n (rs ++ rs') (X ++ Y) := by
  refine ⟨by simpa using h₁.ranges.append h₂.ranges, fun r hr o e cont ins hk => ?_,
    fun r hr => ?_⟩
  · rcases List.mem_append.1 hr with hr | hr
    · have hcont := List.mem_range'_1.1
        (h₁.ranges.numbered ▸ cont_mem_filterMap (Rule.mem_subrulesOf hr) hk)
      obtain ⟨k, hk', hc⟩ := h₁.closing r hr o e cont ins hk
      exact ⟨k, by rw [Array.getElem?_append_left (by omega), hk'], hc⟩
    · have hcont := List.mem_range'_1.1
        (h₂.ranges.numbered ▸ cont_mem_filterMap (Rule.mem_subrulesOf hr) hk)
      obtain ⟨k, hk', hc⟩ := h₂.closing r hr o e cont ins hk
      refine ⟨k, ?_, hc⟩
      rw [Array.getElem?_append_right (by omega), ← hk']
      congr 1
      omega
  · rcases List.mem_append.1 hr with hr | hr
    · exact h₁.nested r hr
    · exact h₂.nested r hr

/-- A layout that names its continuations after some hosts names them after any list holding
them. -/
theorem RangesLaid.mono {hosts' : List DeclaredContext} (hsub : ∀ x ∈ hosts, x ∈ hosts')
    {n : Nat} {rs : List Rule} {X : Array Context} (h : RangesLaid hosts D n rs X) :
    RangesLaid hosts' D n rs X := by
  refine ⟨h.numbered, fun r hr o e cont ins hk => ?_⟩
  obtain ⟨host, hh, hrest⟩ := h.continues r hr o e cont ins hk
  exact ⟨host, hsub host hh, hrest⟩

theorem RulesLaid.mono {hosts' : List DeclaredContext} (hsub : ∀ x ∈ hosts, x ∈ hosts')
    {n : Nat} {rs : List Rule} {X : Array Context} (h : RulesLaid hosts D n rs X) :
    RulesLaid hosts' D n rs X :=
  ⟨h.ranges.mono hsub, h.closing, h.nested⟩

end Laid

/-! ## Continuations by the rule they come from -/

section Placed

variable (host : Nat → Nat → DeclaredContext) (D : Nat)

/-- The rules `rs` are compiled one for one from the placed rules `ps`, and `X` holds the
continuations of their ranges at any depth, numbered from `D + n`: those of each rule follow those
of the rules before it, and are named after `host` of the context the rule was written in. -/
inductive PlacedLaid : Nat → List Tables.Placed → List Rule → Array Context → Prop
  | nil (n : Nat) : PlacedLaid n [] [] #[]
  | cons {n : Nat} {p : Tables.Placed} {r : Rule} {ps : List Tables.Placed} {rs : List Rule}
      {X Y : Array Context} : RulesLaid [host p.grammar p.context] D n [r] X →
      PlacedLaid (n + X.size) ps rs Y → PlacedLaid n (p :: ps) (r :: rs) (X ++ Y)

variable {host D}

theorem PlacedLaid.single {n : Nat} {p : Tables.Placed} {r : Rule} {X : Array Context}
    (h : RulesLaid [host p.grammar p.context] D n [r] X) : PlacedLaid host D n [p] [r] X := by
  simpa using PlacedLaid.cons h (PlacedLaid.nil (n + X.size))

/-- The rules placed after others continue the numbering where the first stop. -/
theorem PlacedLaid.append {n : Nat} {ps ps' : List Tables.Placed} {rs rs' : List Rule}
    {X Y : Array Context} (h₁ : PlacedLaid host D n ps rs X)
    (h₂ : PlacedLaid host D (n + X.size) ps' rs' Y) :
    PlacedLaid host D n (ps ++ ps') (rs ++ rs') (X ++ Y) := by
  induction h₁ with
  | nil n => simpa using h₂
  | cons hr _ ih =>
    rw [List.cons_append, List.cons_append, Array.append_assoc]
    exact .cons hr (ih (by rwa [Array.size_append, ← Nat.add_assoc] at h₂))

end Placed

/-! ## Linking steps one at a time -/

/-- Mapping linking steps that each append a laid-out segment of continuation contexts appends
the segments one after another; the results are related to the inputs one by one. -/
theorem linkM_mapM_laid {α β : Type} {f : α → LinkM β} {R : α → β → Prop}
    {L : Nat → List α → List β → Array Context → Prop} (hnil : ∀ n, L n [] [] #[])
    (happ : ∀ n x xs y ys X Y, L n [x] [y] X → L (n + X.size) xs ys Y →
      L n (x :: xs) (y :: ys) (X ++ Y)) :
    ∀ (xs : List α), (∀ a ∈ xs, ∀ st b st', (f a).run st = .ok (b, st') →
        R a b ∧ ∃ X, st'.extra = st.extra ++ X ∧ L st.extra.size [a] [b] X) →
      ∀ st ys st', (xs.mapM f).run st = .ok (ys, st') →
        List.Forall₂ R xs ys ∧ ∃ X, st'.extra = st.extra ++ X ∧ L st.extra.size xs ys X
  | [], _, st, ys, st', h => by
    obtain ⟨rfl, rfl⟩ := linkM_pure_ok h
    exact ⟨.nil, #[], by simp, hnil _⟩
  | a :: as, hf, st, ys, st', h => by
    obtain ⟨b, st₁, bs, hb, hbs, rfl⟩ := linkM_mapM_cons_ok h
    obtain ⟨hR, X, hX, hL⟩ := hf a List.mem_cons_self st b st₁ hb
    obtain ⟨hR', Y, hY, hL'⟩ := linkM_mapM_laid hnil happ as
      (fun a' ha' => hf a' (List.mem_cons_of_mem _ ha')) st₁ bs st' hbs
    refine ⟨.cons hR hR', X ++ Y, by rw [hY, hX, Array.append_assoc], happ _ _ _ _ _ _ _ hL ?_⟩
    rwa [hX, Array.size_append] at hL'

namespace Tables

variable {t : Tables}

/-- Context `c` of definition `g` is declared. -/
def Declares (t : Tables) (g c : Nat) : Prop :=
  g < t.defs.size ∧ c < (t.definition g).contexts.length

/-- Context `c` of definition `g` as the context table lists it. -/
def host (t : Tables) (g c : Nat) : DeclaredContext :=
  ⟨t.qualify (t.contextDef g c).name g, g, t.contextDef g c⟩

/-- The rules of declared context `c` of definition `g` as splicing places them, each with the
context it was written in; none where splicing fails. -/
def placed (t : Tables) (g c : Nat) : List Placed :=
  match t.expand (t.declared + 1) g c [] with
  | .ok (ps, _) => ps
  | .error _ => []

section Congr

variable {t' : Tables}

/-- Splicing reads only the names and the definitions. -/
theorem expand_congr (hn : t.names = t'.names) (hd : t.defs = t'.defs) : t.expand = t'.expand := by
  have hname : t.name = t'.name := by funext g; simp only [name, hn]
  have hdef : t.contextDef = t'.contextDef := by funext g c; simp only [contextDef, definition, hd]
  have htarget : t.target = t'.target := by
    funext g r
    simp only [target, grammarOf, definition, hn, hd]
  have hqualify : t.qualify = t'.qualify := by funext n g; simp only [qualify, hname]
  funext fuel
  induction fuel with
  | zero => rfl
  | succ fuel ih =>
    funext g c stack
    simp only [expand, hdef, htarget, hname, hqualify, ih]

theorem host_congr (hn : t.names = t'.names) (hd : t.defs = t'.defs) : t.host = t'.host := by
  funext g c
  simp only [host, qualify, name, contextDef, definition, hn, hd]

theorem placed_congr (hn : t.names = t'.names) (hd : t.defs = t'.defs)
    (hdecl : t.declared = t'.declared) : t.placed = t'.placed := by
  funext g c
  simp only [placed, expand_congr hn hd, hdecl]

end Congr

/-- A language is found among the names of the definitions. -/
theorem grammarOf_lt {l : String} {g : Nat} (h : t.grammarOf l = some g) : g < t.names.size :=
  (Array.findIdx?_eq_some_iff_getElem.1 h).1

/-- A reference written in a definition resolves to a declared context. -/
theorem Sound.target_declares (ht : t.Sound) (hnames : t.names.size = t.defs.size) {g : Nat}
    (hg : g < t.defs.size) {r : Definition.Target} {tg c : Nat}
    (h : t.target g r = some (tg, c)) : t.Declares tg c := by
  have first : ∀ g', g' < t.defs.size → t.Declares g' 0 := fun g' hg' =>
    ⟨hg', List.length_pos_of_ne_nil (ht.nonempty _ hg')⟩
  -- the language picks the definition, and a context name (or its absence) the context
  cases hl : r.language <;> cases hname : r.context <;>
    simp [target, hl, hname, Option.bind_eq_some_iff] at h
  case none.none =>
    obtain ⟨rfl, rfl⟩ := h
    exact first _ hg
  case none.some =>
    obtain ⟨⟨k, hc⟩, rfl⟩ := h
    exact ⟨hg, lt_of_find_name hc⟩
  case some.none =>
    obtain ⟨hfind, rfl⟩ := h
    exact first _ (hnames ▸ grammarOf_lt hfind)
  case some.some =>
    obtain ⟨hfind, k, hc⟩ := h
    exact ⟨hnames ▸ grammarOf_lt hfind, lt_of_find_name hc⟩

/-- A placed rule is written in the declared context it is placed with. -/
def Placed.Written (t : Tables) (p : Placed) : Prop :=
  t.Declares p.grammar p.context ∧ p.rule ∈ (t.contextDef p.grammar p.context).rules

/-- Splicing a declared context places only rules written in declared contexts, and adopts the
attribute of a declared context. -/
theorem Sound.expand_written (ht : t.Sound) (hnames : t.names.size = t.defs.size) :
    ∀ fuel g c stack placed adopt, t.Declares g c → t.expand fuel g c stack = .ok (placed, adopt) →
      (∀ p ∈ placed, p.Written t) ∧ ∀ tg tc, adopt = some (tg, tc) → t.Declares tg tc
  | 0, g, c, stack, placed, adopt, _, h => by
    simp only [expand, Except.ok.injEq, Prod.mk.injEq] at h
    obtain ⟨rfl, rfl⟩ := h
    simp
  | fuel + 1, g, c, stack, placed, adopt, hgc, h => by
    unfold expand at h
    refine foldlM_ok_inv_mem (P := fun acc : List Placed × Option (Nat × Nat) =>
        (∀ p ∈ acc.1, p.Written t) ∧ ∀ tg tc, acc.2 = some (tg, tc) → t.Declares tg tc) _
      (fun acc rule acc' hrule hacc hstep => ?_) _ _ ⟨by simp, by simp⟩ h
    obtain ⟨out, adopt⟩ := acc
    obtain ⟨hout, hadopt⟩ := hacc
    dsimp only at hstep
    split at hstep
    · -- an inclusion splices the rules of the declared context it names
      next r includeAttrib hkind =>
      split at hstep
      · next tg tc htarget =>
        have hdecl := ht.target_declares hnames hgc.1 htarget
        split at hstep
        · cases hstep
        · obtain ⟨⟨inner, _⟩, hinner, hstep⟩ := except_bind_ok hstep
          cases hstep
          have hin := (Sound.expand_written ht hnames fuel tg tc _ _ _ hdecl hinner).1
          refine ⟨fun p hp => ?_, fun tg' tc' h' => ?_⟩
          · rcases List.mem_append.1 hp with hp | hp
            · exact hout p hp
            · exact hin p hp
          · dsimp only at h'
            split at h'
            · cases h'
              exact hdecl
            · exact hadopt tg' tc' h'
      · cases hstep
    · -- any other rule is placed with the context itself
      cases hstep
      refine ⟨fun p hp => ?_, hadopt⟩
      rcases List.mem_append.1 hp with hp | hp
      · exact hout p hp
      · simp only [List.mem_singleton] at hp
        subst hp
        exact ⟨hgc, hrule⟩

/-- Making a continuation appends one context, numbered after those before it and named after
the context the range was written in. -/
theorem continuation_run {g : Nat} {context : String} {attr : Nat} {sw : Switch} {dyn ins : Bool}
    {closing : String} {st st' : LinkState} {id : Nat}
    (h : (t.continuation g context attr sw dyn ins closing).run st = .ok (id, st')) :
    id = t.declared + st.extra.size ∧ ∃ k, st'.extra = st.extra.push k ∧
      k.ContinuesRange (t.qualify context g ++ "#range" ++ toString st.extra.size) g attr dyn
        closing ins sw := by
  simp only [continuation, StateT.run_bind, StateT.run_get, StateT.run_set, StateT.run_pure,
    pure_bind] at h
  cases h
  exact ⟨rfl, _, rfl, ⟨rfl, rfl, rfl, rfl, rfl, rfl, rfl, rfl⟩⟩

/-- What compiling a rule's kind can do: a written range makes its continuation, and every other
kind leaves the continuations alone, a keyword list being one the definition records. -/
theorem compileKind_cases {g : Nat} {context : String} {w : Definition.Rule} {attrIdx : Nat}
    {sw : Switch} {st st' : LinkState} {kind : RuleKind}
    (h : (t.compileKind g context w attrIdx sw).run st = .ok (kind, st')) :
    (∃ o e, w.kind = .rangeDetect o e ∧
        kind = .rangeDetect o e (t.declared + st.extra.size) w.insensitive ∧
        ∃ k, st'.extra = st.extra.push k ∧
          k.ContinuesRange (t.qualify context g ++ "#range" ++ toString st.extra.size) g attrIdx
            w.dynamic e w.insensitive sw) ∨
      (st'.extra = st.extra ∧ kind.continuation? = none ∧
        ∀ l, kind = .keyword l → ∃ name, ((t.listIds[g]?).getD []).lookup name = some l) := by
  rcases compileKind_run h with ⟨o, e, cont, hwk, rfl, hcont⟩ | ⟨source, id, -, rfl, hpat⟩ |
    ⟨rfl, hnr, hlist⟩
  · obtain ⟨rfl, k, hext, hk⟩ := continuation_run hcont
    exact .inl ⟨o, e, hwk, rfl, k, hext, hk⟩
  · -- a fixed pattern goes into the pattern table, which holds no contexts
    exact .inr ⟨pattern_extra hpat, rfl, by simp⟩
  · exact .inr ⟨rfl, RuleKind.continuation?_eq_none hnr, hlist⟩

end Tables

/-! ## Compiling appends laid-out segments -/

namespace Tables

variable {t : Tables} (hosts : List DeclaredContext)

mutual

/-- Compiling a rule written in a declared context appends the continuations of its ranges: its
own, named after that context and closing with its switch, and then its children's. -/
theorem compileRule_laid (ht : t.Sound) {g c : Nat} (hhost : t.host g c ∈ hosts) (da : Nat) :
    ∀ (w : Definition.Rule) (st st' : LinkState) (r : Rule),
      (∀ w' ∈ w.subrules, w' ∈ Definition.Rule.subrulesOf (t.contextDef g c).rules) →
      (t.compileRule g (t.contextDef g c).name da w).run st = .ok (r, st') →
      ∃ X, st'.extra = st.extra ++ X ∧ RulesLaid hosts t.declared st.extra.size [r] X
  | ⟨element, kind, attr, switch, lookAhead, firstNonSpace, column, dynamic, insensitive,
      children⟩, st, st', r, hw, h => by
    obtain ⟨attrIdx, sw, kind', st₁, kids, -, -, hsw, hkind, hkids, rfl⟩ := compileRule_run h
    obtain ⟨X₂, hX₂, hlaid₂, hstay⟩ := compileChildren_laid ht hhost attrIdx children st₁ st' kids
      (fun w' hw' => hw w' (Definition.Rule.subrulesOf_children_subset _ w' hw')) hkids
    have hpush := ht.switch_push_lt hsw
    rcases compileKind_cases hkind with ⟨o, e, hwk, rfl, k, hext, hk⟩ | ⟨hext, hnone, -⟩
    · -- a range makes its continuation first, then its children make theirs
      have hsize : st₁.extra.size = st.extra.size + 1 := by rw [hext, Array.size_push]
      have hhead : RangesLaid hosts t.declared st.extra.size
          [{ kind := .rangeDetect o e (t.declared + st.extra.size) insensitive, attr := attrIdx,
             switch := sw, lookAhead, firstNonSpace, column, dynamic, children := kids }] #[k] :=
        RangesLaid.single rfl hhost ⟨_, hw _ (by simp [Definition.Rule.subrules_eq]), hwk⟩
          hpush hk
      refine ⟨#[k] ++ X₂, by rw [hX₂, hext, Array.push_eq_append, Array.append_assoc], ?_, ?_, ?_⟩
      · rw [Rule.subrulesOf_cons, Rule.subrulesOf_nil, List.append_nil, Rule.subrules_eq]
        exact hhead.append (by simpa [hsize] using hlaid₂)
      · intro r hr o' e' cont ins hk'
        rw [List.mem_singleton] at hr
        subst hr
        cases hk'
        exact ⟨k, by simp, hk.rules⟩
      · intro r hr
        rw [List.mem_singleton] at hr
        subst hr
        exact hstay
    · -- any other kind appends only what its children do
      refine ⟨X₂, by rw [hX₂, hext], ?_, ?_, ?_⟩
      · rw [Rule.subrulesOf_cons, Rule.subrulesOf_nil, List.append_nil, Rule.subrules_eq]
        exact RangesLaid.cons_none hnone (by rwa [hext] at hlaid₂)
      · intro r hr o' e' cont ins hk'
        rw [List.mem_singleton] at hr
        subst hr
        cases hk'
        simp [RuleKind.continuation?] at hnone
      · intro r hr
        rw [List.mem_singleton] at hr
        subst hr
        exact hstay

/-- Compiling children appends the continuations of their ranges in order; none of them
switches. -/
theorem compileChildren_laid (ht : t.Sound) {g c : Nat} (hhost : t.host g c ∈ hosts) (da : Nat) :
    ∀ (cs : List Definition.Rule) (st st' : LinkState) (ks : List Rule),
      (∀ w' ∈ Definition.Rule.subrulesOf cs,
        w' ∈ Definition.Rule.subrulesOf (t.contextDef g c).rules) →
      (t.compileChildren g (t.contextDef g c).name da cs).run st = .ok (ks, st') →
      ∃ X, st'.extra = st.extra ++ X ∧
        RangesLaid hosts t.declared st.extra.size (Rule.subrulesOf ks) X ∧
        ∀ r ∈ Rule.subrulesOf ks, r.switch = .stay
  | [], st, st', ks, _, h => by
    obtain ⟨rfl, rfl⟩ := compileChildren_nil_run h
    exact ⟨#[], by simp, RangesLaid.nil _, by simp⟩
  | c' :: cs, st, st', ks, hw, h => by
    obtain ⟨k, st₁, ks', hk, hks, rfl⟩ := compileChildren_cons_run h
    obtain ⟨X₁, hX₁, hlaid₁⟩ := compileRule_laid ht hhost da c' st st₁ k
      (fun w' hw' => hw w' (List.mem_append_left _ hw')) hk
    obtain ⟨X₂, hX₂, hlaid₂, hstay₂⟩ := compileChildren_laid ht hhost da cs st₁ st' ks'
      (fun w' hw' => hw w' (List.mem_append_right _ hw')) hks
    have hsize : st₁.extra.size = st.extra.size + X₁.size := by rw [hX₁, Array.size_append]
    have hhead := hlaid₁.ranges
    rw [Rule.subrulesOf_cons, Rule.subrulesOf_nil, List.append_nil, Rule.subrules_eq] at hhead
    refine ⟨X₁ ++ X₂, by rw [hX₂, hX₁, Array.append_assoc], ?_, fun r hr => ?_⟩
    · rw [Rule.subrulesOf_cons, Rule.subrules_eq]
      exact (hhead.cons_switch .stay).append (hsize ▸ hlaid₂)
    · rw [Rule.subrulesOf_cons, Rule.subrules_eq] at hr
      rcases List.mem_append.1 hr with hr | hr
      · rcases List.mem_cons.1 hr with rfl | hr
        · rfl
        · exact hlaid₁.nested k List.mem_cons_self r hr
      · exact hstay₂ r hr

end

end Tables

namespace Tables

variable {t : Tables} (hosts : List DeclaredContext)

/-- Compiling a declared context appends the continuations of its rules in order, those of
each rule named after the context the rule was written in; it carries the name and the separators
of the context as the table lists it. -/
theorem compileContext_laid (ht : t.Sound) (hnames : t.names.size = t.defs.size)
    (hhosts : ∀ g c, t.Declares g c → t.host g c ∈ hosts) {g c : Nat} (hgc : t.Declares g c)
    {st st' : LinkState} {k : Context} (h : (t.compileContext g c).run st = .ok (k, st')) :
    ((t.host g c).name, g) = (k.name, k.separators) ∧
      ∃ X, st'.extra = st.extra ++ X ∧ RulesLaid hosts t.declared st.extra.size k.rules X ∧
        PlacedLaid t.host t.declared st.extra.size (t.placed g c) k.rules X := by
  obtain ⟨placed, adopt, hexp, hrules, hname, hsep, -⟩ := compileContext_run h
  have hplaced : t.placed g c = placed := by rw [Tables.placed, hexp]
  -- every spliced rule was written in a declared context, where it is compiled
  have hwritten := (ht.expand_written hnames _ g c [] placed adopt hgc hexp).1
  obtain ⟨-, X, hX, hlaid, hexact⟩ := linkM_mapM_laid (R := fun _ _ => True)
    (L := fun n ps rs X => RulesLaid hosts t.declared n rs X ∧ PlacedLaid t.host t.declared n ps rs X)
    (fun n => ⟨RulesLaid.nil n, PlacedLaid.nil n⟩)
    (fun n x xs y ys X Y h₁ h₂ => ⟨h₁.1.append h₂.1, h₁.2.append h₂.2⟩) placed
    (fun p hp st b st' hrun => by
      obtain ⟨X, hX, hone⟩ := compileRule_laid [t.host p.grammar p.context] ht
        (List.mem_singleton_self _) _ p.rule st st' b
        (Definition.Rule.subrules_subset (hwritten p hp).2) hrun
      have hsub : ∀ x ∈ [t.host p.grammar p.context], x ∈ hosts := by
        intro x hx
        rw [List.mem_singleton.1 hx]
        exact hhosts _ _ (hwritten p hp).1
      exact ⟨trivial, X, hX, hone.mono hsub, PlacedLaid.single hone⟩)
    st k.rules st' hrules
  -- the table lists a declared context under its qualified name
  exact ⟨by rw [hname, hsep]; rfl, X, hX, hlaid, hplaced ▸ hexact⟩

/-- The declared contexts are the contexts of the definitions, in order. -/
theorem mem_contextRefs {g c : Nat} : (g, c) ∈ contextRefs t.defs ↔ t.Declares g c := by
  simp only [contextRefs, List.mem_flatMap, List.mem_map, List.mem_range, Prod.mk.injEq,
    List.mem_zipIdx_iff_getElem?, Array.getElem?_toList, Prod.exists, Declares, definition]
  constructor
  · rintro ⟨d, g', hd, c', hc, rfl, rfl⟩
    exact ⟨(Array.getElem?_eq_some_iff.1 hd).1, by rwa [hd]⟩
  · rintro ⟨hg, hc⟩
    rw [Array.getElem?_eq_getElem hg, Option.getD_some] at hc
    exact ⟨t.defs[g], g, Array.getElem?_eq_getElem hg, c, hc, rfl, rfl⟩

/-- Listed by definition and context, the declared contexts of tables built from `defs` are
`declaredContexts defs`. -/
theorem map_host_contextRefs {defs : Array (String × Definition)}
    (hnames : t.names = defs.map (·.1)) (hdefs : t.defs = defs.map (·.2)) :
    (contextRefs t.defs).map (fun gc => t.host gc.1 gc.2) = declaredContexts defs := by
  rw [contextRefs, declaredContexts, List.map_flatMap, hdefs, Array.toList_map, List.zipIdx_map,
    List.flatMap_map]
  refine List.flatMap_congr fun x hx => ?_
  obtain ⟨⟨lang, d⟩, g⟩ := x
  have hg : defs[g]? = some (lang, d) := by simpa using List.mem_zipIdx_iff_getElem?.1 hx
  apply List.ext_getElem (by simp)
  intro i h₁ h₂
  have hi : i < d.contexts.length := by simpa using h₁
  simp [host, contextDef, definition, qualify, name, hnames,
    hdefs, hg, List.getElem?_eq_getElem hi]

/-- Compiling the declared contexts of definitions `defs` lays out every continuation after
them, numbered from the number of declared contexts, those of each rule named after the context
it was written in; each compiled context carries the name and the separators of the context
`declaredContexts` lists at its place. -/
theorem compileContexts_laid {defs : Array (String × Definition)} (ht : t.Sound)
    (hnames : t.names = defs.map (·.1)) (hdefs : t.defs = defs.map (·.2)) {st' : LinkState}
    {out : Array Context} (h : t.compileContexts.run {} = .ok (out, st')) :
    out.toList.map (fun k => (k.name, k.separators)) =
        (declaredContexts defs).map (fun x => (x.name, x.source)) ∧
      RulesLaid (declaredContexts defs) t.declared 0 (out.toList.flatMap (·.rules)) st'.extra ∧
      PlacedLaid t.host t.declared 0 ((contextRefs t.defs).flatMap fun gc => t.placed gc.1 gc.2)
        (out.toList.flatMap (·.rules)) st'.extra := by
  have hhosts : ∀ g c, t.Declares g c → t.host g c ∈ declaredContexts defs := fun g c hgc => by
    rw [← map_host_contextRefs hnames hdefs]
    exact List.mem_map.2 ⟨(g, c), mem_contextRefs.2 hgc, rfl⟩
  obtain ⟨ks, hks, rfl⟩ := compileContexts_run h
  obtain ⟨hrel, X, hX, hlaid, hexact⟩ := linkM_mapM_laid
    (R := fun gc k => ((t.host gc.1 gc.2).name, gc.1) = (k.name, k.separators))
    (L := fun n gcs ys X =>
      RulesLaid (declaredContexts defs) t.declared n (ys.flatMap (·.rules)) X ∧
        PlacedLaid t.host t.declared n (gcs.flatMap fun gc => t.placed gc.1 gc.2)
          (ys.flatMap (·.rules)) X)
    (fun n => ⟨RulesLaid.nil n, PlacedLaid.nil n⟩)
    (fun n x xs y ys X Y h₁ h₂ => by
      simp only [List.flatMap_cons, List.flatMap_nil, List.append_nil] at h₁ h₂ ⊢
      exact ⟨h₁.1.append h₂.1, h₁.2.append h₂.2⟩)
    (contextRefs t.defs) (fun gc hgc st k st' hrun => by
      obtain ⟨hname, X, hX, hlaid, hexact⟩ := compileContext_laid _ ht (by simp [hnames, hdefs])
        hhosts (mem_contextRefs.1 hgc) hrun
      exact ⟨hname, X, hX, by simpa using hlaid, by simpa using hexact⟩) {} ks st' hks
  refine ⟨?_, by simpa [hX] using hlaid, by simpa [hX] using hexact⟩
  -- the contexts correspond one by one to the declared ones
  have hrel' := List.forall₂_map_right_iff.2 (List.forall₂_map_left_iff.2 hrel)
  rw [List.forall₂_eq_eq_eq] at hrel'
  rw [← map_host_contextRefs hnames hdefs, List.map_map]
  exact hrel'.symm

end Tables

/-- The tables with what splicing reads: the definitions, the names they are referred to by, and
the number of declared contexts. -/
def spliceTables (defs : Array (String × Definition)) : Tables where
  names := defs.map (·.1)
  defs := defs.map (·.2)
  contextBase := #[]
  declared := (contextBases (defs.map (·.2))).back?.getD 0
  attrIds := #[]
  listIds := #[]
  contextAttrs := #[]

/-- How linking lays out the context table of `g` for definitions `defs`: first the declared
contexts, in the order of `declaredContexts`, then the continuation contexts of all their range
rules at any depth, in the order they were compiled. The rules of the declared contexts are
compiled one for one from the rules splicing places in them, in table order, and the continuations
of each are named after the context that rule was written in. -/
def LaidOut (defs : Array (String × Definition)) (g : Grammar) : Prop :=
  ∃ C E, g.contexts = C ++ E ∧
    C.toList.map (fun k => (k.name, k.separators)) =
      (declaredContexts defs).map (fun x => (x.name, x.source)) ∧
    RulesLaid (declaredContexts defs) C.size 0 (C.toList.flatMap (·.rules)) E ∧
    PlacedLaid (spliceTables defs).host C.size 0
      ((contextRefs (defs.map (·.2))).flatMap fun gc => (spliceTables defs).placed gc.1 gc.2)
      (C.toList.flatMap (·.rules)) E

/-! ## The layout of a linked grammar -/

/-- **Linking lays out the context table**: the declared contexts of `defs`, in order, then one
continuation context for each range rule compiled, in order, each named after the context the
rule it belongs to was written in. -/
theorem link_laidOut {defs : Array (String × Definition)} {g : Grammar} (hne : 0 < defs.size)
    (h : link defs = .ok g) : g.LaidOut defs := by
  obtain ⟨t, -, contexts, st, hctx, hnames, hdefs, hbase, hdecl, -, -, -, hbuild, hctxs, -⟩ :=
    link_run h
  have hne' : 0 < t.defs.size := by simpa [hdefs] using hne
  obtain ⟨hlist, hlaid, hexact⟩ := Tables.compileContexts_laid
    (Tables.sound_of_bases hne' hctx rfl (hdefs ▸ hbase) (hdefs ▸ hdecl)) hnames hdefs hbuild
  -- splicing reads only what the tables share with those of the definitions alone
  have hhost : t.host = (spliceTables defs).host := Tables.host_congr hnames hdefs
  have hplaced : t.placed = (spliceTables defs).placed :=
    Tables.placed_congr hnames hdefs (by rw [hdecl]; rfl)
  -- the declared contexts are numbered exactly up to their count
  have hD : t.declared = contexts.size := by
    have hsize : contexts.size = (declaredContexts defs).length := by
      simpa using congrArg List.length hlist
    rw [hsize, length_declaredContexts, hdecl, contextBases_back]
  rw [hhost, hplaced, hdefs, hD] at hexact
  exact ⟨contexts, st.extra, hctxs, hlist, hD ▸ hlaid, hexact⟩

end Grammar

end Highlight

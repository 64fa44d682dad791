import Mathlib
import Highlight.Grammar.Load
/-!
# What linking guarantees

A linked grammar numbers its contexts in one table: the declared contexts of every definition, in
order, and after them the contexts that continue unterminated ranges. The parser looks contexts up
by number with a default, to stay total; this module shows that for a grammar that linking
produced the default is never needed, and that every push of a context with placeholders binds
enough captures.

`Grammar.Linked` collects the facts:

* the table is not empty, and the first context needs no captures;
* every switch (of a rule, a line end, an empty line or a fallthrough) pushes contexts of the
  table, and needs no more captures than its pusher binds: a rule binds the groups its pattern
  has, the others bind none;
* a range rule continues in a context of the table that needs no more captures than the context
  the rule belongs to.

The main statement is `link_linked`. Its proof follows linking: switch targets resolve below the
number of declared contexts (`Tables.Sound`), compiling a rule or a context only appends
continuation contexts (`LinkState.Le`), and the placeholder check of `checkBindings` gives the
capture bounds.
-/

namespace Highlight

namespace Grammar

/-! ## Steps that may fail -/

section Except

variable {ε α β : Type}

/-- A bind that succeeds ran both of its parts successfully. -/
theorem except_bind_ok {x : Except ε α} {f : α → Except ε β} {b : β} (h : (x >>= f) = .ok b) :
    ∃ a, x = .ok a ∧ f a = .ok b := by
  cases x with
  | error e => cases h
  | ok a => exact ⟨a, rfl, h⟩

/-- A loop of checks that succeeds passed every check. -/
theorem forM_ok {xs : List α} {f : α → Except ε PUnit} (h : xs.forM f = .ok ()) :
    ∀ x ∈ xs, f x = .ok () := by
  induction xs with
  | nil => simp
  | cons x xs ih =>
    have h' : (f x >>= fun _ => xs.forM f) = .ok () := h
    obtain ⟨u, hx, hrest⟩ := except_bind_ok h'
    intro y hy
    rcases List.mem_cons.1 hy with rfl | hy
    · exact hx
    · exact ih hrest y hy

/-- Every result of a successful `mapM` is the result of one of its inputs. -/
theorem mapM_ok_mem {xs : List α} {f : α → Except ε β} {ys : List β} (h : xs.mapM f = .ok ys) :
    ∀ y ∈ ys, ∃ x ∈ xs, f x = .ok y := by
  induction xs generalizing ys with
  | nil =>
    simp only [List.mapM_nil] at h
    cases h
    simp
  | cons x xs ih =>
    rw [List.mapM_cons] at h
    obtain ⟨b, hb, h⟩ := except_bind_ok h
    obtain ⟨bs, hbs, h⟩ := except_bind_ok h
    cases h
    intro y hy
    rcases List.mem_cons.1 hy with rfl | hy
    · exact ⟨x, List.mem_cons_self, hb⟩
    · obtain ⟨x', hx', hf⟩ := ih hbs y hy
      exact ⟨x', List.mem_cons_of_mem _ hx', hf⟩

/-- An optional value mapped successfully came from the value there was. -/
theorem optionMapM_ok {o : Option α} {f : α → Except ε β} {o' : Option β} (h : o.mapM f = .ok o') :
    ∀ b ∈ o', ∃ a ∈ o, f a = .ok b := by
  cases o with
  | none =>
    cases h
    simp
  | some a =>
    simp only [Option.mapM_some] at h
    cases hb : f a with
    | error e => rw [hb] at h; cases h
    | ok b =>
      rw [hb] at h
      cases h
      intro b' hb'
      cases hb'
      exact ⟨a, rfl, hb⟩

/-- A bind that fails failed in its first part, or in its second after the first succeeded. -/
theorem except_bind_error {x : Except ε α} {f : α → Except ε β} {e : ε} (h : (x >>= f) = .error e) :
    x = .error e ∨ ∃ a, x = .ok a ∧ f a = .error e := by
  cases x with
  | error e' => exact .inl (by cases h; rfl)
  | ok a => exact .inr ⟨a, rfl, h⟩

/-- A successful `mapM` gives each input's result, in order. -/
theorem mapM_ok_forall₂ {f : α → Except ε β} :
    ∀ {xs : List α} {ys : List β}, xs.mapM f = .ok ys → List.Forall₂ (fun x y => f x = .ok y) xs ys
  | [], ys, h => by
    simp only [List.mapM_nil] at h
    cases h
    exact .nil
  | x :: xs, ys, h => by
    rw [List.mapM_cons] at h
    obtain ⟨y, hy, h⟩ := except_bind_ok h
    obtain ⟨ys', hys, h⟩ := except_bind_ok h
    cases h
    exact .cons hy (mapM_ok_forall₂ hys)

/-- A failed `mapM` failed at one of its inputs. -/
theorem mapM_error_mem {f : α → Except ε β} :
    ∀ {xs : List α} {e : ε}, xs.mapM f = .error e → ∃ x ∈ xs, f x = .error e
  | [], e, h => by simp [List.mapM_nil] at h; cases h
  | x :: xs, e, h => by
    rw [List.mapM_cons] at h
    cases hx : f x with
    | error e' =>
      rw [hx] at h
      cases h
      exact ⟨x, List.mem_cons_self, hx⟩
    | ok y =>
      rw [hx] at h
      cases hxs : xs.mapM f with
      | error e' =>
        rw [hxs] at h
        cases h
        obtain ⟨x', hx', hf⟩ := mapM_error_mem hxs
        exact ⟨x', List.mem_cons_of_mem _ hx', hf⟩
      | ok ys =>
        rw [hxs] at h
        cases h

/-- A `mapM` one of whose inputs fails fails. -/
theorem mapM_error_of_mem {f : α → Except ε β} {x : α} {e : ε} (hfx : f x = .error e) :
    ∀ {xs : List α}, x ∈ xs → ∃ e', xs.mapM f = .error e'
  | [], hx => by simp at hx
  | y :: xs, hx => by
    rw [List.mapM_cons]
    cases hy : f y with
    | error e' => exact ⟨e', rfl⟩
    | ok b =>
      have hx' : x ∈ xs := by
        rcases List.mem_cons.1 hx with rfl | hx
        · rw [hfx] at hy
          cases hy
        · exact hx
      obtain ⟨e', he'⟩ := mapM_error_of_mem hfx hx'
      exact ⟨e', by rw [he']; rfl⟩

/-- A failed fold failed at one of its steps, from an accumulator its successful steps reached,
so one with every property those steps keep. -/
theorem foldlM_error_inv {f : β → α → Except ε β} {P : β → Prop}
    (hf : ∀ acc x acc', P acc → f acc x = .ok acc' → P acc') :
    ∀ {xs : List α} {init : β} {e : ε}, P init → xs.foldlM f init = .error e →
      ∃ acc, P acc ∧ ∃ x ∈ xs, f acc x = .error e
  | [], init, e, _, h => by cases h
  | x :: xs, init, e, hP, h => by
    rw [List.foldlM_cons] at h
    cases hx : f init x with
    | error e' =>
      rw [hx] at h
      cases h
      exact ⟨init, hP, x, List.mem_cons_self, hx⟩
    | ok acc =>
      rw [hx] at h
      obtain ⟨acc', hP', y, hy, hfy⟩ := foldlM_error_inv hf (hf init x acc hP hx) h
      exact ⟨acc', hP', y, List.mem_cons_of_mem _ hy, hfy⟩

/-- A failed fold failed at one of its steps. -/
theorem foldlM_error_mem {f : β → α → Except ε β} {xs : List α} {init : β} {e : ε}
    (h : xs.foldlM f init = .error e) : ∃ acc, ∃ x ∈ xs, f acc x = .error e :=
  let ⟨acc, _, hx⟩ := foldlM_error_inv (P := fun _ => True) (fun _ _ _ _ _ => trivial) trivial h
  ⟨acc, hx⟩

/-- A fold one of whose steps fails whatever came before fails. -/
theorem foldlM_error_of_mem {f : β → α → Except ε β} {x : α} (hfx : ∀ acc, ∃ e, f acc x = .error e) :
    ∀ {xs : List α} (init : β), x ∈ xs → ∃ e, xs.foldlM f init = .error e
  | [], _, hx => by simp at hx
  | y :: xs, init, hx => by
    rw [List.foldlM_cons]
    cases hy : f init y with
    | error e' => exact ⟨e', rfl⟩
    | ok acc =>
      have hx' : x ∈ xs := by
        rcases List.mem_cons.1 hx with rfl | hx
        · obtain ⟨e, he⟩ := hfx init
          rw [he] at hy
          cases hy
        · exact hx
      exact foldlM_error_of_mem hfx acc hx'

/-- A fold keeps a property of the inputs handled so far and of its accumulator, when every
successful step extends it by the input the step handled. -/
theorem foldlM_ok_prefix {f : β → α → Except ε β} {P : List α → β → Prop} :
    ∀ (xs : List α), (∀ pre acc x acc', x ∈ xs → P pre acc → f acc x = .ok acc' → P (pre ++ [x]) acc') →
      ∀ (pre : List α) (init out : β), P pre init → xs.foldlM f init = .ok out → P (pre ++ xs) out
  | [], _, pre, init, out, hP, h => by
    cases h
    simpa using hP
  | x :: xs, hf, pre, init, out, hP, h => by
    rw [List.foldlM_cons] at h
    obtain ⟨acc, hacc, h'⟩ := except_bind_ok h
    have := foldlM_ok_prefix xs (fun p a y a' hy => hf p a y a' (List.mem_cons_of_mem _ hy))
      (pre ++ [x]) acc out (hf pre init x acc List.mem_cons_self hP hacc) h'
    simpa using this

/-- A fold whose every successful step on an element of the list keeps a property keeps it. -/
theorem foldlM_ok_inv_mem {f : β → α → Except ε β} {P : β → Prop} :
    ∀ (xs : List α), (∀ acc x acc', x ∈ xs → P acc → f acc x = .ok acc' → P acc') →
      ∀ (init out : β), P init → xs.foldlM f init = .ok out → P out :=
  fun xs hf =>
    foldlM_ok_prefix (P := fun _ acc => P acc) xs (fun _ acc x acc' hx => hf acc x acc' hx) []

/-- A fold whose every successful step keeps a property keeps it. -/
theorem foldlM_ok_inv {f : β → α → Except ε β} {P : β → Prop}
    (hf : ∀ acc x acc', P acc → f acc x = .ok acc' → P acc') :
    ∀ (xs : List α) (init out : β), P init → xs.foldlM f init = .ok out → P out :=
  fun xs => foldlM_ok_inv_mem xs fun acc x acc' _ => hf acc x acc'

end Except

/-! ## Linking steps -/

section LinkM

variable {α β : Type}

/-- A linking step that succeeds ran both of its parts successfully. -/
theorem linkM_bind_ok {x : LinkM α} {f : α → LinkM β} {st st' : LinkState} {b : β}
    (h : (x >>= f).run st = .ok (b, st')) :
    ∃ a st₁, x.run st = .ok (a, st₁) ∧ (f a).run st₁ = .ok (b, st') := by
  simp only [StateT.run_bind] at h
  obtain ⟨⟨a, st₁⟩, hx, hf⟩ := except_bind_ok h
  exact ⟨a, st₁, hx, hf⟩

/-- A lifted step leaves the link state alone. -/
theorem linkM_lift_ok {x : Except LoadError α} {st st' : LinkState} {a : α}
    (h : (StateT.lift x : LinkM α).run st = .ok (a, st')) : x = .ok a ∧ st' = st := by
  simp only [StateT.run_lift] at h
  obtain ⟨a', hx, h⟩ := except_bind_ok h
  cases h
  exact ⟨hx, rfl⟩

/-- A step that only returns a value leaves the link state alone. -/
theorem linkM_pure_ok {a b : α} {st st' : LinkState} (h : (pure a : LinkM α).run st = .ok (b, st')) :
    b = a ∧ st' = st := by
  simp only [StateT.run_pure] at h
  cases h
  exact ⟨rfl, rfl⟩

/-- A map of linking steps that succeeds ran the step of its first input, then the map of the rest
from the state that step left. -/
theorem linkM_mapM_cons_ok {f : α → LinkM β} {a : α} {as : List α} {st st' : LinkState}
    {ys : List β} (h : ((a :: as).mapM f).run st = .ok (ys, st')) :
    ∃ b st₁ bs, (f a).run st = .ok (b, st₁) ∧ (as.mapM f).run st₁ = .ok (bs, st') ∧
      ys = b :: bs := by
  rw [List.mapM_cons] at h
  obtain ⟨b, st₁, hb, h₁⟩ := linkM_bind_ok h
  obtain ⟨bs, st₂, hbs, h₂⟩ := linkM_bind_ok h₁
  obtain ⟨rfl, rfl⟩ := linkM_pure_ok h₂
  exact ⟨b, st₁, bs, hb, hbs, rfl⟩

/-- A step that fails does not succeed. -/
@[simp] theorem linkM_run_throw (e : LoadError) (st : LinkState) :
    (throw e : LinkM α).run st = .error e := rfl

end LinkM

/-- One link state leads to another when linking only appended continuation contexts. -/
def LinkState.Le (st st' : LinkState) : Prop := ∃ more, st'.extra = st.extra ++ more

namespace LinkState

theorem Le.refl (st : LinkState) : st.Le st := ⟨#[], by simp⟩

theorem Le.trans {st₁ st₂ st₃ : LinkState} (h₁ : st₁.Le st₂) (h₂ : st₂.Le st₃) : st₁.Le st₃ := by
  obtain ⟨m₁, h₁⟩ := h₁
  obtain ⟨m₂, h₂⟩ := h₂
  exact ⟨m₁ ++ m₂, by rw [h₂, h₁, Array.append_assoc]⟩

/-- A continuation context made earlier is still there later. -/
theorem Le.getElem? {st st' : LinkState} (h : st.Le st') {i : Nat} {k : Context}
    (hk : st.extra[i]? = some k) : st'.extra[i]? = some k := by
  obtain ⟨more, h⟩ := h
  rw [h, Array.getElem?_append_left (Array.getElem?_eq_some_iff.1 hk).1, hk]

end LinkState

section LinkM

variable {α β : Type}

/-- Mapping steps that keep an invariant, only append, and give results with a property that
survives appending: the whole map does the same for every result. -/
theorem linkM_mapM_spec {f : α → LinkM β} {I : LinkState → Prop} {P : β → LinkState → Prop}
    (hmono : ∀ b st st', P b st → st.Le st' → P b st') (xs : List α)
    (hf : ∀ a ∈ xs, ∀ st b st', I st → (f a).run st = .ok (b, st') → I st' ∧ st.Le st' ∧ P b st') :
    ∀ st ys st', I st → (xs.mapM f).run st = .ok (ys, st') →
      I st' ∧ st.Le st' ∧ ys.length = xs.length ∧ ∀ y ∈ ys, P y st' := by
  induction xs with
  | nil =>
    intro st ys st' hI h
    obtain ⟨rfl, rfl⟩ := linkM_pure_ok h
    exact ⟨hI, .refl _, rfl, by simp⟩
  | cons a as ih =>
    intro st ys st' hI h
    obtain ⟨b, st₁, bs, hb, hbs, rfl⟩ := linkM_mapM_cons_ok h
    obtain ⟨hI₁, hle₁, hP₁⟩ := hf a List.mem_cons_self st b st₁ hI hb
    obtain ⟨hI₂, hle₂, hlen, hP₂⟩ :=
      ih (fun a' ha' => hf a' (List.mem_cons_of_mem _ ha')) st₁ bs st' hI₁ hbs
    refine ⟨hI₂, hle₁.trans hle₂, by simp [hlen], fun y hy => ?_⟩
    rcases List.mem_cons.1 hy with rfl | hy
    · exact hmono _ _ _ hP₁ hle₂
    · exact hP₂ y hy

end LinkM

/-! ## Resolving references -/

namespace Tables

/-- The tables a reference resolves against: every definition has a context, and the contexts of
each definition are numbered below the number of declared contexts. -/
structure Sound (t : Tables) : Prop where
  declared_pos : 0 < t.declared
  base_size : t.contextBase.size = t.defs.size
  nonempty : ∀ g, g < t.defs.size → (t.definition g).contexts ≠ []
  contextId_lt : ∀ g c, c < (t.definition g).contexts.length → t.contextId g c < t.declared

variable {t : Tables}

/-- The first context of any definition is declared; past the last definition the number is 0. -/
theorem Sound.first_lt (ht : t.Sound) (g : Nat) : t.contextId g 0 < t.declared := by
  by_cases hg : g < t.defs.size
  · exact ht.contextId_lt _ _ (List.length_pos_of_ne_nil (ht.nonempty _ hg))
  · have hbase : t.contextBase[g]? = none := Array.getElem?_eq_none (by rw [ht.base_size]; omega)
    simp [contextId, hbase, ht.declared_pos]

/-- A context found by name is one of the definition's contexts. -/
theorem lt_of_find_name {cs : List Definition.Context} {n : String} {k : Definition.Context}
    {c : Nat} (h : cs.zipIdx.find? (·.1.name == n) = some (k, c)) : c < cs.length := by
  simpa using (List.mem_zipIdx (List.mem_of_find?_eq_some h)).2.1

/-- A resolved reference names a declared context. -/
theorem Sound.target_lt (ht : t.Sound) {g : Nat} {r : Definition.Target} {tg c : Nat}
    (h : t.target g r = some (tg, c)) : t.contextId tg c < t.declared := by
  -- the language picks the definition, and a context name (or its absence) the context
  cases hl : r.language <;> cases hname : r.context <;>
    simp [target, hl, hname, Option.bind_eq_some_iff] at h
  case none.none =>
    obtain ⟨rfl, rfl⟩ := h
    exact ht.first_lt _
  case none.some =>
    obtain ⟨⟨k, hc⟩, rfl⟩ := h
    exact ht.contextId_lt _ _ (lt_of_find_name hc)
  case some.none =>
    obtain ⟨-, rfl⟩ := h
    exact ht.first_lt _
  case some.some =>
    obtain ⟨-, k, hc⟩ := h
    exact ht.contextId_lt _ _ (lt_of_find_name hc)

/-- A compiled switch pushes declared contexts only. -/
theorem Sound.switch_push_lt (ht : t.Sound) {g : Nat} {context : String} {s : Definition.Switch}
    {sw : Switch} (h : t.switch g context s = .ok sw) : ∀ x ∈ sw.push, x < t.declared := by
  obtain ⟨push, hpush, h⟩ := except_bind_ok h
  cases h
  intro x hx
  obtain ⟨r, -, hr⟩ := mapM_ok_mem hpush x hx
  split at hr
  · cases hr
    exact ht.target_lt ‹_›
  · cases hr

end Tables

/-! ## Numbering the declared contexts -/

/-- The first-context numbers are the running sums of the definitions' context counts. -/
theorem contextBases_eq (ds : Array Definition) :
    contextBases ds = ((ds.toList.map (·.contexts.length)).scanl (· + ·) 0).toArray := by
  have key : ∀ (l : List Definition) (pre : Array Nat) (s : Nat),
      l.foldl (fun acc d => acc.push (acc.back?.getD 0 + d.contexts.length)) (pre.push s) =
        pre ++ ((l.map (·.contexts.length)).scanl (· + ·) s).toArray := by
    intro l
    induction l with
    | nil => intro pre s; simp
    | cons d l ih =>
      intro pre s
      rw [List.foldl_cons, Array.back?_push, Option.getD_some, ih, List.map_cons,
        List.scanl_cons]
      simp
  rw [contextBases, ← Array.foldl_toList, show (#[0] : Array Nat) = (#[] : Array Nat).push 0 from rfl,
    key, Array.empty_append]

/-- The number of declared contexts is the sum of the definitions' context counts. -/
theorem contextBases_back (ds : Array Definition) :
    (contextBases ds).back?.getD 0 = (ds.toList.map (·.contexts.length)).sum := by
  rw [contextBases_eq, List.back?_toArray, List.getLast?_scanl, Option.getD_some,
    List.sum_eq_foldl]

/-- Definition `g` numbers its contexts from the sum of the counts of the definitions before it. -/
theorem contextBases_pop_getElem? (ds : Array Definition) {g : Nat} (hg : g < ds.size) :
    (contextBases ds).pop[g]? = some ((ds.toList.map (·.contexts.length)).take g).sum := by
  rw [contextBases_eq, List.pop_toArray, List.getElem?_toArray, List.getElem?_dropLast,
    if_pos (by simp; omega), List.getElem?_scanl, if_pos (by simp; omega), List.sum_eq_foldl]


/-- Definitions that all have contexts declare some context. -/
theorem contextBases_back_pos {ds : Array Definition} (hne : 0 < ds.size)
    (hctx : ∀ d ∈ ds, d.contexts ≠ []) : 0 < (contextBases ds).back?.getD 0 := by
  -- the first definition alone has a context
  rw [contextBases_back]
  have hmem : ds[0].contexts.length ∈ ds.toList.map (·.contexts.length) :=
    List.mem_map_of_mem (Array.getElem_mem_toList hne)
  have hpos := List.length_pos_of_ne_nil (hctx _ (Array.getElem_mem hne))
  have := List.le_sum_of_mem hmem
  omega

/-- The tables linking builds from definitions that all have contexts are sound. -/
theorem Tables.sound_of_bases {ds : Array Definition} (hne : 0 < ds.size)
    (hctx : ∀ d ∈ ds, d.contexts ≠ []) {t : Tables} (hdefs : t.defs = ds)
    (hbase : t.contextBase = (contextBases ds).pop)
    (hdecl : t.declared = (contextBases ds).back?.getD 0) : t.Sound := by
  subst hdefs
  have hdef : ∀ g (hg : g < t.defs.size), t.definition g = t.defs[g] := fun g hg => by
    simp [Tables.definition, Array.getElem?_eq_getElem hg]
  refine ⟨hdecl ▸ contextBases_back_pos hne hctx, ?_,
    fun g hg => by rw [hdef g hg]; exact hctx _ (Array.getElem_mem hg), ?_⟩
  · rw [hbase, Array.size_pop, contextBases_eq]
    simp
  · intro g c hc
    have hg : g < t.defs.size := by
      by_contra hg
      have hnone : (default : Definition).contexts = [] := rfl
      simp [Tables.definition, Array.getElem?_eq_none (Nat.le_of_not_lt hg), hnone] at hc
    -- the contexts of `g` come after those of the definitions before it
    have hsum := List.sum_take_succ (t.defs.toList.map (·.contexts.length)) g (by simpa using hg)
    have hsplit := List.sum_take_add_sum_drop (t.defs.toList.map (·.contexts.length)) (g + 1)
    simp only [List.getElem_map, Array.getElem_toList, ← hdef g hg] at hsum
    rw [Tables.contextId, hbase, contextBases_pop_getElem? _ hg, Option.getD_some, hdecl,
      contextBases_back]
    omega

end Grammar

/-! ## What a compiled context refers to -/

namespace Context

/-- Every switch of the context pushes contexts numbered below `D`. -/
structure PushesBelow (D : Nat) (k : Context) : Prop where
  rules : ∀ r ∈ k.rules, ∀ x ∈ r.switch.push, x < D
  lineEnd : ∀ x ∈ k.lineEnd.push, x < D
  lineEmpty : ∀ sw ∈ k.lineEmpty, ∀ x ∈ sw.push, x < D
  fallthrough : ∀ sw ∈ k.fallthrough, ∀ x ∈ sw.push, x < D

/-- The context needs at least the captures each of its rules reads. -/
def CoversRules (k : Context) : Prop := ∀ r ∈ k.rules, r.placeholder ≤ k.maxPlaceholder

/-- Each range rule of the context continues in a context of `extra`, numbered from `D`, that
needs no more captures than the rule reads. -/
def ContinuesIn (D : Nat) (extra : Array Context) (k : Context) : Prop :=
  ∀ r ∈ k.rules, ∀ o e cont ins, r.kind = .rangeDetect o e cont ins →
    D ≤ cont ∧ ∃ k', extra[cont - D]? = some k' ∧ k'.maxPlaceholder ≤ r.placeholder

/-- A context without range rules continues nowhere. -/
theorem continuesIn_of_noRange {D : Nat} {k : Context}
    (h : ∀ r ∈ k.rules, ∀ o e cont ins, r.kind ≠ .rangeDetect o e cont ins) (extra : Array Context) :
    k.ContinuesIn D extra :=
  fun r hr o e cont ins hk => absurd hk (h r hr o e cont ins)

/-- Continuing in `extra` survives appending to it. -/
theorem ContinuesIn.mono {D : Nat} {k : Context} {st st' : Grammar.LinkState}
    (h : k.ContinuesIn D st.extra) (hle : st.Le st') : k.ContinuesIn D st'.extra := by
  intro r hr o e cont ins hk
  obtain ⟨hD, k', hk', hp⟩ := h r hr o e cont ins hk
  exact ⟨hD, k', hle.getElem? hk', hp⟩

end Context

namespace Rule

/-- The placeholder of a rule is at least the start value of a fold over further rules. -/
theorem le_placeholderFrom (m : Nat) (rs : List Rule) : m ≤ Rule.placeholderFrom m rs := by
  induction rs generalizing m with
  | nil => exact Nat.le_refl m
  | cons r rs ih => exact Nat.le_trans (Nat.le_max_left m r.placeholder) (ih _)

/-- A dynamic range rule reads the placeholders of its closing text. -/
theorem highest_closing_le {r : Rule} {o e : String} {cont : Nat} {ins : Bool}
    (hk : r.kind = .rangeDetect o e cont ins) :
    (if r.dynamic then Placeholder.highest e else 0) ≤ r.placeholder := by
  obtain ⟨kind, attr, switch, lookAhead, firstNonSpace, column, dynamic, children⟩ := r
  cases hk
  cases dynamic
  · exact Nat.zero_le _
  · exact Nat.le_trans (Nat.le_max_right _ _) (le_placeholderFrom _ children)

end Rule

namespace Grammar

/-! ## Continuation contexts -/

/-- Every continuation context made so far pushes declared contexts only, needs the captures its
rule reads, and has no range rule of its own. -/
def LinkState.ExtrasOk (D : Nat) (st : LinkState) : Prop :=
  ∀ k ∈ st.extra, k.PushesBelow D ∧ k.CoversRules ∧
    ∀ r ∈ k.rules, ∀ o e cont ins, r.kind ≠ .rangeDetect o e cont ins

namespace Tables

variable {t : Tables}

/-- Compiling a pattern adds no context. -/
theorem pattern_extra {g : Nat} {context source : String} {ins : Bool} {st st' : LinkState}
    {id : Nat} (h : (t.pattern g context source ins).run st = .ok (id, st')) :
    st'.extra = st.extra := by
  simp only [pattern, StateT.run_bind, StateT.run_get, pure_bind] at h
  -- a known pattern changes nothing; a new one adds a pattern and no context
  split at h
  · cases h
    rfl
  · split at h
    · cases h
    · simp only [StateT.run_bind, StateT.run_set, StateT.run_pure, pure_bind] at h
      cases h
      rfl

/-- Making a continuation appends one well-formed context, numbered after the ones before it. -/
theorem continuation_spec {g : Nat} {context : String} {attr : Nat} {sw : Switch}
    {dyn ins : Bool} {closing : String} {st st' : LinkState} {id : Nat}
    (hsw : ∀ x ∈ sw.push, x < t.declared)
    (h : (t.continuation g context attr sw dyn ins closing).run st = .ok (id, st')) :
    ∃ k, st'.extra = st.extra.push k ∧ id = t.declared + st.extra.size ∧
      k.PushesBelow t.declared ∧ k.CoversRules ∧
      (∀ r ∈ k.rules, ∀ o e cont ins, r.kind ≠ .rangeDetect o e cont ins) ∧
      k.maxPlaceholder ≤ (if dyn then Placeholder.highest closing else 0) := by
  simp only [continuation, StateT.run_bind, StateT.run_get, StateT.run_set, StateT.run_pure,
    pure_bind] at h
  cases h
  refine ⟨_, rfl, rfl, ⟨?_, by simp [Switch.stay], by simp, by simp⟩, ?_, ?_, ?_⟩
  · -- the closing rule pops the continuation and then does the range rule's own switch
    intro r hr x hx
    split at hr
    · simp at hr
    · simp only [List.mem_singleton] at hr
      subst hr
      exact hsw x hx
  · intro r hr
    split at hr
    · simp at hr
    · simp only [List.mem_singleton] at hr
      subst hr
      simp only [Rule.placeholder, Rule.placeholderFrom]
      cases dyn <;> by_cases hp : 0 < Placeholder.highest closing <;> simp [hp]
  · intro r hr o e cont ins'
    split at hr
    · simp at hr
    · simp only [List.mem_singleton] at hr
      subst hr
      simp
  · cases dyn <;> by_cases hp : 0 < Placeholder.highest closing <;> simp [hp]

/-- What compiling a rule's kind can do: a range makes its continuation, a fixed pattern goes
through the pattern table, and every other kind leaves the link state as it was, a keyword list
being one the definition records. -/
theorem compileKind_run {g : Nat} {context : String} {w : Definition.Rule} {attrIdx : Nat}
    {sw : Switch} {st st' : LinkState} {kind : RuleKind}
    (h : (t.compileKind g context w attrIdx sw).run st = .ok (kind, st')) :
    (∃ o e cont, w.kind = .rangeDetect o e ∧ kind = .rangeDetect o e cont w.insensitive ∧
        (t.continuation g context attrIdx sw w.dynamic w.insensitive e).run st = .ok (cont, st')) ∨
      (∃ source id, w.kind = .regExpr source ∧ kind = .regExpr (.fixed source id) ∧
        (t.pattern g context source w.insensitive).run st = .ok (id, st')) ∨
      (st' = st ∧ (∀ o e c i, kind ≠ .rangeDetect o e c i) ∧
        ∀ l, kind = .keyword l → ∃ name, ((t.listIds[g]?).getD []).lookup name = some l) := by
  cases hkind : w.kind <;> simp only [compileKind, hkind] at h
  case regExpr source =>
    split at h
    · -- a pattern with placeholders is compiled each time it is used
      obtain ⟨rfl, rfl⟩ := linkM_pure_ok h
      exact .inr (.inr ⟨rfl, by simp, by simp⟩)
    · obtain ⟨id, st₁, hpat, h⟩ := linkM_bind_ok h
      simp only [StateT.run_bind, StateT.run_get, pure_bind] at h
      split at h
      · cases h
      · obtain ⟨rfl, rfl⟩ := linkM_pure_ok h
        exact .inr (.inl ⟨source, id, rfl, rfl, hpat⟩)
  case keyword list =>
    refine .inr (.inr ?_)
    split at h
    · next id hid =>
      obtain ⟨rfl, rfl⟩ := linkM_pure_ok h
      exact ⟨rfl, by simp, fun l hl => ⟨list, by cases hl; exact hid⟩⟩
    · cases h
  case rangeDetect o e =>
    split at h
    · cases h
    · obtain ⟨cont, st₁, hcont, h⟩ := linkM_bind_ok h
      obtain ⟨rfl, rfl⟩ := linkM_pure_ok h
      exact .inl ⟨o, e, cont, rfl, rfl, hcont⟩
  -- every other kind is returned, or refused, without touching the link state
  all_goals
    refine .inr (.inr ?_)
    repeat' split at h
    all_goals simp only [StateT.run_pure, linkM_run_throw, reduceCtorEq] at h
    all_goals
      obtain ⟨rfl, rfl⟩ := Prod.mk.inj (Except.ok.inj h)
      exact ⟨rfl, by simp, by simp⟩

/-- Compiling a rule resolves its attribute and switch, compiles its kind, and then its children
with its attribute as their default. -/
theorem compileRule_run {g : Nat} {context : String} {da : Nat} {w : Definition.Rule}
    {st st' : LinkState} {r : Rule} (h : (t.compileRule g context da w).run st = .ok (r, st')) :
    ∃ attrIdx sw kind st₁ kids,
      (∀ n, w.attr = some n → t.attrId g context n = .ok attrIdx) ∧
      (w.attr = none → attrIdx = da) ∧
      t.switch g context w.switch = .ok sw ∧
      (t.compileKind g context w attrIdx sw).run st = .ok (kind, st₁) ∧
      (t.compileChildren g context attrIdx w.children).run st₁ = .ok (kids, st') ∧
      r = { kind, attr := attrIdx, switch := sw, lookAhead := w.lookAhead,
            firstNonSpace := w.firstNonSpace, column := w.column, dynamic := w.dynamic,
            children := kids } := by
  obtain ⟨element, kind, attr, switch, lookAhead, firstNonSpace, column, dynamic, insensitive,
    children⟩ := w
  unfold compileRule at h
  obtain ⟨attrIdx, st₁, hattrRun, h₁⟩ := linkM_bind_ok h
  obtain ⟨hattr, rfl⟩ := linkM_lift_ok hattrRun
  obtain ⟨sw, st₂, hswRun, h₂⟩ := linkM_bind_ok h₁
  obtain ⟨hsw, rfl⟩ := linkM_lift_ok hswRun
  obtain ⟨kind', st₃, hkind, h₃⟩ := linkM_bind_ok h₂
  obtain ⟨kids, st₄, hkids, h₄⟩ := linkM_bind_ok h₃
  obtain ⟨rfl, rfl⟩ := linkM_pure_ok h₄
  refine ⟨attrIdx, sw, kind', st₃, kids, fun n hn => ?_, fun hn => ?_, hsw, hkind, hkids, rfl⟩
  · cases hn
    exact hattr
  · cases hn
    cases hattr
    rfl

theorem compileChildren_nil_run {g : Nat} {context : String} {da : Nat} {st st' : LinkState}
    {ks : List Rule} (h : (t.compileChildren g context da []).run st = .ok (ks, st')) :
    ks = [] ∧ st' = st :=
  linkM_pure_ok h

/-- Compiling children compiles the first, with its switch dropped, and then the rest. -/
theorem compileChildren_cons_run {g : Nat} {context : String} {da : Nat} {c : Definition.Rule}
    {cs : List Definition.Rule} {st st' : LinkState} {ks : List Rule}
    (h : (t.compileChildren g context da (c :: cs)).run st = .ok (ks, st')) :
    ∃ k st₁ ks', (t.compileRule g context da c).run st = .ok (k, st₁) ∧
      (t.compileChildren g context da cs).run st₁ = .ok (ks', st') ∧
      ks = { k with switch := .stay } :: ks' := by
  unfold compileChildren at h
  obtain ⟨k, st₁, hk, h₁⟩ := linkM_bind_ok h
  obtain ⟨ks', st₂, hks, h₂⟩ := linkM_bind_ok h₁
  obtain ⟨rfl, rfl⟩ := linkM_pure_ok h₂
  exact ⟨k, st₁, ks', hk, hks, rfl⟩

/-- Compiling a context splices its rules, compiles each in the context it was written in, and
resolves its own switches; it is named and separated as its definition says. -/
theorem compileContext_run {g c : Nat} {st st' : LinkState} {k : Context}
    (h : (t.compileContext g c).run st = .ok (k, st')) :
    ∃ placed adopt, t.expand (t.declared + 1) g c [] = .ok (placed, adopt) ∧
      (placed.mapM fun p => t.compileRule p.grammar (t.contextDef p.grammar p.context).name
        (t.contextAttr p.grammar p.context) p.rule).run st = .ok (k.rules, st') ∧
      k.name = t.qualify (t.contextDef g c).name g ∧ k.separators = g ∧
      k.attr = (match adopt with
        | some (tg, tc) => t.contextAttr tg tc
        | none => t.contextAttr g c) ∧
      t.switch g (t.contextDef g c).name (t.contextDef g c).lineEnd = .ok k.lineEnd ∧
      (t.contextDef g c).lineEmpty.mapM (t.switch g (t.contextDef g c).name) = .ok k.lineEmpty ∧
      (t.contextDef g c).fallthrough.mapM (t.switch g (t.contextDef g c).name) =
        .ok k.fallthrough ∧
      k.maxPlaceholder = k.rules.foldl (fun m r => max m r.placeholder) 0 := by
  unfold compileContext at h
  obtain ⟨⟨placed, adopt⟩, st₁, hexpRun, h₁⟩ := linkM_bind_ok h
  obtain ⟨hexp, rfl⟩ := linkM_lift_ok hexpRun
  obtain ⟨rules, st₂, hrules, h₂⟩ := linkM_bind_ok h₁
  obtain ⟨lineEnd, st₃, hendRun, h₃⟩ := linkM_bind_ok h₂
  obtain ⟨hend, rfl⟩ := linkM_lift_ok hendRun
  obtain ⟨lineEmpty, st₄, hemptyRun, h₄⟩ := linkM_bind_ok h₃
  obtain ⟨hempty, rfl⟩ := linkM_lift_ok hemptyRun
  obtain ⟨fallthrough, st₅, hfallRun, h₅⟩ := linkM_bind_ok h₄
  obtain ⟨hfall, rfl⟩ := linkM_lift_ok hfallRun
  obtain ⟨rfl, rfl⟩ := linkM_pure_ok h₅
  exact ⟨placed, adopt, hexp, hrules, rfl, rfl, rfl, hend, hempty, hfall, rfl⟩

/-- Compiling the declared contexts compiles each of them, in table order. -/
theorem compileContexts_run {st st' : LinkState} {out : Array Context}
    (h : t.compileContexts.run st = .ok (out, st')) :
    ∃ ks, ((contextRefs t.defs).mapM fun gc => t.compileContext gc.1 gc.2).run st =
      .ok (ks, st') ∧ out = ks.toArray := by
  unfold compileContexts at h
  obtain ⟨ks, st₁, hks, h₁⟩ := linkM_bind_ok h
  obtain ⟨rfl, rfl⟩ := linkM_pure_ok h₁
  exact ⟨ks, hks, rfl⟩

/-- Compiling what a rule matches keeps the continuation contexts well formed and only appends to
them; a range continues in the context it made, which needs at most the placeholders of its
closing text. -/
theorem compileKind_spec {g : Nat} {context : String} {r : Definition.Rule} {attrIdx : Nat}
    {sw : Switch} {st st' : LinkState} {kind : RuleKind}
    (hsw : ∀ x ∈ sw.push, x < t.declared) (hI : st.ExtrasOk t.declared)
    (h : (t.compileKind g context r attrIdx sw).run st = .ok (kind, st')) :
    st'.ExtrasOk t.declared ∧ st.Le st' ∧
      ∀ o e cont ins, kind = .rangeDetect o e cont ins → t.declared ≤ cont ∧
        ∃ k, st'.extra[cont - t.declared]? = some k ∧
          k.maxPlaceholder ≤ (if r.dynamic then Placeholder.highest e else 0) := by
  have keep : st'.extra = st.extra → (∀ o e c i, kind ≠ .rangeDetect o e c i) →
      st'.ExtrasOk t.declared ∧ st.Le st' ∧
        ∀ o e cont ins, kind = .rangeDetect o e cont ins → t.declared ≤ cont ∧
          ∃ k, st'.extra[cont - t.declared]? = some k ∧
            k.maxPlaceholder ≤ (if r.dynamic then Placeholder.highest e else 0) := by
    intro hst hk
    exact ⟨fun k hk' => hI k (hst ▸ hk'), ⟨#[], by simp [hst]⟩,
      fun o e c i he => absurd he (hk o e c i)⟩
  rcases compileKind_run h with ⟨o, e, cont, -, rfl, hcont⟩ | ⟨source, id, -, rfl, hpat⟩ |
    ⟨rfl, hnr, -⟩
  · -- a range appends its continuation, numbered after the contexts before it
    obtain ⟨k, hext, rfl, hpush, hcov, hnr, hmax⟩ := continuation_spec hsw hcont
    refine ⟨fun k' hk' => ?_, ⟨#[k], by simp [hext]⟩, fun o' e' c' i' he => ?_⟩
    · rw [hext] at hk'
      rcases Array.mem_push.1 hk' with hk' | rfl
      · exact hI k' hk'
      · exact ⟨hpush, hcov, hnr⟩
    · cases he
      exact ⟨Nat.le_add_right _ _, k, by simp [hext], hmax⟩
  · -- a fixed pattern goes into the pattern table, which holds no contexts
    exact keep (pattern_extra hpat) (by simp)
  · exact keep rfl hnr

/-- What compiling a rule gives: its switch pushes declared contexts, and a range continues in
the context it made, which needs no more captures than the rule reads. -/
def RuleLinks (D : Nat) (extra : Array Context) (r : Rule) : Prop :=
  (∀ x ∈ r.switch.push, x < D) ∧
    ∀ o e cont ins, r.kind = .rangeDetect o e cont ins →
      D ≤ cont ∧ ∃ k, extra[cont - D]? = some k ∧ k.maxPlaceholder ≤ r.placeholder

variable (g : Nat) (context : String)

mutual

/-- Compiling a rule keeps the continuation contexts well formed, only appends to them, and gives
a rule whose references are in range. -/
theorem compileRule_spec (ht : t.Sound) (da : Nat) :
    ∀ (r : Definition.Rule) (st st' : LinkState) (r' : Rule), st.ExtrasOk t.declared →
      (t.compileRule g context da r).run st = .ok (r', st') →
        st'.ExtrasOk t.declared ∧ st.Le st' ∧ RuleLinks t.declared st'.extra r'
  | r@⟨element, kind, attr, switch, lookAhead, firstNonSpace, column, dynamic, insensitive,
      children⟩, st, st', r', hI, h => by
    obtain ⟨attrIdx, sw, kind', st₃, kids, -, -, hsw, hkind, hkids, rfl⟩ := compileRule_run h
    have hpush := ht.switch_push_lt hsw
    obtain ⟨hI₃, hle₃, hrange⟩ := compileKind_spec hpush hI hkind
    obtain ⟨hI₄, hle₄⟩ := compileChildren_spec ht attrIdx children st₃ st' kids hI₃ hkids
    refine ⟨hI₄, hle₃.trans hle₄, hpush, fun o e cont ins hk => ?_⟩
    obtain ⟨hD, k, hk', hmax⟩ := hrange o e cont ins hk
    exact ⟨hD, k, hle₄.getElem? hk', Nat.le_trans hmax (Rule.highest_closing_le hk)⟩

/-- Compiling child rules keeps the continuation contexts well formed and only appends to them. -/
theorem compileChildren_spec (ht : t.Sound) (da : Nat) :
    ∀ (cs : List Definition.Rule) (st st' : LinkState) (ks : List Rule), st.ExtrasOk t.declared →
      (t.compileChildren g context da cs).run st = .ok (ks, st') →
        st'.ExtrasOk t.declared ∧ st.Le st'
  | [], st, st', ks, hI, h => by
    obtain ⟨-, rfl⟩ := compileChildren_nil_run h
    exact ⟨hI, .refl _⟩
  | c :: cs, st, st', ks, hI, h => by
    obtain ⟨k, st₁, ks', hk, hks, -⟩ := compileChildren_cons_run h
    obtain ⟨hI₁, hle₁, -⟩ := compileRule_spec ht da c st st₁ k hI hk
    obtain ⟨hI₂, hle₂⟩ := compileChildren_spec ht da cs st₁ st' ks' hI₁ hks
    exact ⟨hI₂, hle₁.trans hle₂⟩

end

/-- Folding placeholders with `max` never goes below the start value. -/
theorem le_foldl_placeholder_init (rules : List Rule) (m : Nat) :
    m ≤ rules.foldl (fun m r => max m r.placeholder) m := by
  induction rules generalizing m with
  | nil => exact Nat.le_refl m
  | cons r rules ih => exact Nat.le_trans (Nat.le_max_left _ _) (ih _)

/-- The placeholder bound of a context covers each of its rules. -/
theorem le_foldl_placeholder {rules : List Rule} {r : Rule} (hr : r ∈ rules) (m : Nat) :
    r.placeholder ≤ rules.foldl (fun m r => max m r.placeholder) m := by
  induction rules generalizing m with
  | nil => cases hr
  | cons r' rules ih =>
    rw [List.foldl_cons]
    rcases List.mem_cons.1 hr with rfl | hr
    · exact Nat.le_trans (Nat.le_max_right _ _) (le_foldl_placeholder_init _ _)
    · exact ih hr _

/-- Compiling a context keeps the continuation contexts well formed, only appends to them, and
gives a context whose switches push declared contexts, whose bound covers its rules, and whose
ranges continue in the contexts made for them. -/
theorem compileContext_spec (ht : t.Sound) {g c : Nat} {st st' : LinkState} {k : Context}
    (hI : st.ExtrasOk t.declared) (h : (t.compileContext g c).run st = .ok (k, st')) :
    st'.ExtrasOk t.declared ∧ st.Le st' ∧ k.PushesBelow t.declared ∧ k.CoversRules ∧
      k.ContinuesIn t.declared st'.extra := by
  obtain ⟨placed, -, -, hrules, -, -, -, hend, hempty, hfall, hbound⟩ := compileContext_run h
  -- each spliced rule is compiled in the context it was written in
  obtain ⟨hI₂, hle₂, -, hlinks⟩ := linkM_mapM_spec
    (P := fun r st => RuleLinks t.declared st.extra r)
    (fun r st st' hr hle => ⟨hr.1, fun o e cont ins hk => by
      obtain ⟨hD, k, hk', hmax⟩ := hr.2 o e cont ins hk
      exact ⟨hD, k, hle.getElem? hk', hmax⟩⟩)
    placed (fun p _ st b st' hI h => compileRule_spec _ _ ht _ p.rule st st' b hI h)
    _ k.rules st' hI hrules
  refine ⟨hI₂, hle₂, ⟨fun r hr => (hlinks r hr).1, ht.switch_push_lt hend, ?_, ?_⟩,
    fun r hr => hbound ▸ le_foldl_placeholder hr 0, fun r hr => (hlinks r hr).2⟩
  · intro sw hsw
    obtain ⟨s, -, hs⟩ := optionMapM_ok hempty sw hsw
    exact ht.switch_push_lt hs
  · intro sw hsw
    obtain ⟨s, -, hs⟩ := optionMapM_ok hfall sw hsw
    exact ht.switch_push_lt hs

/-- Compiling the declared contexts keeps the continuation contexts well formed, and gives one
context for each declared one, each with the properties of `compileContext_spec`. -/
theorem compileContexts_spec (ht : t.Sound) {st st' : LinkState} {out : Array Context}
    (hI : st.ExtrasOk t.declared) (h : t.compileContexts.run st = .ok (out, st')) :
    st'.ExtrasOk t.declared ∧ out.size = (contextRefs t.defs).length ∧
      ∀ k ∈ out, k.PushesBelow t.declared ∧ k.CoversRules ∧ k.ContinuesIn t.declared st'.extra := by
  obtain ⟨ks, hks, rfl⟩ := compileContexts_run h
  obtain ⟨hI₁, -, hlen, hks⟩ := linkM_mapM_spec
    (P := fun k st => k.PushesBelow t.declared ∧ k.CoversRules ∧ k.ContinuesIn t.declared st.extra)
    (fun k st st' hk hle => ⟨hk.1, hk.2.1, hk.2.2.mono hle⟩)
    (contextRefs t.defs) (fun gc _ st k st' hI h => by
      obtain ⟨hI', hle, hk⟩ := compileContext_spec ht hI h
      exact ⟨hI', hle, hk⟩)
    st ks _ hI hks
  exact ⟨hI₁, by simpa using hlen, fun k hk => hks k (by simpa using hk)⟩

end Tables

/-! ## The placeholder check -/

/-- A switch whose declared targets need at most `n` captures. -/
def PushesAtMost (gr : Grammar) (D : Nat) (sw : Switch) (n : Nat) : Prop :=
  ∀ x ∈ sw.push, x < D → (gr.context x).maxPlaceholder ≤ n

theorem checkPushes_ok {gr : Grammar} {D : Nat} {sw : Switch} {n : Nat} {pusher : String}
    (h : checkPushes gr D sw n pusher = .ok ()) : PushesAtMost gr D sw n := by
  intro x hx hxD
  have hx := forM_ok h x hx
  simp only [hxD, decide_true, Bool.true_and] at hx
  by_contra hgt
  rw [if_pos (by simpa using hgt)] at hx
  cases hx

/-- What the placeholder check establishes for one context. -/
structure ContextChecked (gr : Grammar) (D : Nat) (k : Context) : Prop where
  rules : ∀ r ∈ k.rules, PushesAtMost gr D r.switch (boundCaptures gr r)
  lineEnd : PushesAtMost gr D k.lineEnd 0
  lineEmpty : ∀ sw ∈ k.lineEmpty, PushesAtMost gr D sw 0
  fallthrough : ∀ sw ∈ k.fallthrough, PushesAtMost gr D sw 0

theorem checkContextBindings_ok {gr : Grammar} {D : Nat} {k : Context}
    (h : checkContextBindings gr D k = .ok ()) : ContextChecked gr D k := by
  unfold checkContextBindings at h
  obtain ⟨_, hrules, h₁⟩ := except_bind_ok h
  obtain ⟨_, hend, h₂⟩ := except_bind_ok h₁
  obtain ⟨_, hempty, hfall⟩ := except_bind_ok h₂
  refine ⟨fun r hr => checkPushes_ok (forM_ok hrules r hr), checkPushes_ok hend, ?_, ?_⟩
  · intro sw hsw
    cases hempty' : k.lineEmpty with
    | none => simp [hempty'] at hsw
    | some sw' =>
      rw [hempty'] at hsw hempty
      cases hsw
      exact checkPushes_ok hempty
  · intro sw hsw
    cases hfall' : k.fallthrough with
    | none => simp [hfall'] at hsw
    | some sw' =>
      rw [hfall'] at hsw hfall
      cases hsw
      exact checkPushes_ok hfall

/-- The placeholder check passes when the first context needs no captures and every context's
pushes bind enough. -/
theorem checkBindings_ok {gr : Grammar} {D : Nat} (h : checkBindings gr D = .ok ()) :
    (gr.context 0).maxPlaceholder = 0 ∧ ∀ k ∈ gr.contexts, ContextChecked gr D k := by
  unfold checkBindings at h
  dsimp only at h
  split at h
  · cases h
  · refine ⟨by omega, fun k hk => checkContextBindings_ok (forM_ok h k (by simpa using hk))⟩

/-- There is one declared context for each context of each definition. -/
theorem length_contextRefs (ds : Array Definition) :
    (contextRefs ds).length = (ds.toList.map (·.contexts.length)).sum := by
  have hfst : ds.toList.zipIdx.map (fun a => a.1.contexts.length) =
      ds.toList.map (·.contexts.length) := by
    conv_rhs => rw [← List.zipIdx_map_fst 0 ds.toList, List.map_map]
    rfl
  simp [contextRefs, List.length_flatMap, hfst]

/-! ## Linked grammars -/

/-- A switch pushes contexts of the table, each needing at most `n` captures. -/
def Pushes (g : Grammar) (sw : Switch) (n : Nat) : Prop :=
  ∀ x ∈ sw.push, x < g.contexts.size ∧ (g.context x).maxPlaceholder ≤ n

/-- What linking guarantees of a grammar's contexts. The first context needs no captures; every
switch pushes contexts of the table, and a pushed context needs no more captures than its pusher
binds: a rule the groups of its pattern, a line end, an empty line or a fallthrough none. A range
continues in a context of the table that needs no more captures than the range's own context. -/
structure Linked (g : Grammar) : Prop where
  nonempty : 0 < g.contexts.size
  first_static : (g.context 0).maxPlaceholder = 0
  rule_push : ∀ k ∈ g.contexts, ∀ r ∈ k.rules, g.Pushes r.switch (boundCaptures g r)
  lineEnd_push : ∀ k ∈ g.contexts, g.Pushes k.lineEnd 0
  lineEmpty_push : ∀ k ∈ g.contexts, ∀ sw ∈ k.lineEmpty, g.Pushes sw 0
  fallthrough_push : ∀ k ∈ g.contexts, ∀ sw ∈ k.fallthrough, g.Pushes sw 0
  continuation : ∀ k ∈ g.contexts, ∀ r ∈ k.rules, ∀ o e cont ins,
    r.kind = .rangeDetect o e cont ins →
      cont < g.contexts.size ∧ (g.context cont).maxPlaceholder ≤ k.maxPlaceholder

/-- A grammar whose table is declared contexts followed by continuation contexts, where every
switch pushes declared contexts, every context covers its rules and continues its ranges in the
continuation contexts, and which passes the placeholder check, is linked. -/
theorem Linked.of_parts {gr : Grammar} {C E : Array Context} (hctx : gr.contexts = C ++ E)
    (hpos : 0 < C.size)
    (hparts : ∀ k ∈ gr.contexts, k.PushesBelow C.size ∧ k.CoversRules ∧ k.ContinuesIn C.size E)
    (hcheck : checkBindings gr C.size = .ok ()) : gr.Linked := by
  have hsize : gr.contexts.size = C.size + E.size := by rw [hctx, Array.size_append]
  -- a declared target passes the check as a target of the table
  have hpush : ∀ sw n, (∀ x ∈ sw.push, x < C.size) → PushesAtMost gr C.size sw n →
      gr.Pushes sw n := fun sw n hlt hat x hx => by
    have := hlt x hx
    exact ⟨by omega, hat x hx this⟩
  obtain ⟨hfirst, hchecked⟩ := checkBindings_ok hcheck
  refine ⟨by omega, hfirst, fun k hk r hr => ?_, fun k hk => ?_, fun k hk sw hsw => ?_,
    fun k hk sw hsw => ?_, fun k hk r hr o e cont ins hkind => ?_⟩
  · exact hpush _ _ ((hparts k hk).1.rules r hr) ((hchecked k hk).rules r hr)
  · exact hpush _ _ (hparts k hk).1.lineEnd (hchecked k hk).lineEnd
  · exact hpush _ _ ((hparts k hk).1.lineEmpty sw hsw) ((hchecked k hk).lineEmpty sw hsw)
  · exact hpush _ _ ((hparts k hk).1.fallthrough sw hsw) ((hchecked k hk).fallthrough sw hsw)
  · -- the continuation is the context of `E` the range names, after the declared ones
    obtain ⟨hD, k', hk', hmax⟩ := (hparts k hk).2.2 r hr o e cont ins hkind
    have hlt : cont - C.size < E.size := (Array.getElem?_eq_some_iff.1 hk').1
    have hget : gr.contexts[cont]? = some k' := by
      rw [hctx, Array.getElem?_append_right hD, hk']
    refine ⟨by omega, ?_⟩
    rw [Grammar.context, hget, Option.getD_some]
    exact Nat.le_trans hmax ((hparts k hk).2.1 r hr)

/-- What linking does, step by step: it builds the name tables from the definitions, which all
have contexts, then the keyword lists and the context attributes, compiles the declared contexts,
and checks the placeholder bindings of the grammar it assembles, whose patterns are the ones
compiled along the way. -/
theorem link_run {defs : Array (String × Definition)} {g : Grammar} (h : link defs = .ok g) :
    ∃ (t : Tables) (lists : Array KeywordList) (contexts : Array Context) (st : LinkState),
      (∀ d ∈ t.defs, d.contexts ≠ []) ∧ t.names = defs.map (·.1) ∧ t.defs = defs.map (·.2) ∧
      t.contextBase = (contextBases (defs.map (·.2))).pop ∧
      t.declared = (contextBases (defs.map (·.2))).back?.getD 0 ∧
      t.attrIds = (attributeTable (defs.map (·.1)) (defs.map (·.2))).2 ∧
      { t with listIds := #[], contextAttrs := #[] }.keywordLists = .ok (lists, t.listIds) ∧
      { t with contextAttrs := #[] }.contextAttributes = .ok t.contextAttrs ∧
      t.compileContexts.run {} = .ok (contexts, st) ∧
      g.contexts = contexts ++ st.extra ∧
      g.attributes = (attributeTable (defs.map (·.1)) (defs.map (·.2))).1 ∧
      g.lists = lists ∧ g.separators.size = defs.size ∧ checkBindings g t.declared = .ok () ∧
      g.patterns = st.patterns := by
  unfold link at h
  dsimp only at h
  split at h
  · cases h
  rename_i hnone
  -- no definition is without contexts
  have hctx : ∀ d ∈ defs.map (·.2), d.contexts ≠ [] := by
    have hfind : defs.find? (·.2.contexts.isEmpty) = none := by
      cases hf : defs.find? (·.2.contexts.isEmpty) with
      | none => rfl
      | some p => exact (hnone p.1 p.2 hf).elim
    intro d hd
    obtain ⟨x, hx, rfl⟩ := Array.mem_map.1 hd
    simpa using Array.find?_eq_none.1 hfind x hx
  obtain ⟨⟨lists, listIds⟩, hkw, h₁⟩ := except_bind_ok h
  obtain ⟨contextAttrs, hattrs, h₂⟩ := except_bind_ok h₁
  obtain ⟨⟨contexts, st⟩, hbuild, h₃⟩ := except_bind_ok h₂
  obtain ⟨_, hcheck, h₄⟩ := except_bind_ok h₃
  cases h₄
  -- each part is closed on its own: checked inside the tuple, it makes Lean unfold the grammar
  refine ⟨⟨defs.map (·.1), defs.map (·.2), (contextBases (defs.map (·.2))).pop,
    (contextBases (defs.map (·.2))).back?.getD 0,
    (attributeTable (defs.map (·.1)) (defs.map (·.2))).2, listIds, contextAttrs⟩,
    lists, contexts, st, ?_, ?_, ?_, ?_, ?_, ?_, ?_, ?_, ?_, ?_, ?_, ?_, ?_, ?_, ?_⟩
  · exact hctx
  · rfl
  · rfl
  · rfl
  · rfl
  · rfl
  · exact hkw
  · exact hattrs
  · exact hbuild
  · rfl
  · rfl
  · rfl
  · simp
  · exact hcheck
  · rfl

theorem link_linked {defs : Array (String × Definition)} {g : Grammar} (hne : 0 < defs.size)
    (h : link defs = .ok g) : g.Linked := by
  obtain ⟨t, -, contexts, st, hctx, -, hdefs, hbase, hdecl, -, -, -, hbuild, hctxs, -, -, -,
    hcheck, -⟩ := link_run h
  have hne' : 0 < t.defs.size := by simpa [hdefs] using hne
  obtain ⟨hI, hsize, hparts⟩ := Tables.compileContexts_spec
    (Tables.sound_of_bases hne' hctx rfl (hdefs ▸ hbase) (hdefs ▸ hdecl))
    (show LinkState.ExtrasOk _ ({} : LinkState) by simp [LinkState.ExtrasOk]) hbuild
  -- the declared contexts are numbered exactly up to their count
  have hD : t.declared = contexts.size := by
    rw [hsize, length_contextRefs, hdecl, contextBases_back, hdefs]
  have hpos : 0 < t.declared := by
    rw [hdecl, ← hdefs]
    exact contextBases_back_pos hne' hctx
  rw [hD] at hparts hcheck hI hpos
  refine Linked.of_parts hctxs hpos (fun k hk => ?_) hcheck
  rcases Array.mem_append.1 (hctxs ▸ hk) with hk | hk
  · exact hparts k hk
  · obtain ⟨hpush, hcover, hnorange⟩ := hI k hk
    exact ⟨hpush, hcover, Context.continuesIn_of_noRange hnorange _⟩

/-! ## Loaded grammars -/

/-- Gathering included definitions only adds definitions. -/
theorem gather_size {inc : Includes} :
    ∀ (fuel idx : Nat) (path : List String) (found found' : Array (String × Definition)),
      gather inc fuel idx path found = .ok found' → found.size ≤ found'.size
  | 0, _, _, found, found', h => by
    cases h
    exact Nat.le_refl _
  | fuel + 1, idx, path, found, found', h => by
    unfold gather at h
    dsimp only at h
    refine foldlM_ok_inv (P := fun acc => found.size ≤ acc.size)
      (fun acc lang acc' hle hstep => ?_) _ _ _ (Nat.le_refl _) h
    -- a language on the path is refused, one already gathered is skipped, and a new one is
    -- gathered after the definitions so far
    split at hstep
    · cases hstep
    split at hstep
    · cases hstep
      exact hle
    split at hstep
    · obtain ⟨text', -, hstep₁⟩ := except_bind_ok hstep
      obtain ⟨d, -, hstep₂⟩ := except_bind_ok hstep₁
      have := gather_size fuel _ _ _ _ hstep₂
      simp only [Array.size_push] at this
      omega
    · cases hstep

/-- A loaded grammar is linked from at least one definition: the one read, then those it
includes. -/
theorem load_link {text : String} {inc : Includes} {g : Grammar} (h : load text inc = .ok g) :
    ∃ defs : Array (String × Definition), 0 < defs.size ∧ link defs = .ok g := by
  unfold load at h
  obtain ⟨root, -, h₁⟩ := except_bind_ok h
  obtain ⟨found, hfound, hlink⟩ := except_bind_ok h₁
  exact ⟨found, Nat.lt_of_lt_of_le (by simp) (gather_size _ _ _ _ _ hfound), hlink⟩

end Grammar

end Highlight

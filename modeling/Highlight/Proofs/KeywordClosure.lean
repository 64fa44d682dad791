import Highlight.Proofs.Walks
import Highlight.Proofs.Linked
/-!
# Keyword lists take in what they include

A keyword list may include other lists, of its own definition or of another language, and those
may include lists in turn, in cycles too. Linking builds one keyword list for every list of every
definition, in order (`Tables.listRefs`), and fails exactly when some inclusion names no list
(`Tables.HasUnresolvedInclude`). Otherwise each built list holds the words of every list reachable
from its own through inclusions, compared as its definition says: exactly, or up to case
(`keywordLists_closure`).

Collecting a list's words is a depth-first search that skips a list already on its path, so a
list reachable along several paths is read several times and a cycle ends where it closes. It
reads from a list exactly what paths of distinct lists away from its path reach (`Avoids`), and
with an empty path that is everything reachable (`listWords_mem_iff`). Its fuel, one more than
the number of lists, is never used up: the path holds distinct lists.
-/

namespace Highlight

namespace Grammar

/-! ## Steps that may fail, in sequence -/

section Except

variable {ε α β : Type}

/-- A successful fold whose every step appends the one result its input has: every input had its
result, and the output holds what it started with and those results. -/
theorem foldlM_append_mem {f : List β → α → Except ε (List β)} {R : α → List β → Prop}
    (hR : ∀ x ys zs, R x ys → R x zs → ys = zs) :
    ∀ {xs : List α}, (∀ acc x acc', x ∈ xs → f acc x = .ok acc' → ∃ ys, R x ys ∧ acc' = acc ++ ys) →
      ∀ {init out : List β}, xs.foldlM f init = .ok out →
        (∀ x ∈ xs, ∃ ys, R x ys) ∧ ∀ w, w ∈ out ↔ w ∈ init ∨ ∃ x ∈ xs, ∃ ys, R x ys ∧ w ∈ ys
  | [], _, init, out, h => by
    cases h
    simp
  | x :: xs, hf, init, out, h => by
    rw [List.foldlM_cons] at h
    obtain ⟨acc, hacc, h⟩ := except_bind_ok h
    obtain ⟨ys, hR', rfl⟩ := hf init x acc List.mem_cons_self hacc
    obtain ⟨hall, hmem⟩ :=
      foldlM_append_mem hR (fun a y a' hy => hf a y a' (List.mem_cons_of_mem _ hy)) h
    refine ⟨fun y hy => ?_, fun w => ?_⟩
    · rcases List.mem_cons.1 hy with rfl | hy
      · exact ⟨ys, hR'⟩
      · exact hall y hy
    · rw [hmem w, List.mem_append]
      constructor
      · rintro ((hw | hw) | ⟨y, hy, zs, hz, hw⟩)
        · exact .inl hw
        · exact .inr ⟨x, List.mem_cons_self, ys, hR', hw⟩
        · exact .inr ⟨y, List.mem_cons_of_mem _ hy, zs, hz, hw⟩
      · rintro (hw | ⟨y, hy, zs, hz, hw⟩)
        · exact .inl (.inl hw)
        rcases List.mem_cons.1 hy with rfl | hy
        · exact .inl (.inr (hR _ _ _ hz hR' ▸ hw))
        · exact .inr ⟨y, hy, zs, hz, hw⟩

/-- A step that pushes onto an array what `n` gives: it fails as `n` fails, and otherwise its
array is `acc`'s followed by what `n` gives. -/
def PushesAs {γ δ : Type} (m : Except ε (Array δ × γ)) (acc : Array δ × γ) (n : Except ε (List δ)) :
    Prop :=
  (∀ r, m = .ok r → ∃ ks, n = .ok ks ∧ r.1.toList = acc.1.toList ++ ks) ∧
    ∀ e, m = .error e → n = .error e

/-- A step followed by one that keeps its array pushes what it pushed. -/
theorem PushesAs.bind {γ γ' δ : Type} {m : Except ε (Array δ × γ)}
    {c : Array δ × γ → Except ε (Array δ × γ')} {A : Array δ} {x₀ : γ} {y₀ : γ'}
    {n : Except ε (List δ)} (hc : ∀ a b, ∃ b', c (a, b) = .ok (a, b'))
    (h : PushesAs m (A, x₀) n) : PushesAs (m >>= c) (A, y₀) n := by
  refine ⟨fun r hr => ?_, fun e he => ?_⟩
  · obtain ⟨⟨a, b⟩, hm, hcr⟩ := except_bind_ok hr
    obtain ⟨b', hb'⟩ := hc a b
    rw [hb'] at hcr
    cases hcr
    exact h.1 _ hm
  · rcases except_bind_error he with he | ⟨⟨a, b⟩, -, hce⟩
    · exact h.2 e he
    · obtain ⟨b', hb'⟩ := hc a b
      rw [hb'] at hce
      cases hce

/-- A fold of steps that each push what a `mapM` over some inputs gives pushes what one `mapM`
over all those inputs gives. -/
theorem foldlM_pushesAs {γ δ : Type} {f : Array δ × γ → α → Except ε (Array δ × γ)}
    {g : α → List β} {k : β → Except ε δ} :
    ∀ (xs : List α), (∀ acc x, x ∈ xs → PushesAs (f acc x) acc ((g x).mapM k)) →
      ∀ acc, PushesAs (xs.foldlM f acc) acc ((xs.flatMap g).mapM k)
  | [], _, acc => ⟨fun r h => ⟨[], rfl, by cases h; simp⟩, fun e h => by cases h⟩
  | x :: xs, hf, acc => by
    have ih := foldlM_pushesAs xs (fun a y hy => hf a y (List.mem_cons_of_mem _ hy))
    rw [List.foldlM_cons, List.flatMap_cons, List.mapM_append]
    -- the first step either fails, and so does the first `mapM`, or pushes what it gives
    cases hfx : f acc x with
    | error e =>
      rw [(hf acc x List.mem_cons_self).2 e hfx]
      refine ⟨fun r h => ?_, fun e' h => ?_⟩
      · cases h
      · cases h
        rfl
    | ok r =>
      obtain ⟨ks, hgx, hr⟩ := (hf acc x List.mem_cons_self).1 r hfx
      rw [hgx]
      obtain ⟨ihok, iherr⟩ := ih r
      refine ⟨fun out h => ?_, fun e h => ?_⟩
      · obtain ⟨ks', hrest, hout⟩ := ihok out h
        refine ⟨ks ++ ks', by rw [hrest]; rfl, by rw [hout, hr, List.append_assoc]⟩
      · rw [iherr e h]
        rfl

end Except

/-- Keeping the first of repeated items keeps every item. -/
theorem mem_foldl_keepFirst {α : Type} [BEq α] [LawfulBEq α] (x : α) :
    ∀ (ys acc : List α),
      x ∈ ys.foldl (fun acc w => if acc.contains w then acc else acc ++ [w]) acc ↔ x ∈ acc ∨ x ∈ ys
  | [], acc => by simp
  | y :: ys, acc => by
    rw [List.foldl_cons, mem_foldl_keepFirst x ys]
    by_cases hy : acc.contains y = true
    · rw [if_pos hy]
      have hy' : y ∈ acc := List.contains_iff_mem.1 hy
      constructor
      · rintro (h | h)
        · exact .inl h
        · exact .inr (List.mem_cons_of_mem _ h)
      · rintro (h | h)
        · exact .inl h
        rcases List.mem_cons.1 h with rfl | h
        · exact .inl hy'
        · exact .inr h
    · rw [if_neg hy]
      simp only [List.mem_append, List.mem_cons]
      tauto

/-- A keyword list holds a word when one of the words it was built from is the same word, up to
case if the list ignores case. -/
theorem KeywordList.contains_ofWords (name : String) (ws : List String) (cs : Bool) (w : String) :
    (KeywordList.ofWords name ws cs).contains w = true ↔
      ∃ x ∈ ws, KeywordList.normalize cs x = KeywordList.normalize cs w := by
  unfold KeywordList.contains KeywordList.ofWords
  rw [List.contains_iff_mem, mem_foldl_keepFirst]
  simp

namespace Tables

variable (t : Tables)

/-! ## The inclusion graph of keyword lists -/

/-- List `l` of definition `g` as written. -/
def listDef (g l : Nat) : Definition.WordList := ((t.definition g).lists[l]?).getD default

/-- List `v` includes list `w`: one of its inclusions resolves to it. -/
def ListIncludes (v w : Nat × Nat) : Prop :=
  ∃ r ∈ (t.listDef v.1 v.2).includes, t.listTarget v.1 r = some w

/-- Every keyword list of every definition, as a definition and a list in it, in order. -/
def listRefs : List (Nat × Nat) :=
  t.defs.toList.zipIdx.flatMap fun (d, g) => (List.range d.lists.length).map (g, ·)

/-- Some inclusion of some keyword list names no list. -/
def HasUnresolvedInclude : Prop :=
  ∃ v ∈ t.listRefs, ∃ r ∈ (t.listDef v.1 v.2).includes, t.listTarget v.1 r = none

variable {t}

/-- The lists are those of the definitions. -/
theorem mem_listRefs {g l : Nat} :
    (g, l) ∈ t.listRefs ↔ g < t.defs.size ∧ l < (t.definition g).lists.length := by
  simp only [listRefs, List.mem_flatMap, List.mem_map, List.mem_range, Prod.mk.injEq,
    List.mem_zipIdx_iff_getElem?, Array.getElem?_toList, Prod.exists, definition]
  constructor
  · rintro ⟨d, g', hd, l', hl, rfl, rfl⟩
    exact ⟨(Array.getElem?_eq_some_iff.1 hd).1, by rwa [hd]⟩
  · rintro ⟨hg, hl⟩
    rw [Array.getElem?_eq_getElem hg, Option.getD_some] at hl
    exact ⟨t.defs[g], g, Array.getElem?_eq_getElem hg, l, hl, rfl, rfl⟩

/-- There is one list reference for each list of each definition. -/
theorem length_listRefs :
    t.listRefs.length = t.defs.foldl (fun n d => n + d.lists.length) 0 := by
  have hsum : ∀ (ds : List Definition) (n : Nat),
      ds.foldl (fun n d => n + d.lists.length) n = n + (ds.map (·.lists.length)).sum := by
    intro ds
    induction ds with
    | nil => simp
    | cons d ds ih => intro n; rw [List.foldl_cons, ih]; simp; omega
  have hfst : t.defs.toList.zipIdx.map (fun a => a.1.lists.length) =
      t.defs.toList.map (·.lists.length) := by
    conv_rhs => rw [← List.zipIdx_map_fst 0 t.defs.toList, List.map_map]
    rfl
  rw [← Array.foldl_toList, hsum]
  simp [listRefs, List.length_flatMap, hfst]

/-- An inclusion that resolves names a list of a definition. -/
theorem listTarget_mem {g : Nat} {r : Definition.Target} {w : Nat × Nat}
    (h : t.listTarget g r = some w) : w ∈ t.listRefs := by
  simp only [listTarget, Option.bind_eq_some_iff, Option.map_eq_some_iff] at h
  obtain ⟨tg, -, n, -, tl, htl, rfl⟩ := h
  have hlt := (List.findIdx?_eq_some_iff_getElem.1 htl).1
  refine mem_listRefs.2 ⟨?_, hlt⟩
  -- a definition past the last has no lists
  by_contra hg
  simp only [definition, Array.getElem?_eq_none (Nat.le_of_not_lt hg), Option.getD_none] at hlt
  exact Nat.not_lt_zero _ hlt

/-- A path of distinct lists is no longer than the number of lists. -/
theorem length_le_of_nodup {V : List (Nat × Nat)} (hV : ∀ x ∈ V, x ∈ t.listRefs) (hnd : V.Nodup) :
    V.length ≤ t.listRefs.length :=
  hnd.length_le_of_subset hV

/-! ## Collecting a list's words -/

variable (t) in
/-- One inclusion met while collecting the words of list `l` of definition `g`, with `V` the path
to it: when it resolves, the words of the list it names, collected away from the path extended
by `(g, l)`, are appended; otherwise collecting fails, naming the inclusion. -/
def listStep (fuel g l : Nat) (V : List (Nat × Nat)) (acc : List String)
    (r : Definition.Target) : Except LoadError (List String) := do
  match t.listTarget g r with
  | some (tg, tl) => pure (acc ++ (← t.listWords fuel tg tl ((g, l) :: V)))
  | none => throw (.unknownKeywordList (t.name g) ("list " ++ (t.listDef g l).name) r.render)

/-- Collecting from a list off the path `V` handles its inclusions in order, after its own
words. -/
theorem listWords_succ (fuel g l : Nat) (V : List (Nat × Nat)) :
    t.listWords (fuel + 1) g l V =
      if V.contains (g, l) then .ok []
      else (t.listDef g l).includes.foldlM (t.listStep fuel g l V) (t.listDef g l).items := by
  rw [listWords]
  rfl

section Step

variable {fuel g l : Nat} {V : List (Nat × Nat)} {acc : List String} {r : Definition.Target}

theorem listStep_ok {acc' : List String} (h : t.listStep fuel g l V acc r = .ok acc') :
    ∃ ys, (∃ x, t.listTarget g r = some x ∧ t.listWords fuel x.1 x.2 ((g, l) :: V) = .ok ys) ∧
      acc' = acc ++ ys := by
  unfold listStep at h
  split at h
  · next tg tl htarget =>
    obtain ⟨ys, hys, h⟩ := except_bind_ok h
    cases h
    exact ⟨ys, ⟨(tg, tl), htarget, hys⟩, rfl⟩
  · cases h

theorem listStep_error {e : LoadError} (h : t.listStep fuel g l V acc r = .error e) :
    (∃ x, t.listTarget g r = some x ∧ t.listWords fuel x.1 x.2 ((g, l) :: V) = .error e) ∨
      t.listTarget g r = none ∧
        e = .unknownKeywordList (t.name g) ("list " ++ (t.listDef g l).name) r.render := by
  unfold listStep at h
  split at h
  · next tg tl htarget =>
    cases hw : t.listWords fuel tg tl ((g, l) :: V) with
    | error e' =>
      rw [hw] at h
      cases h
      exact .inl ⟨(tg, tl), htarget, hw⟩
    | ok ws =>
      rw [hw] at h
      cases h
  · next htarget =>
    cases h
    exact .inr ⟨htarget, rfl⟩

end Step

/-- Collecting the words of a list outside the path `V` reads every list that a path of distinct
lists away from `V` reaches, and nothing else. The induction is on the fuel; it never runs out,
since the path holds distinct lists and the fuel is more than the lists not on it. -/
theorem listWords_mem_iff :
    ∀ (fuel g l : Nat) (V : List (Nat × Nat)) (ws : List String),
      (∀ x ∈ V, x ∈ t.listRefs) → V.Nodup → t.listRefs.length + 1 ≤ fuel + V.length →
      (g, l) ∈ t.listRefs → t.listWords fuel g l V = .ok ws →
      ∀ w, w ∈ ws ↔ ∃ u, Avoids t.ListIncludes V (g, l) u ∧ w ∈ (t.listDef u.1 u.2).items
  | 0, g, l, V, ws, hV, hnd, hfuel, _, _ => by
    have := length_le_of_nodup hV hnd
    omega
  | fuel + 1, g, l, V, ws, hV, hnd, hfuel, hgl, h => by
    rw [listWords_succ] at h
    by_cases hin : (g, l) ∈ V
    · -- a list on the path adds nothing, and no path that avoids `V` starts there
      rw [if_pos (List.contains_iff_mem.2 hin)] at h
      cases h
      intro w
      simp only [List.not_mem_nil, false_iff, not_exists, not_and]
      exact fun u hu => absurd hin hu.start_not_mem
    rw [if_neg (fun hc => hin (List.contains_iff_mem.1 hc))] at h
    have hfun : ∀ r ys zs,
        (∃ x, t.listTarget g r = some x ∧ t.listWords fuel x.1 x.2 ((g, l) :: V) = .ok ys) →
        (∃ x, t.listTarget g r = some x ∧ t.listWords fuel x.1 x.2 ((g, l) :: V) = .ok zs) →
        ys = zs := by
      rintro r ys zs ⟨x, hx, hys⟩ ⟨x', hx', hzs⟩
      rw [hx] at hx'
      cases hx'
      rw [hys] at hzs
      cases hzs
      rfl
    -- each inclusion appends the words of the list it names, read away from the longer path
    obtain ⟨hall, hmem⟩ := foldlM_append_mem hfun (fun _ _ _ _ hr => listStep_ok hr) h
    have hV' : ∀ x ∈ (g, l) :: V, x ∈ t.listRefs := by
      intro x hx
      rcases List.mem_cons.1 hx with rfl | hx
      · exact hgl
      · exact hV x hx
    have hnd' : ((g, l) :: V).Nodup := List.nodup_cons.2 ⟨hin, hnd⟩
    have hfuel' : t.listRefs.length + 1 ≤ fuel + ((g, l) :: V).length := by
      simp only [List.length_cons]
      omega
    intro w
    rw [hmem w]
    constructor
    · rintro (hw | ⟨r, hr, ys, ⟨x, hx, hys⟩, hw⟩)
      · exact ⟨(g, l), .here hin, hw⟩
      · obtain ⟨u, hu, hwu⟩ := (listWords_mem_iff fuel x.1 x.2 _ ys hV' hnd' hfuel'
          (listTarget_mem hx) hys w).1 hw
        exact ⟨u, .step hin ⟨r, hr, hx⟩ hu, hwu⟩
    · rintro ⟨u, hu, hwu⟩
      rcases (avoids_iff hin).1 hu with rfl | ⟨x, ⟨r, hr, hx⟩, hxu⟩
      · exact .inl hwu
      · obtain ⟨ys, x', hx', hys⟩ := hall r hr
        rw [hx] at hx'
        cases hx'
        exact .inr ⟨r, hr, ys, ⟨x, hx, hys⟩, (listWords_mem_iff fuel x.1 x.2 _ ys hV' hnd' hfuel'
          (listTarget_mem hx) hys w).2 ⟨u, hxu, hwu⟩⟩

/-- A collection that fails failed at an inclusion, of a list it reached, that names no list. -/
theorem listWords_error :
    ∀ (fuel g l : Nat) (V : List (Nat × Nat)) (e : LoadError),
      (g, l) ∈ t.listRefs → t.listWords fuel g l V = .error e →
      ∃ v ∈ t.listRefs, ∃ r ∈ (t.listDef v.1 v.2).includes, t.listTarget v.1 r = none ∧
        e = .unknownKeywordList (t.name v.1) ("list " ++ (t.listDef v.1 v.2).name) r.render
  | 0, g, l, V, e, _, h => by cases h
  | fuel + 1, g, l, V, e, hgl, h => by
    rw [listWords_succ] at h
    split at h
    · cases h
    obtain ⟨acc, r, hr, hstep⟩ := foldlM_error_mem h
    rcases listStep_error hstep with ⟨x, hx, hw⟩ | ⟨hnone, rfl⟩
    · -- the list the inclusion names failed
      exact listWords_error fuel x.1 x.2 _ _ (listTarget_mem hx) hw
    · -- the inclusion itself names no list
      exact ⟨(g, l), hgl, r, hr, hnone, rfl⟩

/-- Collecting from a list off the path that has an inclusion naming no list fails. -/
theorem listWords_error_of_unresolved (fuel : Nat) {g l : Nat} {V : List (Nat × Nat)}
    {r : Definition.Target} (hin : (g, l) ∉ V) (hr : r ∈ (t.listDef g l).includes)
    (hnone : t.listTarget g r = none) : ∃ e, t.listWords (fuel + 1) g l V = .error e := by
  rw [listWords_succ, if_neg (fun hc => hin (List.contains_iff_mem.1 hc))]
  refine foldlM_error_of_mem (fun acc =>
    ⟨.unknownKeywordList (t.name g) ("list " ++ (t.listDef g l).name) r.render, ?_⟩) _ hr
  unfold listStep
  rw [hnone]
  rfl

variable (t) in
/-- The keyword list linking builds for list `v`: the words collected from it, kept as its
definition compares them, under its qualified name. -/
def builtList (v : Nat × Nat) : Except LoadError KeywordList := do
  let words ← t.listWords (t.defs.foldl (fun n d => n + d.lists.length) 0 + 1) v.1 v.2 []
  pure (KeywordList.ofWords (t.qualify (t.listDef v.1 v.2).name v.1) words
    (t.definition v.1).keywordsCaseSensitive)

/-- Linking builds the keyword lists one by one, in the order of the definitions and of their
lists, and fails with the first that fails. -/
theorem keywordLists_pushesAs : PushesAs t.keywordLists (#[], #[]) (t.listRefs.mapM t.builtList) := by
  unfold keywordLists listRefs
  dsimp only
  refine foldlM_pushesAs (g := fun dg : Definition × Nat => (List.range dg.1.lists.length).map (dg.2, ·))
    (k := t.builtList) _ (fun acc dg hdg => ?_) (#[], #[])
  obtain ⟨d, gi⟩ := dg
  have hd : t.defs[gi]? = some d := by
    simpa [Array.getElem?_toList] using List.mem_zipIdx_iff_getElem?.1 hdg
  have hrefs : (d.lists.zipIdx.flatMap fun ll => [(gi, ll.2)]) =
      (List.range d.lists.length).map (gi, ·) := by
    rw [← List.map_eq_flatMap, List.range_eq_range', ← List.zipIdx_map_snd 0 d.lists,
      List.map_map]
    rfl
  dsimp only
  rw [← hrefs]
  refine PushesAs.bind (fun a b => ⟨_, rfl⟩) (foldlM_pushesAs _ (fun acc' ll hll => ?_) (acc.1, []))
  -- one list: its words are collected, and it is built as `builtList` builds it
  obtain ⟨list, l⟩ := ll
  have hlist : t.listDef gi l = list := by
    have hl := List.mem_zipIdx_iff_getElem?.1 hll
    simp [listDef, definition, hd, hl]
  have hcs : (t.definition gi).keywordsCaseSensitive = d.keywordsCaseSensitive := by
    simp [definition, hd]
  dsimp only
  simp only [builtList, List.mapM_cons, List.mapM_nil, hlist, hcs]
  cases t.listWords (t.defs.foldl (fun n d => n + d.lists.length) 0 + 1) gi l [] with
  | error e =>
    refine ⟨fun r h => ?_, fun e' h => ?_⟩
    · cases h
    · cases h
      rfl
  | ok ws =>
    refine ⟨fun r h => ?_, fun e' h => ?_⟩
    · cases h
      exact ⟨_, rfl, by simp⟩
    · cases h

/-- A built list is the words collected from its list. -/
theorem builtList_ok {v : Nat × Nat} {k : KeywordList} (h : t.builtList v = .ok k) :
    ∃ ws, t.listWords (t.defs.foldl (fun n d => n + d.lists.length) 0 + 1) v.1 v.2 [] = .ok ws ∧
      k = KeywordList.ofWords (t.qualify (t.listDef v.1 v.2).name v.1) ws
        (t.definition v.1).keywordsCaseSensitive := by
  obtain ⟨ws, hws, hk⟩ := except_bind_ok h
  cases hk
  exact ⟨ws, hws, rfl⟩

/-- A built list fails as its collection fails. -/
theorem builtList_error {v : Nat × Nat} {e : LoadError} (h : t.builtList v = .error e) :
    t.listWords (t.defs.foldl (fun n d => n + d.lists.length) 0 + 1) v.1 v.2 [] = .error e := by
  rcases except_bind_error h with h | ⟨_, -, h⟩
  · exact h
  · cases h

/-- The list built for list `v` holds a word exactly when a list `v` reaches through inclusions
has an item equal to it, up to case when the definition ignores case in keywords. -/
theorem builtList_contains {v : Nat × Nat} {k : KeywordList} (hv : v ∈ t.listRefs)
    (hk : t.builtList v = .ok k) (w : String) :
    k.contains w = true ↔ ∃ u, Relation.ReflTransGen t.ListIncludes v u ∧
      ∃ item ∈ (t.listDef u.1 u.2).items,
        if (t.definition v.1).keywordsCaseSensitive then item = w
        else Text.lower item = Text.lower w := by
  obtain ⟨ws, hws, rfl⟩ := builtList_ok hk
  -- the collection from `v` reads exactly the lists reachable from it
  have hfuel : t.listRefs.length + 1 ≤
      t.defs.foldl (fun n d => n + d.lists.length) 0 + 1 + ([] : List (Nat × Nat)).length := by
    rw [length_listRefs]
    simp
  have hmem := listWords_mem_iff _ v.1 v.2 [] ws (by simp) List.nodup_nil hfuel hv hws
  rw [KeywordList.contains_ofWords]
  constructor
  · rintro ⟨x, hx, hnorm⟩
    obtain ⟨u, hu, hxu⟩ := (hmem x).1 hx
    refine ⟨u, avoids_nil_iff.1 hu, x, hxu, ?_⟩
    cases hcs : (t.definition v.1).keywordsCaseSensitive <;>
      simpa [KeywordList.normalize, hcs] using hnorm
  · rintro ⟨u, hu, x, hxu, hx⟩
    refine ⟨x, (hmem x).2 ⟨u, avoids_nil_iff.2 hu, hxu⟩, ?_⟩
    cases hcs : (t.definition v.1).keywordsCaseSensitive <;>
      simpa [KeywordList.normalize, hcs] using hx

end Tables

/-- Keyword lists are closed under inclusion, cycles included. Linking fails to build them
exactly when some inclusion of some list names no list, and then with that fault. Otherwise it
builds one list for each list of each definition, in order, and a built list holds a word exactly
when some list reachable from its own through inclusions has an item equal to it, or, if the
definition ignores case in keywords, equal to it once both are lowercased. -/
theorem keywordLists_closure (t : Tables) :
    ((∃ e, t.keywordLists = .error e) ↔ t.HasUnresolvedInclude) ∧
      (∀ e, t.keywordLists = .error e → ∃ g c l, e = .unknownKeywordList g c l) ∧
      ∀ lists ids, t.keywordLists = .ok (lists, ids) →
        List.Forall₂ (fun v k => ∀ w, k.contains w = true ↔
            ∃ u, Relation.ReflTransGen t.ListIncludes v u ∧ ∃ item ∈ (t.listDef u.1 u.2).items,
              if (t.definition v.1).keywordsCaseSensitive then item = w
              else Text.lower item = Text.lower w)
          t.listRefs lists.toList := by
  have hP := Tables.keywordLists_pushesAs (t := t)
  -- a failure is the failure of one list's collection, at an inclusion naming no list
  have herr : ∀ e, t.keywordLists = .error e →
      ∃ v ∈ t.listRefs, ∃ r ∈ (t.listDef v.1 v.2).includes, t.listTarget v.1 r = none ∧
        e = .unknownKeywordList (t.name v.1) ("list " ++ (t.listDef v.1 v.2).name) r.render := by
    intro e he
    obtain ⟨v, hv, hb⟩ := mapM_error_mem (hP.2 e he)
    exact Tables.listWords_error _ _ _ _ _ hv (Tables.builtList_error hb)
  refine ⟨⟨fun ⟨e, he⟩ => ?_, fun ⟨v, hv, r, hr, hnone⟩ => ?_⟩, fun e he => ?_, fun lists ids hok => ?_⟩
  · obtain ⟨v, hv, r, hr, hnone, -⟩ := herr e he
    exact ⟨v, hv, r, hr, hnone⟩
  · -- the list with the unresolved inclusion fails, and so does building all of them
    obtain ⟨e, he⟩ := Tables.listWords_error_of_unresolved (t.defs.foldl
      (fun n d => n + d.lists.length) 0) (V := []) List.not_mem_nil hr hnone
    have hb : t.builtList v = .error e := by
      rw [Tables.builtList, he]
      rfl
    obtain ⟨e', he'⟩ := mapM_error_of_mem hb hv
    cases hk : t.keywordLists with
    | error e'' => exact ⟨e'', rfl⟩
    | ok r =>
      obtain ⟨ks, hks, -⟩ := hP.1 r hk
      rw [hks] at he'
      cases he'
  · obtain ⟨v, -, r, -, -, rfl⟩ := herr e he
    exact ⟨_, _, _, rfl⟩
  · obtain ⟨ks, hks, hlists⟩ := hP.1 _ hok
    simp only [List.nil_append] at hlists
    rw [hlists]
    have hall := (List.forall₂_and_left _ _).2
      ⟨fun v hv => hv, mapM_ok_forall₂ hks⟩
    exact hall.imp fun v k ⟨hv, hk⟩ => Tables.builtList_contains hv hk

end Grammar

end Highlight

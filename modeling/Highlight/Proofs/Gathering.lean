import Highlight.Proofs.Walks
import Highlight.Proofs.Linked
/-!
# Gathering included definitions

Loading a definition gathers the definitions of the languages it refers to through `##Language`,
and theirs in turn (`Grammar.gather`). The references form a graph on language names
(`Includes.Refers`): the root's own name stands for the root, any other name for the definition
the include source gives for it.

When the source gives definitions for at most `bound` names and every language reached from the
root has a definition that reads, gathering fails exactly when some walk from the root comes back
to a language it passed, and then it names such a walk; otherwise it gathers each reached
language once, under the name it was referred to by, root first, in depth-first order of first
reference (`gather_depthFirst_or_cycle`).

The proof keeps the include path as a walk from the root and every gathered language off the
path finished (`Exploring`): a reference to the path is a cycle, and one to a finished language
cannot lead back to the path.
-/

namespace Highlight

open Relation

namespace Includes

variable (inc : Includes) (root : Definition)

/-- The definition a language name stands for when loading `root`: `root` for its own name,
otherwise the one `inc` gives, when it reads. -/
def resolve (l : String) : Option Definition :=
  if l = root.header.name then some root
  else match inc.find l with
    | .ok text => (parseDefinition text).toOption
    | .error _ => Option.none

/-- The languages the definition of `l` refers to, each once, in the order first met. -/
def refsOf (l : String) : List String := ((inc.resolve root l).map Definition.languages).getD []

/-- The include graph: the definition of `l` refers to language `m`. -/
def Refers (l m : String) : Prop := m ∈ inc.refsOf root l

/-- `inc` gives definitions for at most `bound` names. -/
def Bounded : Prop :=
  ∃ names : List String,
    names.length ≤ inc.bound ∧ ∀ l text, inc.find l = .ok text → l ∈ names

variable {inc root}

theorem resolve_self : inc.resolve root root.header.name = some root := if_pos rfl

theorem resolve_eq_some {l : String} {d : Definition} (hl : l ≠ root.header.name) :
    inc.resolve root l = some d ↔ ∃ text, inc.find l = .ok text ∧ parseDefinition text = .ok d := by
  unfold resolve
  rw [if_neg hl]
  cases inc.find l with
  | error _ => simp
  | ok text => cases hp : parseDefinition text <;> simp [Except.toOption, hp]

theorem refsOf_of_resolve {l : String} {d : Definition} (h : inc.resolve root l = some d) :
    inc.refsOf root l = d.languages := by
  simp [refsOf, h]

theorem ofList_bounded (texts : List (String × String)) (reason : String) :
    (Includes.ofList texts reason).Bounded := by
  refine ⟨texts.map (·.1), by simp [Includes.ofList], fun l text h => ?_⟩
  -- a text is given only for a name the list has
  have hlookup : texts.lookup l ≠ Option.none := by
    intro hnone
    simp [Includes.ofList, hnone] at h
  clear h
  induction texts with
  | nil => simp at hlookup
  | cons p ps ih =>
    obtain ⟨k, v⟩ := p
    by_cases hk : l = k
    · simp [hk]
    · have hbeq : (l == k) = false := by simpa using hk
      simp only [List.lookup, hbeq] at hlookup
      simpa [hk] using ih hlookup

end Includes

namespace Grammar

variable {inc : Includes}

/-- The names of gathered definitions, in order. -/
def gatheredNames (found : Array (String × Definition)) : List String := found.toList.map (·.1)

@[simp] theorem gatheredNames_push (found : Array (String × Definition)) (p : String × Definition) :
    gatheredNames (found.push p) = gatheredNames found ++ [p.1] := by
  simp [gatheredNames]

theorem any_fst_eq_iff {found : Array (String × Definition)} {l : String} :
    (found.any fun p => p.1 == l) = true ↔ l ∈ gatheredNames found := by
  rw [Array.any_eq_true]
  simp only [beq_iff_eq, gatheredNames, List.mem_map, Array.mem_toList_iff, Array.mem_iff_getElem]
  constructor
  · rintro ⟨i, hi, hl⟩
    exact ⟨found[i], ⟨i, hi, rfl⟩, hl⟩
  · rintro ⟨p, ⟨i, hi, rfl⟩, hl⟩
    exact ⟨i, hi, hl⟩

/-- One reference met while gathering from the definition named `here` with `path` the include
path to it: a language on the path is a cycle, one gathered before is passed over, and a new one
is fetched, read and gathered from in turn with `fuel`. -/
def gatherRef (inc : Includes) (fuel : Nat) (root here : String) (path : List String)
    (found : Array (String × Definition)) (lang : String) :
    Except LoadError (Array (String × Definition)) := do
  if path.contains lang then throw (.includeCycle root (path ++ [lang]))
  if found.any (·.1 == lang) then return found
  let text ← match inc.find lang with
    | .ok text => pure text
    | .error reason => throw (.includeNotFound here lang reason)
  let d ← parseDefinition text
  gather inc fuel found.size (path ++ [lang]) (found.push (lang, d))

/-- Gathering from definition `idx` handles its references in order. -/
theorem gather_succ (fuel idx : Nat) (path : List String) (found : Array (String × Definition)) :
    gather inc (fuel + 1) idx path found =
      (((found[idx]?).map (·.2.languages)).getD []).foldlM
        (gatherRef inc fuel (((found[0]?).map (·.1)).getD "") (((found[idx]?).map (·.1)).getD "")
          path) found := rfl

section Step

variable {fuel : Nat} {root here lang : String} {path : List String}
  {found found' : Array (String × Definition)}

/-- A reference handled without failing was off the path, and either gathered before or gathered
now with what it refers to. -/
theorem gatherRef_ok (h : gatherRef inc fuel root here path found lang = .ok found') :
    lang ∉ path ∧ (lang ∈ gatheredNames found ∧ found' = found ∨
      lang ∉ gatheredNames found ∧ ∃ text d, inc.find lang = .ok text ∧
        parseDefinition text = .ok d ∧
        gather inc fuel found.size (path ++ [lang]) (found.push (lang, d)) = .ok found') := by
  unfold gatherRef at h
  by_cases hpath : path.contains lang = true
  · rw [if_pos hpath] at h
    cases h
  rw [if_neg hpath] at h
  refine ⟨fun hmem => hpath (List.contains_iff_mem.2 hmem), ?_⟩
  by_cases hany : (found.any fun p => p.1 == lang) = true
  · rw [if_pos hany] at h
    cases h
    exact .inl ⟨any_fst_eq_iff.1 hany, rfl⟩
  rw [if_neg hany] at h
  refine .inr ⟨fun hmem => hany (any_fst_eq_iff.2 hmem), ?_⟩
  cases hfind : inc.find lang with
  | error r =>
    rw [hfind] at h
    cases h
  | ok text =>
    rw [hfind] at h
    obtain ⟨text', htext, h⟩ := except_bind_ok h
    cases htext
    obtain ⟨d, hparse, h⟩ := except_bind_ok h
    exact ⟨text, d, rfl, hparse, h⟩

/-- A reference that fails is on the path, and the failure names the path to it; or it is new,
and gathering from it failed once it was fetched and read. -/
theorem gatherRef_error {e : LoadError}
    (h : gatherRef inc fuel root here path found lang = .error e) :
    lang ∈ path ∧ e = .includeCycle root (path ++ [lang]) ∨
      lang ∉ path ∧ lang ∉ gatheredNames found ∧ ∀ text d, inc.find lang = .ok text →
        parseDefinition text = .ok d →
        gather inc fuel found.size (path ++ [lang]) (found.push (lang, d)) = .error e := by
  unfold gatherRef at h
  by_cases hpath : path.contains lang = true
  · rw [if_pos hpath] at h
    cases h
    exact .inl ⟨List.contains_iff_mem.1 hpath, rfl⟩
  rw [if_neg hpath] at h
  by_cases hany : (found.any fun p => p.1 == lang) = true
  · rw [if_pos hany] at h
    cases h
  rw [if_neg hany] at h
  refine .inr ⟨fun hmem => hpath (List.contains_iff_mem.2 hmem),
    fun hmem => hany (any_fst_eq_iff.2 hmem), fun text d hfind hparse => ?_⟩
  rw [hfind] at h
  have hread : (parseDefinition text >>= fun d =>
      gather inc fuel found.size (path ++ [lang]) (found.push (lang, d))) = .error e := h
  rwa [hparse] at hread

end Step

/-- A reference handled without failing only adds definitions, when gathering with `fuel` does. -/
theorem gatherRef_extends {fuel : Nat} {root here lang : String} {path : List String}
    {found found' : Array (String × Definition)}
    (hfuel : ∀ idx path (found found' : Array (String × Definition)),
      gather inc fuel idx path found = .ok found' → found.toList <+: found'.toList)
    (h : gatherRef inc fuel root here path found lang = .ok found') :
    found.toList <+: found'.toList := by
  rcases (gatherRef_ok h).2 with ⟨-, rfl⟩ | ⟨-, text, d, -, -, hgather⟩
  · exact List.prefix_refl _
  · have hpush : found.toList <+: (found.push (lang, d)).toList := by simp
    exact hpush.trans (hfuel _ _ _ _ hgather)

/-- Gathering only adds definitions after those it started from. -/
theorem gather_extends :
    ∀ (fuel idx : Nat) (path : List String) (found found' : Array (String × Definition)),
      gather inc fuel idx path found = .ok found' → found.toList <+: found'.toList
  | 0, _, _, found, found', h => by
    cases h
    exact List.prefix_refl _
  | fuel + 1, idx, path, found, found', h => by
    rw [gather_succ] at h
    exact foldlM_ok_inv (P := fun acc => found.toList <+: acc.toList)
      (fun _ _ _ hpre hstep => hpre.trans (gatherRef_extends (gather_extends fuel) hstep)) _ _ _
      (List.prefix_refl _) h

/-- A definition gathered before keeps its place. -/
theorem getElem?_of_extends {found acc : Array (String × Definition)}
    (h : found.toList <+: acc.toList) {i : Nat} {p : String × Definition} (hi : found[i]? = some p) :
    acc[i]? = some p := by
  obtain ⟨t, ht⟩ := h
  have hlt : i < found.toList.length := by simpa using (Array.getElem?_eq_some_iff.1 hi).1
  rw [← Array.getElem?_toList, ← ht, List.getElem?_append_left hlt, Array.getElem?_toList, hi]

theorem gatheredNames_subset {found acc : Array (String × Definition)}
    (h : found.toList <+: acc.toList) {l : String} (hl : l ∈ gatheredNames found) :
    l ∈ gatheredNames acc :=
  (h.map (·.1)).subset hl

/-! ## The gathering invariant -/

section Invariant

variable (inc : Includes) (root : Definition)

/-- What holds of the definitions gathered so far, whatever the path: the root comes first, each
name is gathered once with the definition it stands for, and each was reached from the root. -/
structure Gathered (found : Array (String × Definition)) : Prop where
  first : found[0]? = some (root.header.name, root)
  resolves : ∀ p ∈ found.toList, inc.resolve root p.1 = some p.2
  nodup : (gatheredNames found).Nodup
  reached : ∀ l ∈ gatheredNames found, ReflTransGen (inc.Refers root) root.header.name l

/-- What holds while gathering below the include path `path`: it is a walk of distinct gathered
languages from the root, and every gathered language off it is finished. -/
structure Exploring (path : List String) (found : Array (String × Definition)) : Prop where
  head : path.head? = some root.header.name
  chain : path.IsChain (inc.Refers root)
  nodup : path.Nodup
  gathered : ∀ l ∈ path, l ∈ gatheredNames found
  finished : Finished (inc.Refers root) (gatheredNames found) path

variable {inc root}

theorem Gathered.start : Gathered inc root #[(root.header.name, root)] :=
  ⟨rfl, by simp [Includes.resolve_self], by simp [gatheredNames], fun l hl => by
    simp only [gatheredNames, List.map_cons, List.map_nil, List.mem_singleton] at hl
    exact hl ▸ .refl⟩

theorem Exploring.start : Exploring inc root [root.header.name] #[(root.header.name, root)] := by
  refine ⟨rfl, List.isChain_singleton _, List.nodup_singleton _, by simp [gatheredNames], ?_⟩
  intro b hb hbP
  simp [gatheredNames] at hb
  exact absurd (hb ▸ List.mem_singleton_self _) hbP

variable {found : Array (String × Definition)} {path : List String} {lang x : String}
  {d : Definition}

theorem Exploring.root_mem (h : Exploring inc root path found) : root.header.name ∈ path :=
  List.mem_of_head? h.head

/-- A language gathered for the first time, with the definition it stands for, reached from the
root. -/
theorem Gathered.push (h : Gathered inc root found) (hnew : lang ∉ gatheredNames found)
    (hd : inc.resolve root lang = some d)
    (hreach : ReflTransGen (inc.Refers root) root.header.name lang) :
    Gathered inc root (found.push (lang, d)) := by
  refine ⟨?_, fun p hp => ?_, ?_, fun l hl => ?_⟩
  · exact getElem?_of_extends (by simp) h.first
  · rcases (by simpa using hp : p ∈ found ∨ p = (lang, d)) with hp | rfl
    · exact h.resolves p (Array.mem_toList_iff.2 hp)
    · exact hd
  · simpa using h.nodup.concat hnew
  · rcases (by simpa using hl : l ∈ gatheredNames found ∨ l = lang) with hl | rfl
    · exact h.reached l hl
    · exact hreach

/-- The definition gathered at `idx` under the name `x` is the one `x` stands for, so its
references are those of `x`. -/
theorem Gathered.refs_eq (h : Gathered inc root found) {idx : Nat}
    (hcur : (found[idx]?).map (·.1) = some x) :
    ((found[idx]?).map (·.2.languages)).getD [] = inc.refsOf root x := by
  obtain ⟨p, hp, rfl⟩ := Option.map_eq_some_iff.1 hcur
  rw [Includes.refsOf_of_resolve (h.resolves p (Array.mem_toList_iff.2 (Array.mem_of_getElem? hp))),
    hp]
  rfl

/-- Stepping from the last language of the path onto a new one it refers to. -/
theorem Exploring.push (h : Exploring inc root path found) (hnew : lang ∉ gatheredNames found)
    (hoff : lang ∉ path) (hlast : path.getLast? = some x) (hx : inc.Refers root x lang) :
    Exploring inc root (path ++ [lang]) (found.push (lang, d)) := by
  refine ⟨?_, ?_, ?_, fun l hl => ?_, ?_⟩
  · simp [h.head]
  · exact isChain_append_of_getLast h.chain hlast hx
  · simpa using h.nodup.concat hoff
  · rcases List.mem_append.1 hl with hl | hl
    · simpa using Or.inl (h.gathered l hl)
    · simp [List.mem_singleton.1 hl]
  · simpa using h.finished.push hnew

/-- Leaving a language all of whose references are gathered and off the path: it is finished,
and the path is back to what it was. -/
theorem Exploring.pop {found' : Array (String × Definition)} (h : Exploring inc root path found)
    (hpre : found.toList <+: found'.toList) (hnew : Exploring inc root (path ++ [lang]) found')
    (hnext : ∀ c, inc.Refers root lang c → c ∈ gatheredNames found' ∧ c ∉ path ++ [lang]) :
    Exploring inc root path found' := by
  have hoff : lang ∉ path := ((List.nodup_concat path lang).1 (by simpa using hnew.nodup)).1
  refine ⟨h.head, h.chain, h.nodup, fun l hl => gatheredNames_subset hpre (h.gathered l hl), ?_⟩
  exact hnew.finished.pop (hnew.gathered lang (by simp)) hoff hnext

/-- Every language on the path but the root was fetched, so with a source bounded by `bound`
the path holds at most `bound + 1` languages. -/
theorem Exploring.length_le (hinc : inc.Bounded) (hg : Gathered inc root found)
    (h : Exploring inc root path found) : path.length ≤ inc.bound + 1 := by
  obtain ⟨names, hlen, hfind⟩ := hinc
  have hhead := h.head
  cases path with
  | nil => cases hhead
  | cons a rest =>
    obtain rfl : a = root.header.name := Option.some.inj hhead
    have hrest : rest ⊆ names := fun l hl => by
      have hne : l ≠ root.header.name := fun he => (List.nodup_cons.1 h.nodup).1 (he ▸ hl)
      obtain ⟨p, hp, rfl⟩ := List.mem_map.1 (h.gathered l (List.mem_cons_of_mem _ hl))
      obtain ⟨text, htext, -⟩ := (Includes.resolve_eq_some hne).1 (hg.resolves p hp)
      exact hfind _ _ htext
    have := (List.nodup_cons.1 h.nodup).2.length_le_of_subset hrest
    simp only [List.length_cons]
    omega

end Invariant

/-! ## Gathering succeeds with every reached language, or fails on a cycle -/

section Gather

variable {root : Definition}

/-- Gathering from the last language `x` of the path, with enough fuel, keeps the invariant,
gathers each language `x` refers to (none of them on the path), and adds the languages in
depth-first order of their references. -/
theorem gather_ok (hinc : inc.Bounded) :
    ∀ (fuel idx : Nat) (path : List String) (x : String) (found found' : Array (String × Definition)),
      inc.bound + 2 ≤ fuel + path.length → Gathered inc root found →
      Exploring inc root path found → path.getLast? = some x → (found[idx]?).map (·.1) = some x →
      gather inc fuel idx path found = .ok found' →
      Gathered inc root found' ∧ Exploring inc root path found' ∧ found.toList <+: found'.toList ∧
        (∀ c, inc.Refers root x c → c ∈ gatheredNames found' ∧ c ∉ path) ∧
        DepthFirst (inc.refsOf root) (gatheredNames found) (inc.refsOf root x) (gatheredNames found')
  | 0, _, path, _, found, _, hfuel, hg, hx, _, _, _ => by
    have := hx.length_le hinc hg
    omega
  | fuel + 1, idx, path, x, found, found', hfuel, hg, hx, hlast, hcur, h => by
    rw [gather_succ, hg.refs_eq hcur, hg.first] at h
    -- the references handled so far are gathered and off the path, in depth-first order
    have hfold := foldlM_ok_prefix (P := fun pre acc => Gathered inc root acc ∧
        Exploring inc root path acc ∧ found.toList <+: acc.toList ∧
        (∀ c ∈ pre, c ∈ gatheredNames acc ∧ c ∉ path) ∧
        DepthFirst (inc.refsOf root) (gatheredNames found) pre (gatheredNames acc))
      (inc.refsOf root x) ?_ [] found found'
      ⟨hg, hx, List.prefix_refl _, by simp, .nil⟩ h
    · obtain ⟨hg', hx', hpre, hrefs, hdfs⟩ := hfold
      exact ⟨hg', hx', hpre, fun c hc => hrefs c (by rw [List.nil_append]; exact hc),
        by simpa using hdfs⟩
    rintro pre acc lang acc' hmem ⟨hga, hxa, hprea, hdone, hdfsa⟩ hstep
    obtain ⟨hoff, ⟨hin, rfl⟩ | ⟨hnew, text, d, hfind, hparse, hgather⟩⟩ := gatherRef_ok hstep
    · -- a language gathered before is passed over
      refine ⟨hga, hxa, hprea, fun c hc => ?_, hdfsa.append (.skip hin .nil)⟩
      rcases List.mem_append.1 hc with hc | hc
      · exact hdone c hc
      · rw [List.mem_singleton.1 hc]
        exact ⟨hin, hoff⟩
    · -- a new language is gathered, then everything it refers to
      have hne : lang ≠ root.header.name := fun he => hoff (he ▸ hxa.root_mem)
      have hd : inc.resolve root lang = some d :=
        (Includes.resolve_eq_some hne).2 ⟨text, hfind, hparse⟩
      have hreach := (hga.reached x (hxa.gathered x (List.mem_of_getLast? hlast))).tail hmem
      obtain ⟨hg', hx', hpre', hnext, hdfs'⟩ := gather_ok hinc fuel acc.size (path ++ [lang]) lang
        (acc.push (lang, d)) acc' (by simp only [List.length_append, List.length_singleton]; omega)
        (hga.push hnew hd hreach) (hxa.push hnew hoff hlast hmem) List.getLast?_concat
        (by simp) hgather
      have hpush : acc.toList <+: acc'.toList := by
        have : acc.toList <+: (acc.push (lang, d)).toList := by simp
        exact this.trans hpre'
      refine ⟨hg', hxa.pop hpush hx' hnext, hprea.trans hpush, fun c hc => ?_,
        hdfsa.append (.visit hnew (by simpa using hdfs') .nil)⟩
      rcases List.mem_append.1 hc with hc | hc
      · exact ⟨gatheredNames_subset hpush (hdone c hc).1, (hdone c hc).2⟩
      · rw [List.mem_singleton.1 hc]
        exact ⟨hx'.gathered lang (by simp), hoff⟩

/-- With every reached language resolved, gathering fails only on a cycle: it names the path to
the last language followed by a reference back onto the path. -/
theorem gather_error
    (hres : ∀ l, ReflTransGen (inc.Refers root) root.header.name l → inc.resolve root l ≠ none) :
    ∀ (fuel idx : Nat) (path : List String) (x : String) (d : Definition)
      (found : Array (String × Definition)) (e : LoadError),
      found[0]? = some (root.header.name, root) → path.head? = some root.header.name →
      path.IsChain (inc.Refers root) → path.getLast? = some x → found[idx]? = some (x, d) →
      inc.resolve root x = some d → ReflTransGen (inc.Refers root) root.header.name x →
      gather inc fuel idx path found = .error e →
      ∃ q l, e = .includeCycle root.header.name (q ++ [l]) ∧ q.head? = some root.header.name ∧
        (q ++ [l]).IsChain (inc.Refers root) ∧ l ∈ q
  | 0, _, _, _, _, _, _, _, _, _, _, _, _, _, h => by cases h
  | fuel + 1, idx, path, x, d, found, e, hfirst, hhead, hchain, hlast, hcur, hd, hreach, h => by
    rw [gather_succ, hfirst, hcur] at h
    -- the failing reference was met with the definitions gathered before still in place
    obtain ⟨acc, hpre, lang, hmem, hstep⟩ :=
      foldlM_error_inv (P := fun acc => found.toList <+: acc.toList)
        (fun _ _ _ hpre hstep => hpre.trans (gatherRef_extends (gather_extends fuel) hstep))
        (List.prefix_refl _) h
    have hxl : inc.Refers root x lang := by
      rw [Includes.Refers, Includes.refsOf_of_resolve hd]
      exact hmem
    rcases gatherRef_error hstep with ⟨hon, rfl⟩ | ⟨hoff, -, hgather⟩
    · exact ⟨path, lang, rfl, hhead, isChain_append_of_getLast hchain hlast hxl, hon⟩
    · have hreach' := hreach.tail hxl
      have hne : lang ≠ root.header.name := fun he => hoff (he ▸ List.mem_of_head? hhead)
      obtain ⟨d', hd'⟩ := Option.ne_none_iff_exists'.1 (hres lang hreach')
      obtain ⟨text, hfind, hparse⟩ := (Includes.resolve_eq_some hne).1 hd'
      exact gather_error hres fuel acc.size (path ++ [lang]) lang d' (acc.push (lang, d')) e
        (getElem?_of_extends (by simpa using hpre.trans (List.prefix_append _ _)) hfirst)
        (by simp [hhead]) (isChain_append_of_getLast hchain hlast hxl) List.getLast?_concat
        (by simp) hd' hreach' (hgather text d' hfind hparse)

/-- Gathering from the root that succeeds leaves the root finished: every language it reaches is
gathered once, in depth-first order, and none of them is on a cycle. -/
theorem gather_root_ok (hinc : inc.Bounded) {found : Array (String × Definition)}
    (h : gather inc (inc.bound + 1) 0 [root.header.name] #[(root.header.name, root)] = .ok found) :
    ¬CycleFrom (inc.Refers root) root.header.name ∧ found[0]? = some (root.header.name, root) ∧
      (gatheredNames found).Nodup ∧
      (∀ l, l ∈ gatheredNames found ↔ ReflTransGen (inc.Refers root) root.header.name l) ∧
      (∀ p ∈ found.toList, inc.resolve root p.1 = some p.2) ∧
      DepthFirst (inc.refsOf root) [root.header.name] (inc.refsOf root root.header.name)
        (gatheredNames found) := by
  obtain ⟨hg, hx, -, hnext, hdfs⟩ := gather_ok hinc _ 0 _ _ _ found (by simp) Gathered.start
    Exploring.start rfl rfl h
  have hroot : root.header.name ∈ gatheredNames found := hx.gathered _ (List.mem_singleton_self _)
  have hfin := hx.finished.pop (P := []) hroot List.not_mem_nil hnext
  have hreach : ∀ u, ReflTransGen (inc.Refers root) root.header.name u →
      u ∈ gatheredNames found ∧ ¬TransGen (inc.Refers root) u u :=
    fun u hu => ⟨(hfin _ hroot List.not_mem_nil u hu).1, (hfin _ hroot List.not_mem_nil u hu).2.2⟩
  exact ⟨fun ⟨v, hv, hcyc⟩ => (hreach v hv).2 hcyc, hg.first, hg.nodup,
    fun l => ⟨hg.reached l, fun hl => (hreach l hl).1⟩, hg.resolves, hdfs⟩

end Gather

/-- Gathering what `root` includes. When `inc` gives definitions for at most `bound` names and
every language reached from the root has one that reads, gathering fails exactly when some walk
from the root comes back to a language it passed, and then names such a walk from the root;
otherwise it gathers every reached language once, root first, each with the definition its name
stands for, in depth-first order of first reference. -/
theorem gather_depthFirst_or_cycle {inc : Includes} {root : Definition} (hinc : inc.Bounded)
    (hres : ∀ l, ReflTransGen (inc.Refers root) root.header.name l → inc.resolve root l ≠ none) :
    ((∃ p, gather inc (inc.bound + 1) 0 [root.header.name] #[(root.header.name, root)] =
        .error (.includeCycle root.header.name p)) ↔
      CycleFrom (inc.Refers root) root.header.name) ∧
    (∀ e, gather inc (inc.bound + 1) 0 [root.header.name] #[(root.header.name, root)] = .error e →
      ∃ q l, e = .includeCycle root.header.name (q ++ [l]) ∧ q.head? = some root.header.name ∧
        (q ++ [l]).IsChain (inc.Refers root) ∧ l ∈ q) ∧
    (¬CycleFrom (inc.Refers root) root.header.name → ∃ found,
      gather inc (inc.bound + 1) 0 [root.header.name] #[(root.header.name, root)] = .ok found ∧
      found[0]? = some (root.header.name, root) ∧ (gatheredNames found).Nodup ∧
      (∀ l, l ∈ gatheredNames found ↔ ReflTransGen (inc.Refers root) root.header.name l) ∧
      (∀ p ∈ found.toList, inc.resolve root p.1 = some p.2) ∧
      DepthFirst (inc.refsOf root) [root.header.name] (inc.refsOf root root.header.name)
        (gatheredNames found)) := by
  have herr : ∀ e, gather inc (inc.bound + 1) 0 [root.header.name] #[(root.header.name, root)] =
      .error e → ∃ q l, e = .includeCycle root.header.name (q ++ [l]) ∧
        q.head? = some root.header.name ∧ (q ++ [l]).IsChain (inc.Refers root) ∧ l ∈ q :=
    fun e h => gather_error hres _ 0 _ _ root _ e rfl rfl (List.isChain_singleton _) rfl rfl
      Includes.resolve_self .refl h
  refine ⟨⟨fun ⟨p, h⟩ => ?_, fun hcyc => ?_⟩, herr, fun hno => ?_⟩
  · obtain ⟨q, l, -, hq, hw, hl⟩ := herr _ h
    exact cycleFrom_of_walk hq hw hl
  · cases h : gather inc (inc.bound + 1) 0 [root.header.name] #[(root.header.name, root)] with
    | error e =>
      obtain ⟨q, l, rfl, -⟩ := herr e h
      exact ⟨_, rfl⟩
    | ok found => exact absurd hcyc (gather_root_ok hinc h).1
  · cases h : gather inc (inc.bound + 1) 0 [root.header.name] #[(root.header.name, root)] with
    | error e =>
      obtain ⟨q, l, -, hq, hw, hl⟩ := herr e h
      exact absurd (cycleFrom_of_walk hq hw hl) hno
    | ok found => exact ⟨found, rfl, (gather_root_ok hinc h).2⟩

/-- A definition whose only context splices in the default context of language `B`. -/
def includingDefinition : Definition where
  header := { name := "T" }
  lists := []
  styles := [⟨"Text", "dsNormal"⟩]
  contexts := [
    { name := "A", attr := some "Text", lineEnd := {}, lineEmpty := none, fallthrough := none,
      rules := [
        { element := "IncludeRules", kind := .includeRules ⟨none, some "B"⟩ false, attr := none,
          switch := {}, lookAhead := false, firstNonSpace := false, column := none,
          dynamic := false, insensitive := false, children := [] }] }]
  keywordsCaseSensitive := true
  weakDeliminators := ""
  additionalDeliminators := ""
  comments := {}

/-- The definition of language `B`, which refers to no language. -/
def includedText : String :=
  "<language name=\"B\"><highlighting><contexts><context name=\"b\" attribute=\"Text\"/>" ++
  "</contexts><itemDatas><itemData name=\"Text\" defStyleNum=\"dsNormal\"/></itemDatas>" ++
  "</highlighting></language>"

/-- A source that gives only language `B`, by `includedText`. -/
def includingSource : Includes := .ofList [("B", includedText)] ""

/-- Language `B` resolves, to a definition that refers to no language. -/
theorem including_resolve_B :
    (includingSource.resolve includingDefinition "B").map Definition.languages = some [] := by
  decide +kernel

/-- From `includingDefinition`, with `includingSource`, only `T` and `B` are reached. -/
theorem including_reached {l : String}
    (h : ReflTransGen (includingSource.Refers includingDefinition) "T" l) : l = "T" ∨ l = "B" := by
  have hT : includingSource.refsOf includingDefinition "T" = ["B"] := by decide
  have hB : includingSource.refsOf includingDefinition "B" = [] := by
    obtain ⟨d, hd, hl⟩ := Option.map_eq_some_iff.1 including_resolve_B
    rw [Includes.refsOf_of_resolve hd, hl]
  induction h with
  | refl => exact .inl rfl
  | tail _ hstep ih =>
    rcases ih with rfl | rfl
    · rw [Includes.Refers, hT, List.mem_singleton] at hstep
      exact .inr hstep
    · rw [Includes.Refers, hB] at hstep
      cases hstep

theorem gather_depthFirst_or_cycle_including :
    includingSource.Bounded ∧
    (∀ l, ReflTransGen (includingSource.Refers includingDefinition) "T" l →
      includingSource.resolve includingDefinition l ≠ none) ∧
    ((∃ p, gather includingSource (includingSource.bound + 1) 0 ["T"] #[("T", includingDefinition)] =
        .error (.includeCycle "T" p)) ↔
      CycleFrom (includingSource.Refers includingDefinition) "T") ∧
    (∀ e, gather includingSource (includingSource.bound + 1) 0 ["T"] #[("T", includingDefinition)] =
        .error e →
      ∃ q l, e = .includeCycle "T" (q ++ [l]) ∧ q.head? = some "T" ∧
        (q ++ [l]).IsChain (includingSource.Refers includingDefinition) ∧ l ∈ q) ∧
    (¬CycleFrom (includingSource.Refers includingDefinition) "T" → ∃ found,
      gather includingSource (includingSource.bound + 1) 0 ["T"] #[("T", includingDefinition)] =
        .ok found ∧
      found[0]? = some ("T", includingDefinition) ∧ (gatheredNames found).Nodup ∧
      (∀ l, l ∈ gatheredNames found ↔
        ReflTransGen (includingSource.Refers includingDefinition) "T" l) ∧
      (∀ p ∈ found.toList, includingSource.resolve includingDefinition p.1 = some p.2) ∧
      DepthFirst (includingSource.refsOf includingDefinition) ["T"]
        (includingSource.refsOf includingDefinition "T") (gatheredNames found)) := by
  have hbounded : includingSource.Bounded := Includes.ofList_bounded _ _
  have hres : ∀ l, ReflTransGen (includingSource.Refers includingDefinition) "T" l →
      includingSource.resolve includingDefinition l ≠ none := by
    intro l hl
    rcases including_reached hl with rfl | rfl
    · rw [show "T" = includingDefinition.header.name from rfl, Includes.resolve_self]
      exact Option.some_ne_none _
    · obtain ⟨d, hd, -⟩ := Option.map_eq_some_iff.1 including_resolve_B
      rw [hd]
      exact Option.some_ne_none _
  exact ⟨hbounded, hres, gather_depthFirst_or_cycle hbounded hres⟩

end Grammar

end Highlight

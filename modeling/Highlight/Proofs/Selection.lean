import Highlight.Registry.Basic
/-!
# Which entry a lookup selects

A registry is asked for a grammar by language name, definition file, media type, file name or
first line. By name and by definition file it takes the first entry that fits, hidden or not
(`FirstOf`). By media type, file name and first line it takes, among the visible entries that
fit, the one of the highest priority, the earliest of equals (`BestOf`), and none when no visible
entry fits or, by file name, when the path has no file-name component. By file name the entries
that fit are those the registry's glob set names for the globs matching the file-name component:
the set matches a name at the globs that match it one by one (`GlobSet.mem_matches`), and the
registry maps each glob of the set to its entry (`GlobCandidate`). Detection tries the
definition file, media type, name, file name and first line in that order, and loads the entry
selected by the first of them that the query gives and that selects one, failing as that load
fails; it reports that nothing was found only when none of them selects an entry
(`lookup_selection`).

`best` keeps, of its candidates, the one no other is preferred to (`best_eq_some_iff`); the
preference is a strict total order on entries, so there is exactly one such candidate.
-/

namespace Highlight

/-- A set of globs matches a name as its globs do, one by one. -/
theorem GlobSet.mem_matches {s : GlobSet} {name : String} {k : Nat} :
    k ∈ s.matches name ↔ ∃ g, s.globs[k]? = some g ∧ g.matches name = true := by
  unfold GlobSet.matches
  rw [List.mem_filter, List.mem_range]
  cases hk : s.globs[k]? with
  | none => simp
  | some g =>
    have hlt : k < s.globs.size := (Array.getElem?_eq_some_iff.1 hk).1
    simp [hlt]

namespace Registry

variable (r : Registry)

/-- The priority `best` compares entry `i` by. -/
def priorityOf (i : Nat) : Int := (r.entries[i]?.map (·.info.priority)).getD 0

/-- Entry `i` is preferred to entry `j`: its priority is higher, or the same and it comes
first. -/
def Prefers (i j : Nat) : Prop :=
  r.priorityOf j < r.priorityOf i ∨ r.priorityOf i = r.priorityOf j ∧ i < j

instance (i j : Nat) : Decidable (r.Prefers i j) := inferInstanceAs (Decidable (_ ∨ _))

/-- The choice `best` makes between the candidate kept so far and the next one. -/
def keep (acc : Option Nat) (i : Nat) : Option Nat :=
  match acc with
  | none => some i
  | some j => if r.Prefers i j then some i else some j

/-- Entry `i` is visible and satisfies `p`. -/
def Candidate (p : RegistryEntry → Bool) (i : Nat) : Prop :=
  ∃ e, r.entries[i]? = some e ∧ e.info.hidden = false ∧ p e = true

/-- Entry `i` is the first entry, hidden or not, that satisfies `p`. -/
def FirstOf (p : RegistryEntry → Bool) (i : Nat) : Prop :=
  (∃ e, r.entries[i]? = some e ∧ p e = true) ∧
    ∀ j < i, ∀ e, r.entries[j]? = some e → p e = false

/-- Entry `i` is the entry of the highest priority among those `S` holds of, the earliest of
those. -/
def BestAmong (S : Nat → Prop) (i : Nat) : Prop :=
  S i ∧ ∀ j, S j → r.priorityOf j < r.priorityOf i ∨ r.priorityOf j = r.priorityOf i ∧ i ≤ j

/-- Entry `i` is the visible entry satisfying `p` of the highest priority, the earliest of
those. -/
def BestOf (p : RegistryEntry → Bool) (i : Nat) : Prop := r.BestAmong (r.Candidate p) i

/-- Entry `i` is visible, and it is the entry of a glob of the registry's set that matches
`name`. -/
def GlobCandidate (name : String) (i : Nat) : Prop :=
  (∃ e, r.entries[i]? = some e ∧ e.info.hidden = false) ∧
    ∃ k ∈ r.globs.matches name, r.globEntries[k]? = some i

variable {r}

/-! ## Preference -/

section Preference

variable {i j k : Nat}

theorem Prefers.irrefl (i : Nat) : ¬r.Prefers i i := by
  unfold Prefers
  omega

theorem Prefers.trans (hij : r.Prefers i j) (hjk : r.Prefers j k) : r.Prefers i k := by
  unfold Prefers at *
  omega

theorem prefers_total (h : i ≠ j) : r.Prefers i j ∨ r.Prefers j i := by
  unfold Prefers
  omega

/-- Two candidates of a list that no candidate is preferred to are the same. -/
theorem eq_of_unpreferred {cs : List Nat} (hi : i ∈ cs) (hj : j ∈ cs)
    (hi' : ∀ m ∈ cs, ¬r.Prefers m i) (hj' : ∀ m ∈ cs, ¬r.Prefers m j) : i = j := by
  by_cases hne : i = j
  · exact hne
  rcases prefers_total hne with h | h
  · exact absurd h (hj' i hi)
  · exact absurd h (hi' j hj)

end Preference

/-! ## The best candidate -/

theorem best_eq_foldl (cs : List Nat) : r.best cs = cs.foldl r.keep none := by
  unfold best keep
  congr
  funext acc i
  cases acc with
  | none => rfl
  | some j =>
    exact ite_congr (propext (by simp [Prefers, priorityOf])) (fun _ => rfl) (fun _ => rfl)

/-- Folding candidates onto a kept one keeps one of them that no other is preferred to. -/
theorem foldl_keep (cs : List Nat) :
    ∀ j, ∃ k, cs.foldl r.keep (some j) = some k ∧ k ∈ j :: cs ∧ ∀ m ∈ j :: cs, ¬r.Prefers m k := by
  induction cs with
  | nil =>
    intro j
    refine ⟨j, rfl, List.mem_singleton_self _, fun m hm => ?_⟩
    rw [List.mem_singleton.1 hm]
    exact Prefers.irrefl j
  | cons c cs ih =>
    intro j
    by_cases hcj : r.Prefers c j
    · -- `c` replaces `j`, which loses to it and so to whatever beats it
      obtain ⟨k, hk, hmem, hbest⟩ := ih c
      have hstep : (c :: cs).foldl r.keep (some j) = cs.foldl r.keep (some c) := by
        simp [keep, hcj]
      refine ⟨k, hstep ▸ hk, List.mem_cons_of_mem _ hmem, fun m hm => ?_⟩
      rcases List.mem_cons.1 hm with rfl | hm
      · exact fun hmk => hbest c List.mem_cons_self (hcj.trans hmk)
      · exact hbest m hm
    · -- `j` stays; `c` is `j` itself or loses to it
      obtain ⟨k, hk, hmem, hbest⟩ := ih j
      have hstep : (c :: cs).foldl r.keep (some j) = cs.foldl r.keep (some j) := by
        simp [keep, hcj]
      refine ⟨k, hstep ▸ hk, ?_, fun m hm => ?_⟩
      · rcases List.mem_cons.1 hmem with h | h
        · exact h ▸ List.mem_cons_self
        · exact List.mem_cons_of_mem _ (List.mem_cons_of_mem _ h)
      rcases List.mem_cons.1 hm with rfl | hm
      · exact hbest m List.mem_cons_self
      rcases List.mem_cons.1 hm with rfl | hm
      · intro hmk
        by_cases hmj : m = j
        · exact hbest j List.mem_cons_self (hmj ▸ hmk)
        · rcases prefers_total hmj with h | h
          · exact hcj h
          · exact hbest j List.mem_cons_self (h.trans hmk)
      · exact hbest m (List.mem_cons_of_mem _ hm)

theorem best_eq_none_iff {cs : List Nat} : r.best cs = none ↔ cs = [] := by
  rw [best_eq_foldl]
  cases cs with
  | nil => simp
  | cons c cs =>
    obtain ⟨k, hk, -⟩ := foldl_keep (r := r) cs c
    simp only [List.foldl_cons, keep, reduceCtorEq, iff_false]
    rw [hk]
    exact Option.some_ne_none k

/-- `best` keeps the candidate no other candidate is preferred to. -/
theorem best_eq_some_iff {cs : List Nat} {i : Nat} :
    r.best cs = some i ↔ i ∈ cs ∧ ∀ j ∈ cs, ¬r.Prefers j i := by
  rw [best_eq_foldl]
  cases cs with
  | nil => simp
  | cons c cs =>
    obtain ⟨k, hk, hmem, hbest⟩ := foldl_keep (r := r) cs c
    simp only [List.foldl_cons, keep]
    rw [hk, Option.some.injEq]
    constructor
    · rintro rfl
      exact ⟨hmem, hbest⟩
    · rintro ⟨hi, hi'⟩
      exact eq_of_unpreferred hmem hi hbest hi'

/-- Among candidates that are the entries `S` holds of, `best` selects the one of the highest
priority, the earliest of equals. -/
theorem best_eq_some_iff_bestAmong {cs : List Nat} {S : Nat → Prop} (hcs : ∀ j, j ∈ cs ↔ S j)
    {i : Nat} : r.best cs = some i ↔ r.BestAmong S i := by
  rw [best_eq_some_iff, hcs]
  refine and_congr_right fun _ => forall_congr' fun j => ?_
  rw [hcs]
  unfold Prefers
  refine imp_congr_right fun _ => ?_
  omega

theorem best_eq_none_iff_forall {cs : List Nat} {S : Nat → Prop} (hcs : ∀ j, j ∈ cs ↔ S j) :
    r.best cs = none ↔ ∀ i, ¬S i := by
  rw [best_eq_none_iff, List.eq_nil_iff_forall_not_mem]
  exact forall_congr' fun i => not_congr (hcs i)

/-! ## Visible candidates -/

theorem mem_visible {p : RegistryEntry → Bool} {i : Nat} : i ∈ r.visible p ↔ r.Candidate p i := by
  unfold visible Candidate
  rw [List.mem_filter, List.mem_range]
  cases he : r.entries[i]? with
  | none =>
    simp only [Bool.false_eq_true, and_false, reduceCtorEq, false_and, exists_false]
  | some e =>
    have hi : i < r.entries.size := (Array.getElem?_eq_some_iff.1 he).1
    simp [hi]

/-- Among the visible entries satisfying `p`, `best` selects the one of the highest priority,
the earliest of equals. -/
theorem best_visible_eq_some_iff {p : RegistryEntry → Bool} {i : Nat} :
    r.best (r.visible p) = some i ↔ r.BestOf p i :=
  best_eq_some_iff_bestAmong fun _ => mem_visible

theorem best_visible_eq_none_iff {p : RegistryEntry → Bool} :
    r.best (r.visible p) = none ↔ ∀ i, ¬r.Candidate p i :=
  best_eq_none_iff_forall fun _ => mem_visible

/-! ## Globs -/

/-- The candidates by file name are the visible entries of the globs that match. -/
theorem mem_globCandidates {name : String} {i : Nat} :
    i ∈ r.globCandidates name ↔ r.GlobCandidate name i := by
  unfold globCandidates GlobCandidate
  simp only [List.mem_filterMap, Option.bind_eq_some_iff]
  constructor
  · rintro ⟨k, hk, j, hj, hvis⟩
    split at hvis
    · next hv =>
      cases hvis
      refine ⟨?_, k, hk, hj⟩
      cases he : r.entries[i]? with
      | none => simp [he] at hv
      | some e => exact ⟨e, rfl, by simpa [he] using hv⟩
    · cases hvis
  · rintro ⟨⟨e, he, hhid⟩, k, hk, hj⟩
    exact ⟨k, hk, i, hj, by simp [he, hhid]⟩

/-! ## The first entry that fits -/

theorem findIdx?_eq_some_iff_firstOf {p : RegistryEntry → Bool} {i : Nat} :
    r.entries.findIdx? p = some i ↔ r.FirstOf p i := by
  rw [Array.findIdx?_eq_some_iff_getElem]
  constructor
  · rintro ⟨hi, hp, hbefore⟩
    refine ⟨⟨r.entries[i], Array.getElem?_eq_getElem hi, hp⟩, fun j hji e he => ?_⟩
    obtain ⟨hj, rfl⟩ := Array.getElem?_eq_some_iff.1 he
    simpa using hbefore j hji
  · rintro ⟨⟨e, he, hp⟩, hbefore⟩
    obtain ⟨hi, rfl⟩ := Array.getElem?_eq_some_iff.1 he
    refine ⟨hi, hp, fun j hji => ?_⟩
    simp [hbefore j hji _ (Array.getElem?_eq_getElem _)]

theorem findFileName_eq_some_iff {path : String} {i : Nat} :
    r.findFileName path = some i ↔ ∃ name, Path.fileName path = some name ∧
      r.BestAmong (r.GlobCandidate name) i := by
  unfold findFileName
  cases Path.fileName path with
  | none => simp
  | some name => simp [best_eq_some_iff_bestAmong fun _ => mem_globCandidates]

theorem findFileName_eq_none_iff {path : String} :
    r.findFileName path = none ↔ ∀ name, Path.fileName path = some name →
      ∀ i, ¬r.GlobCandidate name i := by
  unfold findFileName
  cases Path.fileName path with
  | none => simp
  | some name => simp [best_eq_none_iff_forall fun _ => mem_globCandidates]

/-! ## Detection -/

/-- The first option of a list that holds a value, found one option at a time. -/
theorem findSome?_id_concat {α : Type} (l : List (Option α)) (x : Option α) :
    (l ++ [x]).findSome? id = (l.findSome? id).orElse fun _ => x := by
  induction l with
  | nil => cases x <;> rfl
  | cons a l ih =>
    cases a with
    | none => simp [ih]
    | some a => rfl

variable (r)

/-- What each criterion of a detection query selects, in the order detection tries them: the
definition file, the media type, the name, the file name and the first line. A criterion the
query does not give selects nothing. -/
def selections (q : DetectQuery) : List (Option Nat) :=
  [q.definitionFile.bind r.findDefinitionFile, q.mimeType.bind r.findMimeType,
    q.name.bind r.findName, q.fileName.bind r.findFileName, q.firstLine.bind r.findFirstLine]

variable {r}

/-- Detection loads what the first criterion that selects an entry selects. -/
theorem detect_eq_select (q : DetectQuery) :
    r.detect q = r.select ((r.selections q).findSome? id) q.describe := by
  have hsel : r.selections q = [] ++ [q.definitionFile.bind r.findDefinitionFile] ++
      [q.mimeType.bind r.findMimeType] ++ [q.name.bind r.findName] ++
      [q.fileName.bind r.findFileName] ++ [q.firstLine.bind r.findFirstLine] := rfl
  rw [hsel]
  simp only [findSome?_id_concat]
  rfl

/-- Every criterion selects an entry the registry has. -/
theorem lt_size_of_mem_selections {q : DetectQuery} {c : Option Nat} (hc : c ∈ r.selections q)
    {i : Nat} (hi : c = some i) : i < r.entries.size := by
  -- an entry a lookup selects fits it, so it is there
  have hfirst : ∀ {p : RegistryEntry → Bool}, r.entries.findIdx? p = some i → i < r.entries.size :=
    fun h => (Array.findIdx?_eq_some_iff_getElem.1 h).1
  have hbest : ∀ {p : RegistryEntry → Bool}, r.best (r.visible p) = some i → i < r.entries.size :=
    fun h => by
      obtain ⟨e, he, -⟩ := mem_visible.1 (best_eq_some_iff.1 h).1
      exact (Array.getElem?_eq_some_iff.1 he).1
  simp only [selections, List.mem_cons, List.not_mem_nil, or_false] at hc
  rcases hc with rfl | rfl | rfl | rfl | rfl <;>
    obtain ⟨x, -, hx⟩ := Option.bind_eq_some_iff.1 hi
  · exact hfirst hx
  · exact hbest hx
  · exact hfirst hx
  · obtain ⟨name, -, hname⟩ := Option.bind_eq_some_iff.1 hx
    obtain ⟨⟨e, he, -⟩, -⟩ := mem_globCandidates.1 (best_eq_some_iff.1 hname).1
    exact (Array.getElem?_eq_some_iff.1 he).1
  · exact hbest hx

/-- Loading fails with `notFound` only for an entry the registry does not have. -/
theorem size_le_of_load_notFound {i : Nat} {s : String}
    (h : (r.load i).1 = .error (.notFound s)) : r.entries.size ≤ i := by
  unfold load at h
  split at h
  · cases h
  split at h
  · rename_i hnone
    exact Array.getElem?_eq_none_iff.1 hnone
  split at h
  · cases h
  split at h
  · cases h
  · cases h

/-- How each lookup selects an entry. By name, ignoring ASCII case, and by definition file: the
first entry that fits, hidden or not. By media type, file name and first line: the visible entry
that fits with the highest priority, the earliest of equals, and none when no visible entry fits
or the path has no file-name component; by file name the entries that fit are those the glob set
names for its globs that match the file-name component, each matching as it does alone. Detection
loads the entry selected by the first
criterion that the query gives and that selects one, whatever that load gives, and finds nothing
only when no criterion selects an entry. -/
theorem lookup_selection (r : Registry) :
    (∀ n i, r.findName n = some i ↔ r.FirstOf (fun e => sameAsciiCase e.info.name n) i) ∧
    (∀ f i, r.findDefinitionFile f = some i ↔ r.FirstOf (fun e => e.info.file == f) i) ∧
    (∀ m i, r.findMimeType m = some i ↔
      r.BestOf (fun e => e.info.mimeTypes.any (sameAsciiCase · m)) i) ∧
    (∀ m, r.findMimeType m = none ↔
      ∀ i, ¬r.Candidate (fun e => e.info.mimeTypes.any (sameAsciiCase · m)) i) ∧
    (∀ name k, k ∈ r.globs.matches name ↔ ∃ g, r.globs.globs[k]? = some g ∧ g.matches name) ∧
    (∀ path i, r.findFileName path = some i ↔ ∃ name, Path.fileName path = some name ∧
      r.BestAmong (r.GlobCandidate name) i) ∧
    (∀ path, r.findFileName path = none ↔ ∀ name, Path.fileName path = some name →
      ∀ i, ¬r.GlobCandidate name i) ∧
    (∀ l i, r.findFirstLine l = some i ↔
      r.BestOf (fun e => (e.firstLine.map (·.isMatch l)).getD false) i) ∧
    (∀ l, r.findFirstLine l = none ↔
      ∀ i, ¬r.Candidate (fun e => (e.firstLine.map (·.isMatch l)).getD false) i) ∧
    ∀ q, (∀ pre i post, r.selections q = pre ++ some i :: post → (∀ c ∈ pre, c = none) →
        r.detect q = r.load i) ∧
      ((∀ c ∈ r.selections q, c = none) → r.detect q = (.error (.notFound q.describe), r)) ∧
      ∀ s, (r.detect q).1 = .error (.notFound s) → ∀ c ∈ r.selections q, c = none := by
  refine ⟨fun _ _ => findIdx?_eq_some_iff_firstOf, fun _ _ => findIdx?_eq_some_iff_firstOf,
    fun _ _ => best_visible_eq_some_iff, fun _ => best_visible_eq_none_iff,
    fun _ _ => GlobSet.mem_matches, fun _ _ => findFileName_eq_some_iff,
    fun _ => findFileName_eq_none_iff,
    fun _ _ => best_visible_eq_some_iff, fun _ => best_visible_eq_none_iff,
    fun q => ⟨fun pre i post hsel hpre => ?_, fun hnone => ?_, fun s hs c hc => ?_⟩⟩
  · rw [detect_eq_select,
      (List.findSome?_eq_some_iff (f := id)).2 ⟨pre, some i, post, hsel, rfl, hpre⟩]
    rfl
  · rw [detect_eq_select, (List.findSome?_eq_none_iff (p := id)).2 hnone]
    rfl
  · -- an entry some criterion selects is there, so loading it does not report it missing
    cases hfound : (r.selections q).findSome? id with
    | none => exact List.findSome?_eq_none_iff.1 hfound c hc
    | some i =>
      rw [detect_eq_select, hfound] at hs
      obtain ⟨pre, a, post, hsel, ha, -⟩ := List.findSome?_eq_some_iff.1 hfound
      have hi := lt_size_of_mem_selections (by rw [hsel]; simp) ha
      exact absurd (size_le_of_load_notFound hs) (Nat.not_le.2 hi)

end Registry

end Highlight

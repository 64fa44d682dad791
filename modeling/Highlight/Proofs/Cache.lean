import Mathlib.Data.Finset.Card
import Highlight.Proofs.Layers
import Highlight.Proofs.Tables
/-!
# The registry keeps one grammar per entry

A registry loads an entry's grammar the first time a lookup selects the entry and keeps it; every
later lookup that selects the entry answers with the kept grammar, and a lookup that fails keeps
nothing. An answer is known by the entry it was loaded for. Over any sequence of lookups on a new
registry (`answerAll_cache`):

* two answers for the same entry are the same answer, and answers for different entries differ;
* the number of loaded grammars is the number of distinct entries that some successful lookup
  selected, so the grammars spliced in through includes, which are read without a lookup, are
  never counted;
* a lookup that fails leaves the registry as it was, and the entry it selected has no grammar
  kept, so a later lookup of that entry loads it again.

Every lookup selects an entry, or none, and loads it (`Query.run_eq`); what one lookup does to the
kept grammars is `Query.run_cases`, and `CacheOk` relates them to the answers given so far.
-/

namespace Highlight

namespace Registry

/-! ## Lookups -/

/-- A lookup made of a registry. -/
inductive Query where
  | byName (name : String)
  | byMimeType (mime : String)
  | byFileName (path : String)
  | byFirstLine (line : String)
  | byDefinitionFile (file : String)
  | detect (q : DetectQuery)

/-- The entry a lookup selects, if any. -/
def Query.found (r : Registry) : Query → Option Nat
  | .byName name => r.findName name
  | .byMimeType mime => r.findMimeType mime
  | .byFileName path => r.findFileName path
  | .byFirstLine line => r.findFirstLine line
  | .byDefinitionFile file => r.findDefinitionFile file
  | .detect q => (q.definitionFile.bind r.findDefinitionFile)
    |>.orElse (fun _ => q.mimeType.bind r.findMimeType)
    |>.orElse (fun _ => q.name.bind r.findName)
    |>.orElse (fun _ => q.fileName.bind r.findFileName)
    |>.orElse (fun _ => q.firstLine.bind r.findFirstLine)

/-- How a lookup is named when it finds nothing. -/
def Query.describe : Query → String
  | .byName name => "name " ++ cite name
  | .byMimeType mime => "MIME type " ++ cite mime
  | .byFileName path => "file name " ++ cite path
  | .byFirstLine line => "first line " ++ cite line
  | .byDefinitionFile file => "definition " ++ cite file
  | .detect q => q.describe

/-- Answers a lookup. -/
def Query.run : Query → Registry → Lookup × Registry
  | .byName name, r => r.byName name
  | .byMimeType mime, r => r.byMimeType mime
  | .byFileName path, r => r.byFileName path
  | .byFirstLine line, r => r.byFirstLine line
  | .byDefinitionFile file, r => r.byDefinitionFile file
  | .detect q, r => r.detect q

/-- Every lookup loads the entry it selects, or fails when it selects none. -/
theorem Query.run_eq (q : Query) (r : Registry) : q.run r = r.select (q.found r) q.describe := by
  cases q <;> rfl

/-- Answers lookups in order, each against the registry the one before left: the answers, and the
registry after the last. -/
def answerAll (r : Registry) : List Query → List Lookup × Registry
  | [] => ([], r)
  | q :: qs =>
    let step := q.run r
    let rest := answerAll step.2 qs
    (step.1 :: rest.1, rest.2)

/-- The entry a successful answer was loaded for. -/
def entryOf? : Lookup → Option Nat
  | .ok (i, _) => some i
  | .error _ => none

/-! ## One lookup -/

/-- What loading an entry does: it answers with the grammar kept for the entry, or keeps and
answers with a new grammar for an entry that has none kept, or fails and changes nothing. -/
theorem load_cases (r : Registry) (i : Nat) :
    (∃ g, r.loaded.lookup i = some g ∧ r.load i = (.ok (i, g), r)) ∨
      (∃ g, r.loaded.lookup i = none ∧
        r.load i = (.ok (i, g), { r with loaded := r.loaded ++ [(i, g)] })) ∨
      (∃ e, r.loaded.lookup i = none ∧ r.load i = (.error e, r)) := by
  unfold load
  split
  · exact .inl ⟨_, ‹_›, rfl⟩
  · rename_i hnone
    -- a missing entry, an unreadable file and a definition that does not load all fail
    split
    · exact .inr (.inr ⟨_, hnone, rfl⟩)
    split
    · exact .inr (.inr ⟨_, hnone, rfl⟩)
    split
    · exact .inr (.inr ⟨_, hnone, rfl⟩)
    · exact .inr (.inl ⟨_, hnone, rfl⟩)

/-- What one lookup does to the kept grammars: it answers with a kept grammar, or keeps and
answers with a new grammar for an entry that has none kept, or fails, changes nothing, and had
selected no entry with a kept grammar. -/
theorem Query.run_cases (q : Query) (r : Registry) :
    (∃ i g, r.loaded.lookup i = some g ∧ q.run r = (.ok (i, g), r)) ∨
      (∃ i g, r.loaded.lookup i = none ∧
        q.run r = (.ok (i, g), { r with loaded := r.loaded ++ [(i, g)] })) ∨
      (∃ e, (∀ i, q.found r = some i → r.loaded.lookup i = none) ∧ q.run r = (.error e, r)) := by
  rw [q.run_eq]
  cases hfound : q.found r with
  | none => exact .inr (.inr ⟨_, (fun i h => by cases h), rfl⟩)
  | some i =>
    rcases load_cases r i with ⟨g, hg, hl⟩ | ⟨g, hg, hl⟩ | ⟨e, hg, hl⟩
    · exact .inl ⟨i, g, hg, hl⟩
    · exact .inr (.inl ⟨i, g, hg, hl⟩)
    · exact .inr (.inr ⟨e, (fun j hj => by cases hj; exact hg), hl⟩)

/-! ## The kept grammars and the answers -/

/-- A pair found by `lookup` is in the list. -/
theorem mem_of_lookup_eq {l : List (Nat × Grammar)} {i : Nat} {g : Grammar}
    (h : l.lookup i = some g) : (i, g) ∈ l := by
  obtain ⟨l₁, l₂, rfl, -⟩ := List.lookup_eq_some_iff.1 h
  simp

/-- The kept grammars relate to the answers given so far: at most one grammar is kept per entry,
every successful answer is kept, and every kept grammar was an answer. -/
structure CacheOk (r : Registry) (answers : List Lookup) : Prop where
  nodup : (r.loaded.map Prod.fst).Nodup
  kept : ∀ i g, Except.ok (i, g) ∈ answers → (i, g) ∈ r.loaded
  answered : ∀ p ∈ r.loaded, Except.ok p ∈ answers

/-- A lookup keeps the relation, with its answer added. -/
theorem CacheOk.run {r : Registry} {answers : List Lookup} (h : r.CacheOk answers) (q : Query) :
    (q.run r).2.CacheOk (answers ++ [(q.run r).1]) := by
  have hold : ∀ p ∈ r.loaded, Except.ok p ∈ answers ++ [(q.run r).1] :=
    fun p hp => List.mem_append_left _ (h.answered p hp)
  rcases q.run_cases r with ⟨i, g, hg, hq⟩ | ⟨i, g, hg, hq⟩ | ⟨e, -, hq⟩
  · -- a kept grammar answers; nothing new is kept
    rw [hq] at hold ⊢
    refine ⟨h.nodup, fun j g' hj => ?_, hold⟩
    rcases List.mem_append.1 hj with hj | hj
    · exact h.kept j g' hj
    · obtain ⟨rfl, rfl⟩ : j = i ∧ g' = g := by simpa using hj
      exact mem_of_lookup_eq hg
  · -- a new grammar is kept for an entry that had none
    rw [hq] at hold ⊢
    have hfresh : ∀ p ∈ r.loaded, p.1 ≠ i := fun p hp =>
      Ne.symm (by simpa using List.lookup_eq_none_iff.1 hg p hp)
    refine ⟨?_, fun j g' hj => ?_, fun p hp => ?_⟩
    · rw [List.map_append, List.nodup_append]
      refine ⟨h.nodup, by simp, fun a ha b hb => ?_⟩
      obtain ⟨p, hp, rfl⟩ := List.mem_map.1 ha
      have hb' : b = i := by simpa using hb
      rw [hb']
      exact hfresh p hp
    · rcases List.mem_append.1 hj with hj | hj
      · exact List.mem_append_left _ (h.kept j g' hj)
      · obtain ⟨rfl, rfl⟩ : j = i ∧ g' = g := by simpa using hj
        simp
    · rcases List.mem_append.1 hp with hp | hp
      · exact hold p hp
      · rw [List.mem_singleton.1 hp]
        simp
  · -- a failure keeps nothing
    rw [hq] at hold ⊢
    refine ⟨h.nodup, fun j g' hj => h.kept j g' ?_, hold⟩
    simpa using hj

/-- A run of lookups keeps the relation, with its answers added. -/
theorem CacheOk.answerAll {r : Registry} {answers : List Lookup} (h : r.CacheOk answers)
    (qs : List Query) : (r.answerAll qs).2.CacheOk (answers ++ (r.answerAll qs).1) := by
  induction qs generalizing r answers with
  | nil => simpa [Registry.answerAll] using h
  | cons q qs ih => simpa [Registry.answerAll] using ih (h.run q)

/-- A registry that keeps nothing relates to no answers. -/
theorem CacheOk.empty {r : Registry} (hr : r.loaded = []) : r.CacheOk [] :=
  ⟨by simp [hr], fun _ _ h => by simp at h, fun p hp => by simp [hr] at hp⟩

/-- Two kept answers for the same entry are the same. -/
theorem CacheOk.ok_eq {r : Registry} {answers : List Lookup} (h : r.CacheOk answers)
    {i j : Nat} {g g' : Grammar} (hi : Except.ok (i, g) ∈ answers)
    (hj : Except.ok (j, g') ∈ answers) : (i, g) = (j, g') ↔ i = j := by
  refine ⟨fun he => (Prod.mk.inj he).1, fun hij => ?_⟩
  exact List.inj_on_of_nodup_map h.nodup (h.kept i g hi) (h.kept j g' hj) hij

/-- The number of kept grammars is the number of distinct entries successfully answered. -/
theorem CacheOk.loadedCount_eq {r : Registry} {answers : List Lookup} (h : r.CacheOk answers) :
    r.loadedCount = (answers.filterMap entryOf?).toFinset.card := by
  have hsame : (r.loaded.map Prod.fst).toFinset = (answers.filterMap entryOf?).toFinset := by
    ext i
    simp only [List.mem_toFinset, List.mem_map, List.mem_filterMap]
    constructor
    · rintro ⟨⟨i, g⟩, hp, rfl⟩
      exact ⟨_, h.answered _ hp, rfl⟩
    · rintro ⟨a, ha, hai⟩
      cases a with
      | error e => cases hai
      | ok p =>
        obtain ⟨i', g⟩ := p
        exact ⟨(i', g), h.kept i' g ha, by simpa [entryOf?] using hai⟩
  rw [loadedCount, ← hsame, List.toFinset_card_of_nodup h.nodup, List.length_map]

/-- A registry built from layers has no grammar loaded yet. -/
theorem ofLayers_loaded {layers : List (Source × GrammarIndex)} {r : Registry}
    (h : ofLayers layers = .ok r) : r.loaded = [] := by
  obtain ⟨kept, -, rfl⟩ := ofLayers_eq_ok h
  rfl

/-! ## Runs of lookups -/

/-- Over any run of lookups on a new registry, answers for the same entry are the same and answers
for different entries differ; the number of loaded grammars is the number of distinct entries
some successful lookup selected; and a lookup that fails changes nothing and had selected no entry
with a grammar kept, so a later lookup of that entry loads it again. -/
theorem answerAll_cache {layers : List (Source × GrammarIndex)} {r : Registry}
    (hr : ofLayers layers = .ok r) (qs : List Query) :
    (∀ i g j g', Except.ok (i, g) ∈ (r.answerAll qs).1 → Except.ok (j, g') ∈ (r.answerAll qs).1 →
        ((i, g) = (j, g') ↔ i = j)) ∧
      (r.answerAll qs).2.loadedCount = ((r.answerAll qs).1.filterMap entryOf?).toFinset.card ∧
      ∀ (q : Query) (r' : Registry) (e : RegistryError), (q.run r').1 = .error e →
        (q.run r').2 = r' ∧ ∀ i, q.found r' = some i → r'.loaded.lookup i = none := by
  have h := (CacheOk.empty (ofLayers_loaded hr)).answerAll qs
  rw [List.nil_append] at h
  refine ⟨fun i g j g' hi hj => h.ok_eq hi hj, h.loadedCount_eq, fun q r' e he => ?_⟩
  rcases q.run_cases r' with ⟨i, g, -, hq⟩ | ⟨i, g, -, hq⟩ | ⟨e', hnone, hq⟩
  · rw [hq] at he
    cases he
  · rw [hq] at he
    cases he
  · rw [hq]
    exact ⟨rfl, hnone⟩

/-- A source in memory holding the range definition, which loads, indexed under its language
name `T`. -/
def memoryLayer : Source × GrammarIndex :=
  (.memory [("t.xml", Grammar.rangeDefinitionText)], ⟨[{ file := "t.xml", name := "T" }]⟩)

/-- The registry over `memoryLayer`, nothing loaded. -/
def memoryRegistry : Registry :=
  ⟨#[memoryLayer.1], #[⟨0, { file := "t.xml", name := "T" }, none⟩], {}, #[], []⟩

/-- Two lookups of the one entry by name, in two spellings, around a lookup that finds nothing. -/
def memoryLookups : List Query := [.byName "t", .byMimeType "text/x-t", .byName "T"]

/-- Both lookups by name load the entry, the second answered from what the first kept, so one
grammar is loaded. -/
theorem answerAll_cache_memory :
    ofLayers [memoryLayer] = .ok memoryRegistry ∧
      (memoryRegistry.answerAll memoryLookups).1.filterMap entryOf? = [0, 0] ∧
      (memoryRegistry.answerAll memoryLookups).2.loadedCount = 1 ∧
      ((∀ i g j g', Except.ok (i, g) ∈ (memoryRegistry.answerAll memoryLookups).1 →
          Except.ok (j, g') ∈ (memoryRegistry.answerAll memoryLookups).1 →
          ((i, g) = (j, g') ↔ i = j)) ∧
        (memoryRegistry.answerAll memoryLookups).2.loadedCount =
          ((memoryRegistry.answerAll memoryLookups).1.filterMap entryOf?).toFinset.card ∧
        ∀ (q : Query) (r' : Registry) (e : RegistryError), (q.run r').1 = .error e →
          (q.run r').2 = r' ∧ ∀ i, q.found r' = some i → r'.loaded.lookup i = none) :=
  have hkept : unshadowed [] (layerEntries 0 [memoryLayer]) =
      [(0, { file := "t.xml", name := "T" })] := by
    simp [memoryLayer, layerEntries, unshadowed]
  have h : ofLayers [memoryLayer] = .ok memoryRegistry := by
    rw [ofLayers_eq, hkept]
    rfl
  -- one evaluation of the lookups gives both the entries answered and the grammars kept
  have hanswers : ((memoryRegistry.answerAll memoryLookups).1.filterMap entryOf?,
      (memoryRegistry.answerAll memoryLookups).2.loadedCount) = ([0, 0], 1) := by decide +kernel
  ⟨h, congrArg Prod.fst hanswers, congrArg Prod.snd hanswers, answerAll_cache h memoryLookups⟩

end Registry

end Highlight

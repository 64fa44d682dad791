import Highlight.Registry.Directory
import Highlight.Proofs.Linked
/-!
# Layers of definition sources

A registry is built from layers of sources with their indexes, the first layer first. Its entries
are the index entries of all the layers in order, each dropped when its name equals, ignoring
ASCII case, the name of an entry kept before it (`unshadowed`); the entries kept have their
patterns compiled, and the first that does not compile is the error (`ofLayers_eq`). So a shadowed
entry never fails a build, the names kept are distinct ignoring ASCII case, and each entry reads
its definition from the source of the layer it came from.

A registry over folders takes as layers the folders that exist, whose index loads and all of
whose patterns compile, in order, then the bundled definitions when asked; only a bundled pattern
can then make the build fail.

The loops of `ofLayers` are folds of one step each (`addEntry`, `addLayer`); everything is read
off the fold over one entry at a time (`foldlM_addEntry`).
-/

namespace Highlight

/-- Where an entry comes from: the position of its layer and its index entry. -/
def RegistryEntry.origin (e : RegistryEntry) : Nat × IndexEntry := (e.source, e.info)

namespace Registry

open Grammar (except_bind_ok mapM_ok_forall₂ mapM_error_mem mapM_error_of_mem)

/-! ## The loops as folds -/

/-- A bind after a success goes on with its value. -/
theorem ok_bind {ε α β : Type} (a : α) (f : α → Except ε β) : (Except.ok a >>= f) = f a :=
  rfl

/-- An index entry, with the position of its layer, compiled into a registry entry and its
globs. -/
def compileEntry (e : Nat × IndexEntry) : Except RegistryError (RegistryEntry × List Glob) :=
  (compilePatterns e.2).map fun (firstLine, globs) => (⟨e.1, e.2, firstLine⟩, globs)

/-- What the loop over a layer's entries keeps: the entries, the globs of the set, and the entry
of each glob. -/
abbrev Kept := Array RegistryEntry × Array Glob × Array Nat

/-- One index entry, with the position of its layer, added to what was kept so far: shadowed when
a kept entry has its name, ignoring ASCII case, and otherwise compiled and kept, its globs added
to the set under its position. -/
def addEntry (acc : Kept) (e : Nat × IndexEntry) : Except RegistryError Kept :=
  if acc.1.any (sameAsciiCase ·.info.name e.2.name) then pure (acc.1, acc.2.1, acc.2.2)
  else (fun x => (acc.1.push x.1, acc.2.1 ++ x.2.toArray,
    acc.2.2 ++ (x.2.map fun _ => acc.1.size).toArray)) <$> compileEntry e

/-- One layer added: its index entries one by one, then its source. The state holds the entries,
the sources, the globs and the entry of each glob. -/
def addLayer (state : Array RegistryEntry × Array Source × Array Glob × Array Nat)
    (layer : Source × GrammarIndex) :
    Except RegistryError (Array RegistryEntry × Array Source × Array Glob × Array Nat) :=
  (fun acc => (acc.1, state.2.1.push layer.1, acc.2.1, acc.2.2)) <$>
    layer.2.grammars.foldlM (fun acc info => addEntry acc (state.2.1.size, info))
      (state.1, state.2.2.1, state.2.2.2)

/-- The registry of what the loops kept, once its glob set is built; a set that does not build
is a pattern error of the index. -/
def finish (state : Array RegistryEntry × Array Source × Array Glob × Array Nat) :
    Except RegistryError Registry :=
  match GlobSet.build state.2.2.1 with
  | .ok set => pure ⟨state.2.1, state.1, set, state.2.2.2, []⟩
  | .error e => throw (.pattern "<index>" (e.glob.getD ""))

/-- A loop whose body always continues is a fold of the body. -/
theorem forIn_eq_foldlM_of_yield {α β ε : Type} {l : List α} {init : β}
    {body : α → β → Except ε (ForInStep β)} {f : β → α → Except ε β}
    (h : ∀ a b, body a b = ForInStep.yield <$> f b a) : forIn l init body = l.foldlM f init := by
  induction l generalizing init with
  | nil => rfl
  | cons a l ih =>
    rw [List.forIn_cons, List.foldlM_cons, h]
    cases f init a with
    | error e => rfl
    | ok b => exact ih

theorem ofLayers_eq_foldlM (layers : List (Source × GrammarIndex)) :
    ofLayers layers = layers.foldlM addLayer (#[], #[], #[], #[]) >>= finish := by
  unfold ofLayers
  dsimp only
  rw [forIn_eq_foldlM_of_yield (f := addLayer)]
  · rfl
  · intro layer state
    -- the loop over the layer's entries only ever continues too
    rw [forIn_eq_foldlM_of_yield (f := fun acc info => addEntry acc (state.2.1.size, info))]
    · unfold addLayer
      cases List.foldlM (fun acc info => addEntry acc (state.2.1.size, info))
        (state.1, state.2.2.1, state.2.2.2) layer.2.grammars <;> rfl
    · intro info acc
      unfold addEntry compileEntry
      split
      · rfl
      · cases compilePatterns info <;> rfl

/-! ## Shadowing -/

/-- Two names are equal ignoring ASCII case when their characters are, each lowered. -/
theorem sameAsciiCase_iff {a b : String} :
    sameAsciiCase a b = true ↔ a.toList.map Char.toLower = b.toList.map Char.toLower := by
  unfold sameAsciiCase String.toLower
  rw [beq_iff_eq, String.ext_iff, String.toList_map, String.toList_map]

/-- The index entries of layers, in order, each with the position of its layer, the first layer
at position `k`. -/
def layerEntries (k : Nat) : List (Source × GrammarIndex) → List (Nat × IndexEntry)
  | [] => []
  | layer :: layers => layer.2.grammars.map (k, ·) ++ layerEntries (k + 1) layers

/-- The entries that stay visible after those `kept`: in order, an entry is dropped when its name
equals, ignoring ASCII case, the name of an entry kept before it, and is kept otherwise. -/
def unshadowed (kept : List (Nat × IndexEntry)) :
    List (Nat × IndexEntry) → List (Nat × IndexEntry)
  | [] => []
  | e :: es =>
    if kept.any (sameAsciiCase ·.2.name e.2.name) then unshadowed kept es
    else e :: unshadowed (kept ++ [e]) es

/-- A compiled entry is kept under the index entry it was compiled from, with its patterns
compiled. -/
theorem compileEntry_eq_ok {e : Nat × IndexEntry} {x : RegistryEntry × List Glob}
    (h : compileEntry e = .ok x) :
    x.1.origin = e ∧ compilePatterns x.1.info = .ok (x.1.firstLine, x.2) := by
  unfold compileEntry at h
  cases hc : compilePatterns e.2 with
  | error err => rw [hc] at h; cases h
  | ok v => rw [hc] at h; cases h; exact ⟨rfl, hc⟩

theorem compileEntry_eq_error {e : Nat × IndexEntry} {err : RegistryError} :
    compileEntry e = .error err ↔ compilePatterns e.2 = .error err := by
  unfold compileEntry
  cases compilePatterns e.2 <;> simp [Except.map]

/-- The entry of each glob of entries kept from position `n` on: the position of the entry, once
for each of its globs. -/
def globEntriesFrom : Nat → List (RegistryEntry × List Glob) → List Nat
  | _, [] => []
  | n, x :: xs => x.2.map (fun _ => n) ++ globEntriesFrom (n + 1) xs

/-- What the loops keep after `acc` when `kept` are the entries compiled, with their globs. -/
def Kept.extend (acc : Kept) (kept : List (RegistryEntry × List Glob)) : Kept :=
  (acc.1 ++ (kept.map (·.1)).toArray, acc.2.1 ++ (kept.flatMap (·.2)).toArray,
    acc.2.2 ++ (globEntriesFrom acc.1.size kept).toArray)

/-- Adding entries one by one keeps the unshadowed ones, compiled, after those kept before, with
their globs in order under their positions; it fails at the first of them whose patterns do not
compile. -/
theorem foldlM_addEntry (es : List (Nat × IndexEntry)) (acc : Kept) :
    es.foldlM addEntry acc =
      acc.extend <$> (unshadowed (acc.1.toList.map (·.origin)) es).mapM compileEntry := by
  induction es generalizing acc with
  | nil => simp [unshadowed, Kept.extend, globEntriesFrom]
  | cons e es ih =>
    have hany : acc.1.any (sameAsciiCase ·.info.name e.2.name) =
        (acc.1.toList.map (·.origin)).any (sameAsciiCase ·.2.name e.2.name) := by
      simp [RegistryEntry.origin]
    rw [List.foldlM_cons, unshadowed, addEntry, hany]
    split
    · -- shadowed: nothing is added
      rw [pure_bind, ih]
    · -- kept: compiled, then pushed with its globs
      cases hc : compileEntry e with
      | error err =>
        simp only [hc, List.mapM_cons]
        rfl
      | ok x =>
        -- the pushed entry is kept under `e`, so the entries after it see it as kept
        show List.foldlM addEntry (acc.1.push x.1, acc.2.1 ++ x.2.toArray,
          acc.2.2 ++ (x.2.map fun _ => acc.1.size).toArray) es = _
        rw [ih, List.mapM_cons, hc]
        simp only [Array.toList_push, List.map_append, List.map_cons, List.map_nil,
          (compileEntry_eq_ok hc).1]
        cases List.mapM compileEntry (unshadowed (List.map (·.origin) acc.1.toList ++ [e]) es) with
        | error err => rfl
        | ok kept =>
          simp [ok_bind, Kept.extend, globEntriesFrom, Array.append_assoc]
          congr 1
          rw [← List.append_toArray, List.toArray_replicate]

/-- Adding layers one by one adds their index entries one by one and appends their sources. -/
theorem foldlM_addLayer (layers : List (Source × GrammarIndex)) (acc : Kept)
    (sources : Array Source) :
    layers.foldlM addLayer (acc.1, sources, acc.2.1, acc.2.2) =
      (fun acc' : Kept => (acc'.1, sources ++ (layers.map (·.1)).toArray, acc'.2.1, acc'.2.2)) <$>
        (layerEntries sources.size layers).foldlM addEntry acc := by
  induction layers generalizing acc sources with
  | nil => simp [layerEntries]
  | cons layer layers ih =>
    rw [List.foldlM_cons, layerEntries, List.foldlM_append, addLayer, List.foldlM_map]
    cases layer.2.grammars.foldlM (fun acc info => addEntry acc (sources.size, info))
        (acc.1, acc.2.1, acc.2.2) with
    | error err => rfl
    | ok acc' =>
      simp [ok_bind, ih acc']

/-- The registry made of the sources and of the entries kept, with their globs: the set of all
their globs in order is built, and a set that does not build is a pattern error of the index. -/
def assemble (sources : Array Source) (kept : List (RegistryEntry × List Glob)) :
    Except RegistryError Registry :=
  match GlobSet.build (kept.flatMap (·.2)).toArray with
  | .ok set => pure ⟨sources, (kept.map (·.1)).toArray, set, (globEntriesFrom 0 kept).toArray, []⟩
  | .error e => throw (.pattern "<index>" (e.glob.getD ""))

/-- Building a registry from layers compiles the patterns of the unshadowed index entries of all
the layers, in order, failing at the first of them that does not compile, and then builds the set
of their globs. -/
theorem ofLayers_eq (layers : List (Source × GrammarIndex)) :
    ofLayers layers = (unshadowed [] (layerEntries 0 layers)).mapM compileEntry >>=
      assemble (layers.map (·.1)).toArray := by
  rw [ofLayers_eq_foldlM]
  have hfold := foldlM_addLayer layers (#[], #[], #[]) #[]
  rw [foldlM_addEntry] at hfold
  simp only [List.map_nil, Array.size_empty, Array.empty_append] at hfold
  rw [hfold]
  cases (unshadowed [] (layerEntries 0 layers)).mapM compileEntry with
  | error err => rfl
  | ok kept =>
    show finish ((fun acc' : Kept => (acc'.1, (layers.map (·.1)).toArray, acc'.2.1, acc'.2.2))
      (Kept.extend (#[], #[], #[]) kept)) = assemble _ kept
    simp only [Kept.extend, Array.empty_append, Array.size_empty]
    rfl

/-! ## What shadowing keeps -/

theorem unshadowed_sublist (kept es : List (Nat × IndexEntry)) :
    (unshadowed kept es).Sublist es := by
  induction es generalizing kept with
  | nil => exact .slnil
  | cons e es ih =>
    rw [unshadowed]
    split
    · exact (ih kept).cons e
    · exact (ih (kept ++ [e])).cons_cons e

/-- An entry kept does not have the name of one kept before it. -/
theorem sameAsciiCase_of_mem_unshadowed {kept es : List (Nat × IndexEntry)} {e : Nat × IndexEntry}
    (he : e ∈ unshadowed kept es) : ∀ k ∈ kept, sameAsciiCase k.2.name e.2.name = false := by
  induction es generalizing kept with
  | nil => simp [unshadowed] at he
  | cons e' es ih =>
    rw [unshadowed] at he
    split at he
    · exact ih he
    · next hnew =>
      rcases List.mem_cons.1 he with rfl | he
      · simpa using hnew
      · exact fun k hk => ih he k (List.mem_append_left _ hk)

/-- The names kept are distinct, ignoring ASCII case. -/
theorem pairwise_unshadowed (kept es : List (Nat × IndexEntry)) :
    (unshadowed kept es).Pairwise fun a b => sameAsciiCase a.2.name b.2.name = false := by
  induction es generalizing kept with
  | nil => exact .nil
  | cons e es ih =>
    rw [unshadowed]
    split
    · exact ih kept
    · exact .cons (fun b hb => sameAsciiCase_of_mem_unshadowed hb e (by simp)) (ih _)

/-- The entries of the layers are those of their indexes, one after the other. -/
theorem map_snd_layerEntries (k : Nat) (layers : List (Source × GrammarIndex)) :
    (layerEntries k layers).map (·.2) = (layers.map (·.2.grammars)).flatten := by
  induction layers generalizing k with
  | nil => rfl
  | cons layer layers ih => simp [layerEntries, ih, Function.comp_def]

/-- An entry of the layers is an entry of the index of the layer at its position. -/
theorem mem_layerEntries {k j : Nat} {info : IndexEntry} {layers : List (Source × GrammarIndex)} :
    (j, info) ∈ layerEntries k layers ↔
      ∃ i layer, j = k + i ∧ layers[i]? = some layer ∧ info ∈ layer.2.grammars := by
  induction layers generalizing k with
  | nil => simp [layerEntries]
  | cons layer layers ih =>
    simp only [layerEntries, List.mem_append, List.mem_map, Prod.mk.injEq, ih]
    constructor
    · rintro (⟨info', hinfo, rfl, rfl⟩ | ⟨i, layer', rfl, hi, hinfo⟩)
      · exact ⟨0, layer, rfl, rfl, hinfo⟩
      · exact ⟨i + 1, layer', by omega, hi, hinfo⟩
    · rintro ⟨i, layer', rfl, hi, hinfo⟩
      cases i with
      | zero =>
        simp only [List.getElem?_cons_zero, Option.some.injEq] at hi
        subst hi
        exact .inl ⟨info, hinfo, rfl, rfl⟩
      | succ i => exact .inr ⟨i, layer', by omega, hi, hinfo⟩

/-! ## Compiled patterns -/

/-- An entry's first-line pattern, compiled. -/
def compileFirstLine (info : IndexEntry) : Except RegistryError (Option Regex) :=
  match info.firstLine with
  | none => pure none
  | some p =>
    match Regex.compilePlain p with
    | .ok r => pure (some r)
    | .error _ => throw (.pattern info.name p)

/-- A file-name pattern of the entry named `name`, compiled. -/
def compileGlob (name p : String) : Except RegistryError Glob :=
  match Glob.compile p with
  | .ok g => pure g
  | .error _ => throw (.pattern name p)

/-- Compiling an entry's patterns compiles its first-line pattern, then each file-name pattern in
order. -/
theorem compilePatterns_eq (info : IndexEntry) :
    compilePatterns info = (do
      let firstLine ← compileFirstLine info
      let globs ← info.patterns.mapM (compileGlob info.name)
      pure (firstLine, globs)) := by
  unfold compilePatterns compileFirstLine
  cases info.firstLine with
  | none => rfl
  | some p =>
    dsimp only
    cases Regex.compilePlain p <;> rfl

/-- A failed compilation names the entry and a pattern of it that does not compile: its
first-line pattern or one of its file-name patterns. -/
theorem compilePatterns_eq_error {info : IndexEntry} {err : RegistryError}
    (h : compilePatterns info = .error err) :
    ∃ p, err = .pattern info.name p ∧
      ((info.firstLine = some p ∧ ∃ m, Regex.compilePlain p = .error m) ∨
        (p ∈ info.patterns ∧ ∃ m, Glob.compile p = .error m)) := by
  rw [compilePatterns_eq] at h
  rcases Grammar.except_bind_error h with h | ⟨firstLine, -, h⟩
  · -- the first-line pattern failed
    unfold compileFirstLine at h
    cases hfl : info.firstLine with
    | none => rw [hfl] at h; cases h
    | some p =>
      rw [hfl] at h
      dsimp only at h
      cases hc : Regex.compilePlain p with
      | ok r => rw [hc] at h; cases h
      | error m => rw [hc] at h; cases h; exact ⟨p, rfl, .inl ⟨rfl, m, hc⟩⟩
  · rcases Grammar.except_bind_error h with h | ⟨globs, -, h⟩
    · -- a file-name pattern failed
      obtain ⟨p, hp, hfp⟩ := mapM_error_mem h
      unfold compileGlob at hfp
      cases hc : Glob.compile p with
      | ok g => rw [hc] at hfp; cases hfp
      | error m => rw [hc] at hfp; cases hfp; exact ⟨p, rfl, .inr ⟨hp, m, hc⟩⟩
    · cases h

/-- Compiled patterns hold the entry's first-line pattern, compiled, and its file-name patterns,
each compiled, in order. -/
theorem compilePatterns_eq_ok {info : IndexEntry} {firstLine : Option Regex} {globs : List Glob}
    (h : compilePatterns info = .ok (firstLine, globs)) :
    (match info.firstLine with
      | none => firstLine = none
      | some p => ∃ r, Regex.compilePlain p = .ok r ∧ firstLine = some r) ∧
    List.Forall₂ (fun p g => Glob.compile p = .ok g) info.patterns globs := by
  rw [compilePatterns_eq] at h
  obtain ⟨firstLine', hfirst, h⟩ := except_bind_ok h
  obtain ⟨globs', hglobs, h⟩ := except_bind_ok h
  cases h
  constructor
  · unfold compileFirstLine at hfirst
    cases hfl : info.firstLine with
    | none => rw [hfl] at hfirst; cases hfirst; rfl
    | some p =>
      rw [hfl] at hfirst
      dsimp only at hfirst
      cases hc : Regex.compilePlain p with
      | ok r => rw [hc] at hfirst; cases hfirst; exact ⟨r, hc, rfl⟩
      | error m => rw [hc] at hfirst; cases hfirst
  · refine (mapM_ok_forall₂ hglobs).imp fun p g hpg => ?_
    unfold compileGlob at hpg
    cases hc : Glob.compile p with
    | ok g' => rw [hc] at hpg; cases hpg; rfl
    | error m => rw [hc] at hpg; cases hpg

/-! ## Registries built from layers -/

/-- Entries compiled from index entries are kept under them, in order. -/
theorem map_origin_of_mapM {es : List (Nat × IndexEntry)} {xs : List (RegistryEntry × List Glob)}
    (h : es.mapM compileEntry = .ok xs) : xs.map (·.1.origin) = es := by
  have hall := mapM_ok_forall₂ h
  clear h
  induction hall with
  | nil => rfl
  | cons hx _ ih => rw [List.map_cons, (compileEntry_eq_ok hx).1, ih]

/-- The set of globs holds the globs it was built of. -/
theorem GlobSet.build_eq_ok {gs : Array Glob} {s : GlobSet} (h : GlobSet.build gs = .ok s) :
    s.globs = gs := by
  cases h
  rfl

/-- A build from layers that does not fail holds the entries kept, with their globs in order
under their positions, and the sources of the layers; nothing is loaded yet. -/
theorem ofLayers_eq_ok {layers : List (Source × GrammarIndex)} {r : Registry}
    (h : ofLayers layers = .ok r) :
    ∃ kept, (unshadowed [] (layerEntries 0 layers)).mapM compileEntry = .ok kept ∧
      r = ⟨(layers.map (·.1)).toArray, (kept.map (·.1)).toArray, ⟨(kept.flatMap (·.2)).toArray⟩,
        (globEntriesFrom 0 kept).toArray, []⟩ := by
  rw [ofLayers_eq] at h
  obtain ⟨kept, hkept, h⟩ := except_bind_ok h
  refine ⟨kept, hkept, ?_⟩
  unfold assemble at h
  split at h
  · next set hset =>
    cases h
    obtain ⟨globs⟩ := set
    have hg : globs = (kept.flatMap (·.2)).toArray := GlobSet.build_eq_ok hset
    rw [hg]
  · cases h

/-- A build from layers that fails, fails at an unshadowed entry whose patterns do not compile,
or else because the set of the globs of the entries kept does not build. -/
theorem ofLayers_eq_error {layers : List (Source × GrammarIndex)} {err : RegistryError}
    (h : ofLayers layers = .error err) :
    (∃ e ∈ unshadowed [] (layerEntries 0 layers), compilePatterns e.2 = .error err) ∨
      ∃ kept be, (unshadowed [] (layerEntries 0 layers)).mapM compileEntry = .ok kept ∧
        GlobSet.build (kept.flatMap (·.2)).toArray = .error be ∧
        err = .pattern "<index>" (be.glob.getD "") := by
  rw [ofLayers_eq] at h
  rcases Grammar.except_bind_error h with hm | ⟨kept, hkept, hset⟩
  · obtain ⟨e, he, hce⟩ := mapM_error_mem hm
    exact .inl ⟨e, he, compileEntry_eq_error.1 hce⟩
  · unfold assemble at hset
    split at hset
    · cases hset
    · next be hbe =>
      cases hset
      exact .inr ⟨kept, be, hkept, hbe, rfl⟩

/-- Each entry of a registry built from layers comes from the index of the layer at the position
of its source, and reads from that layer's source. -/
theorem source_of_mem_ofLayers {layers : List (Source × GrammarIndex)} {r : Registry}
    (h : ofLayers layers = .ok r) {e : RegistryEntry} (he : e ∈ r.entries.toList) :
    ∃ layer, layers[e.source]? = some layer ∧ r.sources[e.source]? = some layer.1 ∧
      e.info ∈ layer.2.grammars := by
  obtain ⟨kept, hkept, rfl⟩ := ofLayers_eq_ok h
  have hkeys := map_origin_of_mapM hkept
  have hmem : (e.source, e.info) ∈ layerEntries 0 layers := by
    refine (unshadowed_sublist [] _).subset ?_
    rw [← hkeys]
    have he' : e ∈ kept.map (·.1) := by simpa using he
    obtain ⟨x, hx, rfl⟩ := List.mem_map.1 he'
    exact List.mem_map.2 ⟨x, hx, rfl⟩
  obtain ⟨i, layer, hi, hlayer, hinfo⟩ := mem_layerEntries.1 hmem
  rw [Nat.zero_add] at hi
  rw [hi]
  refine ⟨layer, hlayer, ?_, hinfo⟩
  simp [hlayer]

/-- The names of a registry built from layers are distinct, ignoring ASCII case. -/
theorem pairwise_ofLayers {layers : List (Source × GrammarIndex)} {r : Registry}
    (h : ofLayers layers = .ok r) :
    r.entries.toList.Pairwise fun a b => sameAsciiCase a.info.name b.info.name = false := by
  obtain ⟨kept, hkept, rfl⟩ := ofLayers_eq_ok h
  have hnames := pairwise_unshadowed [] (layerEntries 0 layers)
  rw [← map_origin_of_mapM hkept, List.pairwise_map] at hnames
  simpa [RegistryEntry.origin, List.pairwise_map] using hnames

/-! ## The glob set -/

/-- The globs of the set whose entry is `i`, in order. -/
def globsOf (r : Registry) (i : Nat) : List Glob :=
  (r.globs.globs.toList.zip r.globEntries.toList).filterMap fun gj =>
    if gj.2 = i then some gj.1 else none

/-- Globs that all stand for one entry, picked out by entry. -/
theorem filterMap_zip_const (l : List Glob) (n t : Nat) :
    (l.zip (l.map fun _ => n)).filterMap (fun gj => if gj.2 = t then some gj.1 else none) =
      if n = t then l else [] := by
  induction l with
  | nil => split <;> rfl
  | cons g l ih =>
    rw [List.map_cons, List.zip_cons_cons, List.filterMap_cons, ih]
    by_cases h : n = t <;> simp [h]

/-- There is one entry position for each glob of the entries kept. -/
theorem length_globEntriesFrom : ∀ (n : Nat) (kept : List (RegistryEntry × List Glob)),
    (globEntriesFrom n kept).length = (kept.flatMap (·.2)).length
  | _, [] => rfl
  | n, x :: xs => by
    simp [globEntriesFrom, length_globEntriesFrom (n + 1) xs]

/-- Picking out the globs of position `t` from the globs of entries kept from position `n` on
gives the globs of the entry at `t`. -/
theorem filterMap_globEntriesFrom (t : Nat) : ∀ (n : Nat) (kept : List (RegistryEntry × List Glob)),
    ((kept.flatMap (·.2)).zip (globEntriesFrom n kept)).filterMap
        (fun gj => if gj.2 = t then some gj.1 else none) =
      if n ≤ t then (kept[t - n]?.map (·.2)).getD [] else []
  | n, [] => by simp [globEntriesFrom]
  | n, x :: xs => by
    rw [List.flatMap_cons, globEntriesFrom, List.zip_append (by simp), List.filterMap_append,
      filterMap_zip_const, filterMap_globEntriesFrom t (n + 1) xs]
    -- the globs of `x` stand for `n`, those after it for the positions after `n`
    rcases Nat.lt_trichotomy n t with hlt | rfl | hgt
    · rw [if_neg (Nat.ne_of_lt hlt), if_pos (Nat.succ_le_of_lt hlt), if_pos hlt.le,
        List.nil_append, show t - n = t - (n + 1) + 1 by omega, List.getElem?_cons_succ]
    · simp
    · rw [if_neg (Nat.ne_of_gt hgt), if_neg (by omega), if_neg (by omega)]
      rfl

/-- In a registry built from layers, the globs of each entry are its file-name patterns compiled,
in order. -/
theorem globsOf_ofLayers {layers : List (Source × GrammarIndex)} {r : Registry}
    (h : ofLayers layers = .ok r) {i : Nat} {e : RegistryEntry} (he : r.entries[i]? = some e) :
    List.Forall₂ (fun p g => Glob.compile p = .ok g) e.info.patterns (r.globsOf i) := by
  obtain ⟨kept, hkept, rfl⟩ := ofLayers_eq_ok h
  simp only [List.getElem?_toArray, List.getElem?_map, Option.map_eq_some_iff] at he
  obtain ⟨x, hx, rfl⟩ := he
  have hglobs : Registry.globsOf ⟨(layers.map (·.1)).toArray, (kept.map (·.1)).toArray,
      ⟨(kept.flatMap (·.2)).toArray⟩, (globEntriesFrom 0 kept).toArray, []⟩ i = x.2 := by
    unfold Registry.globsOf
    rw [filterMap_globEntriesFrom, if_pos (Nat.zero_le _), Nat.sub_zero, hx]
    rfl
  obtain ⟨y, -, hy⟩ := Grammar.mapM_ok_mem hkept x (List.mem_of_getElem? hx)
  rw [hglobs]
  exact (compilePatterns_eq_ok (compileEntry_eq_ok hy).2).2

/-- What a list relates each element of its partner to is found in the list. -/
theorem exists_mem_of_forall₂ {α β : Type} {R : α → β → Prop} {l₁ : List α} {l₂ : List β}
    (h : List.Forall₂ R l₁ l₂) {b : β} (hb : b ∈ l₂) : ∃ a ∈ l₁, R a b := by
  induction h with
  | nil => cases hb
  | cons hab _ ih =>
    rcases List.mem_cons.1 hb with rfl | hb
    · exact ⟨_, List.mem_cons_self, hab⟩
    · obtain ⟨a, ha, hr⟩ := ih hb
      exact ⟨a, List.mem_cons_of_mem _ ha, hr⟩

/-- In a registry built from layers, glob `k` of the set is a file-name pattern, compiled, of the
entry the set names for it. -/
theorem glob_of_ofLayers {layers : List (Source × GrammarIndex)} {r : Registry}
    (h : ofLayers layers = .ok r) {k : Nat} {g : Glob} (hg : r.globs.globs[k]? = some g) :
    ∃ i e, r.globEntries[k]? = some i ∧ r.entries[i]? = some e ∧
      ∃ p ∈ e.info.patterns, Glob.compile p = .ok g := by
  -- the set names an entry for each of its globs
  have hsize : r.globEntries.size = r.globs.globs.size := by
    obtain ⟨kept, -, rfl⟩ := ofLayers_eq_ok h
    simp [length_globEntriesFrom]
  have hk : k < r.globEntries.size := hsize ▸ (Array.getElem?_eq_some_iff.1 hg).1
  obtain ⟨i, hi⟩ : ∃ i, r.globEntries[k]? = some i := ⟨_, Array.getElem?_eq_getElem hk⟩
  -- so glob `k` is among the globs of entry `i`, which has one
  have hmem : g ∈ r.globsOf i := by
    unfold Registry.globsOf
    refine List.mem_filterMap.2 ⟨(g, i), ?_, by simp⟩
    rw [List.mem_iff_getElem?]
    exact ⟨k, by simp [List.getElem?_zip_eq_some, hg, hi]⟩
  cases he : r.entries[i]? with
  | none =>
    obtain ⟨kept, -, rfl⟩ := ofLayers_eq_ok h
    have hempty : kept[i]? = none := by simpa using he
    simp [Registry.globsOf, filterMap_globEntriesFrom, hempty] at hmem
  | some e =>
    obtain ⟨p, hp, hpg⟩ := exists_mem_of_forall₂ (globsOf_ofLayers h he) hmem
    exact ⟨i, e, hi, he, p, hp, hpg⟩

/-! ## Registries over folders -/

/-- The layers a registry over folders takes from them: the folders that exist, whose index loads
and all of whose patterns compile, in order. -/
def folderLayers (dirs : List (Option Folder)) : List (Source × GrammarIndex) :=
  dirs.filterMap fun d => d.bind fun f =>
    ((GrammarIndex.ofFolderFile f).toOption.filter GrammarIndex.patternsCompile).map
      (Source.folder f, ·)

/-- A registry over folders is built from the folders that exist, whose index loads and all of
whose patterns compile, in order, then the bundled definitions when asked, once their index is
read. -/
theorem ofFolders_eq_ofLayers (dirs : List (Option Folder)) (bundled : Bool) :
    ofFolders dirs bundled =
      if bundled then bundledIndex >>= fun i => ofLayers (folderLayers dirs ++ [(.bundled, i)])
      else ofLayers (folderLayers dirs) := by
  unfold ofFolders
  dsimp only
  -- the layers the folders give are those of `folderLayers`, whatever `ofFolderFile` returns
  generalize hL : List.filterMap _ dirs = L
  have hlayers : L = folderLayers dirs := by
    rw [← hL]
    unfold folderLayers
    congr 1
    funext d
    cases d with
    | none => rfl
    | some f =>
      simp only [Option.bind_some]
      cases hf : GrammarIndex.ofFolderFile f with
      | error err => rfl
      | ok i => cases hi : i.patternsCompile <;> simp [Except.toOption, Option.filter, hi]
  rw [hlayers]
  cases bundled with
  | false => simp
  | true => cases bundledIndex <;> rfl

/-- Every entry of an index whose patterns compile has patterns that compile. -/
theorem compilePatterns_of_patternsCompile {i : GrammarIndex} (h : i.patternsCompile = true)
    {info : IndexEntry} (hinfo : info ∈ i.grammars) {err : RegistryError} :
    compilePatterns info ≠ .error err := by
  intro hc
  have hall := List.all_eq_true.1 h info hinfo
  simp [hc] at hall

/-- Only the bundled definitions, or a glob set that does not build, can fail a registry over
folders: every folder taken has patterns that compile. -/
theorem ofFolders_eq_error {dirs : List (Option Folder)} {bundled : Bool} {err : RegistryError}
    (h : ofFolders dirs bundled = .error err) :
    (bundled = true ∧ (bundledIndex = .error err ∨ ∃ i, bundledIndex = .ok i ∧
      ∃ info ∈ i.grammars, compilePatterns info = .error err)) ∨
      ∃ gs be, GlobSet.build gs = .error be ∧ err = .pattern "<index>" (be.glob.getD "") := by
  -- a layer of the folders never fails
  have hfolder : ∀ last : List (Source × GrammarIndex), ofLayers (folderLayers dirs ++ last) = .error err →
      (∃ info ∈ (last.map (·.2.grammars)).flatten, compilePatterns info = .error err) ∨
      ∃ gs be, GlobSet.build gs = .error be ∧ err = .pattern "<index>" (be.glob.getD "") := by
    intro last hlast
    rcases ofLayers_eq_error hlast with ⟨⟨j, info⟩, he, hc⟩ | ⟨kept, be, -, hbe, herr⟩
    · obtain ⟨i, layer, -, hlayer, hinfo⟩ :=
        mem_layerEntries.1 ((unshadowed_sublist _ _).subset he)
      rcases List.mem_append.1 (List.mem_of_getElem? hlayer) with hf | hl
      · obtain ⟨d, -, hd⟩ := List.mem_filterMap.1 hf
        cases d with
        | none => cases hd
        | some f =>
          simp only [Option.bind_some, Option.map_eq_some_iff, Option.filter_eq_some_iff] at hd
          obtain ⟨index, ⟨-, hcompile⟩, rfl⟩ := hd
          exact absurd hc (compilePatterns_of_patternsCompile hcompile hinfo)
      · exact .inl ⟨info, List.mem_flatten.2 ⟨_, List.mem_map_of_mem hl, hinfo⟩, hc⟩
    · exact .inr ⟨_, be, hbe, herr⟩
  rw [ofFolders_eq_ofLayers] at h
  cases bundled with
  | false =>
    rcases hfolder [] (by simpa using h) with ⟨info, hinfo, -⟩ | hset
    · simp at hinfo
    · exact .inr hset
  | true =>
    simp only [if_true] at h
    cases hb : bundledIndex with
    | error e =>
      rw [hb] at h
      cases h
      exact .inl ⟨rfl, .inl rfl⟩
    | ok i =>
      rw [hb] at h
      rcases hfolder [(.bundled, i)] h with ⟨info, hinfo, hc⟩ | hset
      · exact .inl ⟨rfl, .inr ⟨i, rfl, info, by simpa using hinfo, hc⟩⟩
      · exact .inr hset

/-! ## Layering -/

/-- Building a registry from layers of sources keeps the index entries of all the layers, in
order, except those whose name equals, ignoring ASCII case, the name of one kept before; it
compiles the patterns of the entries kept, in order, failing exactly at the first that does not
compile, with the pattern and the entry's name, and then builds the set of all their file-name
globs, a set that does not build being a pattern error of the index. The names kept are distinct
ignoring ASCII case, each entry reads from the source of the layer it came from, the globs the set
names for each entry are its file-name patterns compiled, in order, and each glob of the set is a
pattern of the entry the set names for it. A registry over folders is built from the folders
that exist, whose index loads and all of whose patterns compile, in order, then the bundled
definitions when asked, once their index is read; so only the bundled index or a bundled pattern,
or a glob set that does not build, can make it fail. -/
theorem registry_layering :
    (∀ layers : List (Source × GrammarIndex),
      ofLayers layers = (unshadowed [] (layerEntries 0 layers)).mapM compileEntry >>=
        assemble (layers.map (·.1)).toArray) ∧
    (∀ (k : Nat) (layers : List (Source × GrammarIndex)),
      (layerEntries k layers).map (·.2) = (layers.map (·.2.grammars)).flatten) ∧
    (∀ (layers : List (Source × GrammarIndex)) (err : RegistryError),
      ofLayers layers = .error err →
      (∃ e ∈ unshadowed [] (layerEntries 0 layers), ∃ p, err = .pattern e.2.name p ∧
        ((e.2.firstLine = some p ∧ ∃ m, Regex.compilePlain p = .error m) ∨
          (p ∈ e.2.patterns ∧ ∃ m, Glob.compile p = .error m))) ∨
      ∃ kept be, (unshadowed [] (layerEntries 0 layers)).mapM compileEntry = .ok kept ∧
        GlobSet.build (kept.flatMap (·.2)).toArray = .error be ∧
        err = .pattern "<index>" (be.glob.getD "")) ∧
    (∀ (layers : List (Source × GrammarIndex)) (r : Registry), ofLayers layers = .ok r →
      r.entries.toList.map (·.origin) = unshadowed [] (layerEntries 0 layers) ∧
      r.entries.toList.Pairwise (fun a b => sameAsciiCase a.info.name b.info.name = false) ∧
      (∀ e ∈ r.entries.toList, ∃ layer, layers[e.source]? = some layer ∧
        r.sources[e.source]? = some layer.1 ∧ e.info ∈ layer.2.grammars) ∧
      (∀ i e, r.entries[i]? = some e →
        List.Forall₂ (fun p g => Glob.compile p = .ok g) e.info.patterns (r.globsOf i)) ∧
      ∀ (k : Nat) (g : Glob), r.globs.globs[k]? = some g → ∃ (i : Nat) (e : RegistryEntry),
        r.globEntries[k]? = some i ∧
        r.entries[i]? = some e ∧ ∃ p ∈ e.info.patterns, Glob.compile p = .ok g) ∧
    (∀ (dirs : List (Option Folder)) (bundled : Bool),
      ofFolders dirs bundled =
        (if bundled then bundledIndex >>= fun i => ofLayers (folderLayers dirs ++ [(.bundled, i)])
          else ofLayers (folderLayers dirs)) ∧
      ∀ err, ofFolders dirs bundled = .error err →
        (bundled = true ∧ (bundledIndex = .error err ∨ ∃ i, bundledIndex = .ok i ∧
          ∃ info ∈ i.grammars, compilePatterns info = .error err)) ∨
        ∃ gs be, GlobSet.build gs = .error be ∧ err = .pattern "<index>" (be.glob.getD "")) := by
  refine ⟨ofLayers_eq, map_snd_layerEntries, fun layers err h => ?_, fun layers r h => ?_,
    fun dirs bundled => ⟨ofFolders_eq_ofLayers dirs bundled, fun err => ofFolders_eq_error⟩⟩
  · rcases ofLayers_eq_error h with ⟨e, he, hc⟩ | hset
    · exact .inl ⟨e, he, compilePatterns_eq_error hc⟩
    · exact .inr hset
  · obtain ⟨kept, hkept, hr⟩ := ofLayers_eq_ok h
    refine ⟨?_, pairwise_ofLayers h, fun e he => source_of_mem_ofLayers h he,
      fun i e he => globsOf_ofLayers h he, fun k g hg => glob_of_ofLayers h hg⟩
    subst hr
    rw [List.toList_toArray, List.map_map]
    exact map_origin_of_mapM hkept

/-- Two layers naming the same language in different case: the second is shadowed. -/
def sqlLayers : List (Source × GrammarIndex) :=
  [(.memory [], ⟨[{ file := "sql.xml", name := "SQL", patterns := ["*.sql"] }]⟩),
   (.bundled, ⟨[{ file := "other.xml", name := "sql", patterns := ["a[b"] }]⟩)]

/-- The shadowed entry's glob `a[b` does not compile, yet the build succeeds with the first
layer's entry alone, whose one glob the set names it for. -/
theorem registry_layering_sqlLayers :
    (Glob.compile "a[b").toOption.isNone ∧
      ∃ r, ofLayers sqlLayers = .ok r ∧
        r.entries.toList.map (·.origin) =
          [(0, { file := "sql.xml", name := "SQL", patterns := ["*.sql"] })] ∧
        r.globEntries = #[0] ∧
        List.Forall₂ (fun p g => Glob.compile p = .ok g) ["*.sql"] (r.globsOf 0) := by
  have hsame : sameAsciiCase "SQL" "sql" = true := sameAsciiCase_iff.2 (by decide)
  have hkept : unshadowed [] (layerEntries 0 sqlLayers) =
      [(0, { file := "sql.xml", name := "SQL", patterns := ["*.sql"] })] := by
    simp [sqlLayers, layerEntries, unshadowed, hsame]
  refine ⟨by decide, ?_⟩
  rw [registry_layering.1, hkept]
  exact ⟨_, rfl, rfl, rfl, .cons rfl .nil⟩

end Registry

end Highlight

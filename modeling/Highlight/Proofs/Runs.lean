import Highlight.Proofs.Coverage
import Mathlib.Data.List.SplitBy
/-!
# Runs: spans merged by how they look

A parsed line reports one span per unmatched character, so neighbouring spans often look the
same: same attribute, same kind. `ParsedLine.runs` merges them for painting. For spans that tile
the line, as parsing produces them (`Span.Tiling`):

* the runs tile the line too, and no two neighbouring runs look the same;
* each run is the union of a maximal block of neighbouring spans that look the same: the runs are
  `List.splitBy` of the spans, each block made into one run (`runs_toList_eq`);
* the span at a column is the one span containing it, and there is none past the line's end
  (`spanAt_eq_find`); the spans are partitioned by whether they stop at or before the column,
  and the span at it is the one at the partition point (`spanAt_eq_partitionPoint`);
* at every column the runs and the spans give the same attribute and kind, so the kind at a
  column, and every question asked of it, has the same answer over either (`kindAt_merged`).

The merge is a fold that grows the last run while the next span looks like it and starts where it
stops. On one block of alike spans it pushes the block's run (`foldl_runStep_block`); the blocks of
`List.splitBy` are maximal, so the first span of each block does not look like the run before it,
and the fold over all spans is the fold over the blocks one after another.
-/

namespace Highlight

deriving instance ReflBEq, LawfulBEq for TextKind

namespace Span

theorem contains_iff {s : Span} {c : Nat} :
    s.contains c = true ↔ s.start ≤ c ∧ c < s.stop := by
  simp [contains]

/-- The span widened by `k` columns. -/
def widen (s : Span) (k : Nat) : Span := { s with len := s.len + k }

@[simp] theorem widen_widen (s : Span) (j k : Nat) : (s.widen j).widen k = s.widen (j + k) := by
  simp [widen, Nat.add_assoc]

/-- What a span looks like: its attribute and its kind. -/
def look (s : Span) : Nat × TextKind := (s.attr, s.kind)

/-- Two spans look alike. -/
def alike (a b : Span) : Bool := decide (a.look = b.look)

/-- The run a block of spans forms: from where its first span starts, as wide as all of them,
with the first span's attribute and kind. -/
def ofBlock : List Span → Span
  | [] => default
  | s :: rest => s.widen (rest.map (·.len)).sum

@[simp] theorem look_ofBlock (s : Span) (rest : List Span) : (ofBlock (s :: rest)).look = s.look :=
  rfl

theorem look_eq_iff {a b : Span} : a.look = b.look ↔ a.attr = b.attr ∧ a.kind = b.kind := by
  simp [look]

/-- In a chain of alike spans every span looks like the first. -/
theorem look_eq_of_isChain :
    ∀ {s : Span} {t : List Span}, (s :: t).IsChain (fun x y => alike x y) →
      ∀ x ∈ s :: t, x.look = s.look
  | _, [], _, _, hx => by rw [List.mem_singleton.1 hx]
  | s, y :: t, h, x, hx => by
    rw [List.isChain_cons_cons] at h
    have hy : y.look = s.look := (of_decide_eq_true h.1).symm
    rcases List.mem_cons.1 hx with rfl | hx
    · rfl
    · rw [look_eq_of_isChain h.2 x hx, hy]

namespace Cover

theorem append : ∀ {l₁ l₂ : List Span} {a b c : Nat}, Cover l₁ a b → Cover l₂ b c →
    Cover (l₁ ++ l₂) a c
  | [], _, _, _, _, h₁, h₂ => by
    have hab : _ = _ := h₁
    rwa [List.nil_append, hab]
  | _ :: _, _, _, _, _, ⟨hs, hlen, h₁⟩, h₂ => ⟨hs, hlen, append h₁ h₂⟩

theorem of_append : ∀ {l₁ l₂ : List Span} {a c : Nat}, Cover (l₁ ++ l₂) a c →
    ∃ b, Cover l₁ a b ∧ Cover l₂ b c
  | [], _, a, _, h => ⟨a, rfl, h⟩
  | _ :: _, _, _, _, ⟨hs, hlen, h⟩ =>
    let ⟨b, h₁, h₂⟩ := of_append h
    ⟨b, ⟨hs, hlen, h₁⟩, h₂⟩

/-- Covered columns are as many as the spans' widths together. -/
theorem sum_len : ∀ {l : List Span} {a b : Nat}, Cover l a b → a + (l.map (·.len)).sum = b
  | [], _, _, h => by
    have hab : _ = _ := h
    simpa using hab
  | s :: l, a, b, ⟨hs, _, h⟩ => by
    have := sum_len h
    simp only [List.map_cons, List.sum_cons, stop] at this ⊢
    omega

/-- Every covering span lies within the covered columns. -/
theorem bounds :
    ∀ {l : List Span} {a b : Nat}, Cover l a b → ∀ s ∈ l, a ≤ s.start ∧ s.stop ≤ b
  | [], _, _, _, _, hs => by cases hs
  | s :: l, a, b, ⟨hs, _, h⟩, x, hx => by
    have hle := h.le
    rcases List.mem_cons.1 hx with rfl | hx
    · exact ⟨hs.ge, hle⟩
    · have := bounds h x hx
      unfold stop at this hle ⊢
      omega

theorem exists_contains : ∀ {l : List Span} {a b c : Nat}, Cover l a b → a ≤ c → c < b →
    ∃ s ∈ l, s.contains c
  | [], _, _, _, h, hac, hcb => by
    have hab : _ = _ := h
    omega
  | s :: l, a, b, c, ⟨hs, _, h⟩, hac, hcb => by
    by_cases hc : c < s.stop
    · exact ⟨s, List.mem_cons_self, by simp [contains, hc]; omega⟩
    · obtain ⟨x, hx, hxc⟩ := exists_contains h (by omega) hcb
      exact ⟨x, List.mem_cons_of_mem s hx, hxc⟩

/-- At most one covering span contains a column. -/
theorem unique : ∀ {l : List Span} {a b c : Nat}, Cover l a b → ∀ s ∈ l, ∀ s' ∈ l,
    s.contains c → s'.contains c → s = s'
  | [], _, _, _, _, _, hs, _, _, _, _ => by cases hs
  | s₀ :: l, a, b, c, ⟨_, _, h⟩, s, hs, s', hs', hc, hc' => by
    -- a span after the first starts where the first stops, past every column the first contains
    have later : ∀ x ∈ l, s₀.contains c → x.contains c → False := fun x hx h₀ hx' => by
      have := (bounds h x hx).1
      rw [contains_iff] at h₀ hx'
      unfold stop at this h₀ hx'
      omega
    rcases List.mem_cons.1 hs with h₁ | h₁ <;> rcases List.mem_cons.1 hs' with h₂ | h₂
    · rw [h₁, h₂]
    · subst h₁
      exact (later s' h₂ hc hc').elim
    · subst h₂
      exact (later s h₁ hc' hc).elim
    · exact unique h s h₁ s' h₂ hc hc'

/-- Over covering spans, the first span that does not stop at or before a column is the first
that contains it. -/
theorem find_stop_eq : ∀ {l : List Span} {a b c : Nat}, Cover l a b → a ≤ c →
    l.find? (fun s => !(s.stop ≤ c)) = l.find? (·.contains c)
  | [], _, _, _, _, _ => rfl
  | s :: l, a, b, c, ⟨hs, _, h⟩, hac => by
    by_cases hc : c < s.stop
    · have hcon : s.contains c = true := by simp [contains, hc]; omega
      simp [hcon, Nat.not_le.2 hc]
    · have hcon : s.contains c = false := by simp [contains]; omega
      simp only [List.find?_cons, hcon, Nat.not_lt.1 hc, decide_true, Bool.not_true]
      exact find_stop_eq h (Nat.not_lt.1 hc)

/-- Covering spans stop further and further to the right. -/
theorem pairwise_stop_lt : ∀ {l : List Span} {a b : Nat}, Cover l a b →
    l.Pairwise fun x y => x.stop < y.stop
  | [], _, _, _ => List.Pairwise.nil
  | s :: l, _, _, ⟨_, _, h⟩ => by
    refine List.pairwise_cons.2 ⟨fun y hy => ?_, pairwise_stop_lt h⟩
    -- a later span starts at or after `s.stop` and is not empty
    have hstart := (bounds h y hy).1
    have hlen := len_pos h y hy
    unfold stop at hstart ⊢
    omega

/-- The last covering span contains the last covered column. -/
theorem getLast_contains {l : List Span} {a b : Nat} (h : Cover l a b) {s : Span}
    (hs : l.getLast? = some s) : s.contains (b - 1) := by
  have hmem := List.mem_of_getLast? hs
  have hstop := h.stop_of_getLast hs
  have hlen := h.len_pos s hmem
  rw [contains_iff]
  unfold stop
  omega

/-- The run of a covering block starts and stops where the block does. -/
theorem ofBlock_bounds {s : Span} {t : List Span} {a b : Nat} (h : Cover (s :: t) a b) :
    (ofBlock (s :: t)).start = a ∧ (ofBlock (s :: t)).stop = b := by
  obtain ⟨hs, _, ht⟩ := h
  have hsum := sum_len ht
  simp only [ofBlock, widen, stop] at hsum ⊢
  omega

/-- The run of a covering block contains exactly the columns some span of the block contains. -/
theorem ofBlock_contains {s : Span} {t : List Span} {a b : Nat} (h : Cover (s :: t) a b)
    (c : Nat) : (ofBlock (s :: t)).contains c ↔ ∃ x ∈ s :: t, x.contains c := by
  obtain ⟨hstart, hstop⟩ := ofBlock_bounds h
  rw [contains_iff, hstart, hstop]
  constructor
  · rintro ⟨hac, hcb⟩
    exact exists_contains h hac hcb
  · rintro ⟨x, hx, hxc⟩
    have := bounds h x hx
    rw [contains_iff] at hxc
    omega

/-- The runs of covering blocks cover the same columns. -/
theorem ofBlocks : ∀ {blocks : List (List Span)} {a c : Nat}, [] ∉ blocks →
    Cover blocks.flatten a c → Cover (blocks.map ofBlock) a c
  | [], _, _, _, h => h
  | [] :: _, _, _, hn, _ => absurd List.mem_cons_self hn
  | (s :: t) :: rest, a, c, hn, h => by
    rw [List.flatten_cons] at h
    obtain ⟨b, hB, hrest⟩ := of_append h
    obtain ⟨hstart, hstop⟩ := ofBlock_bounds hB
    refine ⟨hstart, by simp [ofBlock, widen]; exact .inl hB.2.1, ?_⟩
    rw [hstop]
    exact ofBlocks (fun h => hn (List.mem_cons_of_mem _ h)) hrest

/-- Each block of covering spans covers columns of its own. -/
theorem of_mem_flatten : ∀ {blocks : List (List Span)} {a c : Nat}, Cover blocks.flatten a c →
    ∀ B ∈ blocks, ∃ a' b', Cover B a' b'
  | [], _, _, _, _, hB => by cases hB
  | B₀ :: rest, a, c, h, B, hB => by
    rw [List.flatten_cons] at h
    obtain ⟨b, h₀, hrest⟩ := of_append h
    rcases List.mem_cons.1 hB with rfl | hB
    · exact ⟨a, b, h₀⟩
    · exact of_mem_flatten hrest B hB

/-- Over blocks of alike spans, what the first span containing a column looks like is the same
whether it is looked for among the spans or among the blocks' runs. -/
theorem find_ofBlocks : ∀ {blocks : List (List Span)} {a b c : Nat}, [] ∉ blocks →
    (∀ B ∈ blocks, B.IsChain (fun x y => alike x y)) → Cover blocks.flatten a b →
    ((blocks.map ofBlock).find? (·.contains c)).map look =
      (blocks.flatten.find? (·.contains c)).map look
  | [], _, _, _, _, _, _ => rfl
  | [] :: _, _, _, _, hn, _, _ => absurd List.mem_cons_self hn
  | (s :: t) :: rest, a, b, c, hn, hchains, h => by
    rw [List.flatten_cons] at h ⊢
    obtain ⟨m, hB, hrest⟩ := of_append h
    rw [List.map_cons, List.find?_cons, List.find?_append]
    by_cases hc : (ofBlock (s :: t)).contains c
    · -- the block's run contains the column, so some span of the block is found, looking alike
      obtain ⟨x, hx, hxc⟩ := (ofBlock_contains hB c).1 hc
      obtain ⟨y, hy⟩ := Option.isSome_iff_exists.1
        (List.find?_isSome.2 ⟨x, hx, hxc⟩ : ((s :: t).find? (·.contains c)).isSome)
      have hylook :=
        look_eq_of_isChain (hchains _ List.mem_cons_self) y (List.mem_of_find?_eq_some hy)
      simp [hc, hy, hylook]
    · have hnone : (s :: t).find? (·.contains c) = none :=
        List.find?_eq_none.2 fun x hx hxc => hc ((ofBlock_contains hB c).2 ⟨x, hx, hxc⟩)
      simp only [hc, hnone, Option.none_or]
      exact find_ofBlocks (fun h => hn (List.mem_cons_of_mem _ h))
        (fun B hB => hchains B (List.mem_cons_of_mem _ hB)) hrest

end Cover

/-- Spans that tile the columns `0 … n` cover them. -/
theorem Tiling.cover {spans : Array Span} {n : Nat} (h : Tiling spans n) :
    Cover spans.toList 0 n := by
  have key : ∀ (l : List Span) (a : Nat), (∀ s, l[0]? = some s → s.start = a) →
      (∀ k s s', l[k]? = some s → l[k + 1]? = some s' → s'.start = s.start + s.len) →
      (∀ s ∈ l, 0 < s.len) → (∀ s, l.getLast? = some s → s.start + s.len = n) →
      (l = [] → a = n) → Cover l a n := by
    intro l
    induction l with
    | nil => intro a _ _ _ _ hnil; exact hnil rfl
    | cons s t ih =>
      intro a hfirst hnext hlen hlast _
      refine ⟨hfirst s rfl, hlen s List.mem_cons_self, ih s.stop ?_ ?_ ?_ ?_ ?_⟩
      · exact fun s' hs' => hnext 0 s s' rfl hs'
      · exact fun k x x' hx hx' => hnext (k + 1) x x' hx hx'
      · exact fun x hx => hlen x (List.mem_cons_of_mem s hx)
      · intro x hx
        exact hlast x (by rw [List.getLast?_cons, hx]; rfl)
      · rintro rfl
        exact hlast s rfl
  refine key spans.toList 0 ?_ ?_ ?_ ?_ ?_
  · exact fun s hs => h.first s (by rwa [Array.getElem?_toList] at hs)
  · exact fun k s s' hs hs' => h.next k s s' (by rwa [Array.getElem?_toList] at hs)
      (by rwa [Array.getElem?_toList] at hs')
  · exact fun s hs => h.len_pos s (Array.mem_toList_iff.1 hs)
  · exact fun s hs => h.last s (by rwa [Array.getLast?_toList] at hs)
  · intro hnil
    exact (h.empty_iff.1 (Array.toList_eq_nil_iff.1 hnil)).symm

end Span

namespace ParsedLine

open Highlight.Span

/-- One step of merging: a span joins the last run when it looks the same and starts where that
run stops, and starts a run of its own otherwise. -/
def runStep (out : Array Span) (s : Span) : Array Span :=
  match out.back? with
  | some last =>
    if last.attr == s.attr && last.kind == s.kind && last.stop == s.start then
      out.pop.push { last with len := last.len + s.len }
    else out.push s
  | none => out.push s

theorem runs_eq_foldl (p : ParsedLine) : p.runs = p.spans.toList.foldl runStep #[] := by
  rw [Array.foldl_toList]
  rfl

/-- Spans that look like the last run and continue it are absorbed into it. -/
theorem foldl_runStep_absorb : ∀ (t : List Span) (out : Array Span) (acc : Span) {c : Nat},
    (∀ x ∈ t, x.look = acc.look) → Cover t acc.stop c →
    t.foldl runStep (out.push acc) = out.push (acc.widen (t.map (·.len)).sum)
  | [], out, acc, _, _, _ => by simp [widen]
  | x :: t, out, acc, c, hlook, ⟨hx, _, hcov⟩ => by
    obtain ⟨hattr, hkind⟩ := look_eq_iff.1 (hlook x List.mem_cons_self)
    have hstep : runStep (out.push acc) x = out.push (acc.widen x.len) := by
      simp [runStep, hattr, hkind, hx, widen]
    have hstop : (acc.widen x.len).stop = x.stop := by
      simp only [widen, stop] at hx ⊢
      omega
    rw [List.foldl_cons, hstep,
      foldl_runStep_absorb t out (acc.widen x.len) (fun y hy => hlook y (List.mem_cons_of_mem x hy))
        (hstop ▸ hcov)]
    simp

/-- Folding a block of alike spans, whose first span does not look like the last run, pushes the
block's run. -/
theorem foldl_runStep_block {out : Array Span} {s : Span} {t : List Span} {a c : Nat}
    (hback : ∀ last ∈ out.back?, last.look ≠ s.look)
    (hchain : (s :: t).IsChain (fun x y => alike x y)) (hcov : Cover (s :: t) a c) :
    (s :: t).foldl runStep out = out.push (ofBlock (s :: t)) := by
  have hfirst : runStep out s = out.push s := by
    unfold runStep
    split
    · next last hlast =>
      have hne := hback last hlast
      rw [if_neg]
      intro hsame
      simp only [Bool.and_eq_true, beq_iff_eq] at hsame
      exact hne (look_eq_iff.2 ⟨hsame.1.1, hsame.1.2⟩)
    · rfl
  rw [List.foldl_cons, hfirst,
    foldl_runStep_absorb t out s
      (fun x hx => look_eq_of_isChain hchain x (List.mem_cons_of_mem s hx)) hcov.2.2]
  rfl

/-- Folding the spans of maximal blocks of alike spans pushes one run per block. -/
theorem foldl_runStep_blocks : ∀ (blocks : List (List Span)) (out : Array Span) {a c : Nat},
    [] ∉ blocks → (∀ B ∈ blocks, B.IsChain (fun x y => alike x y)) →
    blocks.IsChain (fun B B' => ∃ hB hB', alike (B.getLast hB) (B'.head hB') = false) →
    (∀ last ∈ out.back?, ∀ B ∈ blocks.head?, ∀ x ∈ B.head?, last.look ≠ x.look) →
    Cover blocks.flatten a c →
    (blocks.flatten.foldl runStep out).toList = out.toList ++ blocks.map ofBlock
  | [], out, _, _, _, _, _, _, _ => by simp
  | [] :: _, _, _, _, hn, _, _, _, _ => absurd List.mem_cons_self hn
  | (s :: t) :: rest, out, a, c, hn, hchains, hmax, hback, hcov => by
    rw [List.flatten_cons] at hcov ⊢
    obtain ⟨b, hB, hrest⟩ := Cover.of_append hcov
    have hchain := hchains _ List.mem_cons_self
    have hblock := foldl_runStep_block (fun last hl => hback last hl _ rfl s rfl) hchain hB
    -- the next block's first span does not look like this block's last span, which looks like
    -- this block's run
    have hnext : ∀ last ∈ (out.push (ofBlock (s :: t))).back?, ∀ B ∈ rest.head?,
        ∀ x ∈ B.head?, last.look ≠ x.look := by
      intro last hlast B hB x hx
      rw [Array.back?_push, Option.mem_some_iff] at hlast
      subst hlast
      obtain ⟨hne₁, hne₂, hdiff⟩ := (List.isChain_cons.1 hmax).1 B hB
      have hlastLook := look_eq_of_isChain hchain _ (List.getLast_mem hne₁)
      rw [look_ofBlock, ← hlastLook, ← List.head_of_mem_head? hx]
      intro heq
      simp [alike, heq] at hdiff
    rw [List.foldl_append, hblock,
      foldl_runStep_blocks rest _ (fun h => hn (List.mem_cons_of_mem _ h))
        (fun B hB => hchains B (List.mem_cons_of_mem _ hB)) hmax.tail hnext hrest]
    simp

/-- The runs are the maximal blocks of alike spans, each merged into one run. -/
theorem runs_toList_eq {p : ParsedLine} {n : Nat} (h : Cover p.spans.toList 0 n) :
    p.runs.toList = (p.spans.toList.splitBy alike).map ofBlock := by
  rw [runs_eq_foldl, ← List.flatten_splitBy alike p.spans.toList,
    foldl_runStep_blocks _ #[] (List.nil_notMem_splitBy _ _)
      (fun _ hB => List.isChain_of_mem_splitBy hB) (List.isChain_getLast_head_splitBy _ _)
      (fun last hl => by cases hl) (by rwa [List.flatten_splitBy]),
    List.flatten_splitBy]
  rfl

/-- The line with its spans merged into runs. -/
def merged (p : ParsedLine) : ParsedLine := { p with spans := p.runs }

/-- The runs of covering spans cover the same columns. -/
theorem runs_cover {p : ParsedLine} {n : Nat} (h : Cover p.spans.toList 0 n) :
    Cover p.runs.toList 0 n := by
  rw [runs_toList_eq h]
  exact Cover.ofBlocks (List.nil_notMem_splitBy _ _) (by rwa [List.flatten_splitBy])

/-- Over covering spans, the search for the span at a column finds the first span containing it. -/
theorem spanAt_eq_find {p : ParsedLine} {n : Nat} (h : Cover p.spans.toList 0 n) (c : Nat) :
    p.spanAt c = p.spans.toList.find? (·.contains c) := by
  unfold spanAt
  rw [← Array.find?_toList, h.find_stop_eq (Nat.zero_le c)]
  cases hf : p.spans.toList.find? (·.contains c) with
  | none => rfl
  | some s => simp [Option.filter, List.find?_some hf]

/-- In a list where an element satisfying `P` has only such elements before it, the first element
that does not satisfy `P` is at the number of those that do. -/
theorem find?_not_eq_getElem?_countP {α : Type} {P : α → Bool} : ∀ {l : List α},
    l.Pairwise (fun x y => P y = true → P x = true) → l.find? (fun x => !P x) = l[l.countP P]?
  | [], _ => rfl
  | x :: l, h => by
    have ih := find?_not_eq_getElem?_countP (List.pairwise_cons.1 h).2
    cases hx : P x
    · -- `x` is the first that does not satisfy `P`, and no element after it does
      have hzero : l.countP P = 0 := List.countP_eq_zero.2 fun y hy hPy => by
        have := (List.pairwise_cons.1 h).1 y hy hPy
        rw [hx] at this
        cases this
      simp [hx, hzero]
    · simp [hx, ih]

/-- **The span at a column is the one at the partition point.** Over covering spans, the spans
that stop at or before a column all come before those that do not, so the spans are partitioned as
a binary search for the partition point needs; and the span at the column is the one at that
point, the number of spans stopping at or before it, when it contains the column. -/
theorem spanAt_eq_partitionPoint {p : ParsedLine} {n : Nat} (h : Cover p.spans.toList 0 n)
    (c : Nat) :
    p.spans.toList.Pairwise (fun x y => y.stop ≤ c → x.stop ≤ c) ∧
      p.spanAt c = (p.spans[p.spans.countP (·.stop ≤ c)]?).filter (·.contains c) := by
  have hpart : p.spans.toList.Pairwise (fun x y => y.stop ≤ c → x.stop ≤ c) :=
    h.pairwise_stop_lt.imp fun hlt hy => by omega
  refine ⟨hpart, ?_⟩
  have hfind := find?_not_eq_getElem?_countP (P := fun s : Span => decide (s.stop ≤ c))
    (hpart.imp fun hxy hy => by simpa using hxy (by simpa using hy))
  unfold spanAt
  rw [← Array.find?_toList, hfind, Array.countP_toList, Array.getElem?_toList]

/-- Over covering spans, a column of the line lies in exactly one span, which is the span at it;
past the line's end there is none. -/
theorem spanAt_spec {p : ParsedLine} {n : Nat} (h : Cover p.spans.toList 0 n) :
    (∀ c < n, ∃ s ∈ p.spans, p.spanAt c = some s ∧ s.contains c ∧
      ∀ s' ∈ p.spans, s'.contains c → s' = s) ∧
    ∀ c, n ≤ c → p.spanAt c = none := by
  constructor
  · intro c hc
    obtain ⟨x, hx, hxc⟩ := h.exists_contains (Nat.zero_le c) hc
    obtain ⟨s, hs⟩ := Option.isSome_iff_exists.1
      (List.find?_isSome.2 ⟨x, hx, hxc⟩ : (p.spans.toList.find? (·.contains c)).isSome)
    have hmem := List.mem_of_find?_eq_some hs
    have hsc := List.find?_some hs
    refine ⟨s, Array.mem_toList_iff.1 hmem, by rw [spanAt_eq_find h, hs], hsc, ?_⟩
    intro s' hs' hs'c
    exact h.unique s' (Array.mem_toList_iff.2 hs') s hmem hs'c hsc
  · intro c hc
    rw [spanAt_eq_find h, List.find?_eq_none]
    intro x hx hxc
    have := h.bounds x hx
    rw [contains_iff] at hxc
    unfold stop at this hxc
    omega

/-- Merging covering spans keeps what the span at each column looks like. -/
theorem look_spanAt_merged {p : ParsedLine} {n : Nat} (h : Cover p.spans.toList 0 n) (c : Nat) :
    (p.merged.spanAt c).map look = (p.spanAt c).map look := by
  have hruns : Cover p.merged.spans.toList 0 n := runs_cover h
  rw [spanAt_eq_find hruns, spanAt_eq_find h]
  change (p.runs.toList.find? _).map look = _
  rw [runs_toList_eq h]
  conv_rhs => rw [← List.flatten_splitBy alike p.spans.toList]
  exact Cover.find_ofBlocks (List.nil_notMem_splitBy _ _)
    (fun _ hB => List.isChain_of_mem_splitBy hB) (by rwa [List.flatten_splitBy])

/-- The last of covering spans is the span at the last column. -/
theorem back?_eq_spanAt {p : ParsedLine} {n : Nat} (h : Cover p.spans.toList 0 n) :
    p.spans.back? = if n = 0 then none else p.spanAt (n - 1) := by
  split
  · next hn =>
    subst hn
    rw [← Array.getLast?_toList, (h.eq_nil_iff).2 rfl]
    rfl
  · next hn =>
    cases hlast : p.spans.back? with
    | none =>
      rw [← Array.getLast?_toList, List.getLast?_eq_none_iff, h.eq_nil_iff] at hlast
      exact absurd hlast.symm hn
    | some s =>
      rw [← Array.getLast?_toList] at hlast
      obtain ⟨s', -, hat, -, huniq⟩ := (spanAt_spec h).1 (n - 1) (by omega)
      rw [hat]
      exact congrArg some (huniq s (Array.mem_toList_iff.1 (List.mem_of_getLast? hlast))
        (h.getLast_contains hlast))

/-- The kind at a column depends only on what the span at it and the last span look like. -/
theorem kindAt_congr {q q' : ParsedLine} {c : Nat}
    (hspan : (q.spanAt c).map look = (q'.spanAt c).map look)
    (hback : q.spans.back?.map look = q'.spans.back?.map look) : q.kindAt c = q'.kindAt c := by
  have hkind : ∀ o : Option Span, o.map (·.kind) = (o.map look).map Prod.snd := fun o => by
    cases o <;> rfl
  unfold kindAt
  cases hq : q.spanAt c <;> cases hq' : q'.spanAt c <;> rw [hq, hq'] at hspan
  · rw [hkind, hkind q'.spans.back?, hback]
  · cases hspan
  · cases hspan
  · exact congrArg Prod.snd (Option.some.inj hspan)

/-- Merging covering spans keeps the kind at every column, past the line's end included. -/
theorem kindAt_merged {p : ParsedLine} {n : Nat} (h : Cover p.spans.toList 0 n) (c : Nat) :
    p.merged.kindAt c = p.kindAt c := by
  refine kindAt_congr (look_spanAt_merged h c) ?_
  rw [back?_eq_spanAt (runs_cover h : Cover p.merged.spans.toList 0 n), back?_eq_spanAt h]
  split
  · rfl
  · exact look_spanAt_merged h (n - 1)

/-- Neighbouring runs of maximal blocks of alike spans do not look alike. -/
theorem isChain_ofBlock_look_ne {blocks : List (List Span)}
    (hchains : ∀ B ∈ blocks, B.IsChain (fun x y => alike x y))
    (hmax : blocks.IsChain (fun B B' => ∃ hB hB', alike (B.getLast hB) (B'.head hB') = false)) :
    (blocks.map ofBlock).IsChain (fun r r' => r.look ≠ r'.look) := by
  rw [List.isChain_map]
  refine hmax.imp_of_mem_imp ?_
  rintro B B' hB - ⟨hne, hne', hdiff⟩
  obtain ⟨s, t, rfl⟩ := List.exists_cons_of_ne_nil hne
  obtain ⟨s', t', rfl⟩ := List.exists_cons_of_ne_nil hne'
  -- the block's run looks like its first span, hence like its last, which differs from the next
  rw [look_ofBlock, look_ofBlock, ← look_eq_of_isChain (hchains _ hB) _ (List.getLast_mem hne)]
  intro heq
  simp [alike, heq] at hdiff

/-- Merging the spans of a line they tile into runs. The runs tile the line too, and neighbouring
runs never look alike. The runs are the maximal blocks of neighbouring spans that look alike
(same attribute, same kind), each merged into one run that contains exactly the columns of its
block's spans. The span at a column of the line is the one span containing it, and there is none
past the line's end. And at every column the runs show the same attribute and kind as the spans,
so the kind at every column, past the end included, is the same over either. -/
theorem runs_keep_classification {p : ParsedLine} {n : Nat} (h : Tiling p.spans n) :
    Tiling p.runs n ∧
    p.runs.toList.IsChain (fun r r' => r.look ≠ r'.look) ∧
    (p.runs.toList = (p.spans.toList.splitBy alike).map ofBlock ∧
      ∀ B ∈ p.spans.toList.splitBy alike, ∀ c, (ofBlock B).contains c ↔ ∃ s ∈ B, s.contains c) ∧
    (∀ c < n, ∃ s ∈ p.spans, p.spanAt c = some s ∧ s.contains c ∧
      ∀ s' ∈ p.spans, s'.contains c → s' = s) ∧
    (∀ c, n ≤ c → p.spanAt c = none) ∧
    ∀ c, (p.merged.spanAt c).map look = (p.spanAt c).map look ∧ p.merged.kindAt c = p.kindAt c := by
  have hcov := h.cover
  have hflat : Cover (p.spans.toList.splitBy alike).flatten 0 n := by
    rwa [List.flatten_splitBy]
  refine ⟨Cover.tiling (runs_cover hcov), ?_, ⟨runs_toList_eq hcov, ?_⟩, (spanAt_spec hcov).1,
    (spanAt_spec hcov).2, fun c => ⟨look_spanAt_merged hcov c, kindAt_merged hcov c⟩⟩
  · rw [runs_toList_eq hcov]
    exact isChain_ofBlock_look_ne (fun _ hB => List.isChain_of_mem_splitBy hB)
      (List.isChain_getLast_head_splitBy _ _)
  · intro B hB c
    obtain ⟨a, b, hB'⟩ := Cover.of_mem_flatten hflat B hB
    cases B with
    | nil => exact absurd hB (List.nil_notMem_splitBy _ _)
    | cons s t => exact Cover.ofBlock_contains hB' c

/-- Two columns of code, then two of a string. -/
def codeThenString : ParsedLine :=
  ⟨#[⟨0, 1, 0, .code⟩, ⟨1, 1, 0, .code⟩, ⟨2, 2, 1, .string⟩], LineState.initial⟩

theorem runs_keep_classification_codeThenString :
    Tiling codeThenString.spans 4 ∧
    (Tiling codeThenString.runs 4 ∧
    codeThenString.runs.toList.IsChain (fun r r' => r.look ≠ r'.look) ∧
    (codeThenString.runs.toList = (codeThenString.spans.toList.splitBy alike).map ofBlock ∧
      ∀ B ∈ codeThenString.spans.toList.splitBy alike, ∀ c,
        (ofBlock B).contains c ↔ ∃ s ∈ B, s.contains c) ∧
    (∀ c < 4, ∃ s ∈ codeThenString.spans, codeThenString.spanAt c = some s ∧ s.contains c ∧
      ∀ s' ∈ codeThenString.spans, s'.contains c → s' = s) ∧
    (∀ c, 4 ≤ c → codeThenString.spanAt c = none) ∧
    ∀ c, (codeThenString.merged.spanAt c).map look = (codeThenString.spanAt c).map look ∧
      codeThenString.merged.kindAt c = codeThenString.kindAt c) := by
  have h : Tiling codeThenString.spans 4 :=
    Cover.tiling (by simp [codeThenString, Cover, stop])
  exact ⟨h, runs_keep_classification h⟩

example : codeThenString.runs = #[⟨0, 2, 0, .code⟩, ⟨2, 2, 1, .string⟩] := by decide

end ParsedLine

end Highlight

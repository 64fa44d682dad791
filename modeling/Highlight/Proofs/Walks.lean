import Mathlib.Logic.Relation
import Mathlib.Data.List.Chain
/-!
# Walks that avoid a set

Loading follows references depth first and keeps the nodes of the current path: it refuses, or
passes over, a node already on it. From a node `a`, with the nodes `S` to keep away from, such a
search explores the nodes reached from `a` along a path of distinct nodes none of which is in `S`
(`Avoids`). `avoids_iff` is how the search unfolds one node; with nothing to avoid, these are the
nodes reachable from `a` (`avoids_nil_iff`).

`CycleFrom E a` says that some walk from `a` comes back to a node it has passed. A walk from `a`
that ends in a node it visited before is such a walk (`cycleFrom_of_walk`).

A search that also passes over the nodes it discovered before discovers them in depth-first
order (`DepthFirst`), which the successor lists determine (`DepthFirst.unique`). While it runs,
every discovered node off the current path is finished (`Finished`): what it reaches is
discovered, off the path and on no cycle. Leaving a node whose successors are all finished
finishes it (`reach_of_successors`, `Finished.pop`).
-/

namespace Highlight

open Relation

variable {α : Type} {E : α → α → Prop}

/-- `Avoids E S a b`: `b` is reached from `a` along a path whose nodes are distinct and none of
them in `S`. -/
inductive Avoids (E : α → α → Prop) : List α → α → α → Prop
  | here {S : List α} {a : α} : a ∉ S → Avoids E S a a
  | step {S : List α} {a b c : α} : a ∉ S → E a b → Avoids E (a :: S) b c → Avoids E S a c

namespace Avoids

variable {S T : List α} {a b c : α}

theorem start_not_mem (h : Avoids E S a b) : a ∉ S := by
  cases h with
  | here h => exact h
  | step h _ _ => exact h

theorem reach (h : Avoids E S a b) : ReflTransGen E a b := by
  induction h with
  | here _ => exact .refl
  | step _ hab _ ih => exact .head hab ih

/-- A path that avoids `T` avoids every part of `T`. -/
theorem mono (h : Avoids E T a b) (hST : ∀ x ∈ S, x ∈ T) : Avoids E S a b := by
  induction h generalizing S with
  | here ha => exact here fun h => ha (hST _ h)
  | step ha hab _ ih =>
    refine step (fun h => ha (hST _ h)) hab (ih fun x hx => ?_)
    rcases List.mem_cons.1 hx with rfl | hx
    · exact List.mem_cons_self
    · exact List.mem_cons_of_mem _ (hST x hx)

/-- One more edge: either the path reaches a new node, or it already passed the node, and the
path cut there reaches it. -/
theorem extend (h : Avoids E S a b) (hbc : E b c) (hc : c ∉ S) : Avoids E S a c := by
  induction h with
  | @here S a ha =>
    by_cases hca : c = a
    · rw [hca]
      exact here ha
    · exact step ha hbc (here (by simp [hca, hc]))
  | @step S a b' b ha hab _ ih =>
    by_cases hca : c = a
    · rw [hca]
      exact here ha
    · exact step ha hab (ih hbc (by simp [hca, hc]))

/-- A walk outside `T` is a walk outside every part of `T`. -/
theorem walk_mono (hST : ∀ x ∈ S, x ∈ T) (h : ReflTransGen (fun x y => E x y ∧ y ∉ T) a b) :
    ReflTransGen (fun x y => E x y ∧ y ∉ S) a b :=
  ReflTransGen.mono (fun _ _ hxy => ⟨hxy.1, fun hy => hxy.2 (hST _ hy)⟩) _ _ h

/-- A path that avoids `S` is a walk through nodes outside `S`. -/
theorem reach_outside (h : Avoids E S a b) : ReflTransGen (fun x y => E x y ∧ y ∉ S) a b := by
  induction h with
  | here _ => exact .refl
  | step _ hab hrest ih =>
    refine .head ⟨hab, fun hb => hrest.start_not_mem (List.mem_cons_of_mem _ hb)⟩ ?_
    exact walk_mono (fun x hx => List.mem_cons_of_mem _ hx) ih

/-- A walk through nodes outside `S` continues a path that avoids `S`: the walk's repeated nodes
are cut out one edge at a time. -/
theorem extend_walk (h : Avoids E S a b) (hbc : ReflTransGen (fun x y => E x y ∧ y ∉ S) b c) :
    Avoids E S a c := by
  induction hbc with
  | refl => exact h
  | tail _ hcd ih => exact ih.extend hcd.1 hcd.2

theorem trans (hab : Avoids E S a b) (hbc : Avoids E S b c) : Avoids E S a c :=
  hab.extend_walk hbc.reach_outside

/-- A path that avoids `S`, seen against a larger `T`: it avoids `T` too, or it meets a node of
`T` outside `S`, from which the rest of it avoids `S`. -/
theorem split (h : Avoids E S a c) (hST : ∀ x ∈ S, x ∈ T) :
    Avoids E T a c ∨ ∃ y ∈ T, y ∉ S ∧ Avoids E S y c := by
  induction h generalizing T with
  | @here S a ha =>
    by_cases haT : a ∈ T
    · exact .inr ⟨a, haT, ha, here ha⟩
    · exact .inl (here haT)
  | @step S a b c ha hab hrest ih =>
    by_cases haT : a ∈ T
    · exact .inr ⟨a, haT, ha, step ha hab hrest⟩
    -- the rest of the path is seen against `T` with the first node added
    have hST' : ∀ x ∈ a :: S, x ∈ a :: T := fun x hx => by
      rcases List.mem_cons.1 hx with rfl | hx
      · exact List.mem_cons_self
      · exact List.mem_cons_of_mem _ (hST x hx)
    rcases ih hST' with h' | ⟨y, hyT, hyS, hy⟩
    · exact .inl (step haT hab h')
    · have hne : y ≠ a := fun hy' => hyS (hy' ▸ List.mem_cons_self)
      refine .inr ⟨y, ?_, fun h => hyS (List.mem_cons_of_mem _ h), hy.mono ?_⟩
      · exact (List.mem_cons.1 hyT).resolve_left hne
      · exact fun x hx => List.mem_cons_of_mem _ hx

end Avoids

/-- How a search unfolds a node outside `S`: it is reached itself, and so is what its successors
reach while avoiding it as well. -/
theorem avoids_iff {S : List α} {a c : α} (ha : a ∉ S) :
    Avoids E S a c ↔ c = a ∨ ∃ b, E a b ∧ Avoids E (a :: S) b c := by
  constructor
  · intro h
    cases h with
    | here _ => exact .inl rfl
    | step _ hab h => exact .inr ⟨_, hab, h⟩
  · rintro (rfl | ⟨b, hab, h⟩)
    · exact .here ha
    · exact .step ha hab h

/-- With nothing to avoid, paths reach exactly the reachable nodes. -/
theorem avoids_nil_iff {a b : α} : Avoids E [] a b ↔ ReflTransGen E a b := by
  refine ⟨Avoids.reach, fun h => (Avoids.here List.not_mem_nil).extend_walk ?_⟩
  exact ReflTransGen.mono (fun _ _ hxy => ⟨hxy, List.not_mem_nil⟩) _ _ h

/-- A walk extended by an edge from its last node. -/
theorem isChain_append_of_getLast {q : List α} {x l : α} (hq : List.IsChain E q)
    (hx : q.getLast? = some x) (hxl : E x l) : List.IsChain E (q ++ [l]) := by
  refine hq.append (List.isChain_singleton _) fun a ha b hb => ?_
  rw [hx, Option.mem_some_iff] at ha
  rw [List.head?_cons, Option.mem_some_iff] at hb
  rw [← ha, ← hb]
  exact hxl

/-- Some walk from `a` comes back to a node it has passed. -/
def CycleFrom (E : α → α → Prop) (a : α) : Prop :=
  ∃ v, ReflTransGen E a v ∧ TransGen E v v

/-- A walk from `a` that ends in a node it visited before. -/
theorem cycleFrom_of_walk {a l : α} {q : List α} (hq : q.head? = some a)
    (hw : List.IsChain E (q ++ [l])) (hl : l ∈ q) : CycleFrom E a := by
  obtain ⟨q₁, q₂, rfl⟩ := List.append_of_mem hl
  -- the walk reaches `l` first, and from `l` walks back to it
  have hto : ReflTransGen E a l := by
    have hfirst : List.IsChain E (q₁ ++ [l]) := by
      have hsplit : q₁ ++ l :: q₂ ++ [l] = (q₁ ++ [l]) ++ (q₂ ++ [l]) := by simp
      exact (hsplit ▸ hw).left_of_append
    have h := List.relationReflTransGen_of_exists_isChain _ hfirst (by simp)
    have hhead : (q₁ ++ [l]).head (by simp) = a := by
      cases q₁ with
      | nil => simpa using hq
      | cons x xs => simpa using hq
    rwa [hhead, List.getLast_append_singleton] at h
  have hback : TransGen E l l := by
    have hcyc : List.IsChain E (l :: (q₂ ++ [l])) := by
      have hsplit : q₁ ++ l :: q₂ ++ [l] = q₁ ++ l :: (q₂ ++ [l]) := by simp
      exact (hsplit ▸ hw).right_of_append
    obtain ⟨hstep, hrest⟩ := List.isChain_cons.1 hcyc
    have hne : q₂ ++ [l] ≠ [] := by simp
    have hret := List.relationReflTransGen_of_exists_isChain _ hrest hne
    rw [List.getLast_append_singleton] at hret
    exact TransGen.head' (hstep _ (List.head?_eq_some_head hne)) hret
  exact ⟨l, hto, hback⟩

/-! ## Depth-first discovery -/

/-- `DepthFirst next seen todo out`: discovering the nodes of `todo` in order, each new node
followed at once by what its successors `next` discover, takes the nodes discovered so far from
`seen` to `out`. A node discovered before is passed over. -/
inductive DepthFirst (next : α → List α) : List α → List α → List α → Prop
  | nil {seen : List α} : DepthFirst next seen [] seen
  | skip {seen todo out : List α} {a : α} :
      a ∈ seen → DepthFirst next seen todo out → DepthFirst next seen (a :: todo) out
  | visit {seen todo mid out : List α} {a : α} : a ∉ seen →
      DepthFirst next (seen ++ [a]) (next a) mid → DepthFirst next mid todo out →
      DepthFirst next seen (a :: todo) out

namespace DepthFirst

variable {next : α → List α} {seen todo todo' mid out : List α}

/-- The successor lists determine the order of discovery. -/
theorem unique (h : DepthFirst next seen todo out) {out' : List α}
    (h' : DepthFirst next seen todo out') : out = out' := by
  induction h generalizing out' with
  | nil =>
    cases h'
    rfl
  | skip ha _ ih =>
    cases h' with
    | skip _ h' => exact ih h'
    | visit ha' _ _ => exact absurd ha ha'
  | visit ha _ _ ihNext ihRest =>
    cases h' with
    | skip ha' _ => exact absurd ha' ha
    | visit _ hNext hRest =>
      -- the successors of the node discover the same nodes, so the rest starts from the same list
      rw [← ihNext hNext] at hRest
      exact ihRest hRest

/-- Discovering `todo` and then `todo'` is discovering `todo ++ todo'`. -/
theorem append (h : DepthFirst next seen todo mid) (h' : DepthFirst next mid todo' out) :
    DepthFirst next seen (todo ++ todo') out := by
  induction h with
  | nil => exact h'
  | skip ha _ ih => exact .skip ha (ih h')
  | visit ha hNext _ _ ih => exact .visit ha hNext (ih h')

end DepthFirst

/-- Leaving a node `a` off the path `P`: when what its successors reach satisfies `Q`, is off the
path `P ++ [a]` and on no cycle, what `a` reaches, `a` included, satisfies `Q`, is off `P` and on
no cycle. -/
theorem reach_of_successors {Q : α → Prop} {P : List α} {a : α} (hQ : Q a) (ha : a ∉ P)
    (hsucc : ∀ w, E a w → ∀ u, ReflTransGen E w u → Q u ∧ u ∉ P ++ [a] ∧ ¬TransGen E u u) :
    ∀ u, ReflTransGen E a u → Q u ∧ u ∉ P ∧ ¬TransGen E u u := by
  intro u hu
  rcases ReflTransGen.cases_head hu with rfl | ⟨w, hw, hwu⟩
  · -- a walk from `a` back to itself passes a successor that reaches `a`, which is on the path
    refine ⟨hQ, ha, fun hcyc => ?_⟩
    obtain ⟨w, hw, hwa⟩ := TransGen.head'_iff.1 hcyc
    exact (hsucc w hw _ hwa).2.1 (List.mem_append_right _ List.mem_cons_self)
  · obtain ⟨hQu, huP, hcyc⟩ := hsucc w hw u hwu
    exact ⟨hQu, fun h => huP (List.mem_append_left _ h), hcyc⟩

/-- Every node of `N` off the path `P` is finished: what it reaches lies in `N`, off `P`, and on
no cycle. -/
def Finished (E : α → α → Prop) (N P : List α) : Prop :=
  ∀ b ∈ N, b ∉ P → ∀ u, ReflTransGen E b u → u ∈ N ∧ u ∉ P ∧ ¬TransGen E u u

namespace Finished

variable {N P : List α} {l : α}

/-- Discovering a new node and stepping onto it keeps the finished nodes finished. -/
theorem push (h : Finished E N P) (hl : l ∉ N) : Finished E (N ++ [l]) (P ++ [l]) := by
  intro b hb hbP u hu
  have hbN : b ∈ N := by
    rcases List.mem_append.1 hb with hb | hb
    · exact hb
    · exact absurd (List.mem_append_right P hb) hbP
  obtain ⟨huN, huP, hcyc⟩ := h b hbN (fun h => hbP (List.mem_append_left _ h)) u hu
  have hul : u ≠ l := fun h => hl (h ▸ huN)
  exact ⟨List.mem_append_left _ huN, by simp [huP, hul], hcyc⟩

/-- Leaving a discovered node whose successors are all finished finishes it. -/
theorem pop (h : Finished E N (P ++ [l])) (hl : l ∈ N) (hlP : l ∉ P)
    (hnext : ∀ c, E l c → c ∈ N ∧ c ∉ P ++ [l]) : Finished E N P := by
  intro b hb hbP u hu
  by_cases hbl : b = l
  · subst hbl
    exact reach_of_successors (Q := (· ∈ N)) hl hlP
      (fun c hc => h c (hnext c hc).1 (hnext c hc).2) u hu
  · have hbP' : b ∉ P ++ [l] := by simp [hbP, hbl]
    obtain ⟨huN, huP, hcyc⟩ := h b hb hbP' u hu
    exact ⟨huN, fun h => huP (List.mem_append_left _ h), hcyc⟩

end Finished

end Highlight

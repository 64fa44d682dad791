import Highlight.Proofs.SlotDiscipline
import Highlight.Regex.Run
/-!
# Matches stay within the text

A search reports positions of the text it searched, and none of them lies past its end. The linear
search only ever writes into a slot a position it has reached, and it reaches a position past a
character only when that character is there (`LinearProgram.explore_within`).

The backtracking machine also keeps repetition counters in slots, and a counter can grow past any
bound. A compiled program keeps counters in slots of their own, above the group slots, and
never jumps back to a position held in a counter's slot (`Program.Disciplined`); so every other
slot, every saved alternative and every value put back on backtracking is a position within the text
(`Program.runFor_within`). The whole match is kept in slots 0 and 1, below every counter, so the
match a compiled pattern finds lies within the text (`Regex.search_spans_within`).
-/

namespace Highlight.Regex

/-! ## Slots within the text -/

/-- Every slot outside `counters` is empty or holds a position at most `n`. -/
def SlotsWithin (counters : Nat → Prop) (n : Nat) (slots : Slots) : Prop :=
  ∀ slot, ¬ counters slot → ∀ x ∈ slots[slot]?.join, x ≤ n

namespace SlotsWithin

variable {C : Nat → Prop} {n : Nat} {slots : Slots}

theorem replicate (k : Nat) : SlotsWithin C n (Array.replicate k none) := by
  intro slot _ x hx
  simp only [Array.getElem?_replicate] at hx
  split at hx <;> simp at hx

theorem set! (h : SlotsWithin C n slots) {slot : Nat} {v : Option Nat}
    (hv : ¬ C slot → ∀ x ∈ v, x ≤ n) : SlotsWithin C n (slots.set! slot v) := by
  intro i hi x hx
  rw [Array.set!_eq_setIfInBounds, Array.getElem?_setIfInBounds] at hx
  split at hx
  · next heq =>
    subst heq
    split at hx
    · exact hv hi x hx
    · simp at hx
  · exact h i hi x hx

theorem le (h : SlotsWithin C n slots) {slot x : Nat} (hc : ¬ C slot)
    (hx : slots[slot]?.join = some x) : x ≤ n :=
  h slot hc x hx

end SlotsWithin

/-- A character test that passes at `pos` found a character there. -/
theorem lt_size_of_test {text : Array Char} {pos : Nat} {f : Char → Bool}
    (h : (text[pos]?.map f).getD false = true) : pos < text.size := by
  cases hc : text[pos]? with
  | none => simp [hc] at h
  | some c => exact (Array.getElem?_eq_some_iff.1 hc).1

/-! ## The linear search -/

/-- A task of a linear search of a text of `n` characters: a step at a position within the text,
or a value to put back that is within it unless its slot counts. -/
def Task.Within (C : Nat → Prop) (n : Nat) : Task → Prop
  | .explore _ pos => pos ≤ n
  | .undo slot old => ¬ C slot → ∀ x ∈ old, x ≤ n

namespace LinearProgram

variable {C : Nat → Prop} (p : LinearProgram) (text : Array Char) (start : Nat)
  (stop : Option Nat)

/-- The linear search keeps its tasks and slots within the text, so the match it finds is within
it and ends within it. The induction is on the task budget; each case is one kind of step. -/
theorem explore_within :
    ∀ (fuel : Nat) (todo : List Task) (slots : Slots) (seen : Marks),
      (∀ t ∈ todo, t.Within C text.size) → SlotsWithin C text.size slots →
      ∀ r ∈ (p.explore text start stop fuel todo slots seen).1,
        SlotsWithin C text.size r.1 ∧ r.2 ≤ text.size
  | 0, _, _, _, _, _, r, hr => by simp [explore] at hr
  | _ + 1, [], _, _, _, _, r, hr => by simp [explore] at hr
  | fuel + 1, .undo slot old :: todo, slots, seen, htodo, hslots, r, hr => by
    simp only [explore] at hr
    have hold : Task.Within C text.size (.undo slot old) := htodo _ List.mem_cons_self
    exact explore_within fuel todo _ seen (fun t ht => htodo t (List.mem_cons_of_mem _ ht))
      (hslots.set! hold) r hr
  | fuel + 1, .explore pc pos :: todo, slots, seen, htodo, hslots, r, hr => by
    have hpos : pos ≤ text.size := htodo _ List.mem_cons_self
    have hrest : ∀ t ∈ todo, t.Within C text.size :=
      fun t ht => htodo t (List.mem_cons_of_mem _ ht)
    -- the search goes on from the rest of the tasks, or from one more step in front of them
    have skip := explore_within fuel todo slots
    have onward : ∀ pc' pos', pos' ≤ text.size → ∀ seen', ∀ r ∈
        (p.explore text start stop fuel (.explore pc' pos' :: todo) slots seen').1,
          SlotsWithin C text.size r.1 ∧ r.2 ≤ text.size := fun pc' pos' hpos' seen' =>
      explore_within fuel _ slots seen' (fun t ht => by
        rcases List.mem_cons.1 ht with rfl | ht
        · exact hpos'
        · exact hrest t ht) hslots
    simp only [explore] at hr
    split at hr
    · exact skip seen hrest hslots r hr
    -- a character step goes on past the character only when the test passed
    have test : ∀ (f : Char → Bool) seen', ∀ r ∈
        (if (text[pos]?.map f).getD false = true then
        p.explore text start stop fuel (.explore (pc + 1) (pos + 1) :: todo) slots seen'
        else p.explore text start stop fuel todo slots seen').1,
          SlotsWithin C text.size r.1 ∧ r.2 ≤ text.size := by
      intro f seen' r hr
      split at hr
      · next hok => exact onward _ _ (lt_size_of_test hok) seen' r hr
      · exact skip seen' hrest hslots r hr
    split at hr
    · exact test _ _ r hr
    · exact test _ _ r hr
    · exact test _ _ r hr
    · split at hr
      · exact onward _ _ hpos _ r hr
      · exact skip _ hrest hslots r hr
    · refine explore_within fuel _ slots _ (fun t ht => ?_) hslots r hr
      simp only [List.mem_cons] at ht
      rcases ht with rfl | rfl | ht
      · exact hpos
      · exact hpos
      · exact hrest t ht
    · exact onward _ _ hpos _ r hr
    · next slot _ =>
      refine explore_within fuel _ _ _ (fun t ht => ?_) (hslots.set! fun _ x hx => ?_) r hr
      · simp only [List.mem_cons] at ht
        rcases ht with rfl | rfl | ht
        · exact hpos
        · exact fun hc x hx => hslots slot hc x (by simpa using hx)
        · exact hrest t ht
      · cases hx
        exact hpos
    · split at hr
      · simp only [Option.mem_def, Option.some.injEq] at hr
        subst hr
        exact ⟨hslots, hpos⟩
      · exact skip _ hrest hslots r hr
    · exact skip _ hrest hslots r hr

variable {p text start}

/-- A match found from a position within the text is within it. -/
theorem matchAt_within {pos slotCount : Nat} {r : Slots × Nat} (hpos : pos ≤ text.size)
    (h : p.matchAt text start pos slotCount = some r) :
    SlotsWithin C text.size r.1 ∧ r.2 ≤ text.size :=
  p.explore_within text start none _ _ _ _ (by simpa [Task.Within] using hpos) (.replicate _) r h

/-- A match found ending at a position within the text is within it. -/
theorem matchEndingAt_within {pos slotCount : Nat} {r : Slots × Nat} (hpos : pos ≤ text.size)
    (h : p.matchEndingAt text start pos slotCount = some r) :
    SlotsWithin C text.size r.1 ∧ r.2 ≤ text.size := by
  obtain ⟨k, -, hk⟩ := List.exists_of_findSome?_eq_some h
  have hstart : pos - k ≤ text.size := Nat.le_trans (Nat.sub_le pos k) hpos
  exact p.explore_within text start (some pos) _ _ _ _ (by simpa [Task.Within] using hstart)
    (.replicate _) r hk

/-- Every start the search tries is within the text, and so is the match it finds. -/
theorem search_go_within {slotCount : Nat} {r : Slots × Nat} :
    ∀ (n s : Nat) (seen : Marks), search.go p text start slotCount seen n s = some r →
      SlotsWithin C text.size r.1 ∧ r.2 ≤ text.size
  | 0, _, _, h => by simp [search.go] at h
  | n + 1, s, seen, h => by
    simp only [search.go] at h
    split at h
    · cases h
    · next hs =>
      have hstart : ∀ t ∈ [Task.explore 0 s], t.Within C text.size := by
        simpa [Task.Within] using hs
      have hfound := p.explore_within text start none (p.budget text) _
        (Array.replicate slotCount none) seen hstart (.replicate _)
      -- a match from this start is the result; else the search goes on from the next start
      cases hexp : p.explore text start none (p.budget text) [.explore 0 s]
          (Array.replicate slotCount none) seen with
      | mk found seen' =>
        rw [hexp] at h hfound
        cases found with
        | some r' =>
          cases h
          exact hfound r rfl
        | none => exact search_go_within n (s + 1) seen' h

theorem search_within {slotCount : Nat} {r : Slots × Nat}
    (h : p.search text start slotCount = some r) :
    SlotsWithin C text.size r.1 ∧ r.2 ≤ text.size :=
  search_go_within _ _ _ h

end LinearProgram

/-! ## Characters that are there -/

/-- A run of `k` characters from `pos` whose last character is there ends within the text. -/
theorem add_le_size {text : Array Char} {pos k : Nat} (hpos : pos ≤ text.size)
    (h : 0 < k → (text[pos + (k - 1)]?).isSome) : pos + k ≤ text.size := by
  cases k with
  | zero => exact hpos
  | succ k =>
    have hlast := Option.isSome_iff_exists.1 (h (Nat.succ_pos k))
    obtain ⟨c, hc⟩ := hlast
    have := (Array.getElem?_eq_some_iff.1 hc).1
    omega

/-- A literal run that matches at `pos` ends within the text. -/
theorem lit_stop_le {text : Array Char} {pos : Nat} {cs : List Char} (hpos : pos ≤ text.size)
    (h : (cs.zipIdx.all fun (c, i) => text[pos + i]? == some c) = true) :
    pos + cs.length ≤ text.size := by
  refine add_le_size hpos fun hk => ?_
  -- the last character of the run is compared with the text
  have hlast : cs[cs.length - 1]? = some cs[cs.length - 1] := List.getElem?_eq_getElem (by omega)
  have hmem : (cs[cs.length - 1], cs.length - 1) ∈ cs.zipIdx :=
    List.mem_zipIdx_iff_getElem?.2 hlast
  have := List.all_eq_true.1 h _ hmem
  simp only [beq_iff_eq] at this
  simp [this]

/-- A repeat of a captured text that matches at `pos` ends within the text. -/
theorem repeatsCapture_le {text : Array Char} {a b pos next : Nat} {cl : Bool}
    (hpos : pos ≤ text.size) (h : Program.repeatsCapture text a b pos cl = some next) :
    next ≤ text.size := by
  unfold Program.repeatsCapture at h
  dsimp only at h
  split at h
  · -- an exact repeat compares every character of the capture with the text
    next hall =>
    cases h
    refine add_le_size hpos fun hk => ?_
    have hi := List.all_eq_true.1 hall _ (List.mem_range.2 (Nat.sub_lt hk Nat.one_pos))
    have hcap : (text.extract a b)[(text.extract a b).size - 1]? =
        some (text.extract a b)[(text.extract a b).size - 1] :=
      Array.getElem?_eq_getElem (Nat.sub_lt hk Nat.one_pos)
    simp only [beq_iff_eq, hcap] at hi
    rw [hi]
    rfl
  · split at h
    · cases h
    -- a caseless repeat compares as many characters as the capture has
    split at h
    · next n _ =>
      split at h
      · next hall =>
        cases h
        simp only [Bool.and_eq_true, beq_iff_eq] at hall
        refine add_le_size hpos fun hk => ?_
        have hi := List.all_eq_true.1 hall.2 _ (List.mem_range.2 (Nat.sub_lt hk Nat.one_pos))
        split at hi
        · next x y hx _ =>
          rw [hx]
          rfl
        · cases hi
      · cases h
    · cases h

/-! ## The backtracking machine -/

/-- A value to put back that is within the text unless its slot counts. -/
def EntryWithin (C : Nat → Prop) (n : Nat) (e : Nat × Option Nat) : Prop :=
  ¬ C e.1 → ∀ x ∈ e.2, x ≤ n

namespace Machine

/-- A machine state within a text of `n` characters: its position, its slots outside `counters`,
the values it would put back and every saved alternative. -/
structure Within (C : Nat → Prop) (n : Nat) (m : Machine) : Prop where
  pos_le : m.pos ≤ n
  slots : SlotsWithin C n m.slots
  undo : ∀ e ∈ m.undo, EntryWithin C n e
  stack : ∀ b ∈ m.stack, b.pos ≤ n ∧ ∀ e ∈ b.undo, EntryWithin C n e

variable {C : Nat → Prop} {n : Nat} {m : Machine}

/-- Moving to a position within the text, with the same slots and alternatives. -/
theorem Within.move (h : m.Within C n) {m' : Machine} (hpos : m'.pos ≤ n)
    (hslots : m'.slots = m.slots) (hundo : m'.undo = m.undo) (hstack : m'.stack = m.stack) :
    m'.Within C n :=
  ⟨hpos, hslots ▸ h.slots, hundo ▸ h.undo, hstack ▸ h.stack⟩

/-- Jumping to another instruction keeps the machine within the text. -/
theorem Within.jump (h : m.Within C n) (pc : Nat) : { m with pc }.Within C n :=
  h.move h.pos_le rfl rfl rfl

theorem Within.write (h : m.Within C n) {slot : Nat} {v : Option Nat}
    (hv : ¬ C slot → ∀ x ∈ v, x ≤ n) : (m.write slot v).Within C n := by
  refine ⟨h.pos_le, h.slots.set! hv, ?_, h.stack⟩
  -- the old value of the slot is remembered unless it was already
  unfold Machine.write
  dsimp only
  split
  · exact h.undo
  · intro e he
    rcases List.mem_cons.1 he with rfl | he
    · exact fun hc x hx => h.slots _ hc x hx
    · exact h.undo e he

theorem Within.push (h : m.Within C n) {pc pos : Nat} {m' : Machine} (hpos : pos ≤ n)
    (hp : m.push pc pos = some m') : m'.Within C n := by
  unfold Machine.push at hp
  split at hp
  · cases hp
  · cases hp
    refine ⟨h.pos_le, h.slots, by simp, fun b hb => ?_⟩
    rcases List.mem_cons.1 hb with rfl | hb
    · exact ⟨hpos, h.undo⟩
    · exact h.stack b hb

/-- Putting back remembered values keeps the slots within the text. -/
theorem slotsWithin_foldl {slots : Slots} :
    ∀ (undo : List (Nat × Option Nat)), (∀ e ∈ undo, EntryWithin C n e) →
      SlotsWithin C n slots →
      SlotsWithin C n (undo.foldl (fun s (slot, v) => s.set! slot v) slots)
  | [], _, h => h
  | e :: undo, hundo, h => by
    rw [List.foldl_cons]
    exact slotsWithin_foldl undo (fun e' he' => hundo e' (List.mem_cons_of_mem _ he'))
      (h.set! (hundo e List.mem_cons_self))

theorem Within.pop (h : m.Within C n) {b : Branch} {m' : Machine} (hp : m.pop = some (b, m')) :
    m'.Within C n ∧ b.pos ≤ n := by
  unfold Machine.pop at hp
  split at hp
  · next b' rest hstack =>
    cases hp
    have hb := h.stack b (by rw [hstack]; exact List.mem_cons_self)
    refine ⟨⟨h.pos_le, slotsWithin_foldl _ h.undo h.slots, hb.2, fun b'' hb'' => ?_⟩, hb.1⟩
    exact h.stack b'' (by rw [hstack]; exact List.mem_cons_of_mem _ hb'')
  · cases hp

theorem Within.cutTo (h : m.Within C n) (k : Nat) : (m.cutTo k).Within C n := by
  refine ⟨h.pos_le, h.slots, fun e he => ?_, fun b hb => h.stack b (List.mem_of_mem_drop hb)⟩
  -- the dropped alternatives' remembered values join the current ones
  rcases List.mem_append.1 he with he | he
  · exact h.undo e he
  · obtain ⟨b, hb, he⟩ := List.mem_flatMap.1 he
    exact (h.stack b (List.mem_of_mem_take hb)).2 e he

theorem Within.dropThrough (target : Nat) :
    ∀ (k : Nat) {m : Machine}, m.Within C n → (Machine.dropThrough target k m).Within C n
  | 0, _, h => h
  | k + 1, m, h => by
    unfold Machine.dropThrough
    split
    · next b m' hp =>
      have h' := (h.pop hp).1
      split
      · exact h'
      · exact Within.dropThrough target k h'
    · exact h

theorem Within.writeGroups (h : m.Within C n) (sm : SubMatch) {found : Slots}
    (hfound : SlotsWithin (fun _ => False) n found) : (m.writeGroups sm found).Within C n := by
  unfold Machine.writeGroups
  -- each group writes both its slots from what the sub-program found, or clears both
  induction List.range (sm.endGroup - sm.firstGroup) generalizing m with
  | nil => exact h
  | cons i is ih =>
    rw [List.foldl_cons]
    apply ih
    dsimp only
    split
    · next a b ha hb =>
      refine (h.write fun _ x hx => ?_).write fun _ x hx => ?_
      · cases hx
        exact hfound.le not_false ha
      · cases hx
        exact hfound.le not_false hb
    · exact (h.write (by simp)).write (by simp)

end Machine

/-- What a run ends with is within the text: the slots of a match. -/
def Outcome.Within (C : Nat → Prop) (n : Nat) : Outcome → Prop
  | .matched slots => SlotsWithin C n slots
  | .failed | .exhausted => True

/-- What one step gives is within the text: the machine it goes on or fails with, or what the run
ends with. -/
def StepResult.Within (C : Nat → Prop) (n : Nat) : StepResult → Prop
  | .next m | .fail m => m.Within C n
  | .finish o => o.Within C n

namespace Program

variable {p : Program} {text : Array Char} {start : Nat} {m : Machine}

/-- One step keeps the machine within the text when no `restore` of the program reads a counter:
a counter may hold any number, every other slot holds a position. One case per instruction. -/
theorem step_within (hp : ∀ r, Restores p.ops r → ¬ Counts p.ops r)
    (h : m.Within (Counts p.ops) text.size) :
    (p.step text start m).Within (Counts p.ops) text.size := by
  -- a test that passes moves to a position within the text; one that fails keeps the machine
  have advance : ∀ (ok : Bool) (pos : Nat), (ok = true → pos ≤ text.size) →
      (if ok then StepResult.next { m with pc := m.pc + 1, pos } else .fail m).Within
        (Counts p.ops) text.size := by
    intro ok pos hok
    split
    · next hok' => exact h.move (hok hok') rfl rfl rfl
    · exact h
  have here : ∀ {v : Nat}, v ≤ text.size → ∀ slot, (m.write slot (some v)).Within
      (Counts p.ops) text.size := fun hv slot => h.write fun _ x hx => by
    cases hx
    exact hv
  unfold step
  dsimp only
  cases hop : p.ops[m.pc]? with
  | none => exact h
  | some op =>
    have hmem : op ∈ p.ops := Array.mem_of_getElem? hop
    -- a counter's slot may take any number
    have counter : ∀ slot, op.counter? = some slot → ∀ v, (m.write slot v).Within
        (Counts p.ops) text.size := fun slot hc v => h.write fun hn => absurd ⟨op, hmem, hc⟩ hn
    cases op with
    | split x y =>
      dsimp only
      split
      · next m' hpush =>
        have h' := h.push h.pos_le hpush
        exact h'.jump _
      · trivial
    | jump t => exact h.jump _
    | save slot =>
      have h' := here h.pos_le slot
      exact h'.jump _
    | resetCount slot =>
      have h' := here (Nat.zero_le _) slot
      exact h'.jump _
    | restore slot =>
      -- the slot a restore reads is never a counter, so it holds a position
      have hslot : ¬ Counts p.ops slot := hp slot ⟨_, hmem, rfl⟩
      refine h.move ?_ rfl rfl rfl
      dsimp only
      cases hget : m.slots[slot]?.join with
      | none => exact h.pos_le
      | some x => exact h.slots.le hslot hget
    | lit cs => exact advance _ _ fun hok => lit_stop_le h.pos_le hok
    | char c cl => exact advance _ _ fun hok => lt_size_of_test hok
    | any nl => exact advance _ _ fun hok => lt_size_of_test hok
    | set cs => exact advance _ _ fun hok => lt_size_of_test hok
    | assert a => exact advance _ _ fun _ => h.pos_le
    | sub sm =>
      dsimp only
      split
      · exact h
      · next found stop hfound =>
        obtain ⟨hslots, hstop⟩ := LinearProgram.matchAt_within h.pos_le hfound
        exact (h.writeGroups sm hslots).move hstop rfl rfl rfl
    | behind sm =>
      dsimp only
      split
      · exact h
      · next found stop hfound =>
        obtain ⟨hslots, -⟩ := LinearProgram.matchEndingAt_within h.pos_le hfound
        have h' := h.writeGroups sm hslots
        exact h'.jump _
    | captured slot => exact advance _ _ fun _ => h.pos_le
    | stepBack =>
      dsimp only
      split
      · exact h.jump _
      · split
        · next m' hpush =>
          have h' := h.push (Nat.le_trans (Nat.sub_le _ _) h.pos_le) hpush
          exact h'.jump _
        · trivial
    | checkAt slot => exact advance _ _ fun _ => h.pos_le
    | repeatCount lo hi next slot greedy =>
      have hw := counter slot rfl (some ((m.slots[slot]?.join).getD 0 + 1))
      dsimp only
      split
      · exact h.jump _
      · split
        · exact hw.jump _
        · split
          all_goals
            split
            · next m' hpush =>
              have h' := hw.push hw.pos_le hpush
              exact h'.jump _
            · trivial
    | repeatNonEmpty lo next slot check greedy =>
      have hw := counter slot rfl (some ((m.slots[slot]?.join).getD 0 + 1))
      dsimp only
      split
      · exact h
      · split
        · exact hw.jump _
        · -- the round's start is written where the next round compares it
          have hcheck : ((m.write slot (some ((m.slots[slot]?.join).getD 0 + 1))).write check
              (some m.pos)).Within (Counts p.ops) text.size := hw.write fun _ x hx => by
            cases hx
            exact h.pos_le
          split
          all_goals
            split
            · next m' hpush =>
              have h' := hcheck.push hcheck.pos_le hpush
              exact h'.jump _
            · trivial
    | goBack k =>
      dsimp only
      split
      · exact h.move (Nat.le_trans (Nat.sub_le _ _) h.pos_le) rfl rfl rfl
      · exact h
    | failNegative => exact h.dropThrough _ _
    | backref slot cl =>
      dsimp only
      split
      · next a b _ _ =>
        split
        · next next hrep => exact h.move (repeatsCapture_le h.pos_le hrep) rfl rfl rfl
        · exact h
      · exact h
    | beginAtomic => exact h.move h.pos_le rfl rfl rfl
    | endAtomic =>
      dsimp only
      split
      · next k rest _ =>
        have h' := h.cutTo k
        exact h'.move h'.pos_le rfl rfl rfl
      · exact h.jump _
    | done => exact h.slots

/-- A run keeps the machine within the text, and so the slots of the match it finds: a failure
resumes a saved alternative, which is within the text. The induction is on the step budget. -/
theorem runFor_within (hp : ∀ r, Restores p.ops r → ¬ Counts p.ops r) :
    ∀ (fuel : Nat) {m : Machine}, m.Within (Counts p.ops) text.size →
      (p.runFor text start fuel m).Within (Counts p.ops) text.size
  | 0, _, _ => trivial
  | fuel + 1, m, h => by
    have hstep : (p.step text start m).Within (Counts p.ops) text.size := step_within hp h
    unfold runFor
    split
    · next m' hs =>
      rw [hs] at hstep
      exact runFor_within hp fuel hstep
    · next o hs =>
      rw [hs] at hstep
      exact hstep
    · next m' hs =>
      rw [hs] at hstep
      split
      · trivial
      · next b m'' hpop =>
        obtain ⟨h'', hb⟩ := hstep.pop hpop
        split
        · trivial
        · exact runFor_within hp fuel (h''.move hb rfl rfl rfl)

/-- A search from a start within the text finds a match within it. -/
theorem run_within (hp : ∀ r, Restores p.ops r → ¬ Counts p.ops r)
    (hstart : start ≤ text.size) :
    (p.run text start).Within (Counts p.ops) text.size :=
  runFor_within hp _ ⟨hstart, .replicate _, by simp, by simp⟩

end Program

/-- A pattern whose backtracking program keeps its counters above the slots of its groups and
never restores a position from a counter's slot. -/
def Disciplined (r : Regex) : Prop :=
  ∀ p, r.engine = .backtracking p → p.Disciplined (2 * (r.groups + 1))

/-- Mapping the error of a success keeps the value. -/
theorem mapError_ok_eq {ε ε' α : Type} (f : ε → ε') (a : α) :
    (Except.ok a : Except ε α).mapError f = .ok a := rfl

/-- Mapping the error of a failure maps its error. -/
theorem mapError_error_eq {ε ε' α : Type} (f : ε → ε') (e : ε) :
    (Except.error e : Except ε α).mapError f = .error (f e) := rfl

/-- Every pattern of the full dialect compiles to a disciplined one. -/
theorem compile_disciplined {source : String} {r : Regex} (h : compile source = .ok r) :
    r.Disciplined := by
  intro p hp
  unfold compile at h
  simp only [bind, Except.bind] at h
  cases hpat : Pattern.parse .full source with
  | error e => simp [hpat, mapError_error_eq] at h
  | ok pat =>
    simp only [hpat, mapError_ok_eq] at h
    split at h
    · cases h
    -- only a hard pattern runs on the backtracking machine, with the program compiled from it
    split at h
    · cases hq : Program.ofPattern pat with
      | error e => simp [hq, mapError_error_eq] at h
      | ok q =>
        simp only [hq, mapError_ok_eq] at h
        cases h
        cases hp
        exact Program.ofPattern_disciplined hq
    · cases hq : LinearProgram.ofNode (.group pat.root) 0 with
      | error e => simp [hq, mapError_error_eq] at h
      | ok q =>
        simp only [hq, mapError_ok_eq] at h
        cases h
        cases hp

/-- The spans read from slots within the text are within it, when no slot of a group counts. -/
theorem spansOf_within {C : Nat → Prop} {n groups g a b : Nat} {slots : Slots}
    (hs : SlotsWithin C n slots) (hC : ∀ slot, slot < 2 * (groups + 1) → ¬ C slot)
    (h : (spansOf groups slots)[g]? = some (some (a, b))) : a ≤ n ∧ b ≤ n := by
  unfold spansOf at h
  rw [Array.getElem?_map, Array.getElem?_range] at h
  split at h
  · next hg =>
    simp only [Option.map_some, Option.some.injEq] at h
    split at h
    · next a' b' ha hb =>
      cases h
      exact ⟨hs.le (hC _ (by omega)) ha, hs.le (hC _ (by omega)) hb⟩
    · cases h
  · cases h

/-- **A match is within the text.** A disciplined pattern searched from a start within the text
reports, for the whole match and for each group, a span that starts and ends within it. -/
theorem search_spans_within {r : Regex} {text : Array Char} {start : Nat}
    {gs : Array (Option (Nat × Nat))} (hr : r.Disciplined) (hstart : start ≤ text.size)
    (h : r.search text start = .spans gs) {g a b : Nat} (hg : gs[g]? = some (some (a, b))) :
    a ≤ text.size ∧ b ≤ text.size := by
  unfold search Engine.run at h
  split at h
  · -- the linear search holds positions only
    split at h
    · next slots stop hsearch =>
      cases h
      exact spansOf_within (LinearProgram.search_within (C := fun _ => False) hsearch).1
        (fun _ _ => not_false) hg
    · cases h
  · -- the backtracking machine keeps its counters above the slots of the groups
    next q hq =>
    have hd := hr q hq
    have hrun : (q.run text start).Within (Counts q.ops) text.size :=
      Program.run_within hd.restores_not_counts hstart
    generalize q.run text start = o at h hrun
    cases o with
    | matched slots =>
      cases h
      exact spansOf_within hrun (fun slot hslot hc => absurd (hd.counts_ge slot hc) (by omega)) hg
    | failed => cases h
    | exhausted => cases h

end Highlight.Regex

import Highlight.Grammar.Keywords
import Mathlib.Data.List.Nodup
/-!
# The separator table

Word separators are kept as a flag for each ASCII character and a set of the others
(`Separators`). Read back as one set (`Separators.marked`), the table a definition builds marks
the defaults and the additions and then unmarks the weak characters, so a character is marked
exactly when it is a default or an addition and not weak (`marked_ofDefinition`). Each step
changes the answer for its own character only (`marked_mark`); for the set beyond ASCII this
rests on the set holding each character once, which every step keeps (`nodup_mark`), so that
unmarking removes a character for good.

Main statement: `ofDefinition_contains_iff`. A character separates words when it is marked, or
when it is a blank beyond ASCII, whatever the definition calls weak (`weak_blank_separates`).
-/

namespace Highlight.Separators

/-- Whether the table marks `c`: its flag when it is ASCII, its membership of the other set when
not. -/
def marked (s : Separators) (c : Char) : Bool :=
  if h : c.toNat < 128 then s.ascii[c.toNat] else s.extra.contains c

/-- A character separates when it is a blank beyond ASCII or marked. -/
theorem contains_eq (s : Separators) (c : Char) :
    s.contains c = ((decide (128 ≤ c.toNat) && Text.isBlank c) || s.marked c) := by
  unfold contains marked
  by_cases h : c.toNat < 128
  · simp [h, Nat.not_le.2 h]
  · simp [h, Nat.le_of_not_lt h]

@[simp] theorem marked_empty (c : Char) : empty.marked c = false := by
  unfold marked empty
  split <;> simp

/-- Marking `c` keeps each character of the set beyond ASCII once. -/
theorem nodup_mark {s : Separators} (hs : s.extra.Nodup) (c : Char) (on : Bool) :
    (s.mark c on).extra.Nodup := by
  unfold mark
  split
  · exact hs
  · split
    · exact hs.insert
    · exact hs.erase c

/-- Marking `c` sets the answer for `c` and keeps the answer for every other character. -/
theorem marked_mark {s : Separators} (hs : s.extra.Nodup) (c : Char) (on : Bool) (d : Char) :
    (s.mark c on).marked d = if d = c then on else s.marked d := by
  by_cases e : d = c
  · subst e
    unfold mark marked
    by_cases hc : d.toNat < 128
    · simp [hc]
    · cases on <;> simp [hc, hs.mem_erase_iff]
  · rw [if_neg e]
    have hne : c.toNat ≠ d.toNat := fun h => e (Char.toNat_inj.1 h.symm)
    unfold mark marked
    -- the flag of `c` and the membership of `c` are the only things a step touches
    by_cases hc : c.toNat < 128 <;> by_cases hd : d.toNat < 128
    · simp [hc, hd, hne]
    · simp [hc, hd]
    · cases on <;> simp [hc, hd]
    · cases on <;> simp [hc, hd, hs.mem_erase_iff, List.mem_insert_iff, e]

/-- Marking the characters of `cs` in turn keeps each character beyond ASCII once. -/
theorem nodup_foldl_mark {s : Separators} (hs : s.extra.Nodup) (cs : List Char) (on : Bool) :
    (cs.foldl (fun s c => s.mark c on) s).extra.Nodup := by
  induction cs generalizing s with
  | nil => exact hs
  | cons c cs ih => exact ih (nodup_mark hs c on)

/-- Marking the characters of `cs` in turn, all alike, sets the answer for those characters and
keeps it for the others. -/
theorem marked_foldl_mark {s : Separators} (hs : s.extra.Nodup) (cs : List Char) (on : Bool)
    (d : Char) :
    (cs.foldl (fun s c => s.mark c on) s).marked d = if d ∈ cs then on else s.marked d := by
  induction cs generalizing s with
  | nil => simp
  | cons c cs ih =>
    rw [List.foldl_cons, ih (nodup_mark hs c on), marked_mark hs]
    by_cases hd : d ∈ cs <;> by_cases e : d = c <;> simp [hd, e]

/-- A definition's table marks the defaults and the additions, less the weak characters. -/
theorem marked_ofDefinition (weak additional : String) (c : Char) :
    (ofDefinition weak additional).marked c = true ↔
      (c ∈ defaultSeparators ∨ c ∈ additional.toList) ∧ c ∉ weak.toList := by
  have hadded := nodup_foldl_mark (s := empty) List.nodup_nil
    (defaultSeparators ++ additional.toList) true
  unfold ofDefinition
  rw [marked_foldl_mark hadded, marked_foldl_mark List.nodup_nil, marked_empty]
  by_cases hw : c ∈ weak.toList <;> simp [hw]

/-- A character separates words in a definition's grammar exactly when it is a default separator
or an addition and not weak, or a blank beyond ASCII. -/
theorem ofDefinition_contains_iff (weak additional : String) (c : Char) :
    (ofDefinition weak additional).contains c = true ↔
      (c ∈ defaultSeparators ∨ c ∈ additional.toList) ∧ c ∉ weak.toList ∨
        128 ≤ c.toNat ∧ Text.isBlank c = true := by
  rw [contains_eq, Bool.or_eq_true, marked_ofDefinition, Bool.and_eq_true, decide_eq_true_iff,
    or_comm]

example : (ofDefinition "." "$").contains '.' = false ∧ (ofDefinition "." "$").contains '$' = true ∧
    (ofDefinition "." "$").contains ' ' = true := by
  decide

/-- The no-break space, weakened by a definition, still separates words: being in `weak` does
not take a blank beyond ASCII out of the separators. -/
theorem weak_blank_separates :
    ¬ ((ofDefinition (String.ofList ['\u00A0']) "").contains '\u00A0' = true ↔
      ('\u00A0' ∈ defaultSeparators ∨ '\u00A0' ∈ "".toList ∨
          128 ≤ '\u00A0'.toNat ∧ Text.isBlank '\u00A0' = true) ∧
        '\u00A0' ∉ (String.ofList ['\u00A0']).toList) := by
  rw [contains_of_isBlank _ _ (by decide) (by decide), String.toList_ofList]
  simp

end Highlight.Separators

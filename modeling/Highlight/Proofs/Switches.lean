import Highlight.Grammar.Definition
import Mathlib.Data.List.Infix
/-!
# Writing and reading context switches

A switch is written as text with blanks around it ignored. The written forms
(`Switch.Written`) are:

* nothing, or `#stay`: the stack stays;
* `#pop` repeated `n ≥ 1` times: pop `n` levels, at most `maxPops`;
* `#pop` repeated `n ≥ 1` times, then one or more targets, each after a `!` and none empty: pop,
  then push the targets in order;
* any other text that does not start with `#pop`: push the one target it names.

Reading a switch succeeds exactly on these forms and gives the switch each stands for
(`parse?_eq_some_iff`). A target reads back to the text it was read from
(`Target.render_parse`), and a switch written out canonically (`Switch.render`) reads back to
itself (`parse?_render`).

The reader strips `#pop` markers greedily, so the written text is taken apart as `#pop` markers
followed by a rest that does not start with one (`exists_popRun`); the reader's result is then
given by what follows the markers (`parse?_of_target`, `parse?_of_pops_only`,
`parse?_of_pops_targets`, `parse?_of_pops_other`).
-/

namespace Highlight

namespace Text

/-- The characters of a text without blanks at either end. -/
def trimChars (l : List Char) : List Char :=
  ((l.dropWhile isBlank).reverse.dropWhile isBlank).reverse

theorem toList_trimBlanks (s : String) : (trimBlanks s).toList = trimChars s.toList :=
  String.toList_ofList

theorem trimBlanks_eq_ofList (s : String) : trimBlanks s = String.ofList (trimChars s.toList) :=
  rfl

/-- A list whose first element does not satisfy `p` is what `dropWhile p` leaves of it. -/
theorem dropWhile_eq_self {p : Char → Bool} {l : List Char} (h : ∀ c ∈ l.head?, p c = false) :
    l.dropWhile p = l := by
  cases l with
  | nil => rfl
  | cons c t => simp [h c rfl]

/-- What `dropWhile p` leaves starts outside `p`. -/
theorem head_dropWhile {p : Char → Bool} {l : List Char} :
    ∀ c ∈ (l.dropWhile p).head?, p c = false := by
  intro c hc
  have := List.head_dropWhile_not p (List.ne_nil_of_mem (List.mem_of_mem_head? hc))
  rw [List.head_of_mem_head? hc] at this
  simpa using this

/-- A text that neither starts nor ends with a blank is its own trimming. -/
theorem trimChars_eq_self {l : List Char} (hhead : ∀ c ∈ l.head?, isBlank c = false)
    (hlast : ∀ c ∈ l.getLast?, isBlank c = false) : trimChars l = l := by
  unfold trimChars
  rw [dropWhile_eq_self hhead, dropWhile_eq_self (by rwa [List.head?_reverse]),
    List.reverse_reverse]

/-- A trimmed text ends with no blank. -/
theorem getLast_trimChars (l : List Char) :
    ∀ c ∈ (trimChars l).getLast?, isBlank c = false := by
  unfold trimChars
  rw [List.getLast?_reverse]
  exact head_dropWhile

/-- A trimmed text starts with no blank: its first character is the first one left after the
leading blanks. -/
theorem head_trimChars (l : List Char) : ∀ c ∈ (trimChars l).head?, isBlank c = false := by
  intro c hc
  unfold trimChars at hc
  rw [List.head?_reverse] at hc
  -- what the second `dropWhile` leaves is a non-empty suffix, so it ends where the first left off
  obtain ⟨pre, hpre⟩ := List.dropWhile_suffix isBlank (l := (l.dropWhile isBlank).reverse)
  have hne := List.ne_nil_of_mem (List.mem_of_mem_getLast? hc)
  have hsame : ((l.dropWhile isBlank).reverse).getLast? =
      (((l.dropWhile isBlank).reverse).dropWhile isBlank).getLast? := by
    conv_lhs => rw [← hpre]
    exact List.getLast?_append_of_ne_nil _ hne
  rw [← hsame, List.getLast?_reverse] at hc
  exact head_dropWhile c hc

theorem trimChars_trimChars (l : List Char) : trimChars (trimChars l) = trimChars l :=
  trimChars_eq_self (head_trimChars l) (getLast_trimChars l)

end Text

namespace Definition

namespace Target

/-- Splitting at the first `##` leaves the text before it and the text after it. -/
theorem splitMarker_eq_some {l a b : List Char} (h : splitMarker l = some (a, b)) :
    l = a ++ '#' :: '#' :: b := by
  fun_induction splitMarker l generalizing a b with
  | case1 rest =>
    simp only [Option.some.injEq, Prod.mk.injEq] at h
    obtain ⟨rfl, rfl⟩ := h
    rfl
  | case2 c rest _ ih =>
    obtain ⟨⟨a', b'⟩, h', h''⟩ := Option.map_eq_some_iff.1 h
    simp only [Prod.mk.injEq] at h''
    obtain ⟨rfl, rfl⟩ := h''
    rw [ih h']
    rfl
  | case3 => cases h

/-- A reference read from a text and written out gives the text back. -/
theorem render_parse (t : String) : (parse t).render = t := by
  unfold parse
  split
  · next ctx lang h =>
    have ht := splitMarker_eq_some h
    rw [String.ext_iff]
    cases hc : ctx.isEmpty
    · simp [render, ht]
    · rw [List.isEmpty_iff.1 hc] at ht
      simp [render, ht]
  · rfl

end Target

namespace Switch

/-! ## Pieces of the written forms -/

/-- The characters of one `#pop` marker. -/
def popMark : List Char := ['#', 'p', 'o', 'p']

/-- The characters of `#stay`. -/
def stayMark : List Char := ['#', 's', 't', 'a', 'y']

/-- `n` `#pop` markers in a row. -/
def popRun (n : Nat) : List Char := (List.replicate n popMark).flatten

@[simp] theorem popRun_zero : popRun 0 = [] := rfl

theorem popRun_succ (n : Nat) : popRun (n + 1) = popMark ++ popRun n := rfl

theorem popRun_succ' (n : Nat) : popRun (n + 1) = popRun n ++ popMark := by
  simp [popRun, List.replicate_succ']

@[simp] theorem length_popRun (n : Nat) : (popRun n).length = 4 * n := by
  simp [popRun, popMark, Nat.mul_comm]

/-- Markers in front of anything start with `#`. -/
theorem popRun_append_eq_cons {n : Nat} (hn : 0 < n) (rest : List Char) :
    ∃ tail, popRun n ++ rest = '#' :: tail := by
  obtain ⟨m, rfl⟩ := Nat.exists_eq_add_of_lt hn
  exact ⟨_, by rw [Nat.zero_add, popRun_succ, List.append_assoc]; rfl⟩

theorem getLast?_popRun {n : Nat} (hn : 0 < n) : (popRun n).getLast? = some 'p' := by
  obtain ⟨m, rfl⟩ := Nat.exists_eq_add_of_lt hn
  rw [Nat.zero_add, popRun_succ', List.getLast?_append_of_ne_nil _ (by simp [popMark])]
  rfl

theorem popRun_append_ne_stay {n : Nat} (hn : 0 < n) (rest : List Char) :
    popRun n ++ rest ≠ stayMark := by
  obtain ⟨m, rfl⟩ := Nat.exists_eq_add_of_lt hn
  simp [popRun_succ, popMark, stayMark]

/-- Each target after a `!` is the `!`-joined targets after one `!`. -/
theorem flatten_map_bang {ts : List (List Char)} (h : ts ≠ []) :
    (ts.map ('!' :: ·)).flatten = '!' :: ['!'].intercalate ts := by
  induction ts with
  | nil => contradiction
  | cons t ts ih =>
    cases ts with
    | nil => simp
    | cons t' ts =>
      rw [List.map_cons, List.flatten_cons, ih (List.cons_ne_nil _ _), List.intercalate_cons_cons]
      simp

/-- No piece of a split holds a character split on. -/
theorem not_of_mem_splitOnP {p : Char → Bool} (l : List Char) :
    ∀ w ∈ l.splitOnP p, ∀ c ∈ w, p c = false := by
  induction l with
  | nil => simp [List.splitOnP_nil]
  | cons x xs ih =>
    obtain ⟨first, others, hsplit⟩ := List.exists_cons_of_ne_nil (List.splitOnP_ne_nil p xs)
    rw [List.splitOnP_cons_eq_if_modifyHead, hsplit]
    rw [hsplit] at ih
    split_ifs with hx
    · -- `x` splits: an empty piece comes first
      simpa using ih
    · -- `x` joins the first piece
      simp only [List.modifyHead_cons, List.forall_mem_cons] at ih ⊢
      exact ⟨⟨by simpa using hx, ih.1⟩, ih.2⟩

theorem not_mem_of_mem_splitOn {l w : List Char} (hw : w ∈ l.splitOn '!') : '!' ∉ w := by
  rw [List.splitOn_eq_splitOnP] at hw
  intro hmem
  simpa using not_of_mem_splitOnP l w hw '!' hmem

/-! ## Counting the `#pop` markers -/

theorem stripPops_of_not_prefix {count fuel : Nat} {cs : List Char} (h : ¬ popMark <+: cs) :
    stripPops count cs fuel = (count, cs) := by
  rw [stripPops.eq_def]
  split
  · next rest _ => exact absurd (List.prefix_append popMark rest) h
  · rfl

/-- Stripping `n` markers in front of a rest that does not start with one counts them, up to
`maxPops`, and leaves the rest. -/
theorem stripPops_popRun {count fuel n : Nat} {rest : List Char} (hcount : count ≤ maxPops)
    (hfuel : n ≤ fuel) (hrest : ¬ popMark <+: rest) :
    stripPops count (popRun n ++ rest) fuel = (min maxPops (count + n), rest) := by
  induction n generalizing count fuel with
  | zero =>
    rw [popRun_zero, List.nil_append, stripPops_of_not_prefix hrest]
    simp only [Nat.add_zero, Prod.mk.injEq, and_true]
    omega
  | succ n ih =>
    cases fuel with
    | zero => omega
    | succ fuel =>
      rw [popRun_succ, List.append_assoc]
      simp only [popMark, List.cons_append, List.nil_append, stripPops]
      rw [ih (by omega) (by omega)]
      simp only [Prod.mk.injEq, and_true]
      omega

/-- Every text is some `#pop` markers followed by a rest that does not start with one. -/
theorem exists_popRun (l : List Char) :
    ∃ j rest, l = popRun j ++ rest ∧ ¬ popMark <+: rest := by
  induction h : l.length using Nat.strong_induction_on generalizing l with
  | _ k ih =>
    by_cases hp : popMark <+: l
    · obtain ⟨l', rfl⟩ := hp
      have hlt : l'.length < k := by simp [← h, popMark]; omega
      obtain ⟨j, rest, rfl, hrest⟩ := ih l'.length hlt l' rfl
      exact ⟨j + 1, rest, by rw [popRun_succ, List.append_assoc], hrest⟩
    · exact ⟨0, l, rfl, hp⟩

/-! ## The reader -/

theorem not_popMark_prefix_nil : ¬ popMark <+: [] := by
  simp [popMark]

theorem not_popMark_prefix_bang (l : List Char) : ¬ popMark <+: '!' :: l := by
  simp [popMark]

theorem isEmpty_ofList (l : List Char) : (String.ofList l).isEmpty = l.isEmpty := by
  rw [Bool.eq_iff_iff, String.isEmpty_iff, String.ext_iff, String.toList_ofList, List.isEmpty_iff]
  simp

theorem ofList_beq_stay (l : List Char) : (String.ofList l == "#stay") = (l == stayMark) := by
  rw [Bool.eq_iff_iff, beq_iff_eq, beq_iff_eq, String.ext_iff, String.toList_ofList]
  rfl

/-- A blank text and `#stay` read as the switch that stays. -/
theorem parse?_of_blank_or_stay {s : String}
    (h : Text.trimChars s.toList = [] ∨ Text.trimChars s.toList = stayMark) :
    parse? s = some {} := by
  have hcheck :
      ((Text.trimChars s.toList).isEmpty || Text.trimChars s.toList == stayMark) = true := by
    rcases h with h | h <;> simp [h]
  unfold parse?
  simp only [Text.trimBlanks_eq_ofList, isEmpty_ofList, ofList_beq_stay, hcheck, if_true]

/-- Markers in front of a rest that does not start with one are all counted, since the reader's
fuel is the length of the text. -/
theorem stripPops_of_eq {l rest : List Char} {j : Nat} (hl : l = popRun j ++ rest)
    (hrest : ¬ popMark <+: rest) : stripPops 0 l l.length = (min j maxPops, rest) := by
  rw [hl, stripPops_popRun (Nat.zero_le _) (by simp; omega) hrest, Nat.zero_add, Nat.min_comm]

theorem min_maxPops_pos {n : Nat} (hn : 0 < n) : 0 < min n maxPops := by
  unfold maxPops
  omega

/-- A count already cut at `maxPops` stays as it is. -/
theorem min_min_maxPops (n : Nat) : min (min n maxPops) maxPops = min n maxPops := by
  omega

theorem min_maxPops_beq_zero {j : Nat} (hj : 0 < j) : (min j maxPops == 0) = false :=
  beq_eq_false_iff_ne.2 (Nat.pos_iff_ne_zero.1 (min_maxPops_pos hj))

/-- A text with a marker in front is neither blank nor `#stay`. -/
theorem blank_or_stay_of_pops {l rest : List Char} {j : Nat} (hj : 0 < j)
    (hl : l = popRun j ++ rest) : (l.isEmpty || l == stayMark) = false := by
  obtain ⟨tail, htail⟩ := popRun_append_eq_cons hj rest
  have hstay := popRun_append_ne_stay hj rest
  rw [← hl] at htail hstay
  rw [Bool.or_eq_false_iff, beq_eq_false_iff_ne]
  exact ⟨by simp [htail], hstay⟩

/-- Any other text that does not start with a marker reads as the one target it names. -/
theorem parse?_of_target {s : String} (hne : Text.trimChars s.toList ≠ [])
    (hstay : Text.trimChars s.toList ≠ stayMark) (hpop : ¬ popMark <+: Text.trimChars s.toList) :
    parse? s = some { push := [Target.parse (Text.trimBlanks s)] } := by
  have hcheck :
      ((Text.trimChars s.toList).isEmpty || Text.trimChars s.toList == stayMark) = false := by
    simpa using ⟨hne, hstay⟩
  unfold parse?
  simp only [Text.trimBlanks_eq_ofList, isEmpty_ofList, ofList_beq_stay, hcheck,
    String.toList_ofList, String.length_ofList, stripPops_of_not_prefix hpop]
  simp

/-- Markers alone pop as many levels, at most `maxPops`. -/
theorem parse?_of_pops_only {s : String} {j : Nat} (hj : 0 < j)
    (hl : Text.trimChars s.toList = popRun j) : parse? s = some { pop := min j maxPops } := by
  have hl' : Text.trimChars s.toList = popRun j ++ [] := by rw [List.append_nil, hl]
  unfold parse?
  simp only [Text.trimBlanks_eq_ofList, isEmpty_ofList, ofList_beq_stay,
    blank_or_stay_of_pops hj hl',
    String.toList_ofList, String.length_ofList, stripPops_of_eq hl' not_popMark_prefix_nil,
    min_maxPops_beq_zero hj]
  simp

/-- Markers followed by a `!` pop, then push the targets between the `!`s, unless one is empty. -/
theorem parse?_of_pops_targets {s : String} {j : Nat} {targets : List Char} (hj : 0 < j)
    (hl : Text.trimChars s.toList = popRun j ++ '!' :: targets) :
    parse? s = if (targets.splitOn '!').any (·.isEmpty) then none
      else some
        { pop := min j maxPops,
          push := (targets.splitOn '!').map fun part => Target.parse (String.ofList part) } := by
  unfold parse?
  simp only [Text.trimBlanks_eq_ofList, isEmpty_ofList, ofList_beq_stay,
    blank_or_stay_of_pops hj hl,
    String.toList_ofList, String.length_ofList, stripPops_of_eq hl (not_popMark_prefix_bang _),
    min_maxPops_beq_zero hj]
  simp

/-- Markers followed by anything but a `!` cannot be read. -/
theorem parse?_of_pops_other {s : String} {j : Nat} {c : Char} {tail : List Char} (hj : 0 < j)
    (hl : Text.trimChars s.toList = popRun j ++ c :: tail) (hc : c ≠ '!')
    (hrest : ¬ popMark <+: c :: tail) : parse? s = none := by
  unfold parse?
  simp only [Text.trimBlanks_eq_ofList, isEmpty_ofList, ofList_beq_stay,
    blank_or_stay_of_pops hj hl,
    String.toList_ofList, String.length_ofList, stripPops_of_eq hl hrest, min_maxPops_beq_zero hj,
    List.isEmpty_cons, Bool.false_eq_true, if_false]
  split
  · next heq => exact absurd (List.cons.inj heq).1 hc
  · simp

/-! ## The written forms -/

/-- The written forms of a switch, on its text without the blanks around it, with the switch each
stands for. -/
inductive Written : List Char → Switch → Prop
  /-- Nothing: the stack stays. -/
  | empty : Written [] {}
  /-- `#stay`: the stack stays. -/
  | stay : Written stayMark {}
  /-- Any other text that does not start with `#pop` names the one target to push. -/
  | target (t : List Char) (hne : t ≠ []) (hstay : t ≠ stayMark) (hpop : ¬ popMark <+: t) :
      Written t { push := [Target.parse (String.ofList t)] }
  /-- `n` markers pop `n` levels, at most `maxPops`. -/
  | pops (n : Nat) (hn : 0 < n) : Written (popRun n) { pop := min n maxPops }
  /-- `n` markers, then targets, each after a `!`, none empty and none holding a `!`. -/
  | popsPush (n : Nat) (hn : 0 < n) (ts : List (List Char)) (hts : ts ≠ [])
      (hparts : ∀ t ∈ ts, t ≠ [] ∧ '!' ∉ t) :
      Written (popRun n ++ (ts.map ('!' :: ·)).flatten)
        { pop := min n maxPops, push := ts.map fun t => Target.parse (String.ofList t) }

/-- Every written form reads as the switch it stands for. -/
theorem parse?_of_written {s : String} {sw : Switch} (h : Written (Text.trimChars s.toList) sw) :
    parse? s = some sw := by
  generalize hl : Text.trimChars s.toList = l at h
  cases h with
  | empty => exact parse?_of_blank_or_stay (.inl hl)
  | stay => exact parse?_of_blank_or_stay (.inr hl)
  | target t hne hstay hpop =>
    rw [parse?_of_target (hl ▸ hne) (hl ▸ hstay) (hl ▸ hpop), Text.trimBlanks_eq_ofList, hl]
  | pops n hn => exact parse?_of_pops_only hn hl
  | popsPush n hn ts hts hparts =>
    have hsplit : (['!'].intercalate ts).splitOn '!' = ts :=
      List.splitOn_intercalate '!' (fun t ht => (hparts t ht).2) hts
    have hfull : [] ∉ ts := fun hmem => (hparts [] hmem).1 rfl
    rw [flatten_map_bang hts] at hl
    rw [parse?_of_pops_targets hn hl]
    simp [hsplit, hfull]

/-- Whatever reads as a switch is one of the written forms, standing for that switch. -/
theorem written_of_parse? {s : String} {sw : Switch} (h : parse? s = some sw) :
    Written (Text.trimChars s.toList) sw := by
  by_cases hb : Text.trimChars s.toList = [] ∨ Text.trimChars s.toList = stayMark
  · rw [parse?_of_blank_or_stay hb, Option.some.injEq] at h
    subst h
    rcases hb with hb | hb <;> rw [hb]
    · exact .empty
    · exact .stay
  obtain ⟨hne, hstay⟩ := not_or.1 hb
  obtain ⟨j, rest, hl, hrest⟩ := exists_popRun (Text.trimChars s.toList)
  rcases Nat.eq_zero_or_pos j with rfl | hj
  · -- no markers: the whole text is one target
    rw [popRun_zero, List.nil_append] at hl
    rw [parse?_of_target hne hstay (hl ▸ hrest), Option.some.injEq] at h
    subst h
    exact .target _ hne hstay (hl ▸ hrest)
  rcases rest with _ | ⟨c, tail⟩
  · -- markers only
    rw [List.append_nil] at hl
    rw [parse?_of_pops_only hj hl, Option.some.injEq] at h
    subst h
    rw [hl]
    exact .pops j hj
  by_cases hc : c = '!'
  · -- markers, then what follows a `!` split at every `!`
    subst hc
    rw [parse?_of_pops_targets hj hl] at h
    split_ifs at h with hany
    cases h
    have hback : '!' :: tail = ((tail.splitOn '!').map ('!' :: ·)).flatten := by
      rw [flatten_map_bang (List.splitOn_ne_nil _ _), List.intercalate_splitOn]
    have hparts : ∀ t ∈ tail.splitOn '!', t ≠ [] ∧ '!' ∉ t := fun t ht => by
      simp only [List.any_eq_true, not_exists, not_and, Bool.not_eq_true,
        List.isEmpty_eq_false_iff] at hany
      exact ⟨hany t ht, not_mem_of_mem_splitOn ht⟩
    rw [hl, hback]
    exact .popsPush j hj _ (List.splitOn_ne_nil _ _) hparts
  · rw [parse?_of_pops_other hj hl hc hrest] at h
    cases h

/-- Reading a switch succeeds exactly on the written forms, and gives the switch each stands for. -/
theorem parse?_eq_some_iff {s : String} {sw : Switch} :
    parse? s = some sw ↔ Written (Text.trimChars s.toList) sw :=
  ⟨written_of_parse?, parse?_of_written⟩

example : parse? " #pop#pop!A!B##C " =
    some { pop := 2, push := [⟨some "A", none⟩, ⟨some "B", some "C"⟩] } := by
  rfl

/-! ## Writing a switch out -/

/-- A switch written out canonically: `#stay`, its one target, or its `#pop` markers followed by
each target after a `!`. -/
def render (sw : Switch) : String :=
  match sw.pop, sw.push with
  | 0, [] => "#stay"
  | 0, [t] => t.render
  | n, ts => String.join (List.replicate n "#pop") ++ String.join (ts.map fun t => "!" ++ t.render)

theorem render_stay : ({} : Switch).render = "#stay" := rfl

theorem render_single (t : Target) : ({ push := [t] } : Switch).render = t.render := rfl

theorem toList_render_of_pop {sw : Switch} (h : sw.pop ≠ 0) :
    sw.render.toList = popRun sw.pop ++ (sw.push.map fun t => '!' :: t.render.toList).flatten := by
  unfold render
  split
  · next hpop _ => exact absurd hpop h
  · next hpop _ => exact absurd hpop h
  · have hbang : "!".toList = ['!'] := by decide
    simp [String.toList_join, popRun, popMark, List.flatMap_def, Function.comp_def, hbang]

/-- Markers in front of a text that ends in no blank leave nothing to trim. -/
theorem trimChars_popRun_append {n : Nat} (hn : 0 < n) {rest : List Char}
    (hlast : ∀ c ∈ (popRun n ++ rest).getLast?, Text.isBlank c = false) :
    Text.trimChars (popRun n ++ rest) = popRun n ++ rest := by
  obtain ⟨tail, htail⟩ := popRun_append_eq_cons hn rest
  refine Text.trimChars_eq_self ?_ hlast
  rw [htail]
  simp only [List.head?_cons, Option.mem_def, Option.some.injEq, forall_eq']
  decide

/-- A switch read from a text, written out canonically, reads back as itself. -/
theorem parse?_render {s : String} {sw : Switch} (h : parse? s = some sw) :
    parse? sw.render = some sw := by
  apply parse?_of_written
  have hw := written_of_parse? h
  have htrim := Text.trimChars_trimChars s.toList
  have hlast := Text.getLast_trimChars s.toList
  generalize Text.trimChars s.toList = l at hw htrim hlast
  cases hw with
  | empty | stay =>
    have hstay : Text.trimChars "#stay".toList = stayMark := by decide
    rw [render_stay, hstay]
    exact .stay
  | target t hne hstay hpop =>
    rw [render_single, Target.render_parse, String.toList_ofList, htrim]
    exact .target _ hne hstay hpop
  | pops n hn =>
    have hm := min_maxPops_pos hn
    have hlast' : ∀ c ∈ (popRun (min n maxPops) ++ []).getLast?, Text.isBlank c = false := by
      rw [List.append_nil, getLast?_popRun hm]
      simp only [Option.mem_def, Option.some.injEq, forall_eq']
      decide
    rw [toList_render_of_pop (Nat.pos_iff_ne_zero.1 hm)]
    simp only [List.map_nil, List.flatten_nil]
    rw [trimChars_popRun_append hm hlast', List.append_nil]
    have hw := Written.pops _ hm
    rwa [min_min_maxPops] at hw
  | popsPush n hn ts hts hparts =>
    have hm := min_maxPops_pos hn
    -- the targets read back to their texts, so only the number of markers can differ
    have htargets : ((ts.map fun t => Target.parse (String.ofList t)).map
        fun t => '!' :: t.render.toList).flatten = (ts.map ('!' :: ·)).flatten := by
      simp [Function.comp_def, Target.render_parse]
    -- and the last character, which is the original's, is no blank
    have hlast' : ∀ c ∈ (popRun (min n maxPops) ++ (ts.map ('!' :: ·)).flatten).getLast?,
        Text.isBlank c = false := by
      have hne : (ts.map ('!' :: ·)).flatten ≠ [] := by simp [flatten_map_bang hts]
      rwa [List.getLast?_append_of_ne_nil _ hne, ← List.getLast?_append_of_ne_nil (popRun n) hne]
    rw [toList_render_of_pop (Nat.pos_iff_ne_zero.1 hm)]
    simp only
    rw [htargets, trimChars_popRun_append hm hlast']
    have hw := Written.popsPush _ hm ts hts hparts
    rwa [min_min_maxPops] at hw

/-- The switch syntax, both ways: the reader accepts exactly the written forms of the text without
its surrounding blanks, giving the switch each stands for; a target reads back to the text it was
read from; and a switch read from any text, written out canonically, reads back as itself. -/
theorem switch_syntax_exact :
    (∀ (s : String) (sw : Switch),
      parse? s = some sw ↔ Written (Text.trimBlanks s).toList sw) ∧
    (∀ t : String, (Target.parse t).render = t) ∧
    (∀ (s : String) (sw : Switch), parse? s = some sw → parse? sw.render = some sw) := by
  refine ⟨fun s sw => ?_, Target.render_parse, fun _ _ => parse?_render⟩
  rw [Text.toList_trimBlanks]
  exact parse?_eq_some_iff

/-- `#pop!A` pops one level and pushes the context `A`, and so does its canonical writing. -/
theorem switch_syntax_exact_popThenPush :
    parse? "#pop!A" = some { pop := 1, push := [⟨some "A", none⟩] } ∧
      parse? (render { pop := 1, push := [⟨some "A", none⟩] }) =
        some { pop := 1, push := [⟨some "A", none⟩] } :=
  have hread : parse? "#pop!A" = some { pop := 1, push := [⟨some "A", none⟩] } := by rfl
  ⟨hread, switch_syntax_exact.2.2 _ _ hread⟩

end Switch

end Definition

end Highlight

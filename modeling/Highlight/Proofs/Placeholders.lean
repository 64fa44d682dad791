import Highlight.Grammar.Placeholder
import Mathlib.Logic.ExistsUnique
import Mathlib.Order.Bounds.Defs
/-!
# Finding and filling placeholders

A template is read left to right as a list of pieces (`Piece`): a placeholder `%N`, `N` from 1 to
9, is one piece and every other character is a piece of its own. `Reads t ps` says that `ps` is
such a reading of `t`: the pieces spell `t`, and a `%` kept as a character is never followed by a
digit 1 to 9. Each template has exactly one reading (`Reads.unique`, `reads_pieces`).

Two scanners look for placeholders. The highest one is found on the UTF-8 bytes of the template,
pair of adjacent bytes by pair; the replacement walks the characters. They find the same
placeholders (`numbers_eq_filterMap`): a byte below 128 in UTF-8 is always a whole character,
so the bytes `%` and `1` to `9` next to each other are the characters next to each other.
Main statement: `scan_and_substitute_agree`. The highest placeholder is the greatest `N` such
that `%N` occurs in the text, 0 when there is none; substitution replaces each placeholder piece
by its capture (escaped on demand) and keeps every other piece, and the shortcut taken for a
template without placeholders gives what the replacement loop would.
-/

namespace Highlight.Placeholder

/-! ## UTF-8 bytes -/

/-- An ASCII character is encoded as its own code. -/
theorem utf8EncodeChar_of_lt {c : Char} (h : c.toNat < 128) :
    String.utf8EncodeChar c = [UInt8.ofNat c.toNat] := by
  simp only [String.utf8EncodeChar]
  rw [if_pos (show c.val.toNat ≤ 0x7f by simp only [Char.toNat] at h; omega)]
  rfl

/-- Every byte of a character beyond ASCII is at least 128. -/
theorem le_toNat_of_mem_utf8EncodeChar {c : Char} (h : 128 ≤ c.toNat) {b : UInt8}
    (hb : b ∈ String.utf8EncodeChar c) : 128 ≤ b.toNat := by
  have hc : ¬ c.val.toNat ≤ 0x7f := by simp only [Char.toNat] at h; omega
  simp only [String.utf8EncodeChar, if_neg hc] at hb
  -- two, three or four bytes: one lead byte and continuation bytes, all with the top bit set
  repeat' split at hb
  all_goals
    simp only [List.mem_cons, List.not_mem_nil, or_false] at hb
    rcases hb with rfl | rfl | rfl | rfl <;> simp only [UInt8.toNat_ofNat'] <;> omega

/-- The UTF-8 bytes of a text are the encodings of its characters, one after another. -/
theorem toUTF8_data_toList (t : String) :
    t.toUTF8.data.toList = t.toList.flatMap String.utf8EncodeChar := by
  rw [String.toUTF8_eq_toByteArray, ← String.utf8Encode_toList, List.utf8Encode,
    List.toList_data_toByteArray]

/-- `%` is the byte 37. -/
theorem utf8EncodeChar_percent : String.utf8EncodeChar '%' = [37] := rfl

/-- No byte of a character other than `%` is the byte of `%`: below 128 a byte is a whole
character, and the bytes of the others are all at least 128. -/
theorem ne_of_mem_utf8EncodeChar {c : Char} (hc : c ≠ '%') {b : UInt8}
    (hb : b ∈ String.utf8EncodeChar c) : b ≠ 37 := by
  rintro rfl
  by_cases h : c.toNat < 128
  · rw [utf8EncodeChar_of_lt h, List.mem_singleton] at hb
    have hcode : c.toNat = '%'.toNat := by
      have := congrArg UInt8.toNat hb
      simp only [UInt8.toNat_ofNat'] at this
      change 37 = c.toNat % 256 at this
      change c.toNat = 37
      omega
    exact hc (Char.toNat_inj.1 hcode)
  · have := le_toNat_of_mem_utf8EncodeChar (Nat.le_of_not_lt h) hb
    simp at this

/-! ## Placeholder digits -/

/-- The digit character of a number below ten. -/
def digit (n : Nat) : Char := Char.ofNat (48 + n)

theorem toNat_digit {n : Nat} (h : n < 10) : (digit n).toNat = 48 + n := by
  have hv : Nat.isValidChar (48 + n) := Or.inl (by omega)
  rw [digit, Char.ofNat, dif_pos hv]
  rfl

/-- The digits that follow `%` in a placeholder are the characters coded 49 to 57. -/
theorem isDigit_iff {d : Char} : ('1' ≤ d ∧ d ≤ '9') ↔ 49 ≤ d.toNat ∧ d.toNat ≤ 57 := by
  simp only [Char.le_def, UInt32.le_iff_toNat_le]
  rfl

theorem digit_toNat_sub {d : Char} (h : '1' ≤ d ∧ d ≤ '9') : digit (d.toNat - 48) = d := by
  rw [isDigit_iff] at h
  rw [digit, show 48 + (d.toNat - 48) = d.toNat by omega, Char.ofNat_toNat]

theorem isDigit_digit {n : Nat} (h1 : 1 ≤ n) (h9 : n ≤ 9) : '1' ≤ digit n ∧ digit n ≤ '9' := by
  rw [isDigit_iff, toNat_digit (by omega)]
  omega

theorem digit_inj {n m : Nat} (hn : n ≤ 9) (hm : m ≤ 9) (h : digit n = digit m) : n = m := by
  have := congrArg Char.toNat h
  rw [toNat_digit (by omega), toNat_digit (by omega)] at this
  omega

/-! ## The byte scan -/

/-- The placeholder numbers the pairs of adjacent bytes of `bs` spell, in order. -/
def windowScan (bs : List UInt8) : List Nat :=
  (bs.zip bs.tail).filterMap windowNumber

theorem numbers_eq_windowScan (t : String) :
    numbers t = windowScan (t.toList.flatMap String.utf8EncodeChar) := by
  rw [← toUTF8_data_toList]
  rfl

theorem windowScan_cons_cons (a b : UInt8) (bs : List UInt8) :
    windowScan (a :: b :: bs) = (windowNumber (a, b)).toList ++ windowScan (b :: bs) := by
  simp only [windowScan, List.tail_cons, List.zip_cons_cons, List.filterMap_cons]
  cases windowNumber (a, b) <;> rfl

/-- A byte other than `%` starts no placeholder. -/
theorem windowScan_cons_of_ne {a : UInt8} (h : a ≠ 37) (bs : List UInt8) :
    windowScan (a :: bs) = windowScan bs := by
  cases bs with
  | nil => rfl
  | cons b bs => simp [windowScan_cons_cons, windowNumber, h]

theorem windowScan_append_of_ne {bs : List UInt8} (h : ∀ b ∈ bs, b ≠ 37) (rest : List UInt8) :
    windowScan (bs ++ rest) = windowScan rest := by
  induction bs with
  | nil => rfl
  | cons b bs ih =>
    rw [List.cons_append, windowScan_cons_of_ne (h b List.mem_cons_self),
      ih fun b hb => h b (List.mem_cons_of_mem _ hb)]

/-- The encoding of a character other than `%` starts no placeholder. -/
theorem windowScan_utf8EncodeChar_append {c : Char} (hc : c ≠ '%') (rest : List UInt8) :
    windowScan (String.utf8EncodeChar c ++ rest) = windowScan rest :=
  windowScan_append_of_ne (fun _ hb => ne_of_mem_utf8EncodeChar hc hb) rest

/-- After the byte of `%`, the encoding of `d` completes a placeholder exactly when `d` is a
digit 1 to 9: an ASCII character is its own byte, and the first byte of any other is at least
128. -/
theorem windowScan_percent_utf8EncodeChar (d : Char) (rest : List UInt8) :
    windowScan (37 :: (String.utf8EncodeChar d ++ rest)) =
      (if '1' ≤ d ∧ d ≤ '9' then [d.toNat - 48] else []) ++
        windowScan (String.utf8EncodeChar d ++ rest) := by
  simp only [isDigit_iff]
  by_cases h : d.toNat < 128
  · rw [utf8EncodeChar_of_lt h, List.singleton_append, windowScan_cons_cons]
    have hb : (UInt8.ofNat d.toNat).toNat = d.toNat := by
      rw [UInt8.toNat_ofNat']
      omega
    simp only [windowNumber, UInt8.le_iff_toNat_le, hb]
    by_cases hd : 49 ≤ d.toNat ∧ d.toNat ≤ 57 <;> simp [hd]
  · obtain ⟨b, bs, hbs⟩ := List.exists_cons_of_ne_nil (String.utf8EncodeChar_ne_nil (c := d))
    have hb : 128 ≤ b.toNat := le_toNat_of_mem_utf8EncodeChar (c := d) (by omega) (by simp [hbs])
    rw [hbs, List.cons_append, windowScan_cons_cons]
    simp only [windowNumber, UInt8.le_iff_toNat_le]
    rw [if_neg (by simp; omega), if_neg (by omega)]
    rfl

/-! ## Reading a template -/

/-- A piece of a template read left to right: a character kept as it is, or a placeholder. -/
inductive Piece where
  | char (c : Char)
  | slot (n : Nat)
  deriving DecidableEq

namespace Piece

/-- How the piece is written in a template. -/
def text : Piece → List Char
  | char c => [c]
  | slot n => ['%', digit n]

/-- What the piece becomes: a character stays, and placeholder `n` becomes capture `n`, or nothing
when there are not that many captures, escaped for a pattern when `escape` holds. -/
def value (captures : List String) (escape : Bool) : Piece → List Char
  | char c => [c]
  | slot n =>
    let v := (if h : n < captures.length then captures[n] else "").toList
    if escape then escapeForPattern v else v

/-- The number of a placeholder piece. -/
def number? : Piece → Option Nat
  | char _ => none
  | slot n => some n

theorem text_ne_nil (p : Piece) : p.text ≠ [] := by
  cases p <;> simp [text]

end Piece

/-- `ps` reads the text `cs` from the left, each placeholder as one piece: the pieces spell `cs`,
every placeholder is numbered 1 to 9, and a `%` kept as a character is not followed by a digit
1 to 9, which would have made it a placeholder. -/
structure Reads (cs : List Char) (ps : List Piece) : Prop where
  spells : ps.flatMap Piece.text = cs
  slot_range : ∀ n, Piece.slot n ∈ ps → 1 ≤ n ∧ n ≤ 9
  percent_kept : ∀ pre post, ps = pre ++ Piece.char '%' :: post →
    ∀ d ∈ (post.flatMap Piece.text).head?, ¬ ('1' ≤ d ∧ d ≤ '9')

/-- The reading of a text, piece by piece from the left. -/
def pieces : List Char → List Piece
  | '%' :: d :: rest =>
    if '1' ≤ d ∧ d ≤ '9' then .slot (d.toNat - 48) :: pieces rest
    else .char '%' :: pieces (d :: rest)
  | c :: rest => .char c :: pieces rest
  | [] => []

theorem flatMap_text_pieces (cs : List Char) : (pieces cs).flatMap Piece.text = cs := by
  fun_induction pieces cs with
  | case1 d rest hd ih => simp [Piece.text, digit_toNat_sub hd, ih]
  | case2 d rest _ ih => simp [Piece.text, ih]
  | case3 c rest _ ih => simp [Piece.text, ih]
  | case4 => rfl

theorem slot_range_pieces {cs : List Char} {n : Nat} (h : Piece.slot n ∈ pieces cs) :
    1 ≤ n ∧ n ≤ 9 := by
  fun_induction pieces cs with
  | case1 d rest hd ih =>
    rcases List.mem_cons.1 h with h | h
    · cases h
      rw [isDigit_iff] at hd
      omega
    · exact ih h
  | case2 d rest _ ih => exact ih (by simpa using h)
  | case3 c rest _ ih => exact ih (by simpa using h)
  | case4 => cases h

theorem percent_kept_pieces {cs : List Char} {pre post : List Piece}
    (h : pieces cs = pre ++ Piece.char '%' :: post) :
    ∀ d ∈ (post.flatMap Piece.text).head?, ¬ ('1' ≤ d ∧ d ≤ '9') := by
  fun_induction pieces cs generalizing pre with
  | case1 d rest hd ih =>
    cases pre with
    | nil => cases h
    | cons p pre => exact ih (List.cons.inj h).2
  | case2 d rest hd ih =>
    cases pre with
    | nil =>
      -- the kept `%` is followed by the non-digit `d`
      obtain ⟨-, rfl⟩ := List.cons.inj h
      rw [flatMap_text_pieces]
      simpa using hd
    | cons p pre => exact ih (List.cons.inj h).2
  | case3 c rest hne ih =>
    cases pre with
    | nil =>
      -- a `%` kept here ends the text
      obtain ⟨hc, rfl⟩ := List.cons.inj h
      cases rest with
      | nil => simp [pieces]
      | cons d rest => exact absurd rfl (hne d rest (by cases hc; rfl))
    | cons p pre => exact ih (List.cons.inj h).2
  | case4 => cases pre <;> cases h

/-- Every text has a reading. -/
theorem reads_pieces (cs : List Char) : Reads cs (pieces cs) where
  spells := flatMap_text_pieces cs
  slot_range _ := slot_range_pieces
  percent_kept _ _ := percent_kept_pieces

theorem Reads.tail {cs : List Char} {p : Piece} {ps : List Piece} (h : Reads cs (p :: ps)) :
    Reads (ps.flatMap Piece.text) ps where
  spells := rfl
  slot_range n hn := h.slot_range n (List.mem_cons_of_mem p hn)
  percent_kept pre post e := h.percent_kept (p :: pre) post (by rw [e]; rfl)

/-- Where one reading keeps `%` as a character, no other reading starts a placeholder. -/
theorem Reads.not_slot_of_char {cs : List Char} {ps qs : List Piece} {m : Nat}
    (hp : Reads cs (Piece.char '%' :: ps)) (hq : Reads cs (Piece.slot m :: qs)) : False := by
  have e := hp.spells.trans hq.spells.symm
  simp only [List.flatMap_cons, Piece.text, List.cons_append, List.nil_append,
    List.cons.injEq, true_and] at e
  have hd := isDigit_digit (hq.slot_range m List.mem_cons_self).1
    (hq.slot_range m List.mem_cons_self).2
  exact hp.percent_kept [] ps rfl (digit m) (by rw [e]; rfl) hd

/-- Two readings of one text start with the same piece. -/
theorem Reads.head_eq {cs : List Char} {p q : Piece} {ps qs : List Piece}
    (hp : Reads cs (p :: ps)) (hq : Reads cs (q :: qs)) : p = q := by
  have e := hp.spells.trans hq.spells.symm
  cases p with
  | char a =>
    cases q with
    | char b =>
      obtain rfl : a = b := by simpa [Piece.text] using (List.cons.inj e).1
      rfl
    | slot m =>
      obtain rfl : a = '%' := by simpa [Piece.text] using (List.cons.inj e).1
      exact (hp.not_slot_of_char hq).elim
  | slot n =>
    cases q with
    | char b =>
      obtain rfl : b = '%' := by simpa [Piece.text] using (List.cons.inj e).1.symm
      exact (hq.not_slot_of_char hp).elim
    | slot m =>
      simp only [List.flatMap_cons, Piece.text, List.cons_append, List.cons.injEq,
        true_and] at e
      rw [digit_inj (hp.slot_range n List.mem_cons_self).2 (hq.slot_range m List.mem_cons_self).2
        e.1]

/-- A text has one reading. -/
theorem Reads.unique {cs : List Char} {ps qs : List Piece} (hp : Reads cs ps) (hq : Reads cs qs) :
    ps = qs := by
  induction ps generalizing cs qs with
  | nil =>
    cases qs with
    | nil => rfl
    | cons q qs =>
      have e := hq.spells.trans hp.spells.symm
      simp [q.text_ne_nil] at e
  | cons p ps ih =>
    cases qs with
    | nil =>
      have e := hp.spells.trans hq.spells.symm
      simp [p.text_ne_nil] at e
    | cons q qs =>
      obtain rfl := hp.head_eq hq
      have e : ps.flatMap Piece.text = qs.flatMap Piece.text :=
        List.append_cancel_left (hp.spells.trans hq.spells.symm)
      rw [ih hp.tail (e ▸ hq.tail)]

/-! ## What the two scanners find -/

/-- The replacement loop maps each piece of the reading to its value. -/
theorem fill_eq_flatMap_value (captures : List String) (escape : Bool) (cs : List Char) :
    fill captures escape cs = (pieces cs).flatMap (Piece.value captures escape) := by
  fun_induction pieces cs with
  | case1 d rest hd ih =>
    rw [fill, if_pos hd, ih]
    -- the capture is read with a default in the loop, and with a bound check in `value`
    by_cases h : d.toNat - 48 < captures.length <;>
      simp [Piece.value, List.getD_eq_getElem?_getD, h]
  | case2 d rest hd ih =>
    rw [fill, if_neg hd, ih]
    rfl
  | case3 c rest hne ih =>
    rw [fill.eq_2 _ _ _ _ hne, ih]
    rfl
  | case4 => rfl

/-- The byte scan finds the placeholders of the reading, in order. -/
theorem windowScan_pieces (cs : List Char) :
    windowScan (cs.flatMap String.utf8EncodeChar) = (pieces cs).filterMap Piece.number? := by
  fun_induction pieces cs with
  | case1 d rest hd ih =>
    have hne : d ≠ '%' := by rintro rfl; simp at hd
    rw [List.flatMap_cons, List.flatMap_cons, utf8EncodeChar_percent, List.singleton_append,
      windowScan_percent_utf8EncodeChar, if_pos hd, windowScan_utf8EncodeChar_append hne, ih]
    rfl
  | case2 d rest hd ih =>
    rw [List.flatMap_cons, utf8EncodeChar_percent, List.singleton_append, List.flatMap_cons,
      windowScan_percent_utf8EncodeChar, if_neg hd, List.nil_append, ← List.flatMap_cons, ih]
    rfl
  | case3 c rest hne ih =>
    by_cases hc : c = '%'
    · -- a `%` that is not followed by anything
      subst hc
      cases rest with
      | nil => rfl
      | cons d rest => exact (hne d rest rfl rfl).elim
    · rw [List.flatMap_cons, windowScan_utf8EncodeChar_append hc, ih]
      rfl
  | case4 => rfl

/-- The placeholders found on the bytes of a text are those of its reading. -/
theorem numbers_eq_filterMap (t : String) :
    numbers t = (pieces t.toList).filterMap Piece.number? := by
  rw [numbers_eq_windowScan, windowScan_pieces]

/-! ## The highest placeholder -/

/-- Placeholder `n` occurs in the text `t`: a `%` directly followed by the digit `n`, 1 to 9. -/
def Occurs (t : String) (n : Nat) : Prop := 1 ≤ n ∧ n ≤ 9 ∧ ['%', digit n] <:+: t.toList

/-- `%` and `x` occur in `c :: rest` at its start or further on. -/
theorem percent_infix_cons_iff {x c : Char} {rest : List Char} :
    ['%', x] <:+: c :: rest ↔ (c = '%' ∧ rest.head? = some x) ∨ ['%', x] <:+: rest := by
  rw [List.infix_cons_iff, List.cons_prefix_cons, @eq_comm _ '%' c]
  cases rest with
  | nil => simp
  | cons d rest => simp [@eq_comm _ x d]

/-- Placeholder `n` is a piece of the reading exactly when `%n` occurs in the text. -/
theorem slot_mem_pieces_iff {cs : List Char} {n : Nat} :
    Piece.slot n ∈ pieces cs ↔ 1 ≤ n ∧ n ≤ 9 ∧ ['%', digit n] <:+: cs := by
  fun_induction pieces cs with
  | case1 d rest hd ih =>
    -- `%d` is placeholder `d - 48`, and the digit `d` starts no occurrence of its own
    have hne : d ≠ '%' := by rintro rfl; simp at hd
    simp only [List.mem_cons, Piece.slot.injEq, ih, percent_infix_cons_iff, hne, false_and,
      false_or, List.head?_cons, Option.some.injEq, true_and]
    have hd' := isDigit_iff.1 hd
    constructor
    · rintro (rfl | ⟨h1, h9, hr⟩)
      · exact ⟨by omega, by omega, .inl (digit_toNat_sub hd).symm⟩
      · exact ⟨h1, h9, .inr hr⟩
    · rintro ⟨h1, h9, hdn | hr⟩
      · left
        rw [hdn, toNat_digit (by omega)]
        omega
      · exact .inr ⟨h1, h9, hr⟩
  | case2 d rest hd ih =>
    -- the kept `%` is followed by a non-digit, never by the digit of a placeholder
    simp only [List.mem_cons, reduceCtorEq, false_or, ih, percent_infix_cons_iff, true_and,
      List.head?_cons, Option.some.injEq]
    constructor
    · rintro ⟨h1, h9, hr⟩
      exact ⟨h1, h9, .inr hr⟩
    · rintro ⟨h1, h9, hdn | hr⟩
      · exact absurd (hdn ▸ isDigit_digit h1 h9) hd
      · exact ⟨h1, h9, hr⟩
  | case3 c rest hne ih =>
    -- `c` starts no occurrence: it is not `%`, or nothing follows it
    have hstart : ¬ (c = '%' ∧ rest.head? = some (digit n)) := by
      rintro ⟨rfl, h⟩
      cases rest with
      | nil => cases h
      | cons d rest => exact hne d rest rfl rfl
    simp only [List.mem_cons, reduceCtorEq, false_or, ih, percent_infix_cons_iff, hstart]
  | case4 => simp

/-- The byte scan finds exactly the placeholders that occur in the text. -/
theorem mem_numbers_iff {t : String} {n : Nat} : n ∈ numbers t ↔ Occurs t n := by
  rw [numbers_eq_filterMap, List.mem_filterMap, Occurs, ← slot_mem_pieces_iff]
  constructor
  · rintro ⟨p, hp, hn⟩
    cases p with
    | char c => cases hn
    | slot m =>
      cases hn
      exact hp
  · intro h
    exact ⟨_, h, rfl⟩

/-- The highest placeholder is the greatest one that occurs, and 0 when none does. -/
theorem highest_isGreatest (t : String) :
    IsGreatest {n | Occurs t n} (highest t) ∨ highest t = 0 ∧ ∀ n, ¬ Occurs t n := by
  unfold highest
  cases h : (numbers t).max? with
  | none =>
    rw [List.max?_eq_none_iff] at h
    refine .inr ⟨rfl, fun n hn => ?_⟩
    have hmem := mem_numbers_iff.2 hn
    rw [h] at hmem
    cases hmem
  | some m =>
    rw [List.max?_eq_some_iff] at h
    exact .inl ⟨mem_numbers_iff.1 h.1, fun n hn => h.2 n (mem_numbers_iff.2 hn)⟩

example : highest "%1 and %3" = 3 ∧ highest "100%" = 0 ∧ highest "%0" = 0 := by decide

theorem highest_eq_zero_iff {t : String} : highest t = 0 ↔ numbers t = [] := by
  constructor
  · intro h0
    rw [List.eq_nil_iff_forall_not_mem]
    intro n hn
    have hle : n ≤ highest t := List.le_max?_getD_of_mem hn
    have hpos := (mem_numbers_iff.1 hn).1
    omega
  · intro h
    simp [highest, h]

/-! ## Substitution -/

/-- Pieces without placeholders are worth what they spell. -/
theorem flatMap_value_eq_text {ps : List Piece} (h : ps.filterMap Piece.number? = [])
    (captures : List String) (escape : Bool) :
    ps.flatMap (Piece.value captures escape) = ps.flatMap Piece.text := by
  induction ps with
  | nil => rfl
  | cons p ps ih =>
    cases p with
    | char c =>
      simp only [List.filterMap_cons, Piece.number?] at h
      simp [Piece.value, Piece.text, ih h]
    | slot n => simp [Piece.number?] at h

/-- Without placeholders the replacement loop gives the text back. -/
theorem fill_of_highest_eq_zero {t : String} (h : highest t = 0) (captures : List String)
    (escape : Bool) : fill captures escape t.toList = t.toList := by
  have hnone := highest_eq_zero_iff.1 h
  rw [numbers_eq_filterMap] at hnone
  rw [fill_eq_flatMap_value, flatMap_value_eq_text hnone, flatMap_text_pieces]

/-- Substituting is running the replacement loop: the shortcut for a template without
placeholders returns what the loop would. -/
theorem substitute_eq_fill (t : String) (captures : List String) (escape : Bool) :
    substitute t captures escape = String.ofList (fill captures escape t.toList) := by
  unfold substitute
  split
  · rename_i h
    rw [fill_of_highest_eq_zero h, String.ofList_toList]
  · rfl

example :
    substitute "x%2y" ["whole"] false = "xy" ∧ substitute "%1" ["", "a.b"] true = "a\\.b" := by
  decide

/-- Placeholders are found and filled alike: the highest placeholder of a template is the
greatest `N` such that `%N` occurs in it, 0 when none does; the template has one left-to-right
reading, the placeholders found on its bytes are those of the reading, and substitution maps
each piece of the reading to its value; and taking the template as it is when it has no
placeholder gives what the replacement loop gives. -/
theorem scan_and_substitute_agree (t : String) (captures : List String) (escape : Bool) :
    (IsGreatest {n | Occurs t n} (highest t) ∨ highest t = 0 ∧ ∀ n, ¬ Occurs t n) ∧
    (∃! ps, Reads t.toList ps) ∧
    (∀ ps, Reads t.toList ps →
      numbers t = ps.filterMap Piece.number? ∧
      substitute t captures escape = String.ofList (ps.flatMap (Piece.value captures escape))) ∧
    substitute t captures escape = String.ofList (fill captures escape t.toList) := by
  refine ⟨highest_isGreatest t,
    ⟨pieces t.toList, reads_pieces _, fun ps h => h.unique (reads_pieces _)⟩, ?_,
    substitute_eq_fill t captures escape⟩
  intro ps h
  obtain rfl := (reads_pieces t.toList).unique h
  rw [substitute_eq_fill, fill_eq_flatMap_value]
  exact ⟨numbers_eq_filterMap t, rfl⟩

end Highlight.Placeholder

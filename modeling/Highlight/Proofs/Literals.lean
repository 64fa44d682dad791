import Highlight.Proofs.HitBounds
import Mathlib.Computability.Language
/-!
# The literal scanners find longest prefixes

Each literal scanner reads the characters from a column on and reports how many of them form the
literal there. Written as languages over characters (digits are ASCII digits):

* integers, `[0-9]+`;
* floating-point numbers, digits around a point with at least one digit, or digits with an
  exponent, each with an optional exponent `[eE][+-]?[0-9]+`;
* octal literals, `0[0-7]+[lLuU]*`, and hexadecimal ones, `0[xX][0-9a-fA-F]+[lLuU]*`;
* backslash escapes, `\` then one of `abefnrtv"'?\`, or `x` and hexadecimal digits, or one to
  three octal digits;
* character literals, an escape or one character other than a quote and a backslash, between
  single quotes.

Every scanner reports the length of the longest prefix in its language, and nothing exactly when
no non-empty prefix is in it (`scanners_longest`). The matcher gives each scanner the rest of the
line from a column, so this holds at every column of every line.

A scanner is shown to find longest prefixes from two facts (`Scans.of_sound_complete`): what it
reports is a prefix in the language (soundness), and it reports at least the length of every
prefix in the language (completeness). Completeness takes a prefix apart as its language says and
follows the scanner through it: a run of digits read greedily is at least as long as the digits of
the prefix, and exactly as long when the prefix goes on with a character that is no digit.
-/

namespace Highlight.Literal

open Language Computability

/-! ## Languages of literals -/

/-- The words of one character satisfying `p`. -/
def oneOf (p : Char → Bool) : Language Char := {w | ∃ c, p c = true ∧ w = [c]}

/-- One or more words of `L`, one after another. -/
def plus (L : Language Char) : Language Char := L * L∗

/-- A word of `L`, or nothing. -/
def opt (L : Language Char) : Language Char := 1 + L

/-- Whether `c` is `e` or `E`. -/
def isExpMark (c : Char) : Bool := c == 'e' || c == 'E'

/-- Whether `c` is a sign. -/
def isSign (c : Char) : Bool := c == '+' || c == '-'

/-- `[0-9]+` -/
def intLang : Language Char := plus (oneOf isDecimal)

/-- `[eE][+-]?[0-9]+` -/
def expLang : Language Char := oneOf isExpMark * opt (oneOf isSign) * plus (oneOf isDecimal)

/-- Words with a decimal digit. -/
def withDigit : Language Char := {w | ∃ c ∈ w, isDecimal c = true}

/-- `([0-9]*\.[0-9]*` with a digit`)([eE][+-]?[0-9]+)? | [0-9]+[eE][+-]?[0-9]+` -/
def floatLang : Language Char :=
  ((oneOf isDecimal)∗ * oneOf (· == '.') * (oneOf isDecimal)∗ ⊓ withDigit) * opt expLang +
    plus (oneOf isDecimal) * expLang

/-- `0[0-7]+[lLuU]*` -/
def octalLang : Language Char :=
  oneOf (· == '0') * plus (oneOf isOctal) * (oneOf isIntSuffix)∗

/-- `0[xX][0-9a-fA-F]+[lLuU]*` -/
def hexLang : Language Char :=
  oneOf (· == '0') * oneOf (fun c => c == 'x' || c == 'X') * plus (oneOf isHex) *
    (oneOf isIntSuffix)∗

/-- A backslash, then a one-letter escape, `x` and hexadecimal digits, or one to three octal
digits. -/
def escapeLang : Language Char :=
  oneOf (· == '\\') * (oneOf simpleEscapes.contains + oneOf (· == 'x') * plus (oneOf isHex) +
    oneOf isOctal * opt (oneOf isOctal) * opt (oneOf isOctal))

/-- A character literal: an escape, or a character other than a quote and a backslash, between
single quotes. -/
def charLang : Language Char :=
  oneOf (· == '\'') * (escapeLang + oneOf (fun c => c != '\'' && c != '\\')) * oneOf (· == '\'')

/-! ## Longest prefixes -/

/-- `n` is the length of the longest prefix of `cs` in `L`. -/
def LongestPrefix (L : Language Char) (cs : List Char) (n : Nat) : Prop :=
  n ≤ cs.length ∧ cs.take n ∈ L ∧ ∀ m ≤ cs.length, cs.take m ∈ L → m ≤ n

/-- `scan` reports the length of the longest prefix in `L`, and nothing exactly when no non-empty
prefix is in `L`. -/
structure Scans (scan : List Char → Option Nat) (L : Language Char) : Prop where
  some_iff : ∀ cs n, scan cs = some n ↔ LongestPrefix L cs n
  none_iff : ∀ cs, scan cs = none ↔ ∀ m, 0 < m → m ≤ cs.length → cs.take m ∉ L

/-- A scanner finds longest prefixes in a language without the empty word when it reports prefixes
in the language, and reports at least the length of every prefix in the language. -/
theorem Scans.of_sound_complete {scan : List Char → Option Nat} {L : Language Char}
    (hnil : [] ∉ L) (sound : ∀ cs n, scan cs = some n → cs.take n ∈ L)
    (within : Within scan)
    (complete : ∀ u v, u ∈ L → ∃ n, scan (u ++ v) = some n ∧ u.length ≤ n) :
    Scans scan L := by
  -- every prefix in the language is found by the scan, with at least its length
  have reach :
      ∀ cs m, m ≤ cs.length → cs.take m ∈ L → ∃ n, scan cs = some n ∧ m ≤ n := by
    intro cs m hm hmem
    obtain ⟨n, hn, hle⟩ := complete (cs.take m) (cs.drop m) hmem
    rw [List.take_append_drop] at hn
    exact ⟨n, hn, by rwa [List.length_take_of_le hm] at hle⟩
  refine ⟨fun cs n =>
    ⟨fun h => ⟨within cs n h, sound cs n h, fun m hm hmem => ?_⟩, ?_⟩, ?_⟩
  · obtain ⟨n', hn', hle⟩ := reach cs m hm hmem
    rw [h] at hn'
    cases hn'
    exact hle
  · rintro ⟨hn, hmem, hmax⟩
    obtain ⟨n', hn', hle⟩ := reach cs n hn hmem
    rw [hn', Nat.le_antisymm (hmax n' (within cs n' hn') (sound cs n' hn')) hle]
  · intro cs
    constructor
    · intro h m _ hm hmem
      obtain ⟨n, hn, _⟩ := reach cs m hm hmem
      rw [h] at hn
      cases hn
    · intro h
      cases hs : scan cs with
      | none => rfl
      | some n =>
        have hmem := sound cs n hs
        have hn : 0 < n := by
          rcases Nat.eq_zero_or_pos n with rfl | hn
          · exact absurd (List.take_zero ▸ hmem) hnil
          · exact hn
        exact absurd hmem (h n hn (within cs n hs))

/-! ## Words of the languages -/

theorem mem_kstar_oneOf {p : Char → Bool} {w : List Char} :
    w ∈ (oneOf p)∗ ↔ ∀ c ∈ w, p c = true := by
  rw [mem_kstar]
  constructor
  · rintro ⟨L, rfl, hL⟩ c hc
    obtain ⟨y, hy, hcy⟩ := List.mem_flatten.1 hc
    obtain ⟨d, hd, rfl⟩ := hL y hy
    rwa [List.mem_singleton.1 hcy]
  · intro h
    refine ⟨w.map ([·]), by rw [← List.flatMap_def]; simp, ?_⟩
    simp only [List.mem_map]
    rintro _ ⟨c, hc, rfl⟩
    exact ⟨c, h c hc, rfl⟩

theorem mem_plus_oneOf {p : Char → Bool} {w : List Char} :
    w ∈ plus (oneOf p) ↔ w ≠ [] ∧ ∀ c ∈ w, p c = true := by
  unfold plus
  rw [mem_mul]
  constructor
  · rintro ⟨_, ⟨c, hc, rfl⟩, b, hb, rfl⟩
    refine ⟨List.cons_ne_nil c b, fun x hx => ?_⟩
    rcases List.mem_cons.1 hx with rfl | hx
    · exact hc
    · exact mem_kstar_oneOf.1 hb x hx
  · rintro ⟨hne, h⟩
    obtain ⟨c, t, rfl⟩ := List.exists_cons_of_ne_nil hne
    exact ⟨[c], ⟨c, h c List.mem_cons_self, rfl⟩, t,
      mem_kstar_oneOf.2 fun x hx => h x (List.mem_cons_of_mem c hx), rfl⟩

theorem mem_opt {L : Language Char} {w : List Char} : w ∈ opt L ↔ w = [] ∨ w ∈ L := by
  unfold opt
  rw [mem_add, mem_one]

theorem singleton_mem_oneOf {p : Char → Bool} {c : Char} (h : p c = true) : [c] ∈ oneOf p :=
  ⟨c, h, rfl⟩

theorem nil_mem_opt (L : Language Char) : [] ∈ opt L :=
  mem_opt.2 (.inl rfl)

theorem mem_opt_of {L : Language Char} {w : List Char} (h : w ∈ L) : w ∈ opt L :=
  mem_opt.2 (.inr h)

/-! ## Characters that end a run -/

theorem isDecimal_of_isExpMark {c : Char} (h : isExpMark c = true) : isDecimal c = false := by
  simp only [isExpMark, Bool.or_eq_true, beq_iff_eq] at h
  rcases h with rfl | rfl <;> rfl

theorem isDecimal_of_isSign {c : Char} (h : isSign c = true) : isDecimal c = false := by
  simp only [isSign, Bool.or_eq_true, beq_iff_eq] at h
  rcases h with rfl | rfl <;> rfl

theorem isOctal_of_isIntSuffix {c : Char} (h : isIntSuffix c = true) : isOctal c = false := by
  simp only [isIntSuffix, Bool.or_eq_true, beq_iff_eq] at h
  rcases h with ((rfl | rfl) | rfl) | rfl <;> rfl

theorem isHex_of_isIntSuffix {c : Char} (h : isIntSuffix c = true) : isHex c = false := by
  simp only [isIntSuffix, Bool.or_eq_true, beq_iff_eq] at h
  rcases h with ((rfl | rfl) | rfl) | rfl <;> rfl

/-- An octal digit is neither a one-letter escape nor `x`. -/
theorem not_simpleEscape_of_isOctal {c : Char} (h : isOctal c = true) :
    simpleEscapes.contains c = false ∧ c ≠ 'x' := by
  have hnone : ∀ e ∈ simpleEscapes, isOctal e = false := by simp [simpleEscapes, isOctal]
  constructor
  · rw [Bool.eq_false_iff]
    intro hc
    rw [hnone c (List.contains_iff_mem.1 hc)] at h
    cases h
  · rintro rfl
    exact absurd h (by decide)

/-! ## Runs -/

theorem runLength_append {p : Char → Bool} {u : List Char} (hu : ∀ c ∈ u, p c = true)
    (v : List Char) : runLength p (u ++ v) = u.length + runLength p v := by
  simp [runLength, List.takeWhile_append_of_pos hu]

theorem runLength_cons_of_false {p : Char → Bool} {c : Char} (hc : p c = false) (v : List Char) :
    runLength p (c :: v) = 0 := by
  simp [runLength, List.takeWhile_cons_of_neg (by simp [hc] : ¬p c = true)]

/-- A run read greedily is at least as long as the run the text starts with. -/
theorem le_runLength {p : Char → Bool} {u : List Char} (hu : ∀ c ∈ u, p c = true)
    (v : List Char) : u.length ≤ runLength p (u ++ v) := by
  rw [runLength_append hu]
  omega

/-- A run read greedily stops at the first character outside it. -/
theorem runLength_append_cons {p : Char → Bool} {u : List Char} (hu : ∀ c ∈ u, p c = true)
    {c : Char} (hc : p c = false) (v : List Char) : runLength p (u ++ c :: v) = u.length := by
  rw [runLength_append hu, runLength_cons_of_false hc, Nat.add_zero]

theorem all_take_runLength (p : Char → Bool) (cs : List Char) :
    ∀ c ∈ cs.take (runLength p cs), p c = true := by
  rw [runLength, ← List.prefix_iff_eq_take.1 (List.takeWhile_prefix p)]
  exact List.all_eq_true.1 List.all_takeWhile

theorem take_runLength_eq_nil_iff (p : Char → Bool) (cs : List Char) :
    cs.take (runLength p cs) = [] ↔ runLength p cs = 0 := by
  rw [List.take_eq_nil_iff]
  constructor
  · rintro (h | rfl)
    · exact h
    · rfl
  · exact .inl

/-- The run read greedily from a text is a word of the run's language when it is not empty. -/
theorem take_runLength_mem_plus (p : Char → Bool) {cs : List Char} (h : 0 < runLength p cs) :
    cs.take (runLength p cs) ∈ plus (oneOf p) :=
  mem_plus_oneOf.2 ⟨fun hnil => absurd ((take_runLength_eq_nil_iff p cs).1 hnil) h.ne',
    all_take_runLength p cs⟩

theorem nil_not_mem_oneOf {p : Char → Bool} : [] ∉ oneOf p := by
  rintro ⟨c, -, h⟩
  cases h

/-- A concatenation whose first part has no empty word has none. -/
theorem nil_not_mem_mul {L M : Language Char} (h : [] ∉ L) : [] ∉ L * M := by
  intro hm
  obtain ⟨a, ha, b, -, hab⟩ := mem_mul.1 hm
  exact h ((List.append_eq_nil_iff.1 hab).1 ▸ ha)

theorem nil_not_mem_plus {p : Char → Bool} : [] ∉ plus (oneOf p) :=
  nil_not_mem_mul nil_not_mem_oneOf

/-! ## Integers -/

theorem int_sound (cs : List Char) (n : Nat) (h : int cs = some n) : cs.take n ∈ intLang := by
  unfold int at h
  dsimp only at h
  split at h
  · next hpos =>
    cases h
    exact take_runLength_mem_plus isDecimal hpos
  · cases h

theorem int_complete (u v : List Char) (hu : u ∈ intLang) :
    ∃ n, int (u ++ v) = some n ∧ u.length ≤ n := by
  obtain ⟨hne, hall⟩ := mem_plus_oneOf.1 hu
  have hle := le_runLength hall v
  have hpos : 0 < runLength isDecimal (u ++ v) :=
    Nat.lt_of_lt_of_le (List.length_pos_iff.2 hne) hle
  exact ⟨_, by simp [int, hpos], hle⟩

theorem int_scans : Scans int intLang :=
  Scans.of_sound_complete nil_not_mem_plus int_sound int_within int_complete

/-! ## Exponents -/

/-- The length of the sign a text starts with: one for `+` or `-`, else none. -/
def signLength : List Char → Nat
  | s :: _ => if isSign s then 1 else 0
  | [] => 0

theorem exponent_cons (c : Char) (rest : List Char) :
    exponent (c :: rest) = if isExpMark c then
      (if 0 < runLength isDecimal (rest.drop (signLength rest)) then
        some (1 + signLength rest + runLength isDecimal (rest.drop (signLength rest))) else none)
      else none := by
  cases rest <;> rfl

/-- The sign read at the front of a text is a word of the optional sign. -/
theorem take_signLength_mem (rest : List Char) :
    rest.take (signLength rest) ∈ opt (oneOf isSign) := by
  rw [mem_opt]
  cases rest with
  | nil => exact .inl rfl
  | cons s t =>
    by_cases hs : isSign s = true
    · exact .inr ⟨s, hs, by simp [signLength, hs]⟩
    · exact .inl (by simp [signLength, hs])

theorem exponent_sound (cs : List Char) (n : Nat) (h : exponent cs = some n) :
    cs.take n ∈ expLang := by
  cases cs with
  | nil => cases h
  | cons c rest =>
    rw [exponent_cons] at h
    split at h
    · next hc =>
      split at h
      · next hpos =>
        cases h
        rw [show 1 + signLength rest + runLength isDecimal (rest.drop (signLength rest)) =
            (signLength rest + runLength isDecimal (rest.drop (signLength rest))) + 1 by omega,
          List.take_succ_cons, List.take_add]
        exact append_mem_mul (append_mem_mul (singleton_mem_oneOf hc) (take_signLength_mem rest))
          (take_runLength_mem_plus isDecimal hpos)
      · cases h
    · cases h

theorem exponent_complete (u v : List Char) (hu : u ∈ expLang) :
    ∃ n, exponent (u ++ v) = some n ∧ u.length ≤ n := by
  obtain ⟨_, ⟨_, ⟨e, he, rfl⟩, s, hs, rfl⟩, d, hd, rfl⟩ := mem_mul.1 hu
  obtain ⟨hne, hall⟩ := mem_plus_oneOf.1 hd
  -- the sign the scanner reads is the sign of the word: a digit is no sign
  have hsign : signLength (s ++ d ++ v) = s.length := by
    rcases mem_opt.1 hs with rfl | ⟨c, hc, rfl⟩
    · obtain ⟨d₀, d', rfl⟩ := List.exists_cons_of_ne_nil hne
      have : isSign d₀ = false := by
        cases hsd : isSign d₀
        · rfl
        · exact absurd (hall d₀ List.mem_cons_self) (by rw [isDecimal_of_isSign hsd]; decide)
      simp [signLength, this]
    · simp [signLength, hc]
  have hdrop : (s ++ d ++ v).drop s.length = d ++ v := by
    rw [List.append_assoc, List.drop_left]
  have hle := le_runLength hall v
  have hpos : 0 < runLength isDecimal (d ++ v) := Nat.lt_of_lt_of_le (List.length_pos_iff.2 hne) hle
  refine ⟨1 + s.length + runLength isDecimal (d ++ v), ?_, ?_⟩
  · show exponent (e :: (s ++ d ++ v)) = _
    rw [exponent_cons, if_pos he, hsign, hdrop, if_pos hpos]
  · show (e :: (s ++ d)).length ≤ _
    simp only [List.length_append, List.length_cons]
    omega

theorem exponent_scans : Scans exponent expLang :=
  Scans.of_sound_complete (nil_not_mem_mul (nil_not_mem_mul nil_not_mem_oneOf)) exponent_sound
    exponent_within exponent_complete

/-- An exponent starts with its mark. -/
theorem exists_mark_of_mem_expLang {x : List Char} (hx : x ∈ expLang) :
    ∃ e t, x = e :: t ∧ isExpMark e = true := by
  obtain ⟨_, ⟨_, ⟨e, he, rfl⟩, s, -, rfl⟩, d, -, rfl⟩ := mem_mul.1 hx
  exact ⟨e, s ++ d, rfl, he⟩

/-! ## Floating-point numbers -/

/-- Digits, a point and digits, with a digit somewhere. -/
theorem mem_pointed_iff {y : List Char} :
    y ∈ (oneOf isDecimal)∗ * oneOf (· == '.') * (oneOf isDecimal)∗ ⊓ withDigit ↔
      ∃ a b, y = a ++ '.' :: b ∧ (∀ c ∈ a, isDecimal c = true) ∧
        (∀ c ∈ b, isDecimal c = true) ∧ (a ≠ [] ∨ b ≠ []) := by
  constructor
  · rintro ⟨hy, ⟨c, hc, hcd⟩⟩
    obtain ⟨_, ⟨a, ha, _, ⟨p, hp, rfl⟩, rfl⟩, b, hb, rfl⟩ := mem_mul.1 hy
    rw [beq_iff_eq.1 hp] at hc ⊢
    refine ⟨a, b, by simp, mem_kstar_oneOf.1 ha, mem_kstar_oneOf.1 hb, ?_⟩
    -- the digit is not the point, so it is in one of the two runs
    by_contra hnil
    obtain ⟨rfl, rfl⟩ := not_or.1 hnil |>.imp not_not.1 not_not.1
    simp only [List.nil_append, List.append_nil, List.mem_singleton] at hc
    subst hc
    exact absurd hcd (by decide)
  · rintro ⟨a, b, rfl, ha, hb, hab⟩
    have hpoint : ['.'] ∈ oneOf (· == '.') := singleton_mem_oneOf rfl
    have hy := append_mem_mul (append_mem_mul (mem_kstar_oneOf.2 ha) hpoint) (mem_kstar_oneOf.2 hb)
    rw [List.append_assoc, List.singleton_append] at hy
    refine ⟨hy, ?_⟩
    rcases hab with hab | hab
    · obtain ⟨c, t, rfl⟩ := List.exists_cons_of_ne_nil hab
      exact ⟨c, by simp, ha c List.mem_cons_self⟩
    · obtain ⟨c, t, rfl⟩ := List.exists_cons_of_ne_nil hab
      exact ⟨c, by simp, hb c List.mem_cons_self⟩

theorem float_of_point {cs rest : List Char} (h : cs.drop (runLength isDecimal cs) = '.' :: rest) :
    float cs = if runLength isDecimal cs + runLength isDecimal rest = 0 then none
      else some (runLength isDecimal cs + 1 + runLength isDecimal rest +
        (exponent (cs.drop (runLength isDecimal cs + 1 + runLength isDecimal rest))).getD 0) := by
  unfold float
  simp only [h, if_true, Nat.add_right_comm _ 1, Nat.add_sub_cancel, beq_iff_eq]
  split
  · rfl
  · cases exponent (cs.drop (runLength isDecimal cs + runLength isDecimal rest + 1)) <;> rfl

theorem float_of_no_point {cs : List Char}
    (h : ∀ rest, cs.drop (runLength isDecimal cs) ≠ '.' :: rest) :
    float cs = if runLength isDecimal cs = 0 then none
      else (exponent (cs.drop (runLength isDecimal cs))).map (runLength isDecimal cs + ·) := by
  unfold float
  dsimp only
  split
  · next rest hd => exact absurd hd (h rest)
  · simp only [Bool.false_eq_true, if_false, Nat.sub_zero, beq_iff_eq]
    split
    · rfl
    · cases exponent (cs.drop (runLength isDecimal cs)) <;> rfl

theorem float_sound (cs : List Char) (n : Nat) (h : float cs = some n) :
    cs.take n ∈ floatLang := by
  have hdigits := all_take_runLength isDecimal cs
  by_cases hp : ∃ rest, cs.drop (runLength isDecimal cs) = '.' :: rest
  · obtain ⟨rest, hrest⟩ := hp
    rw [float_of_point hrest] at h
    split at h
    · cases h
    · next hdig =>
      cases h
      -- the digits, the point and the digits after it, then the exponent if one was read
      have hy : cs.take (runLength isDecimal cs + 1 + runLength isDecimal rest) =
          cs.take (runLength isDecimal cs) ++ '.' :: rest.take (runLength isDecimal rest) := by
        rw [Nat.add_assoc, List.take_add, hrest, Nat.add_comm 1, List.take_succ_cons]
      have hymem := mem_pointed_iff.2 ⟨_, _, hy, hdigits, all_take_runLength isDecimal rest, by
        rw [Ne, Ne, take_runLength_eq_nil_iff, take_runLength_eq_nil_iff]
        omega⟩
      refine (mem_add _ _ _).2 (.inl (mem_mul.2 ⟨_, hymem, _, ?_, (List.take_add ..).symm⟩))
      rw [mem_opt]
      cases he : exponent (cs.drop (runLength isDecimal cs + 1 + runLength isDecimal rest)) with
      | none => exact .inl (by simp)
      | some e => exact .inr (exponent_sound _ e he)
  · rw [float_of_no_point (fun rest hr => hp ⟨rest, hr⟩)] at h
    split at h
    · cases h
    · next hpos =>
      obtain ⟨e, he, rfl⟩ := Option.map_eq_some_iff.1 h
      rw [List.take_add]
      exact (mem_add _ _ _).2 (.inr (append_mem_mul
        (take_runLength_mem_plus isDecimal (Nat.pos_of_ne_zero hpos)) (exponent_sound _ e he)))

theorem float_complete (u v : List Char) (hu : u ∈ floatLang) :
    ∃ n, float (u ++ v) = some n ∧ u.length ≤ n := by
  rcases (mem_add _ _ _).1 hu with hu | hu
  · obtain ⟨y, hy, x, hx, rfl⟩ := mem_mul.1 hu
    obtain ⟨a, b, rfl, ha, hb, hab⟩ := mem_pointed_iff.1 hy
    -- the scanner reads `a`, the point, and at least `b`
    have hcs : a ++ '.' :: b ++ x ++ v = a ++ '.' :: (b ++ x ++ v) := by simp
    have hwhole : runLength isDecimal (a ++ '.' :: b ++ x ++ v) = a.length := by
      rw [hcs]
      exact runLength_append_cons ha (by decide) _
    have hdrop : (a ++ '.' :: b ++ x ++ v).drop (runLength isDecimal (a ++ '.' :: b ++ x ++ v)) =
        '.' :: (b ++ x ++ v) := by
      rw [hwhole, hcs, List.drop_left]
    have hF := le_runLength hb (x ++ v)
    rw [← List.append_assoc] at hF
    rw [float_of_point hdrop, hwhole, if_neg (by
      rcases hab with hab | hab
      · have := List.length_pos_iff.2 hab
        omega
      · have := List.length_pos_iff.2 hab
        omega)]
    refine ⟨_, rfl, ?_⟩
    rcases mem_opt.1 hx with rfl | hx
    · simp only [List.length_append, List.length_cons, List.length_nil]
      omega
    · -- after an exponent mark the digits stop, and the exponent is read in full
      obtain ⟨e, t, rfl, he⟩ := exists_mark_of_mem_expLang hx
      have hF' : runLength isDecimal (b ++ e :: t ++ v) = b.length := by
        rw [List.append_assoc, List.cons_append]
        exact runLength_append_cons hb (isDecimal_of_isExpMark he) _
      obtain ⟨k, hk, hkle⟩ := exponent_complete _ v hx
      have hrest : (a ++ '.' :: b ++ e :: t ++ v).drop (a.length + 1 + b.length) = e :: t ++ v := by
        rw [hcs, Nat.add_assoc, List.drop_length_add_append, Nat.add_comm, List.drop_succ_cons,
          List.append_assoc, List.drop_left]
      rw [hF', hrest, hk, Option.getD_some]
      simp only [List.length_append, List.length_cons] at hkle ⊢
      omega
  · obtain ⟨a, ha, x, hx, rfl⟩ := mem_mul.1 hu
    obtain ⟨hne, hall⟩ := mem_plus_oneOf.1 ha
    obtain ⟨e, t, rfl, he⟩ := exists_mark_of_mem_expLang hx
    have hwhole : runLength isDecimal (a ++ e :: t ++ v) = a.length := by
      rw [List.append_assoc, List.cons_append]
      exact runLength_append_cons hall (isDecimal_of_isExpMark he) _
    have hdrop : (a ++ e :: t ++ v).drop a.length = e :: t ++ v := by simp
    have hpoint : ∀ rest, (a ++ e :: t ++ v).drop (runLength isDecimal (a ++ e :: t ++ v)) ≠
        '.' :: rest := by
      intro rest h
      rw [hwhole, hdrop, List.cons_append, List.cons.injEq] at h
      rw [h.1] at he
      exact absurd he (by decide)
    obtain ⟨k, hk, hkle⟩ := exponent_complete _ v hx
    rw [float_of_no_point hpoint, hwhole, if_neg (List.length_pos_iff.2 hne).ne', hdrop, hk]
    refine ⟨_, rfl, ?_⟩
    simp only [List.length_append] at hkle ⊢
    omega

theorem float_scans : Scans float floatLang := by
  refine Scans.of_sound_complete ?_ float_sound float_within float_complete
  intro h
  rcases (mem_add _ _ _).1 h with h | h
  · obtain ⟨y, hy, x, -, hyx⟩ := mem_mul.1 h
    obtain ⟨a, b, rfl, -⟩ := mem_pointed_iff.1 hy
    simp at hyx
  · exact nil_not_mem_mul nil_not_mem_plus h

/-! ## Octal and hexadecimal literals -/

/-- Digits of `q`, then integer suffixes. -/
def numberTail (q : Char → Bool) : Language Char := plus (oneOf q) * (oneOf isIntSuffix)∗

theorem octalLang_eq : octalLang = oneOf (· == '0') * numberTail isOctal :=
  mul_assoc _ _ _

theorem hexLang_eq :
    hexLang = oneOf (· == '0') * oneOf (fun c => c == 'x' || c == 'X') * numberTail isHex :=
  mul_assoc _ _ _

/-- Digits read greedily, then suffixes read greedily, form a word of the tail. -/
theorem take_tail_mem {q : Char → Bool} {rest : List Char} (h : 0 < runLength q rest) :
    rest.take (runLength q rest + runLength isIntSuffix (rest.drop (runLength q rest))) ∈
      numberTail q := by
  rw [List.take_add]
  exact append_mem_mul (take_runLength_mem_plus q h) (mem_kstar_oneOf.2 (all_take_runLength _ _))

/-- Digits and suffixes read greedily cover a word of the tail the text starts with, when no
suffix is a digit. -/
theorem tail_complete {q : Char → Bool} (hq : ∀ c, isIntSuffix c = true → q c = false)
    {w : List Char} (hw : w ∈ numberTail q) (v : List Char) :
    0 < runLength q (w ++ v) ∧ w.length ≤
      runLength q (w ++ v) + runLength isIntSuffix ((w ++ v).drop (runLength q (w ++ v))) := by
  obtain ⟨d, hd, s, hs, rfl⟩ := mem_mul.1 hw
  obtain ⟨hne, hall⟩ := mem_plus_oneOf.1 hd
  have hsuf := mem_kstar_oneOf.1 hs
  have hle := le_runLength hall (s ++ v)
  rw [← List.append_assoc] at hle
  refine ⟨Nat.lt_of_lt_of_le (List.length_pos_iff.2 hne) hle, ?_⟩
  cases s with
  | nil =>
    simp only [List.append_nil] at hle ⊢
    omega
  | cons c s' =>
    -- a suffix after the digits ends them, and the suffixes are read from there
    have hrun : runLength q (d ++ c :: s' ++ v) = d.length := by
      rw [List.append_assoc, List.cons_append]
      exact runLength_append_cons hall (hq c (hsuf c List.mem_cons_self)) _
    rw [hrun, List.append_assoc, List.drop_left]
    have := le_runLength hsuf v
    simp only [List.length_append] at this ⊢
    omega

theorem cOctal_sound (cs : List Char) (n : Nat) (h : cOctal cs = some n) :
    cs.take n ∈ octalLang := by
  unfold cOctal at h
  split at h
  · next rest =>
    dsimp only at h
    split at h
    · next hpos =>
      cases h
      rw [octalLang_eq, Nat.add_assoc, Nat.add_comm 1, List.take_succ_cons]
      have hzero : ['0'] ∈ oneOf (· == '0') := singleton_mem_oneOf rfl
      exact append_mem_mul hzero (take_tail_mem hpos)
    · cases h
  · cases h

theorem cOctal_complete (u v : List Char) (hu : u ∈ octalLang) :
    ∃ n, cOctal (u ++ v) = some n ∧ u.length ≤ n := by
  rw [octalLang_eq] at hu
  obtain ⟨_, ⟨z, hz, rfl⟩, w, hw, rfl⟩ := mem_mul.1 hu
  obtain rfl : z = '0' := beq_iff_eq.1 hz
  obtain ⟨hpos, hle⟩ := tail_complete (q := isOctal) (fun _ => isOctal_of_isIntSuffix) hw v
  refine ⟨1 + runLength isOctal (w ++ v) +
    runLength isIntSuffix ((w ++ v).drop (runLength isOctal (w ++ v))), ?_, ?_⟩
  · show cOctal ('0' :: (w ++ v)) = _
    simp only [cOctal, if_pos hpos]
  · simp only [List.singleton_append, List.length_cons]
    omega

theorem cHex_sound (cs : List Char) (n : Nat) (h : cHex cs = some n) : cs.take n ∈ hexLang := by
  unfold cHex at h
  split at h
  · next x rest =>
    split at h
    · next hx =>
      dsimp only at h
      split at h
      · next hpos =>
        cases h
        rw [hexLang_eq, Nat.add_assoc, Nat.add_comm 2, List.take_succ_cons, List.take_succ_cons]
        have hzero : ['0'] ∈ oneOf (· == '0') := singleton_mem_oneOf rfl
        have hmark : [x] ∈ oneOf (fun c => c == 'x' || c == 'X') := singleton_mem_oneOf hx
        exact append_mem_mul (append_mem_mul hzero hmark) (take_tail_mem hpos)
      · cases h
    · cases h
  · cases h

theorem cHex_complete (u v : List Char) (hu : u ∈ hexLang) :
    ∃ n, cHex (u ++ v) = some n ∧ u.length ≤ n := by
  rw [hexLang_eq] at hu
  obtain ⟨_, ⟨_, ⟨z, hz, rfl⟩, _, ⟨x, hx, rfl⟩, rfl⟩, w, hw, rfl⟩ := mem_mul.1 hu
  obtain rfl : z = '0' := beq_iff_eq.1 hz
  obtain ⟨hpos, hle⟩ := tail_complete (q := isHex) (fun _ => isHex_of_isIntSuffix) hw v
  refine ⟨2 + runLength isHex (w ++ v) +
    runLength isIntSuffix ((w ++ v).drop (runLength isHex (w ++ v))), ?_, ?_⟩
  · show cHex ('0' :: x :: (w ++ v)) = _
    simp only [cHex, if_pos hx, if_pos hpos]
  · simp only [List.cons_append, List.nil_append, List.length_cons]
    omega

theorem cOctal_scans : Scans cOctal octalLang :=
  Scans.of_sound_complete (nil_not_mem_mul (nil_not_mem_mul nil_not_mem_oneOf)) cOctal_sound
    cOctal_within cOctal_complete

theorem cHex_scans : Scans cHex hexLang :=
  Scans.of_sound_complete (nil_not_mem_mul (nil_not_mem_mul (nil_not_mem_mul nil_not_mem_oneOf)))
    cHex_sound cHex_within cHex_complete

/-! ## Escapes -/

/-- One to three octal digits. -/
theorem mem_octal3_iff {w : List Char} :
    w ∈ oneOf isOctal * opt (oneOf isOctal) * opt (oneOf isOctal) ↔
      w ≠ [] ∧ w.length ≤ 3 ∧ ∀ c ∈ w, isOctal c = true := by
  constructor
  · rintro ⟨_, ⟨_, ⟨a, ha, rfl⟩, x, hx, rfl⟩, y, hy, rfl⟩
    rcases mem_opt.1 hx with rfl | ⟨b, hb, rfl⟩ <;>
      rcases mem_opt.1 hy with rfl | ⟨c, hc, rfl⟩ <;> simp_all
  · rintro ⟨hne, hlen, hall⟩
    match w, hne, hlen, hall with
    | [a], _, _, hall =>
      have ha : [a] ∈ oneOf isOctal := singleton_mem_oneOf (hall a (by simp))
      exact append_mem_mul (append_mem_mul ha (nil_mem_opt _)) (nil_mem_opt _)
    | [a, b], _, _, hall =>
      have ha : [a] ∈ oneOf isOctal := singleton_mem_oneOf (hall a (by simp))
      have hb : [b] ∈ oneOf isOctal := singleton_mem_oneOf (hall b (by simp))
      exact append_mem_mul (append_mem_mul ha (mem_opt_of hb)) (nil_mem_opt _)
    | [a, b, c], _, _, hall =>
      have ha : [a] ∈ oneOf isOctal := singleton_mem_oneOf (hall a (by simp))
      have hb : [b] ∈ oneOf isOctal := singleton_mem_oneOf (hall b (by simp))
      have hc : [c] ∈ oneOf isOctal := singleton_mem_oneOf (hall c (by simp))
      exact append_mem_mul (append_mem_mul ha (mem_opt_of hb)) (mem_opt_of hc)

theorem cStringChar_sound (cs : List Char) (n : Nat) (h : cStringChar cs = some n) :
    cs.take n ∈ escapeLang := by
  unfold cStringChar at h
  split at h
  · next c rest =>
    have hslash : ['\\'] ∈ oneOf (· == '\\') := singleton_mem_oneOf rfl
    split at h
    · next hc =>
      cases h
      exact append_mem_mul hslash
        ((mem_add _ _ _).2 (.inl ((mem_add _ _ _).2 (.inl (singleton_mem_oneOf hc)))))
    · split at h
      · next hx =>
        dsimp only at h
        split at h
        · next hpos =>
          cases h
          rw [beq_iff_eq.1 hx, Nat.add_comm 2, List.take_succ_cons, List.take_succ_cons]
          have hmark : ['x'] ∈ oneOf (· == 'x') := singleton_mem_oneOf rfl
          have hhex := append_mem_mul hmark (take_runLength_mem_plus isHex hpos)
          exact append_mem_mul hslash ((mem_add _ _ _).2 (.inl ((mem_add _ _ _).2 (.inr hhex))))
        · cases h
      · split at h
        · next hoct =>
          cases h
          -- up to three of the octal digits read greedily
          have hrun : 0 < runLength isOctal (c :: rest) := by
            rw [runLength, List.takeWhile_cons_of_pos hoct, List.length_cons]
            exact Nat.succ_pos _
          rw [Nat.add_comm 1, List.take_succ_cons]
          refine append_mem_mul hslash
            ((mem_add _ _ _).2 (.inr (mem_octal3_iff.2 ⟨?_, ?_, ?_⟩)))
          · simp only [ne_eq, List.take_eq_nil_iff, reduceCtorEq, or_false]
            omega
          · rw [List.length_take]
            omega
          · intro x hx
            rw [← List.take_take] at hx
            exact all_take_runLength isOctal (c :: rest) x (List.mem_of_mem_take hx)
        · cases h
  · cases h

theorem cStringChar_complete (u v : List Char) (hu : u ∈ escapeLang) :
    ∃ n, cStringChar (u ++ v) = some n ∧ u.length ≤ n := by
  obtain ⟨_, ⟨z, hz, rfl⟩, w, hw, rfl⟩ := mem_mul.1 hu
  obtain rfl : z = '\\' := beq_iff_eq.1 hz
  rcases (mem_add _ _ _).1 hw with hw | hw
  · rcases (mem_add _ _ _).1 hw with ⟨c, hc, rfl⟩ | hw
    · -- a one-letter escape
      refine ⟨2, ?_, le_refl _⟩
      show cStringChar ('\\' :: c :: v) = _
      simp only [cStringChar, hc, if_true]
    · -- `x` and hexadecimal digits
      obtain ⟨_, ⟨x, hx, rfl⟩, h, hh, rfl⟩ := mem_mul.1 hw
      obtain rfl : x = 'x' := beq_iff_eq.1 hx
      obtain ⟨hne, hall⟩ := mem_plus_oneOf.1 hh
      have hle := le_runLength hall v
      have hpos := Nat.lt_of_lt_of_le (List.length_pos_iff.2 hne) hle
      refine ⟨2 + runLength isHex (h ++ v), ?_, ?_⟩
      · show cStringChar ('\\' :: 'x' :: (h ++ v)) = _
        simp [cStringChar, simpleEscapes, hpos]
      · simp only [List.singleton_append, List.length_cons]
        omega
  · -- one to three octal digits
    obtain ⟨hne, hlen, hall⟩ := mem_octal3_iff.1 hw
    obtain ⟨c, t, rfl⟩ := List.exists_cons_of_ne_nil hne
    obtain ⟨hsimple, hx⟩ := not_simpleEscape_of_isOctal (hall c List.mem_cons_self)
    have hle := le_runLength hall v
    refine ⟨1 + min 3 (runLength isOctal (c :: t ++ v)), ?_, ?_⟩
    · have hx' : (c == 'x') = false := beq_false_of_ne hx
      show cStringChar ('\\' :: c :: (t ++ v)) = _
      simp only [cStringChar, hsimple, hx', hall c List.mem_cons_self, Bool.false_eq_true, if_false,
        if_true, List.cons_append]
    · simp only [List.singleton_append, List.length_cons] at hle hlen ⊢
      omega

theorem cStringChar_scans : Scans cStringChar escapeLang :=
  Scans.of_sound_complete (nil_not_mem_mul nil_not_mem_oneOf) cStringChar_sound cStringChar_within
    cStringChar_complete

/-- An escape has at least two characters, and after the first two only hexadecimal digits. -/
theorem escape_tail_digits {u : List Char} (hu : u ∈ escapeLang) :
    2 ≤ u.length ∧ ∀ c ∈ u.drop 2, isHex c = true := by
  obtain ⟨_, ⟨z, -, rfl⟩, w, hw, rfl⟩ := mem_mul.1 hu
  rcases (mem_add _ _ _).1 hw with hw | hw
  · rcases (mem_add _ _ _).1 hw with ⟨c, -, rfl⟩ | hw
    · simp
    · obtain ⟨_, ⟨x, -, rfl⟩, h, hh, rfl⟩ := mem_mul.1 hw
      obtain ⟨-, hall⟩ := mem_plus_oneOf.1 hh
      exact ⟨by simp, by simpa using hall⟩
  · obtain ⟨hne, -, hall⟩ := mem_octal3_iff.1 hw
    obtain ⟨c, t, rfl⟩ := List.exists_cons_of_ne_nil hne
    refine ⟨by simp, fun x hx => ?_⟩
    have hoct := hall x (List.mem_cons_of_mem c (by simpa using hx))
    simp only [isOctal, isHex, isDecimal, Bool.and_eq_true, decide_eq_true_eq, Bool.or_eq_true]
      at hoct ⊢
    exact .inl (.inl ⟨hoct.1, Char.le_trans hoct.2 (by decide)⟩)

/-- An escape followed by a quote is read up to the quote. -/
theorem cStringChar_before_quote {w : List Char} (hw : w ∈ escapeLang) (v : List Char) :
    cStringChar (w ++ '\'' :: v) = some w.length := by
  have hlen := (escape_tail_digits hw).1
  refine (cStringChar_scans.some_iff _ _).2 ⟨by simp, by simpa using hw, fun m _ hmem => ?_⟩
  by_contra hgt
  -- a longer escape would hold the quote after its first two characters
  obtain ⟨k, rfl⟩ : ∃ k, m = w.length + (k + 1) := ⟨m - w.length - 1, by omega⟩
  rw [List.take_length_add_append, List.take_succ_cons] at hmem
  have hq := (escape_tail_digits hmem).2 '\'' (by simp [List.drop_append_of_le_length hlen])
  exact absurd hq (by decide)

/-! ## Character literals -/

theorem cChar_sound (cs : List Char) (n : Nat) (h : cChar cs = some n) :
    cs.take n ∈ charLang := by
  have hquote : ['\''] ∈ oneOf (· == '\'') := singleton_mem_oneOf rfl
  unfold cChar at h
  split at h
  · next rest =>
    -- an escape, then the closing quote
    simp only [Option.bind_eq_bind, Option.bind_eq_some_iff] at h
    obtain ⟨k, hk, h⟩ := h
    split at h
    · next hq =>
      cases h
      have hq' : ('\\' :: rest)[k]? = some '\'' := beq_iff_eq.1 hq
      rw [List.take_succ_cons, List.take_add_one, hq']
      exact append_mem_mul
        (append_mem_mul hquote ((mem_add _ _ _).2 (.inl (cStringChar_sound _ k hk)))) hquote
    · cases h
  · cases h
  · next c rest hslash hq =>
    -- one character, then the closing quote
    split at h
    · next hclose =>
      cases h
      obtain ⟨q, rest', rfl⟩ := List.head?_eq_some_iff.1 (beq_iff_eq.1 hclose)
      have hc : (c != '\'' && c != '\\') = true := by
        simp only [Bool.and_eq_true, bne_iff_ne, ne_eq]
        exact ⟨hq, hslash⟩
      exact append_mem_mul
        (append_mem_mul hquote ((mem_add _ _ _).2 (.inr (singleton_mem_oneOf hc)))) hquote
    · cases h
  · cases h

theorem cChar_complete (u v : List Char) (hu : u ∈ charLang) :
    ∃ n, cChar (u ++ v) = some n ∧ u.length ≤ n := by
  obtain ⟨_, ⟨_, ⟨z, hz, rfl⟩, w, hw, rfl⟩, _, ⟨z', hz', rfl⟩, rfl⟩ := mem_mul.1 hu
  obtain rfl : z = '\'' := beq_iff_eq.1 hz
  obtain rfl : z' = '\'' := beq_iff_eq.1 hz'
  rcases (mem_add _ _ _).1 hw with hw | ⟨c, hc, rfl⟩
  · -- an escape is read up to the closing quote
    obtain ⟨_, ⟨b, hb, rfl⟩, w', -, rfl⟩ := mem_mul.1 hw
    obtain rfl : b = '\\' := beq_iff_eq.1 hb
    have hesc := cStringChar_before_quote hw v
    refine ⟨(w'.length + 1) + 2, ?_, by simp⟩
    simp only [List.cons_append, List.nil_append, List.append_assoc, List.length_cons] at hesc ⊢
    simp only [cChar, Option.bind_eq_bind, hesc, Option.bind_some]
    simp
  · -- one character other than a quote and a backslash
    simp only [Bool.and_eq_true, bne_iff_ne, ne_eq] at hc
    refine ⟨3, ?_, by simp⟩
    simp only [List.cons_append, List.nil_append]
    unfold cChar
    split
    · next heq => simp only [List.cons.injEq] at heq; exact absurd heq.2.1 hc.2
    · next heq => simp only [List.cons.injEq] at heq; exact absurd heq.2.1 hc.1
    · next heq =>
      simp only [List.cons.injEq] at heq
      rw [← heq.2.2]
      rfl
    · next h₃ => exact absurd rfl (h₃ c ('\'' :: v))

theorem cChar_scans : Scans cChar charLang :=
  Scans.of_sound_complete (nil_not_mem_mul (nil_not_mem_mul nil_not_mem_oneOf)) cChar_sound
    cChar_within cChar_complete

/-! ## The scanners -/

/-- Every literal scanner reports the length of the longest prefix of the text in its language,
and nothing exactly when no non-empty prefix is in it: integers, floating-point numbers, octal
and hexadecimal literals with their integer suffixes, backslash escapes, and character
literals. -/
theorem scanners_longest :
    Scans int intLang ∧ Scans float floatLang ∧ Scans cOctal octalLang ∧
      Scans cHex hexLang ∧ Scans cStringChar escapeLang ∧ Scans cChar charLang :=
  ⟨int_scans, float_scans, cOctal_scans, cHex_scans, cStringChar_scans, cChar_scans⟩

end Highlight.Literal

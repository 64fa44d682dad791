import Highlight.Regex.Program
/-!
# Counters and saved positions in compiled backtracking programs

A backtracking program keeps two kinds of values in its slots: positions in the text (the
bounds of capture groups, and the position a look-around goes back to) and repetition counters.
A counter can grow past the length of the text, so a program that went back to a position read
from a counter's slot could leave the text. Compiling a pattern never lets that happen
(`Program.ofPattern_disciplined`): every counter and every restored slot is allocated fresh,
counters above the slots of the capture groups, and no slot is both.

The proof follows the compiler's state, the instructions emitted so far and the next free slot.
`Allocated` says every slot an instruction counts in or restores from was allocated and none
does both; `Fresh` says a stretch of compiling used only slots it allocated itself. A compiling
step `Builds` when it keeps the first and satisfies the second. Emitting and patching
instructions that touch no such slot, allocating, and putting steps in sequence, in loops and in
alternatives all build; the two places that count or restore allocate their slot right before.
-/

namespace Highlight.Regex

/-! ## Counter and restored slots -/

/-- The slot an instruction counts repetitions in. -/
def Op.counter? : Op → Option Nat
  | .resetCount slot | .repeatCount _ _ _ slot _ | .repeatNonEmpty _ _ slot _ _ => some slot
  | _ => none

/-- The slot an instruction goes back to the position of. -/
def Op.restores? : Op → Option Nat
  | .restore slot => some slot
  | _ => none

/-- Some instruction counts in `slot`. -/
def Counts (ops : Array Op) (slot : Nat) : Prop := ∃ op ∈ ops, op.counter? = some slot

/-- Some instruction restores the position kept in `slot`. -/
def Restores (ops : Array Op) (slot : Nat) : Prop := ∃ op ∈ ops, op.restores? = some slot

/-- What a compiled program keeps to: it counts only in slots from `low` on, and never restores
a position from a slot it counts in. -/
structure Program.Disciplined (p : Program) (low : Nat) : Prop where
  counts_ge : ∀ c, Counts p.ops c → low ≤ c
  restores_not_counts : ∀ r, Restores p.ops r → ¬ Counts p.ops r

section Slots

variable {ops : Array Op} {op : Op} {i slot : Nat}

theorem counts_push :
    Counts (ops.push op) slot ↔ Counts ops slot ∨ op.counter? = some slot := by
  simp only [Counts, Array.mem_push]
  constructor
  · rintro ⟨o, ho | rfl, hc⟩
    · exact .inl ⟨o, ho, hc⟩
    · exact .inr hc
  · rintro (⟨o, ho, hc⟩ | hc)
    · exact ⟨o, .inl ho, hc⟩
    · exact ⟨op, .inr rfl, hc⟩

theorem restores_push :
    Restores (ops.push op) slot ↔ Restores ops slot ∨ op.restores? = some slot := by
  simp only [Restores, Array.mem_push]
  constructor
  · rintro ⟨o, ho | rfl, hr⟩
    · exact .inl ⟨o, ho, hr⟩
    · exact .inr hr
  · rintro (⟨o, ho, hr⟩ | hr)
    · exact ⟨o, .inl ho, hr⟩
    · exact ⟨op, .inr rfl, hr⟩

theorem counts_set! (h : Counts (ops.set! i op) slot) :
    Counts ops slot ∨ op.counter? = some slot := by
  obtain ⟨o, ho, hc⟩ := h
  rcases Array.mem_or_eq_of_mem_setIfInBounds ho with ho | rfl
  · exact .inl ⟨o, ho, hc⟩
  · exact .inr hc

theorem restores_set! (h : Restores (ops.set! i op) slot) :
    Restores ops slot ∨ op.restores? = some slot := by
  obtain ⟨o, ho, hr⟩ := h
  rcases Array.mem_or_eq_of_mem_setIfInBounds ho with ho | rfl
  · exact .inl ⟨o, ho, hr⟩
  · exact .inr hr

end Slots

/-! ## The compiler's state -/

/-- The compiler's state, the instructions so far and the next free slot, with counters from
`low` on: every slot an instruction counts in or restores from is allocated, and no slot is
both counted in and restored from. -/
structure Allocated (low : Nat) (s : Array Op × Nat) : Prop where
  low_le : low ≤ s.2
  counts : ∀ c, Counts s.1 c → low ≤ c ∧ c < s.2
  restores : ∀ r, Restores s.1 r → r < s.2
  apart : ∀ r, Restores s.1 r → ¬ Counts s.1 r

/-- From state `s` to `s'` the compiler only allocated slots, and every slot that is newly
counted in or restored from is one it allocated on the way. -/
structure Fresh (s s' : Array Op × Nat) : Prop where
  le : s.2 ≤ s'.2
  counts : ∀ c, Counts s'.1 c → Counts s.1 c ∨ s.2 ≤ c ∧ c < s'.2
  restores : ∀ r, Restores s'.1 r → Restores s.1 r ∨ s.2 ≤ r ∧ r < s'.2

namespace Fresh

variable {s s₁ s₂ : Array Op × Nat}

theorem refl (s : Array Op × Nat) : Fresh s s :=
  ⟨Nat.le_refl _, fun _ h => .inl h, fun _ h => .inl h⟩

theorem trans (h₁ : Fresh s s₁) (h₂ : Fresh s₁ s₂) : Fresh s s₂ := by
  refine ⟨Nat.le_trans h₁.le h₂.le, fun c hc => ?_, fun r hr => ?_⟩
  · rcases h₂.counts c hc with hc | ⟨hlo, hhi⟩
    · rcases h₁.counts c hc with hc | ⟨hlo', hhi'⟩
      · exact .inl hc
      · exact .inr ⟨hlo', Nat.lt_of_lt_of_le hhi' h₂.le⟩
    · exact .inr ⟨Nat.le_trans h₁.le hlo, hhi⟩
  · rcases h₂.restores r hr with hr | ⟨hlo, hhi⟩
    · rcases h₁.restores r hr with hr | ⟨hlo', hhi'⟩
      · exact .inl hr
      · exact .inr ⟨hlo', Nat.lt_of_lt_of_le hhi' h₂.le⟩
    · exact .inr ⟨Nat.le_trans h₁.le hlo, hhi⟩

end Fresh

namespace Allocated

variable {low : Nat} {s : Array Op × Nat} {op : Op} {i : Nat}

/-- Allocating a slot keeps the state allocated. -/
theorem newSlot (h : Allocated low s) : Allocated low (s.1, s.2 + 1) :=
  ⟨Nat.le_succ_of_le h.low_le,
    fun c hc => ⟨(h.counts c hc).1, Nat.lt_succ_of_lt (h.counts c hc).2⟩,
    fun r hr => Nat.lt_succ_of_lt (h.restores r hr), h.apart⟩

/-- Adding an instruction that counts only in an allocated slot from `low` on that nothing
restores from, and restores only from an allocated slot that nothing counts in, keeps the state
allocated. -/
theorem push (h : Allocated low s)
    (hc : ∀ c ∈ op.counter?, low ≤ c ∧ c < s.2 ∧ ¬ Restores s.1 c)
    (hr : ∀ r ∈ op.restores?, r < s.2 ∧ ¬ Counts s.1 r) :
    Allocated low (s.1.push op, s.2) := by
  refine ⟨h.low_le, fun c hc' => ?_, fun r hr' => ?_, fun r hr' hc' => ?_⟩
  · rcases counts_push.1 hc' with hc' | hc'
    · exact h.counts c hc'
    · exact ⟨(hc c hc').1, (hc c hc').2.1⟩
  · rcases restores_push.1 hr' with hr' | hr'
    · exact h.restores r hr'
    · exact (hr r hr').1
  · rcases restores_push.1 hr' with hr' | hr'
    · rcases counts_push.1 hc' with hc' | hc'
      · exact h.apart r hr' hc'
      · exact (hc r hc').2.2 hr'
    · rcases counts_push.1 hc' with hc' | hc'
      · exact (hr r hr').2 hc'
      · -- no instruction both counts and restores
        cases op <;> simp [Op.counter?, Op.restores?] at hc' hr'

/-- Replacing an instruction by one that counts and restores as `push` asks keeps the state
allocated. -/
theorem set! (h : Allocated low s)
    (hc : ∀ c ∈ op.counter?, low ≤ c ∧ c < s.2 ∧ ¬ Restores s.1 c)
    (hr : ∀ r ∈ op.restores?, r < s.2 ∧ ¬ Counts s.1 r) :
    Allocated low (s.1.set! i op, s.2) := by
  refine ⟨h.low_le, fun c hc' => ?_, fun r hr' => ?_, fun r hr' hc' => ?_⟩
  · rcases counts_set! hc' with hc' | hc'
    · exact h.counts c hc'
    · exact ⟨(hc c hc').1, (hc c hc').2.1⟩
  · rcases restores_set! hr' with hr' | hr'
    · exact h.restores r hr'
    · exact (hr r hr').1
  · rcases restores_set! hr' with hr' | hr'
    · rcases counts_set! hc' with hc' | hc'
      · exact h.apart r hr' hc'
      · exact (hc r hc').2.2 hr'
    · rcases counts_set! hc' with hc' | hc'
      · exact (hr r hr').2 hc'
      · cases op <;> simp [Op.counter?, Op.restores?] at hc' hr'

end Allocated

theorem Fresh.push {s : Array Op × Nat} {op : Op} (hc : op.counter? = none)
    (hr : op.restores? = none) :
    Fresh s (s.1.push op, s.2) := by
  refine ⟨Nat.le_refl _, fun c hc' => ?_, fun r hr' => ?_⟩
  · rcases counts_push.1 hc' with hc' | hc'
    · exact .inl hc'
    · simp [hc] at hc'
  · rcases restores_push.1 hr' with hr' | hr'
    · exact .inl hr'
    · simp [hr] at hr'

theorem Fresh.set! {s : Array Op × Nat} {op : Op} {i : Nat} (hc : op.counter? = none)
    (hr : op.restores? = none) : Fresh s (s.1.set! i op, s.2) := by
  refine ⟨Nat.le_refl _, fun c hc' => ?_, fun r hr' => ?_⟩
  · rcases counts_set! hc' with hc' | hc'
    · exact .inl hc'
    · simp [hc] at hc'
  · rcases restores_set! hr' with hr' | hr'
    · exact .inl hr'
    · simp [hr] at hr'

/-! ## Compiling steps that build -/

section Builds

variable {α β : Type}

/-- A compiling step builds when, from an allocated state, it ends in one and uses only slots it
allocated. -/
def Builds (low : Nat) (x : ProgramM α) : Prop :=
  ∀ s a s', Allocated low s → x.run s = .ok (a, s') → Allocated low s' ∧ Fresh s s'

variable {low : Nat}

theorem programM_bind_ok {x : ProgramM α} {f : α → ProgramM β} {s s' : Array Op × Nat} {b : β}
    (h : (x >>= f).run s = .ok (b, s')) :
    ∃ a s₁, x.run s = .ok (a, s₁) ∧ (f a).run s₁ = .ok (b, s') := by
  simp only [StateT.run_bind] at h
  cases hx : x.run s with
  | error e =>
    rw [hx] at h
    cases h
  | ok p => exact ⟨p.1, p.2, rfl, by rw [hx] at h; exact h⟩

namespace Builds

theorem pure (a : α) : Builds low (Pure.pure a : ProgramM α) := by
  intro s b s' hs h
  cases h
  exact ⟨hs, .refl _⟩

theorem bind {x : ProgramM α} {f : α → ProgramM β} (hx : Builds low x)
    (hf : ∀ a, Builds low (f a)) :
    Builds low (x >>= f) := by
  intro s b s' hs h
  obtain ⟨a, s₁, h₁, h₂⟩ := programM_bind_ok h
  obtain ⟨hs₁, hfresh₁⟩ := hx s a s₁ hs h₁
  obtain ⟨hs', hfresh₂⟩ := hf a s₁ b s' hs₁ h₂
  exact ⟨hs', hfresh₁.trans hfresh₂⟩

theorem seqRight {x : ProgramM α} {y : ProgramM β} (hx : Builds low x) (hy : Builds low y) :
    Builds low (x *> y) := by
  rw [seqRight_eq_bind]
  exact hx.bind fun _ => hy

theorem throw (e : CompileError) : Builds low (MonadExcept.throw e : ProgramM α) := by
  intro s a s' _ h
  cases h

theorem ite {c : Prop} [Decidable c] {x y : ProgramM α} (hx : Builds low x) (hy : Builds low y) :
    Builds low (if c then x else y) := by
  split
  · exact hx
  · exact hy

theorem here : Builds low ProgramM.here := by
  intro s a s' hs h
  cases h
  exact ⟨hs, .refl _⟩

theorem newSlot : Builds low ProgramM.newSlot := by
  intro s a s' hs h
  cases h
  exact ⟨hs.newSlot, ⟨Nat.le_succ _, fun _ hc => .inl hc, fun _ hr => .inl hr⟩⟩

/-- Emitting an instruction that neither counts nor restores builds. -/
theorem emit {op : Op} (hc : op.counter? = none) (hr : op.restores? = none) :
    Builds low (ProgramM.emit op) := by
  intro s a s' hs h
  cases h
  exact ⟨hs.push (by simp [hc]) (by simp [hr]), .push hc hr⟩

/-- Patching an instruction with one that neither counts nor restores builds. -/
theorem patch {op : Op} (pc : Nat) (hc : op.counter? = none) (hr : op.restores? = none) :
    Builds low (ProgramM.patch pc op) := by
  intro s a s' hs h
  cases h
  exact ⟨hs.set! (by simp [hc]) (by simp [hr]), .set! hc hr⟩

/-- A loop over a list whose every round builds builds. -/
theorem forIn_list {xs : List α} {init : β} {f : α → β → ProgramM (ForInStep β)}
    (hf : ∀ a b, Builds low (f a b)) : Builds low (forIn xs init f) := by
  induction xs generalizing init with
  | nil => exact pure init
  | cons x xs ih =>
    rw [List.forIn_cons]
    refine (hf x init).bind fun step => ?_
    cases step with
    | done b => exact pure b
    | yield b => exact ih

theorem forIn_range {r : Std.Legacy.Range} {init : β} {f : Nat → β → ProgramM (ForInStep β)}
    (hf : ∀ a b, Builds low (f a b)) : Builds low (forIn r init f) := by
  rw [Std.Legacy.Range.forIn_eq_forIn_range']
  exact forIn_list hf

theorem forIn_array {xs : Array α} {init : β} {f : α → β → ProgramM (ForInStep β)}
    (hf : ∀ a b, Builds low (f a b)) : Builds low (forIn xs init f) := by
  rw [← Array.forIn_toList]
  exact forIn_list hf

end Builds

end Builds

/-! ## Slots allocated for one purpose -/

section Keeping

variable {low : Nat} {α β : Type}

/-- Slot `c` is allocated and nothing restores from it. -/
def Unrestored (c : Nat) (s : Array Op × Nat) : Prop := c < s.2 ∧ ¬ Restores s.1 c

/-- Slot `r` is allocated and nothing counts in it. -/
def Uncounted (r : Nat) (s : Array Op × Nat) : Prop := r < s.2 ∧ ¬ Counts s.1 r

theorem Fresh.unrestored {s s' : Array Op × Nat} {c : Nat} (hf : Fresh s s') (h : Unrestored c s) :
    Unrestored c s' := by
  refine ⟨Nat.lt_of_lt_of_le h.1 hf.le, fun hr => ?_⟩
  rcases hf.restores c hr with hr | ⟨hlo, -⟩
  · exact h.2 hr
  · exact absurd h.1 (Nat.not_lt.2 hlo)

theorem Fresh.uncounted {s s' : Array Op × Nat} {r : Nat} (hf : Fresh s s') (h : Uncounted r s) :
    Uncounted r s' := by
  refine ⟨Nat.lt_of_lt_of_le h.1 hf.le, fun hc => ?_⟩
  rcases hf.counts r hc with hc | ⟨hlo, -⟩
  · exact h.2 hc
  · exact absurd h.1 (Nat.not_lt.2 hlo)

/-- Measuring freshness from a lower slot `c`, a fresh stretch after one from `c` is one from
`c` as a whole. -/
theorem Fresh.trans_from {ops ops₁ : Array Op} {n₁ c : Nat} {s' : Array Op × Nat}
    (h₁ : Fresh (ops, c) (ops₁, n₁)) (hn : n₁ ≤ s'.2) (h₂ : Fresh (ops₁, c) s') :
    Fresh (ops, c) s' := by
  refine ⟨h₂.le, fun x hx => ?_, fun x hx => ?_⟩
  · rcases h₂.counts x hx with hx | hx
    · rcases h₁.counts x hx with hx | ⟨hlo, hhi⟩
      · exact .inl hx
      · exact .inr ⟨hlo, Nat.lt_of_lt_of_le hhi hn⟩
    · exact .inr hx
  · rcases h₂.restores x hx with hx | hx
    · rcases h₁.restores x hx with hx | ⟨hlo, hhi⟩
      · exact .inl hx
      · exact .inr ⟨hlo, Nat.lt_of_lt_of_le hhi hn⟩
    · exact .inr hx

/-- A fresh stretch is fresh from any lower slot. -/
theorem Fresh.from_le {s s' : Array Op × Nat} {c : Nat} (h : Fresh s s') (hc : c ≤ s.2) :
    Fresh (s.1, c) s' := by
  refine ⟨Nat.le_trans hc h.le, fun x hx => ?_, fun x hx => ?_⟩
  · rcases h.counts x hx with hx | ⟨hlo, hhi⟩
    · exact .inl hx
    · exact .inr ⟨Nat.le_trans hc hlo, hhi⟩
  · rcases h.restores x hx with hx | ⟨hlo, hhi⟩
    · exact .inl hx
    · exact .inr ⟨Nat.le_trans hc hlo, hhi⟩

/-- A compiling step, after slot `c` was allocated, keeps the state allocated and keeps `P`,
and every slot it newly counts in or restores from is `c` or later. -/
def BuildsKeeping (low c : Nat) (P : Array Op × Nat → Prop) (x : ProgramM α) : Prop :=
  ∀ s a s', Allocated low s → P s → c ≤ s.2 → x.run s = .ok (a, s') →
    Allocated low s' ∧ P s' ∧ s.2 ≤ s'.2 ∧ Fresh (s.1, c) s'

namespace BuildsKeeping

variable {c : Nat} {P : Array Op × Nat → Prop}

theorem bind {x : ProgramM α} {f : α → ProgramM β} (hx : BuildsKeeping low c P x)
    (hf : ∀ a, BuildsKeeping low c P (f a)) : BuildsKeeping low c P (x >>= f) := by
  intro s b s' hs hP hc h
  obtain ⟨a, s₁, h₁, h₂⟩ := programM_bind_ok h
  obtain ⟨hs₁, hP₁, hle₁, hfresh₁⟩ := hx s a s₁ hs hP hc h₁
  obtain ⟨hs', hP', hle₂, hfresh₂⟩ :=
    hf a s₁ b s' hs₁ hP₁ (Nat.le_trans hc hle₁) h₂
  exact ⟨hs', hP', Nat.le_trans hle₁ hle₂, hfresh₁.trans_from hle₂ hfresh₂⟩

/-- A step that builds keeps what every fresh stretch keeps. -/
theorem of_builds {x : ProgramM α} (hx : Builds low x)
    (hP : ∀ s s', Fresh s s' → P s → P s') :
    BuildsKeeping low c P x := fun s a s' hs hp hc h =>
  let ⟨hs', hfresh⟩ := hx s a s' hs h
  ⟨hs', hP s s' hfresh hp, hfresh.le, hfresh.from_le hc⟩

/-- Emitting an instruction that counts in slot `c`, from `low` on, while nothing restores
from it. -/
theorem emit_counter {op : Op} (hlow : low ≤ c) (hc : op.counter? = some c)
    (hr : op.restores? = none) : BuildsKeeping low c (Unrestored c) (ProgramM.emit op) := by
  intro s a s' hs hP _ h
  cases h
  refine ⟨hs.push (fun c' hc' => ?_) (by simp [hr]), ⟨hP.1, fun hres => ?_⟩, Nat.le_refl _,
    ⟨Nat.le_of_lt hP.1, fun x hx => ?_, fun x hx => ?_⟩⟩
  · obtain rfl : c' = c := Option.some.inj (hc ▸ hc').symm
    exact ⟨hlow, hP.1, hP.2⟩
  · rcases restores_push.1 hres with hres | hres
    · exact hP.2 hres
    · simp [hr] at hres
  · rcases counts_push.1 hx with hx | hx
    · exact .inl hx
    · obtain rfl : x = c := Option.some.inj (hc ▸ hx).symm
      exact .inr ⟨Nat.le_refl _, hP.1⟩
  · rcases restores_push.1 hx with hx | hx
    · exact .inl hx
    · simp [hr] at hx

/-- Patching in an instruction that counts in slot `c`, from `low` on, while nothing restores
from it. -/
theorem patch_counter {op : Op} (pc : Nat) (hlow : low ≤ c) (hc : op.counter? = some c)
    (hr : op.restores? = none) : BuildsKeeping low c (Unrestored c) (ProgramM.patch pc op) := by
  intro s a s' hs hP _ h
  cases h
  refine ⟨hs.set! (fun c' hc' => ?_) (by simp [hr]), ⟨hP.1, fun hres => ?_⟩, Nat.le_refl _,
    ⟨Nat.le_of_lt hP.1, fun x hx => ?_, fun x hx => ?_⟩⟩
  · obtain rfl : c' = c := Option.some.inj (hc ▸ hc').symm
    exact ⟨hlow, hP.1, hP.2⟩
  · rcases restores_set! hres with hres | hres
    · exact hP.2 hres
    · simp [hr] at hres
  · rcases counts_set! hx with hx | hx
    · exact .inl hx
    · obtain rfl : x = c := Option.some.inj (hc ▸ hx).symm
      exact .inr ⟨Nat.le_refl _, hP.1⟩
  · rcases restores_set! hx with hx | hx
    · exact .inl hx
    · simp [hr] at hx

/-- Emitting the instruction that goes back to the position in slot `c` while nothing counts
in it. -/
theorem emit_restore : BuildsKeeping low c (Uncounted c) (ProgramM.emit (.restore c)) := by
  intro s a s' hs hP _ h
  cases h
  refine ⟨hs.push (by simp [Op.counter?]) (fun r hr => ?_), ⟨hP.1, fun hcount => ?_⟩,
    Nat.le_refl _,
    ⟨Nat.le_of_lt hP.1, fun x hx => ?_, fun x hx => ?_⟩⟩
  · obtain rfl : r = c := (Option.some.inj hr).symm
    exact ⟨hP.1, hP.2⟩
  · rcases counts_push.1 hcount with hcount | hcount
    · exact hP.2 hcount
    · simp [Op.counter?] at hcount
  · rcases counts_push.1 hx with hx | hx
    · exact .inl hx
    · simp [Op.counter?] at hx
  · rcases restores_push.1 hx with hx | hx
    · exact .inl hx
    · obtain rfl : x = c := (Option.some.inj hx).symm
      exact .inr ⟨Nat.le_refl _, hP.1⟩

theorem of_builds_unrestored {x : ProgramM α} (hx : Builds low x) :
    BuildsKeeping low c (Unrestored c) x :=
  of_builds hx fun _ _ hf h => hf.unrestored h

theorem of_builds_uncounted {x : ProgramM α} (hx : Builds low x) :
    BuildsKeeping low c (Uncounted c) x :=
  of_builds hx fun _ _ hf h => hf.uncounted h

end BuildsKeeping

/-- A step that allocates a slot and then keeps `P` of it builds, when a freshly allocated slot
has `P`. -/
theorem Builds.alloc {f : Nat → ProgramM α} {P : Nat → Array Op × Nat → Prop}
    (hP : ∀ s, Allocated low s → P s.2 (s.1, s.2 + 1))
    (hf : ∀ c, low ≤ c → BuildsKeeping low c (P c) (f c)) :
    Builds low (ProgramM.newSlot >>= f) := by
  intro s b s' hs h
  obtain ⟨c, s₁, h₁, h₂⟩ := programM_bind_ok h
  cases h₁
  obtain ⟨hs', -, -, hfresh⟩ :=
    hf s.2 hs.low_le _ b s' hs.newSlot (hP s hs) (Nat.le_succ _) h₂
  exact ⟨hs', hfresh⟩

/-- A freshly allocated slot is restored from by nothing. -/
theorem Allocated.unrestored {s : Array Op × Nat} (hs : Allocated low s) :
    Unrestored s.2 (s.1, s.2 + 1) :=
  ⟨Nat.lt_succ_self _, fun hr => Nat.lt_irrefl _ (hs.restores _ hr)⟩

/-- A freshly allocated slot is counted in by nothing. -/
theorem Allocated.uncounted {s : Array Op × Nat} (hs : Allocated low s) :
    Uncounted s.2 (s.1, s.2 + 1) :=
  ⟨Nat.lt_succ_self _, fun hc => Nat.lt_irrefl _ (hs.counts _ hc).2⟩

theorem Builds.throw_bind {f : α → ProgramM β} (e : CompileError) :
    Builds low (MonadExcept.throw e >>= f) := by
  intro s b s' _ h
  cases h

end Keeping

/-! ## Compiling a pattern -/

section Compile

variable (low : Nat)

open ProgramM

/-- A plain part is one instruction that neither counts nor restores. -/
theorem emitPlain_builds (nodes : List Node) (base : Nat) : Builds low (emitPlain nodes base) := by
  unfold emitPlain
  refine Builds.ite (Builds.pure _) ?_
  dsimp only
  split
  · exact Builds.emit rfl rfl
  · split
    any_goals exact Builds.emit rfl rfl
    split
    · exact Builds.emit rfl rfl
    · exact Builds.throw _

/-- Alternatives build when each of them does: the splits and jumps that join them neither count
nor restore. -/
theorem emitAlternatives_builds (count : Nat) {body : Nat → ProgramM Unit}
    (hbody : ∀ i, Builds low (body i)) : Builds low (emitAlternatives count body) := by
  unfold emitAlternatives
  dsimp only
  refine Builds.bind (Builds.forIn_range fun i st => ?_) fun st => ?_
  · refine Builds.here.bind fun pc => ?_
    refine Builds.ite (Builds.bind (Builds.emit rfl rfl) fun _ => ?_) ?_
    -- each round patches the previous round's split to fall through to it
    all_goals
      split
      · refine (Builds.patch _ rfl rfl).bind fun _ => ?_
        exact (hbody i).bind fun _ => .ite (Builds.here.bind fun _ => (Builds.emit rfl rfl).bind
          fun _ => .pure _) (.pure _)
      · exact (hbody i).bind fun _ => .ite (Builds.here.bind fun _ => (Builds.emit rfl rfl).bind
          fun _ => .pure _) (.pure _)
  · exact Builds.here.bind fun _ => (Builds.forIn_array fun _ _ =>
      (Builds.patch _ rfl rfl).bind fun _ => .pure _).bind fun _ => .pure _

/-- **Compiling a tree builds.** Every counter and every restored slot it uses it allocates
itself, and none is both. -/
theorem compileTree_builds : ∀ depth node base hard, Builds low (compileTree depth node base hard)
  | 0, _, _, _ => by
    unfold compileTree
    exact Builds.throw _
  | depth + 1, node, base, hard => by
    unfold compileTree
    refine Builds.ite ((emitPlain_builds low _ _).bind fun _ => .pure _) ?_
    split
    · exact .pure _
    -- one instruction that neither counts nor restores
    any_goals exact Builds.emit rfl rfl
    · -- a group saves its bounds around its body
      exact (Builds.emit rfl rfl).bind fun _ => (compileTree_builds depth _ _ _).bind fun _ =>
        Builds.emit rfl rfl
    · exact (Builds.emit rfl rfl).bind fun _ => (compileTree_builds depth _ _ _).bind fun _ =>
        Builds.emit rfl rfl
    · -- a conditional: test, then one of two branches, joined by patched jumps
      exact (Builds.emit rfl rfl).bind fun _ => Builds.here.bind fun _ =>
        (Builds.emit rfl rfl).bind fun _ => (compileTree_builds depth _ _ _).bind fun _ =>
        (Builds.emit rfl rfl).bind fun _ => (compileTree_builds depth _ _ _).bind fun _ =>
        Builds.here.bind fun _ => (Builds.emit rfl rfl).bind fun _ => Builds.here.bind fun _ =>
        (Builds.patch _ rfl rfl).bind fun _ => (compileTree_builds depth _ _ _).bind fun _ =>
        Builds.here.bind fun _ => Builds.patch _ rfl rfl
    · -- a sequence: a plain head, the parts that backtrack, a plain tail
      refine (emitPlain_builds low _ _).bind fun _ => (Builds.forIn_list fun x _ => ?_).bind
        fun _ => ?_
      · obtain ⟨p, b⟩ := x
        exact (compileTree_builds depth _ _ _).bind fun _ => .pure _
      · split
        · exact emitPlain_builds low _ _
        · exact .pure _
    · refine emitAlternatives_builds low _ fun i => ?_
      split
      · exact compileTree_builds depth _ _ _
      · exact .pure _
    · -- a repetition: its forms share the check on the count range
      extract_lets jp
      have hjp' : ∀ r, Builds low (jp r) := by
        intro r
        simp only [jp]
        refine Builds.ite ?_ (Builds.ite ?_ (Builds.ite ?_ (Builds.ite ?_ ?_)))
        · exact Builds.here.bind fun _ => (Builds.emit rfl rfl).bind fun _ =>
            (compileTree_builds depth _ _ _).bind fun _ => Builds.here.bind fun _ =>
            Builds.patch _ (by split <;> rfl) (by split <;> rfl)
        · -- a body that may match nothing counts its rounds in a fresh slot
          refine Builds.alloc (P := Unrestored) (fun s hs => hs.unrestored) fun c hc => ?_
          exact (BuildsKeeping.of_builds_unrestored Builds.newSlot).bind fun _ =>
            (BuildsKeeping.emit_counter hc rfl rfl).bind fun _ =>
            (BuildsKeeping.of_builds_unrestored Builds.here).bind fun _ =>
            (BuildsKeeping.emit_counter hc rfl rfl).bind fun _ =>
            (BuildsKeeping.of_builds_unrestored (compileTree_builds depth _ _ _)).bind fun _ =>
            (BuildsKeeping.of_builds_unrestored (Builds.emit rfl rfl)).bind fun _ =>
            (BuildsKeeping.of_builds_unrestored Builds.here).bind fun _ =>
            BuildsKeeping.patch_counter _ hc rfl rfl
        · exact Builds.here.bind fun _ => (Builds.emit rfl rfl).bind fun _ =>
            (compileTree_builds depth _ _ _).bind fun _ => (Builds.emit rfl rfl).bind fun _ =>
            Builds.here.bind fun _ => Builds.patch _ (by split <;> rfl) (by split <;> rfl)
        · exact Builds.here.bind fun _ => (compileTree_builds depth _ _ _).bind fun _ =>
            Builds.here.bind fun _ => Builds.emit (by split <;> rfl) (by split <;> rfl)
        · -- a counted repetition counts its rounds in a fresh slot
          refine Builds.alloc (P := Unrestored) (fun s hs => hs.unrestored) fun c hc => ?_
          exact (BuildsKeeping.emit_counter hc rfl rfl).bind fun _ =>
            (BuildsKeeping.of_builds_unrestored Builds.here).bind fun _ =>
            (BuildsKeeping.emit_counter hc rfl rfl).bind fun _ =>
            (BuildsKeeping.of_builds_unrestored (compileTree_builds depth _ _ _)).bind fun _ =>
            (BuildsKeeping.of_builds_unrestored (Builds.emit rfl rfl)).bind fun _ =>
            (BuildsKeeping.of_builds_unrestored Builds.here).bind fun _ =>
            BuildsKeeping.patch_counter _ hc rfl rfl
      split
      · split
        · exact Builds.throw_bind _
        · exact hjp' ()
      · exact hjp' ()
    · -- a look-around: its body, and for a positive one a position to go back to
      extract_lets pieces inner positive
      clear_value pieces
      have hinner' : ∀ p b, Builds low (inner p b) := by
        intro p b
        simp only [inner]
        refine Builds.ite (Builds.ite ?_ ?_) ?_
        · exact Builds.newSlot.bind fun _ => (Builds.emit rfl rfl).bind fun _ =>
            (Builds.emit rfl rfl).bind fun _ => (compileTree_builds depth _ _ _).bind fun _ =>
            Builds.emit rfl rfl
        · split
          · exact Builds.emit rfl rfl
          · exact Builds.throw _
        · exact Builds.ite ((Builds.emit rfl rfl).bind fun _ => compileTree_builds depth _ _ _)
            (compileTree_builds depth _ _ _)
      -- the position a positive look-around goes back to is kept in a slot of its own
      have hpositive' : ∀ p b, Builds low (positive p b) := by
        intro p b
        simp only [positive]
        exact Builds.alloc (P := Uncounted) (fun s hs => hs.uncounted) fun c _ =>
          (BuildsKeeping.of_builds_uncounted (Builds.emit rfl rfl)).bind fun _ =>
          (BuildsKeeping.of_builds_uncounted (hinner' p b)).bind fun _ => BuildsKeeping.emit_restore
      split
      · refine (Builds.forIn_list fun x _ => ?_).bind fun _ => .pure _
        obtain ⟨p, b⟩ := x
        exact Builds.here.bind fun _ => (Builds.emit rfl rfl).bind fun _ =>
          (hinner' p b).bind fun _ => (Builds.emit rfl rfl).bind fun _ =>
          Builds.here.bind fun _ => (Builds.patch _ rfl rfl).bind fun _ => .pure _
      · split
        · exact hpositive' _ _
        · refine emitAlternatives_builds low _ fun i => ?_
          split
          · exact hpositive' _ _
          · exact .pure _

end Compile

/-- No instruction yet, and slots allocated up to `low`. -/
theorem Allocated.empty (low : Nat) : Allocated low (#[], low) :=
  ⟨Nat.le_refl _, fun _ ⟨_, hop, _⟩ => absurd hop (by simp),
    fun _ ⟨_, hop, _⟩ => absurd hop (by simp),
    fun _ ⟨_, hop, _⟩ => absurd hop (by simp)⟩

/-- **Compiled programs keep counters apart from positions.** The program compiled from a
pattern counts repetitions only in slots above those of its capture groups, and never goes back
to a position kept in a slot it counts in. -/
theorem Program.ofPattern_disciplined {pat : Pattern} {p : Program}
    (h : Program.ofPattern pat = .ok p) :
    p.Disciplined (2 * (pat.groups + 1)) := by
  unfold Program.ofPattern at h
  simp only [bind, Except.bind] at h
  split at h
  · cases h
  · next r hrun =>
    cases h
    obtain ⟨hs, -⟩ := Builds.seqRight (compileTree_builds _ _ _ _ _) (Builds.emit rfl rfl) _ _ _
      (Allocated.empty _) hrun
    exact ⟨fun c hc => (hs.counts c hc).1, hs.apart⟩

end Highlight.Regex

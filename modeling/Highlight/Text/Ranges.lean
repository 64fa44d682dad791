/-!
# Character tables

A `CharRanges` is a set of characters given by sorted, disjoint, inclusive ranges of code points,
a `CharMap` sends some characters to short strings, and a `Partition` gives every code point a
value by cutting the code points into runs. All are read once from hexadecimal text
(`"30-39 41-5A"`, `"41:61 130:69,307"`, `"0:Cc 20:Zs"`), which keeps the large Unicode tables
compact, and all are searched by halving the table.

Sets are kept canonical: ranges sorted, and two ranges that overlap or touch joined into one. The
set operations (union, complement, intersection, difference) keep that form, so two equal sets
have equal range lists.
-/

namespace Highlight.Text

/-- The value of a hexadecimal digit; any other character counts as zero. -/
def hexDigitValue (c : Char) : Nat :=
  if '0' ≤ c ∧ c ≤ '9' then c.toNat - '0'.toNat
  else if 'a' ≤ c ∧ c ≤ 'f' then c.toNat - 'a'.toNat + 10
  else if 'A' ≤ c ∧ c ≤ 'F' then c.toNat - 'A'.toNat + 10
  else 0

/-- Reads a run of hexadecimal digits as a number. -/
def hexValue (s : String) : Nat :=
  s.foldl (fun n c => n * 16 + hexDigitValue c) 0

/-- The blank-separated items of a table text. -/
def tableItems (table : String) : List String :=
  (table.splitOn " ").filter (· ≠ "")

/-- A set of characters as sorted, disjoint, inclusive ranges of code points. -/
structure CharRanges where
  /-- The ranges as `(first, last)` code points, lowest first. -/
  ranges : Array (Nat × Nat)
  deriving Inhabited

namespace CharRanges

/-- Reads a table such as `"30-39 41-5A"`; an item without a dash is one code point. -/
def ofHex (table : String) : CharRanges :=
  ⟨(tableItems table).toArray.map fun item =>
    match item.splitOn "-" with
    | [a, b] => (hexValue a, hexValue b)
    | _ => (hexValue item, hexValue item)⟩

/-- Whether code point `n` lies in one of the ranges with index in `lo ..< hi`. In a sorted table
the only range that can hold `n` is found by halving: a range starting above `n` rules out itself
and all after it, one ending below `n` itself and all before it. -/
def containsBetween (rs : Array (Nat × Nat)) (n lo hi : Nat) (hhi : hi ≤ rs.size) : Bool :=
  if h : lo < hi then
    have hmid : (lo + hi) / 2 < rs.size := by omega
    let r := rs[(lo + hi) / 2]
    if n < r.1 then containsBetween rs n lo ((lo + hi) / 2) (by omega)
    else if r.2 < n then containsBetween rs n ((lo + hi) / 2 + 1) hi hhi
    else true
  else false
termination_by hi - lo

/-- Whether the set holds code point `n`. -/
def containsCode (s : CharRanges) (n : Nat) : Bool :=
  containsBetween s.ranges n 0 s.ranges.size (Nat.le_refl _)

/-- Whether the set holds `c`. -/
def contains (s : CharRanges) (c : Char) : Bool := s.containsCode c.toNat

/-- The greatest code point. -/
def maxCodePoint : Nat := 0x10FFFF

/-- The empty set. -/
def empty : CharRanges := ⟨#[]⟩

/-- The canonical set of the given ranges: empty ranges dropped, the rest sorted by their first
code point and joined where they overlap or touch. -/
def normalize (rs : List (Nat × Nat)) : CharRanges :=
  let sorted := (rs.filter fun r => r.1 ≤ r.2).mergeSort fun a b => a.1 ≤ b.1
  ⟨sorted.foldl (fun (acc : Array (Nat × Nat)) r =>
    match acc.back? with
    | some (a, b) => if r.1 ≤ b + 1 then acc.pop.push (a, max b r.2) else acc.push r
    | none => acc.push r) #[]⟩

/-- The characters from `lo` to `hi`. -/
def range (lo hi : Nat) : CharRanges := normalize [(lo, hi)]

/-- The union of two sets. -/
def union (s t : CharRanges) : CharRanges := normalize (s.ranges.toList ++ t.ranges.toList)

/-- The union of many sets. -/
def unionAll (ss : List CharRanges) : CharRanges := normalize (ss.flatMap (·.ranges.toList))

/-- The code points up to `maxCodePoint` that are not in the set; the gaps between its ranges. -/
def negate (s : CharRanges) : CharRanges :=
  let (acc, next) := s.ranges.foldl (fun ((acc : Array (Nat × Nat)), next) (a, b) =>
    (if next < a then acc.push (next, a - 1) else acc, max next (b + 1))) (#[], 0)
  ⟨if next ≤ maxCodePoint then acc.push (next, maxCodePoint) else acc⟩

/-- The intersection of two sets: what is in neither complement. -/
def inter (s t : CharRanges) : CharRanges := negate (union (negate s) (negate t))

/-- The characters of the first set that are not in the second. -/
def diff (s t : CharRanges) : CharRanges := inter s (negate t)

/-- The characters in exactly one of the sets. -/
def symmDiff (s t : CharRanges) : CharRanges := union (diff s t) (diff t s)

/-- Whether the set holds nothing. -/
def isEmpty (s : CharRanges) : Bool := s.ranges.isEmpty

/-- Whether every character of the set is ASCII. -/
def isAscii (s : CharRanges) : Bool := s.ranges.all fun r => r.2 ≤ 0x7F

/-- The only character of the set, if it holds exactly one. -/
def single? (s : CharRanges) : Option Nat :=
  match s.ranges.toList with
  | [(a, b)] => if a == b then some a else none
  | _ => none

end CharRanges

/-- A map from some characters to short strings, as `(code point, image)` pairs sorted by code
point. -/
structure CharMap where
  /-- The pairs, lowest code point first. -/
  entries : Array (Nat × List Char)
  deriving Inhabited

namespace CharMap

/-- Reads a table such as `"41:61 130:69,307"`: each item maps one code point to the
comma-separated code points after the colon. -/
def ofHex (table : String) : CharMap :=
  ⟨(tableItems table).toArray.map fun item =>
    match item.splitOn ":" with
    | [a, b] => (hexValue a, (b.splitOn ",").map fun d => Char.ofNat (hexValue d))
    | _ => (hexValue item, [])⟩

/-- The image of code point `n` among the entries with index in `lo ..< hi`, by halving. -/
def findBetween (es : Array (Nat × List Char)) (n lo hi : Nat) (hhi : hi ≤ es.size) :
    Option (List Char) :=
  if h : lo < hi then
    have hmid : (lo + hi) / 2 < es.size := by omega
    let e := es[(lo + hi) / 2]
    if n < e.1 then findBetween es n lo ((lo + hi) / 2) (by omega)
    else if e.1 < n then findBetween es n ((lo + hi) / 2 + 1) hi hhi
    else some e.2
  else none
termination_by hi - lo

/-- The image of `c`, if the map has one. -/
def find? (m : CharMap) (c : Char) : Option (List Char) :=
  findBetween m.entries c.toNat 0 m.entries.size (Nat.le_refl _)

end CharMap

/-- A division of all code points into runs with a value each: `(first code point, value)` pairs
sorted by first code point, a run reaching up to the start of the next. -/
structure Partition (α : Type) where
  /-- The runs, lowest first; the first starts at code point 0. -/
  runs : Array (Nat × α)
  deriving Inhabited

namespace Partition

variable {α : Type}

/-- Reads a table such as `"0:Cc 20:Zs"`: each item is the first code point of a run and the
name of its value, which `read` turns into the value. -/
def ofHex (read : String → α) (table : String) : Partition α :=
  ⟨(tableItems table).toArray.map fun item =>
    match item.splitOn ":" with
    | [a, v] => (hexValue a, read v)
    | _ => (hexValue item, read "")⟩

/-- The index of the last run with index in `lo ..< hi` that starts at or before `n`, or `lo`
when there is none: a run starting above `n` rules out itself and all after it. -/
def lastAtOrBefore (runs : Array (Nat × α)) (n lo hi : Nat) (hhi : hi ≤ runs.size) : Nat :=
  if h : lo + 1 < hi then
    have hmid : (lo + hi) / 2 < runs.size := by omega
    if n < runs[(lo + hi) / 2].1 then lastAtOrBefore runs n lo ((lo + hi) / 2) (by omega)
    else lastAtOrBefore runs n ((lo + hi) / 2) hi hhi
  else lo
termination_by hi - lo

/-- The value of code point `n`. -/
def find? (p : Partition α) (n : Nat) : Option α :=
  (p.runs[lastAtOrBefore p.runs n 0 p.runs.size (Nat.le_refl _)]?).map (·.2)

/-- The code points whose value passes `keep`, as a set. -/
def ranges (p : Partition α) (keep : α → Bool) : CharRanges :=
  let ends := (p.runs.toList.drop 1).map (·.1) ++ [CharRanges.maxCodePoint + 1]
  CharRanges.normalize ((p.runs.toList.zip ends).filterMap fun ((a, v), b) =>
    if keep v then some (a, b - 1) else none)

end Partition

end Highlight.Text

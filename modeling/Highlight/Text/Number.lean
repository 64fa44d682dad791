/-!
# Reading whole numbers

Numbers in definitions and indexes are read strictly: an optional sign, then at least one ASCII
digit and nothing else, and the value must fit the width of the field (a signed 32-bit priority,
an unsigned 64-bit column).
-/

namespace Highlight.Text

/-- The value of a non-empty run of ASCII digits. -/
def digitsValue? (ds : List Char) : Option Nat :=
  if ds.isEmpty || !ds.all Char.isDigit then none
  else some (ds.foldl (fun n d => n * 10 + (d.toNat - '0'.toNat)) 0)

/-- A signed 32-bit number: `-2147483648` to `2147483647`, with an optional `+` or `-`. -/
def parseInt32? (s : String) : Option Int :=
  let (negative, ds) := match s.toList with
    | '-' :: ds => (true, ds)
    | '+' :: ds => (false, ds)
    | ds => (false, ds)
  (digitsValue? ds).bind fun n =>
    let v : Int := if negative then -(n : Int) else n
    if -2147483648 ≤ v ∧ v ≤ 2147483647 then some v else none

/-- An unsigned 64-bit number, with an optional `+`. -/
def parseUInt64? (s : String) : Option Nat :=
  let ds := match s.toList with
    | '+' :: ds => ds
    | ds => ds
  (digitsValue? ds).bind fun n => if n < Nat.pow 2 64 then some n else none

end Highlight.Text

/-!
# Sets of characters

A set of characters as a table of ranges, in which one is looked up by halving.

* `Text.Ranges` — ranges of code points.
* `Text.Ranges.holds` — membership.
-/

namespace StandIn.Text

/-- Inclusive ranges of code points, ascending. -/
abbrev Ranges := Array (Nat × Nat)

namespace Ranges

/-- Whether one of the entries `low` to `high - 1` of an ascending table holds `n`. -/
def search (table : Ranges) (n low high : Nat) : Bool :=
  if low < high then
    let middle := (low + high) / 2
    match table[middle]? with
    | none => false
    | some (first, last) =>
      if n < first then search table n low middle
      else if last < n then search table n (middle + 1) high
      else true
  else false
  termination_by high - low

/-- Whether the character is in the set. -/
def holds (table : Ranges) (c : Char) : Bool :=
  search table c.toNat 0 table.size

end Ranges

end StandIn.Text

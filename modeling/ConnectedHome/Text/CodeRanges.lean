/-!
# Sets of code points

A set of characters given by a table is a sorted array of disjoint, inclusive ranges of code
points (`CodeRanges`).  Membership is a binary search (`CodeRanges.contains`): the last range
that starts at or below the code point holds it, or none does.
-/
namespace ConnectedHome.Text

/-- Sorted, disjoint, inclusive ranges of code points. -/
abbrev CodeRanges := Array (Nat × Nat)

/-- The index of the last range in `[lo, hi)` that starts at or below `n`, if the first one
does; the search halves the interval each step, so 64 steps cover any array. -/
def CodeRanges.lastStartingAtMost (rs : CodeRanges) (n : Nat) : Nat → Nat → Nat → Nat
  | 0, lo, _ => lo
  | fuel + 1, lo, hi =>
    if lo + 1 ≥ hi then lo
    else
      let mid := (lo + hi) / 2
      match rs[mid]? with
      | some (a, _) => if a ≤ n then lastStartingAtMost rs n fuel mid hi else lastStartingAtMost rs n fuel lo mid
      | none => lo

/-- Whether code point `n` lies in one of the ranges. -/
def CodeRanges.contains (rs : CodeRanges) (n : Nat) : Bool :=
  match rs[rs.lastStartingAtMost n 64 0 rs.size]? with
  | some (a, b) => a ≤ n && n ≤ b
  | none => false

end ConnectedHome.Text

import DocSieve.Ranking.Runs

/-!
# Ranking

A list is put in the order of a comparison, and items neither of which goes
before the other stay as they stand. A short list is ranked by putting in one
item after the other, a longer one by runs. A comparison that is no order has
no ranking to give, and on a longer list that may be found out.

Key definitions: `Ranking.split?`, `Ranking.rank?`.
-/

namespace DocSieve

namespace Ranking

variable {α : Type} (before : α → α → Bool)

/-- The length up to which a part of a list is ranked by halves. -/
def shortLength : Nat := 32

/-- The run at the front of a list that is ranked at once. -/
def shortRun? (items : List α) : Option (Run α) := do
  return ⟨← halves? before (items.take shortLength), true⟩

/-- The length from which a stretch in order is a run: half of a list, at most 64,
and about the square root of the length of a long one. -/
def leastRun (total : Nat) : Nat :=
  if total ≤ 4096 then min (total - total / 2) 64
  else
    let root := Nat.pow 2 ((1 + Nat.log2 total) / 2)
    (root + total / root) / 2

/-- A list ranked by runs each of which is ranked at once. -/
def shortRuns? (items : List α) : Option (List α) :=
  Cutting.rank? before ⟨leastRun items.length, shortRun? before, halves? before⟩ items

/-- Of three items the one in the middle. -/
def middleOfThree (x y z : α) : α :=
  if before x y != before x z then x else if before y z == before x y then y else z

/-- An item near the middle of `8 * n` items, from one of them on: the middle of
three, each of which is found in this way in turn where `n` is eight or more. -/
def middleFrom (item : Nat → α) (start n : Nat) : α :=
  let near (place : Nat) : α := if 8 ≤ n then middleFrom item place (n / 8) else item place
  middleOfThree before (near start) (near (start + 4 * n)) (near (start + 7 * n))
termination_by n

/-- An item near the middle of a list that starts with an item. -/
def pivot (first : α) (items : List α) : α :=
  let items := items.toArray
  middleFrom before (items.getD · first) 0 (items.size / 8)

/-- A list ranked by splitting it at a pivot, none of its items going before
`bound`. A pivot that `bound` does not go before is as good as that, and so is
all that it does not go before. After too many rounds the list is ranked by runs
instead. -/
def split? : (rounds : Nat) → (bound : Option α) → List α → Option (List α)
  | _, _, [] => some []
  | 0, _, items => if items.length ≤ shortLength then halves? before items else shortRuns? before items
  | rounds + 1, bound, first :: rest =>
    let items := first :: rest
    if items.length ≤ shortLength then halves? before items
    else
      let p := pivot before first items
      let (lower, upper) := items.partition (before · p)
      if lower.isEmpty || bound.any (!before · p) then do
        let (same, upper) := items.partition (!before p ·)
        return same ++ (← split? rounds none upper)
      else do
        let upper ← split? rounds (some p) upper
        return (← split? rounds bound lower) ++ upper

/-- The length up to which items are put in one after the other. -/
def insertionLength : Nat := 20

/-- The length up to which all runs are ranked at once. -/
def eagerLength : Nat := 64

/-- A list in the order of a comparison. None where the comparison is found to be
no order. -/
def rank? (items : List α) : Option (List α) :=
  if items.length ≤ insertionLength then some (inserted before [] items)
  else if items.length ≤ eagerLength then shortRuns? before items
  else
    let least := leastRun items.length
    Cutting.rank? before ⟨least, fun items => some ⟨items.take least, false⟩,
      fun items => split? before (2 * Nat.log2 items.length) none items⟩ items

end Ranking

end DocSieve

import DocSieve.Ranking.Halves

/-!
# Ranking by runs

A list is cut into runs. A stretch that is in order already is a run, and so is
one in which every item goes before the last, turned around; elsewhere a run is
cut off at a fixed length. The runs are merged as the branches of a balanced
tree over all places: two neighbours meet at the height of the highest binary
digit in which their middles differ. Two runs that are not ranked yet are only
joined when they meet.

Key definitions: `Ranking.Run`, `Ranking.Cutting`, `Ranking.Cutting.rank?`.
-/

namespace DocSieve

namespace Ranking

variable {α : Type} (before : α → α → Bool)

/-- Neighbouring items that are treated as one. -/
structure Run (α : Type) where
  items : List α
  isRanked : Bool

/-- How a list is cut into runs. -/
structure Cutting (α : Type) where
  /-- The length from which a stretch in order is a run. -/
  least : Nat
  /-- The run at the front of a list where there is no such stretch. -/
  cut : List α → Option (Run α)
  /-- The items of a run that is not ranked, in order. -/
  rank : List α → Option (List α)

/-- The length of the stretch at the front in which every item stands to the next
one as required. -/
def stretch (holds : α → α → Bool) : List α → Nat
  | x :: y :: rest => if holds x y then stretch holds (y :: rest) + 1 else 1
  | items => items.length

/-- The second item goes before the first one. -/
def startsTurned : List α → Bool
  | x :: y :: _ => before y x
  | _ => false

/-- The stretch at the front that is in order, or in the opposite one and then
turned around, and its length. -/
def orderedFront (items : List α) : List α × Nat :=
  let turned := startsTurned before items
  let n := stretch (fun x y => before y x == turned) items
  (if turned then (items.take n).reverse else items.take n, n)

/-- The greatest height at which runs meet. -/
def topHeight : Nat := 64

/-- The height at which two neighbouring runs meet whose ends are at three places,
in a tree over `total` places. -/
def meetingHeight (total left middle right : Nat) : Nat :=
  let scale := (0x4000000000000000 + total - 1) / total
  Nat.log2 ((scale * (left + middle)) ^^^ (scale * (middle + right)))

namespace Cutting

variable (c : Cutting α)

/-- The run at the front of a list and the items behind it. -/
def next? (items : List α) : Option (Run α × List α) := do
  let (ordered, n) := orderedFront before items
  let run ← if c.least ≤ n then some ⟨ordered, true⟩ else c.cut items
  return (run, items.drop run.items.length)

/-- The items of a run in order. -/
def ranked? (run : Run α) : Option (List α) :=
  if run.isRanked then some run.items else c.rank run.items

/-- The run that two neighbouring runs make. -/
def join? (first second : Run α) : Option (Run α) :=
  if first.isRanked || second.isRanked then do
    return ⟨merge before (← c.ranked? first) (← c.ranked? second), true⟩
  else some ⟨first.items ++ second.items, false⟩

/-- The runs that wait for a neighbour, each with the height at which it meets
its own, the nearest first: those up to a height have met the last run. -/
def settle? (height : Nat) : List (Run α × Nat) → Run α → Option (List (Run α × Nat) × Run α)
  | (run, h) :: waiting, last =>
    if h ≤ height then do settle? height waiting (← c.join? before run last)
    else some ((run, h) :: waiting, last)
  | [], last => some ([], last)

/-- The run that all items make, of which the last run ends at `place`. Each round
cuts off a run. -/
def gather? (total : Nat) : (rounds : Nat) → (place : Nat) → List (Run α × Nat) → Run α →
    List α → Option (Run α)
  | 0, _, waiting, last, _ | _, _, waiting, last, [] => do
    return (← c.settle? before topHeight waiting last).2
  | rounds + 1, place, waiting, last, items => do
    let (run, rest) ← c.next? before items
    let lastLength := last.items.length
    let height := meetingHeight total (place - lastLength) place (place + run.items.length)
    let (waiting, last) ← c.settle? before height waiting last
    gather? total rounds (place + run.items.length) ((last, height) :: waiting) run rest

/-- A list ranked by runs. -/
def rank? (items : List α) : Option (List α) := do
  let (run, rest) ← c.next? before items
  c.ranked? (← c.gather? before items.length items.length run.items.length [] run rest)

end Cutting

end Ranking

end DocSieve

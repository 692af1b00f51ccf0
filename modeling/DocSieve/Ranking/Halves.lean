/-!
# Ranking short lists

A short list is ranked in two halves, which are then merged from both ends at
once. Where the comparison puts the items in no order the two ends may not
meet: then there is no ranking. Of two items neither of which goes before the
other the earlier one stays the earlier one.

Key definitions: `Ranking.inserted`, `Ranking.merge`, `Ranking.mergeHalves?`,
`Ranking.halves?`.
-/

namespace DocSieve

namespace Ranking

variable {α : Type} (before : α → α → Bool)

/-- An item put among items that stand last first, behind those that it does not
go before. -/
def insertLast (item : α) : List α → List α
  | [] => [item]
  | last :: rest =>
    if before item last then last :: insertLast item rest else item :: last :: rest

/-- Ranked items with some items put among them one by one. -/
def inserted (ranked items : List α) : List α :=
  (items.foldl (fun ranked item => insertLast before item ranked) ranked.reverse).reverse

/-- Four items ranked by five comparisons: of two pairs the first ones and the
last ones meet, and then the two that are left over. -/
def rankFour (w x y z : α) : List α :=
  let (a, b) := if before x w then (x, w) else (w, x)
  let (c, d) := if before z y then (z, y) else (y, z)
  let first := if before c a then c else a
  let last := if before d b then b else d
  let left := if before c a then a else if before d b then c else b
  let right := if before d b then d else if before c a then b else c
  if before right left then [first, right, left, last] else [first, left, right, last]

/-- The first `n` items of two lists that are merged, with the number of them
that come from the first one. The next item is that of the second list if it goes
before that of the first. -/
def mergeFront : (n : Nat) → List α → List α → List α × Nat
  | 0, _, _ => ([], 0)
  | n + 1, x :: xs, y :: ys =>
    if before y x then
      let (merged, taken) := mergeFront n (x :: xs) ys
      (y :: merged, taken)
    else
      let (merged, taken) := mergeFront n xs (y :: ys)
      (x :: merged, taken + 1)
  | n, [], ys => (ys.take n, 0)
  | n, xs, [] => (xs.take n, min n xs.length)

/-- The last `n` items of two lists that are merged, the last one first, with the
number of them that come from the first list. -/
def mergeBack (n : Nat) (first second : List α) : List α × Nat :=
  let (merged, taken) := mergeFront (fun x y => before y x) n second.reverse first.reverse
  (merged, n - taken)

/-- Two lists merged, from the front unless the first one is longer, else from
the back. -/
def merge (first second : List α) : List α :=
  let n := first.length + second.length
  if first.length ≤ second.length then (mergeFront before n first second).1
  else (mergeBack before n first second).1.reverse

/-- Two halves merged, the second being as long as the first or longer by one
item. As many items as the first has are taken from the front and as many from
the back; an item between them is the next one of the list that has one left.
None if the two ends do not meet. -/
def mergeHalves? (first second : List α) : Option (List α) :=
  let n := first.length
  let (front, fromFront) := mergeFront before n first second
  let (back, fromBack) := mergeBack before n first second
  let between : Option (List α) :=
    if fromFront + fromBack = n then
      some (if second.length = n then [] else (second.drop (n - fromFront)).take 1)
    else if fromFront + fromBack + 1 = n && second.length ≠ n then
      some ((first.drop fromFront).take 1)
    else none
  between.map fun between => front ++ between ++ back.reverse

/-- A half of a list of eight items or more, ranked. -/
def rankHalf : List α → List α
  | w :: x :: y :: z :: rest => inserted before (rankFour before w x y z) rest
  | items => inserted before [] items

/-- A short list ranked by halves. -/
def halves? (items : List α) : Option (List α) :=
  let n := items.length / 2
  let rank := if items.length < 8 then inserted before [] else rankHalf before
  mergeHalves? before (rank (items.take n)) (rank (items.drop n))

end Ranking

end DocSieve

import DocSieve.Document.Basic
import DocSieve.Generator.Random

/-!
# Random windows of a file

A workload asks for windows of one file with sizes between two bounds. The
bounds are first brought in order: at least one byte, the upper bound not
below the lower, and neither above the size of the file. The size is drawn
first, then an offset such that the window ends within the file. Nothing is
drawn where there is only one choice.

Key definitions: `Workload`, `Workload.request`.
-/

namespace DocSieve

/-- What requests to make. -/
structure Workload where
  minSize : UInt64
  maxSize : UInt64
  idPrefix : String
  /-- Requests per second. -/
  rate : UInt32
  path : String
  fileSize : UInt64
  /-- The number of requests to make, without limit if absent. -/
  maxDocuments : Option UInt64
  deriving DecidableEq, Repr

namespace Workload

variable (w : Workload)

/-- The size of the smallest window. -/
def smallest : Nat := min (max w.minSize.toNat 1) w.fileSize.toNat

/-- The size of the largest window. -/
def largest : Nat := min (max w.maxSize.toNat (max w.minSize.toNat 1)) w.fileSize.toNat

/-- A size, from a position of the stream of random words. -/
def drawSize (words : WordStream) (position : Nat) : Nat × Nat :=
  if w.largest ≤ w.smallest then (w.smallest, position)
  else drawBetween words position w.smallest w.largest

/-- An offset for a window of a size. -/
def drawOffset (words : WordStream) (position size : Nat) : Nat × Nat :=
  let greatest := w.fileSize.toNat - size
  if greatest = 0 then (0, position) else drawBetween words position 0 greatest

/-- The request with a number, and the position of the stream after it. -/
def request (words : WordStream) (position : Nat) (counter : UInt64) : Request × Nat :=
  let (size, position) := w.drawSize words position
  let (offset, position) := w.drawOffset words position size
  (⟨w.idPrefix ++ "-" ++ Nat.repr counter.toNat, w.path, UInt64.ofNat offset, UInt64.ofNat size⟩,
    position)

/-- The time between two requests in nanoseconds, at least one. -/
def period : Nat := max (1000000000 / max w.rate.toNat 1) 1

end Workload

end DocSieve

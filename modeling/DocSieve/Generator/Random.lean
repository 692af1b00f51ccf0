/-!
# A stream of random words

A source of randomness is a stream of 64-bit words and a position in it. The
seeded stream is the ChaCha keystream with twelve rounds: the seed is spread
over a key of eight 32-bit words, the block counter has 64 bits, and each pair
of output words makes one 64-bit word, the first of the pair in the low half.

A number below `range` is drawn from a word by the high half of the product;
where the low half could carry, a second word decides.

Key definitions: `WordStream`, `drawBelow`, `seededWords`.
-/

namespace DocSieve

/-- A stream of random 64-bit words. -/
abbrev WordStream := Nat → UInt64

def wordCount : Nat := 0x10000000000000000

/-- A number below `range`, which is between one and the number of words, drawn
from a position of the stream, and the position after it. -/
def drawBelow (words : WordStream) (position range : Nat) : Nat × Nat :=
  let product := (words position).toNat * range
  let high := product / wordCount
  let low := product % wordCount
  if low > wordCount - range then
    let carry := (words (position + 1)).toNat * range / wordCount
    (if low + carry ≥ wordCount then high + 1 else high, position + 2)
  else (high, position + 1)

/-- A number from `least` to `greatest`. -/
def drawBetween (words : WordStream) (position least greatest : Nat) : Nat × Nat :=
  let (n, next) := drawBelow words position (greatest - least + 1)
  (least + n, next)

/-- A 32-bit word rotated to the left. -/
def rotateLeft (x n : UInt32) : UInt32 := (x <<< n) ||| (x >>> (32 - n))

/-- The state of the generator that spreads a seed. -/
def spreadStep (state : UInt64) : UInt64 := state * 6364136223846793005 + 11634580027462260723

/-- The 32 bits that a state of the spreading generator gives. -/
def spreadWord (state : UInt64) : UInt32 :=
  let x := (((state >>> 18) ^^^ state) >>> 27).toUInt32
  let n := (state >>> 59).toUInt32
  (x >>> n) ||| (x <<< ((32 - n) % 32))

/-- The first `n` words that a seed is spread to. -/
def spreadSeed : (n : Nat) → (state : UInt64) → List UInt32
  | 0, _ => []
  | n + 1, state => spreadWord (spreadStep state) :: spreadSeed n (spreadStep state)

/-- Sixteen 32-bit words. -/
abbrev ChaChaBlock := Array UInt32

/-- A quarter round on four positions of the block. -/
def quarterRound (b : ChaChaBlock) (i j k l : Nat) : ChaChaBlock :=
  let a0 := b.getD i 0
  let b0 := b.getD j 0
  let c0 := b.getD k 0
  let d0 := b.getD l 0
  let a1 := a0 + b0
  let d1 := rotateLeft (d0 ^^^ a1) 16
  let c1 := c0 + d1
  let b1 := rotateLeft (b0 ^^^ c1) 12
  let a2 := a1 + b1
  let d2 := rotateLeft (d1 ^^^ a2) 8
  let c2 := c1 + d2
  let b2 := rotateLeft (b1 ^^^ c2) 7
  (((b.setIfInBounds i a2).setIfInBounds j b2).setIfInBounds k c2).setIfInBounds l d2

/-- The positions of the quarter rounds of a double round: the four columns,
then the four diagonals. -/
def doubleRoundPositions : List (Nat × Nat × Nat × Nat) := [
  (0, 4, 8, 12), (1, 5, 9, 13), (2, 6, 10, 14), (3, 7, 11, 15),
  (0, 5, 10, 15), (1, 6, 11, 12), (2, 7, 8, 13), (3, 4, 9, 14)]

/-- Two rounds on a block. -/
def doubleRound (b : ChaChaBlock) : ChaChaBlock :=
  doubleRoundPositions.foldl (fun b (i, j, k, l) => quarterRound b i j k l) b

/-- The block that the rounds start from. -/
def chachaInput (key : List UInt32) (counter : Nat) : ChaChaBlock :=
  ([0x61707865, 0x3320646e, 0x79622d32, 0x6b206574] ++ key
    ++ [UInt32.ofNat counter, UInt32.ofNat (counter / 0x100000000), 0, 0]).toArray

/-- A block of the keystream: twelve rounds, then the input added. -/
def chachaBlock (key : List UInt32) (counter : Nat) : ChaChaBlock :=
  let input := chachaInput key counter
  let mixed := (List.replicate 6 ()).foldl (fun b _ => doubleRound b) input
  mixed.zipWith (· + ·) input

/-- The stream of a seed. -/
def seededWords (seed : UInt64) : WordStream :=
  let key := spreadSeed 8 seed
  fun n =>
    let block := chachaBlock key (n / 8)
    let low := block.getD (2 * (n % 8)) 0
    let high := block.getD (2 * (n % 8) + 1) 0
    low.toUInt64 ||| (high.toUInt64 <<< 32)

end DocSieve

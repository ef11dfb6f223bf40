import Lockstep.Bytes

/-!
# Random numbers

Every tick has a stream of random words of its own, fixed by a seed: the key of the stream is
spun out of the seed, and the words are those of ChaCha with twelve rounds, block after block
from block zero. A stream therefore is its key together with how many words have been drawn.

`Stream.below` draws a number below a bound. Words whose product with the bound falls into the
incomplete last stretch are refused, so all results are equally likely.
-/

set_option autoImplicit false

namespace Lockstep.Random

open Bytes (littleEndian ofLittleEndian)

/-- Sixteen words of state or output. -/
abbrev Block := Vector UInt32 16

/-- Where a stream stands: its key and how many words have been drawn. -/
structure Stream where
  key : Vector UInt32 8
  drawn : Nat
  deriving DecidableEq

/-! ## Keys -/

/-- A word turned to the right. -/
def turnRight (word amount : UInt32) : UInt32 :=
  let amount := amount % 32
  if amount = 0 then word else (word >>> amount) ||| (word <<< (32 - amount))

/-- The next state of the generator that keys are spun from. -/
def spin (state : UInt64) : UInt64 := state * 6364136223846793005 + 11634580027462260723

/-- The word of a state: its high bits folded, and turned by its five highest bits. -/
def spunWord (state : UInt64) : UInt32 :=
  turnRight ((((state >>> 18) ^^^ state) >>> 27).toUInt32) (state >>> 59).toUInt32

/-- The words that follow a state. -/
def spunWords : Nat → UInt64 → List UInt32
  | 0, _ => []
  | count + 1, state => spunWord (spin state) :: spunWords count (spin state)

@[simp] theorem length_spunWords (count : Nat) (state : UInt64) :
    (spunWords count state).length = count := by
  induction count generalizing state with
  | zero => rfl
  | succ count inductionHypothesis => simp [spunWords, inductionHypothesis]

/-- The start of the stream with a seed. -/
def Stream.ofSeed (seed : UInt64) : Stream := ⟨⟨(spunWords 8 seed).toArray, by simp⟩, 0⟩

/-! ## Blocks -/

/-- Mix four places of the state. -/
def quarterRound (state : Block) (first second third fourth : Nat) : Block :=
  let turnLeft (word amount : UInt32) : UInt32 := turnRight word (32 - amount)
  let a := state[first]! + state[second]!
  let d := turnLeft (state[fourth]! ^^^ a) 16
  let c := state[third]! + d
  let b := turnLeft (state[second]! ^^^ c) 12
  let a := a + b
  let d := turnLeft (d ^^^ a) 8
  let c := c + d
  let b := turnLeft (b ^^^ c) 7
  (((state.setIfInBounds first a).setIfInBounds second b).setIfInBounds third c).setIfInBounds
    fourth d

/-- Two rounds: the columns of the state and then its diagonals. -/
def doubleRound (state : Block) : Block :=
  let state := quarterRound state 0 4 8 12
  let state := quarterRound state 1 5 9 13
  let state := quarterRound state 2 6 10 14
  let state := quarterRound state 3 7 11 15
  let state := quarterRound state 0 5 10 15
  let state := quarterRound state 1 6 11 12
  let state := quarterRound state 2 7 8 13
  quarterRound state 3 4 9 14

/-- The state that the block with a number starts from. -/
def initialBlock (key : Vector UInt32 8) (number : Nat) : Block :=
  let constants : Vector UInt32 4 := #v[0x61707865, 0x3320646E, 0x79622D32, 0x6B206574]
  let counter : Vector UInt32 4 :=
    #v[UInt32.ofNat number, UInt32.ofNat (number / 0x100000000), 0, 0]
  constants ++ key ++ counter

/-- The output of the block with a number. -/
def block (key : Vector UInt32 8) (number : Nat) : Block :=
  let start := initialBlock key number
  let mixed := Nat.repeat doubleRound 6 start
  Vector.zipWith (· + ·) start mixed

/-- The next word of a stream. -/
def Stream.next (stream : Stream) : UInt32 × Stream :=
  let place : Fin 16 := ⟨stream.drawn % 16, Nat.mod_lt _ (by decide)⟩
  ((block stream.key (stream.drawn / 16))[place], { stream with drawn := stream.drawn + 1 })

/-! ## Numbers below a bound -/

/-- Draw until a word is not refused. The first argument bounds the draws, of which each is refused
with a chance below `bound` in 2 ^ 32; the last one counts in any case. -/
def Stream.belowWithin : Nat → Nat → Stream → Nat × Stream
  | 0, bound, stream =>
    let (word, stream) := stream.next
    (word.toNat * bound / 0x100000000, stream)
  | draws + 1, bound, stream =>
    let (word, stream) := stream.next
    let product := word.toNat * bound
    let refused := (0x100000000 - bound) % bound
    if product % 0x100000000 ≤ 0xFFFFFFFF - refused then (product / 0x100000000, stream)
    else stream.belowWithin draws bound

/-- A number below a bound, all equally likely. -/
def Stream.below (bound : Nat) (stream : Stream) : Nat × Stream := stream.belowWithin 1000 bound

end Lockstep.Random

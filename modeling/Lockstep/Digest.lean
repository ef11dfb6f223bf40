import Lockstep.Bytes

/-!
# The digest of a byte string

BLAKE3 without a key. The input is cut into chunks of 1024 bytes and each chunk into blocks of
64. A chunk is compressed block by block; two chaining values side by side are compressed into
their parent's, where the left side of every pair holds the largest power of two of chunks
that leaves some for the right. The last compression, marked as the root, gives the digest.
-/

set_option autoImplicit false

namespace Lockstep.Digest

open Bytes (littleEndian ofLittleEndian)

/-- Eight words that carry the state from one compression to the next. -/
abbrev Chain := Vector UInt32 8

/-- Sixteen words of input, or of working state. -/
abbrev Block := Vector UInt32 16

/-- The initial chaining value. -/
def initial : Chain :=
  #v[0x6A09E667, 0xBB67AE85, 0x3C6EF372, 0xA54FF53A, 0x510E527F, 0x9B05688C, 0x1F83D9AB, 0x5BE0CD19]

/-- Marks the first block of a chunk. -/
def chunkStart : UInt32 := 1

/-- Marks the last block of a chunk. -/
def chunkEnd : UInt32 := 2

/-- Marks the compression of two chaining values. -/
def parentNode : UInt32 := 4

/-- Marks the last compression of all. -/
def rootNode : UInt32 := 8

/-! ## Compression -/

/-- A word turned to the right. -/
def rotateRight (word amount : UInt32) : UInt32 :=
  (word >>> amount) ||| (word <<< (32 - amount))

/-- Mix two words of input into four places of the working state. -/
def mix (state : Block) (first second third fourth : Fin 16) (left right : UInt32) : Block :=
  let a := state[first] + state[second] + left
  let d := rotateRight (state[fourth] ^^^ a) 16
  let c := state[third] + d
  let b := rotateRight (state[second] ^^^ c) 12
  let a := a + b + right
  let d := rotateRight (d ^^^ a) 8
  let c := c + d
  let b := rotateRight (b ^^^ c) 7
  (((state.set first a).set second b).set third c).set fourth d

/-- One round: the columns of the state and then its diagonals. -/
def mixRound (state words : Block) : Block :=
  let state := mix state 0 4 8 12 words[0] words[1]
  let state := mix state 1 5 9 13 words[2] words[3]
  let state := mix state 2 6 10 14 words[4] words[5]
  let state := mix state 3 7 11 15 words[6] words[7]
  let state := mix state 0 5 10 15 words[8] words[9]
  let state := mix state 1 6 11 12 words[10] words[11]
  let state := mix state 2 7 8 13 words[12] words[13]
  mix state 3 4 9 14 words[14] words[15]

/-- The order in which the next round takes the input words. -/
def permute (words : Block) : Block :=
  #v[words[2], words[6], words[3], words[10], words[7], words[0], words[4], words[13],
    words[1], words[11], words[12], words[5], words[9], words[14], words[15], words[8]]

/-- Rounds with the input words permuted before each but the first. -/
def mixRounds : Nat → Block → Block → Block
  | 0, state, _ => state
  | 1, state, words => mixRound state words
  | rounds + 1, state, words => mixRounds rounds (mixRound state words) (permute words)

/-- The chaining value after a block. -/
def compress (chain : Chain) (words : Block) (counter : UInt64) (length flags : UInt32) : Chain :=
  let state : Block :=
    #v[chain[0], chain[1], chain[2], chain[3], chain[4], chain[5], chain[6], chain[7],
      initial[0], initial[1], initial[2], initial[3],
      counter.toUInt32, (counter >>> 32).toUInt32, length, flags]
  let mixed := mixRounds 7 state words
  Vector.ofFn fun place : Fin 8 => mixed[place.val] ^^^ mixed[place.val + 8]

/-! ## Chunks -/

/-- The word at the start of a byte string; missing bytes are zero. -/
def word (bytes : Bytes) : UInt32 := UInt32.ofNat (ofLittleEndian (bytes.take 4))

/-- The first words of a byte string, four bytes each. -/
def wordList : Nat → Bytes → List UInt32
  | 0, _ => []
  | count + 1, bytes => word bytes :: wordList count (bytes.drop 4)

@[simp] theorem length_wordList (count : Nat) (bytes : Bytes) :
    (wordList count bytes).length = count := by
  induction count generalizing bytes with
  | zero => rfl
  | succ count inductionHypothesis => simp [wordList, inductionHypothesis]

/-- The sixteen words of a block of at most 64 bytes. -/
def blockWords (bytes : Bytes) : Block := ⟨(wordList 16 bytes).toArray, by simp⟩

/-- The blocks of a chunk that are left to compress. A chunk has at most sixteen blocks, and
the last one also carries the marks given for it. -/
def chunkBlocks : Nat → Chain → Bytes → UInt64 → UInt32 → UInt32 → Chain
  | 0, chain, _, _, _, _ => chain
  | blocks + 1, chain, bytes, counter, start, last =>
    let block := bytes.take 64
    let rest := bytes.drop 64
    let length := UInt32.ofNat block.length
    if rest.isEmpty then
      compress chain (blockWords block) counter length (start ||| chunkEnd ||| last)
    else
      chunkBlocks blocks (compress chain (blockWords block) counter length start) rest counter 0 last

/-- The chaining value of the chunk with a number. -/
def chunk (bytes : Bytes) (number : Nat) (last : UInt32) : Chain :=
  chunkBlocks 16 initial bytes (UInt64.ofNat number) chunkStart last

/-! ## The tree -/

/-- The chaining value of two neighbours. -/
def parent (left right : Chain) (last : UInt32) : Chain :=
  compress initial (left ++ right) 0 64 (parentNode ||| last)

/-- The input cut into chunks; the empty input is one empty chunk. The first number bounds the
chunks and is at least the length of the input. -/
def chunksOf : Nat → Bytes → List Bytes
  | 0, bytes => [bytes]
  | bound + 1, bytes =>
    let rest := bytes.drop 1024
    if rest.isEmpty then [bytes] else bytes.take 1024 :: chunksOf bound rest

/-- The largest power of two below a number, at least one. -/
def leftCount (count : Nat) : Nat := 1 <<< Nat.log2 (count - 1)

/-- The chaining value of neighbouring chunks, of which the first has the given number. The
first argument bounds the height of the tree. -/
def subtree : Nat → List Bytes → Nat → UInt32 → Chain
  | 0, _, _, _ => initial
  | _, [], _, _ => initial
  | _, [only], number, last => chunk only number last
  | height + 1, chunks, number, last =>
    let count := leftCount chunks.length
    parent (subtree height (chunks.take count) number 0)
      (subtree height (chunks.drop count) (number + count) 0) last

/-- The bytes of a chaining value. -/
def chainBytes (chain : Chain) : Bytes := chain.toList.flatMap fun word => littleEndian 4 word.toNat

/-- The digest of a byte string, thirty-two bytes. -/
def ofBytes (bytes : Bytes) : Bytes :=
  let chunks := chunksOf (bytes.length / 1024) bytes
  chainBytes (subtree 64 chunks 0 rootNode)

theorem length_ofBytes (bytes : Bytes) : (ofBytes bytes).length = 32 := by
  simp [ofBytes, chainBytes, List.length_flatMap, List.map_const']

end Lockstep.Digest

/-!
The BLAKE3 digest. A text is cut into chunks of 1024 bytes and each chunk into blocks of 64; the blocks
of a chunk are compressed one into the next, and the values of the chunks are paired level by level
until one is left. Nothing is assumed of it, not even that different texts have different digests.
-/

namespace TypedSearch.Blake3

abbrev Chaining := Vector UInt32 8

/-- The sixteen words of a block or of the compression state. -/
abbrev Words := Vector UInt32 16

def initial : Chaining :=
  #v[0x6A09E667, 0xBB67AE85, 0x3C6EF372, 0xA54FF53A, 0x510E527F, 0x9B05688C, 0x1F83D9AB, 0x5BE0CD19]

/-- The flag of the first block of a chunk. -/
def chunkStart : UInt32 := 1

/-- The flag of the last block of a chunk. -/
def chunkEnd : UInt32 := 2

def parent : UInt32 := 4

def root : UInt32 := 8

def blockSize : Nat := 64

def chunkSize : Nat := 1024

def rounds : Nat := 7

def rotate (word count : UInt32) : UInt32 := word >>> count ||| word <<< (32 - count)

/-- Four words of the state mixed with two words of the message. -/
def mix (state : Words) (a b c d : Fin 16) (first second : UInt32) : Words :=
  let a₁ := state[a] + state[b] + first
  let d₁ := rotate (state[d] ^^^ a₁) 16
  let c₁ := state[c] + d₁
  let b₁ := rotate (state[b] ^^^ c₁) 12
  let a₂ := a₁ + b₁ + second
  let d₂ := rotate (d₁ ^^^ a₂) 8
  let c₂ := c₁ + d₂
  let b₂ := rotate (b₁ ^^^ c₂) 7
  (((state.set a a₂).set b b₂).set c c₂).set d d₂

/-- One round: the columns of the state, then its diagonals. -/
def round (state message : Words) : Words :=
  let state := mix state 0 4 8 12 message[0] message[1]
  let state := mix state 1 5 9 13 message[2] message[3]
  let state := mix state 2 6 10 14 message[4] message[5]
  let state := mix state 3 7 11 15 message[6] message[7]
  let state := mix state 0 5 10 15 message[8] message[9]
  let state := mix state 1 6 11 12 message[10] message[11]
  let state := mix state 2 7 8 13 message[12] message[13]
  mix state 3 4 9 14 message[14] message[15]

/-- The message words in the order of the next round. -/
def permute (message : Words) : Words :=
  #v[message[2], message[6], message[3], message[10], message[7], message[0], message[4],
    message[13], message[1], message[11], message[12], message[5], message[9], message[14],
    message[15], message[8]]

/-- The rounds that are left, with the message permuted after each. -/
def runRounds : (count : Nat) → (state message : Words) → Words
  | 0, state, _ => state
  | count + 1, state, message => runRounds count (round state message) (permute message)

structure Block where
  chaining : Chaining
  words : Words
  counter : Nat
  length : Nat
  flags : UInt32

def wordValues : Nat := 4294967296

/-- The eight words that a block compresses to, with more flags. -/
def Block.compress (block : Block) (flags : UInt32) : Chaining :=
  let h := block.chaining
  let start : Words :=
    #v[h[0], h[1], h[2], h[3], h[4], h[5], h[6], h[7], initial[0], initial[1], initial[2],
      initial[3], UInt32.ofNat block.counter, UInt32.ofNat (block.counter / wordValues),
      UInt32.ofNat block.length, block.flags ||| flags]
  let state := runRounds rounds start block.words
  Vector.ofFn fun place : Fin 8 => state[place.val] ^^^ state[place.val + 8]

/-- The word whose bytes come first in a list, the lowest one first. -/
def wordAt (bytes : Array UInt8) (place : Nat) : UInt32 :=
  let byte := fun offset => (bytes.getD (4 * place + offset) 0).toUInt32
  byte 0 ||| byte 1 <<< 8 ||| byte 2 <<< 16 ||| byte 3 <<< 24

/-- The words of up to 64 bytes, filled up with zeros. -/
def wordsOf (bytes : List UInt8) : Words :=
  let all := bytes.toArray
  Vector.ofFn fun place : Fin 16 => wordAt all place.val

/-- The last block of a chunk, all blocks before it being compressed. `fuel` is at least the number
of blocks that are left. -/
def lastBlock (counter : Nat) : (fuel : Nat) → (flags : UInt32) → Chaining → List UInt8 → Block
  | 0, flags, chaining, bytes =>
    ⟨chaining, wordsOf bytes, counter, bytes.length, flags ||| chunkEnd⟩
  | fuel + 1, flags, chaining, bytes =>
    if bytes.length ≤ blockSize then
      ⟨chaining, wordsOf bytes, counter, bytes.length, flags ||| chunkEnd⟩
    else
      let block : Block := ⟨chaining, wordsOf (bytes.take blockSize), counter, blockSize, flags⟩
      lastBlock counter fuel 0 (block.compress 0) (bytes.drop blockSize)

/-- The last block of the chunk with a number. -/
def chunkBlock (counter : Nat) (bytes : List UInt8) : Block :=
  lastBlock counter (chunkSize / blockSize) chunkStart initial bytes

/-- The chunks of a text, at least one. `fuel` is at least the number of bytes. -/
def chunks : (fuel : Nat) → List UInt8 → List (List UInt8)
  | 0, bytes => [bytes]
  | fuel + 1, bytes =>
    if bytes.length ≤ chunkSize then [bytes]
    else bytes.take chunkSize :: chunks fuel (bytes.drop chunkSize)

def pairBlock (left right : Chaining) : Block :=
  ⟨initial, (left ++ right).cast rfl, 0, blockSize, parent⟩

/-- Neighbours paired, an odd last one going up as it is. -/
def pairUp : List Chaining → List Chaining
  | left :: right :: rest => (pairBlock left right).compress 0 :: pairUp rest
  | rest => rest

/-- The block at the root of two or more values. `fuel` is at least their number. -/
def rootBlock : (fuel : Nat) → Chaining → Chaining → List Chaining → Block
  | 0, left, right, _ => pairBlock left right
  | _, left, right, [] => pairBlock left right
  | fuel + 1, left, right, rest =>
    match pairUp (left :: right :: rest) with
    | first :: second :: others => rootBlock fuel first second others
    | _ => pairBlock left right

def digestWords (bytes : List UInt8) : Chaining :=
  let parts := chunks bytes.length bytes
  match parts.mapIdx chunkBlock with
  | first :: second :: rest =>
    let values := rest.map (Block.compress · 0)
    (rootBlock parts.length (first.compress 0) (second.compress 0) values).compress root
  | [only] => only.compress root
  | [] => initial

/-- The four bytes of a word, the lowest one first. -/
def wordBytes (word : UInt32) : List UInt8 :=
  [word.toUInt8, (word >>> 8).toUInt8, (word >>> 16).toUInt8, (word >>> 24).toUInt8]

def digest (bytes : List UInt8) : List UInt8 := (digestWords bytes).toList.flatMap wordBytes

end TypedSearch.Blake3

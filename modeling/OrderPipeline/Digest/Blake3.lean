/-!
# The BLAKE3 hash

A text is cut into chunks of 1024 bytes; each chunk is hashed in blocks of 64 bytes, and the chunks
are joined two by two into a binary tree whose left half is the largest power of two that leaves
something on the right. `Blake3.digest` is the hash of 32 bytes and `Blake3.hex` its text.
-/

namespace OrderPipeline.Blake3

/-- The initial words of a chaining value. -/
def initial : List UInt32 :=
  [0x6A09E667, 0xBB67AE85, 0x3C6EF372, 0xA54FF53A, 0x510E527F, 0x9B05688C, 0x1F83D9AB, 0x5BE0CD19]

/-- Marks the first block of a chunk. -/
def chunkStart : UInt32 := 1

/-- Marks the last block of a chunk. -/
def chunkEnd : UInt32 := 2

/-- Marks a node above chunks. -/
def parent : UInt32 := 4

/-- Marks the top of the tree. -/
def root : UInt32 := 8

/-- The order in which the words of a block are taken in the next round. -/
def permutation : List Nat := [2, 6, 3, 10, 7, 0, 4, 13, 1, 11, 12, 5, 9, 14, 15, 8]

/-- The bits of a word moved to the right, those that fall off coming back on the left. -/
def rotateRight (word : UInt32) (amount : UInt32) : UInt32 :=
  (word >>> amount) ||| (word <<< (32 - amount))

/-- A word of a state; past its end there are zeros. -/
def word (state : Array UInt32) (index : Nat) : UInt32 := state.getD index 0

/-- Mixes two words of the block into a column or diagonal of the state. -/
def mix (state : Array UInt32) (a b c d : Nat) (x y : UInt32) : Array UInt32 :=
  let va := word state a + word state b + x
  let vd := rotateRight (word state d ^^^ va) 16
  let vc := word state c + vd
  let vb := rotateRight (word state b ^^^ vc) 12
  let va := va + vb + y
  let vd := rotateRight (vd ^^^ va) 8
  let vc := vc + vd
  let vb := rotateRight (vb ^^^ vc) 7
  (((state.setIfInBounds a va).setIfInBounds b vb).setIfInBounds c vc).setIfInBounds d vd

/-- One round: the four columns, then the four diagonals. -/
def roundOf (state block : Array UInt32) : Array UInt32 :=
  let m := word block
  let state := mix state 0 4 8 12 (m 0) (m 1)
  let state := mix state 1 5 9 13 (m 2) (m 3)
  let state := mix state 2 6 10 14 (m 4) (m 5)
  let state := mix state 3 7 11 15 (m 6) (m 7)
  let state := mix state 0 5 10 15 (m 8) (m 9)
  let state := mix state 1 6 11 12 (m 10) (m 11)
  let state := mix state 2 7 8 13 (m 12) (m 13)
  mix state 3 4 9 14 (m 14) (m 15)

/-- Some rounds, with the words of the block put into a new order after each. -/
def rounds (state block : Array UInt32) : Nat → Array UInt32
  | 0 => state
  | count + 1 =>
    rounds (roundOf state block) (permutation.map (word block)).toArray count

/-- A block with what it is hashed together with. -/
structure Input where
  /-- The chaining value that comes before. -/
  chaining : List UInt32
  /-- The 16 words of the block. -/
  block : List UInt32
  /-- The number of the chunk. -/
  counter : Nat
  /-- How many bytes of the block are used. -/
  length : Nat
  /-- What the block is marked as. -/
  flags : UInt32

/-- The first eight words that a block compresses to. -/
def compress (input : Input) : List UInt32 :=
  let counter := input.counter.toUInt64
  let state :=
    input.chaining ++ initial.take 4 ++
      [counter.toUInt32, (counter >>> 32).toUInt32, input.length.toUInt32, input.flags]
  let final := rounds state.toArray input.block.toArray 7
  (List.range 8).map fun i => word final i ^^^ word final (i + 8)

/-- The words of bytes, the lowest byte first; missing bytes are zero. -/
def wordsOf (bytes : List UInt8) : (count : Nat) → List UInt32
  | 0 => []
  | count + 1 =>
    let byte := fun i : Nat => (bytes.getD i 0).toUInt32
    (byte 0 ||| byte 1 <<< 8 ||| byte 2 <<< 16 ||| byte 3 <<< 24) ::
      wordsOf (bytes.drop 4) count

/-- The last block of a chunk, before it is compressed. -/
def chunkInput (counter : Nat) (chaining : List UInt32) (start : UInt32) (bytes : List UInt8) :
    Input :=
  if 64 < bytes.length then
    let block := compress ⟨chaining, wordsOf (bytes.take 64) 16, counter, 64, start⟩
    chunkInput counter block 0 (bytes.drop 64)
  else ⟨chaining, wordsOf bytes 16, counter, bytes.length, start ||| chunkEnd⟩
termination_by bytes.length
decreasing_by
  simp only [List.length_drop]
  omega

/-- The node above two chaining values, before it is compressed. -/
def parentInput (left right : List UInt32) : Input := ⟨initial, left ++ right, 0, 64, parent⟩

/-- How many chunks the left half of a tree has: the largest power of two below their number. -/
def leftChunks (chunks : Nat) : Nat := Nat.pow 2 ((chunks - 1).log2)

/-- The top node of the tree over some chunks, before it is compressed; `fuel` bounds the height. -/
def treeInput : (fuel : Nat) → (counter : Nat) → (chunks : List (List UInt8)) → Input
  | 0, counter, chunks => chunkInput counter initial chunkStart (chunks.headD [])
  | fuel + 1, counter, chunks =>
    match chunks with
    | [] => chunkInput counter initial chunkStart []
    | [chunk] => chunkInput counter initial chunkStart chunk
    | _ =>
      let left := leftChunks chunks.length
      parentInput (compress (treeInput fuel counter (chunks.take left)))
        (compress (treeInput fuel (counter + left) (chunks.drop left)))

/-- Bytes cut into chunks of 1024. -/
def chunksOf (bytes : List UInt8) : List (List UInt8) :=
  if 1024 < bytes.length then bytes.take 1024 :: chunksOf (bytes.drop 1024) else [bytes]
termination_by bytes.length
decreasing_by
  simp only [List.length_drop]
  omega

/-- The hash of bytes, as eight words. -/
def digest (bytes : List UInt8) : List UInt32 :=
  let chunks := chunksOf bytes
  let top := treeInput chunks.length 0 chunks
  compress { top with flags := top.flags ||| root }

/-- The two hexadecimal digits of a byte. -/
def byteHex (byte : Nat) : List Char := [Nat.digitChar (byte / 16 % 16), Nat.digitChar (byte % 16)]

/-- A word in hexadecimal digits, the lowest byte first. -/
def wordHex (word : UInt32) : List Char :=
  (List.range 4).flatMap fun i => byteHex (word.toNat / Nat.pow 256 i % 256)

/-- The hash of a text as 64 hexadecimal digits. -/
def hex (text : String) : String :=
  String.ofList ((digest text.toUTF8.toList).flatMap wordHex)

end OrderPipeline.Blake3

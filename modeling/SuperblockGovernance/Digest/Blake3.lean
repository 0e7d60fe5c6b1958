/-
The BLAKE3 digest of an octet string, unkeyed and 32 octets long. The message is
cut into chunks of 1024 octets, each chunk is compressed block by block, and the
chunks are the leaves of a binary tree whose left part is always the greatest
power of two that leaves something to the right.
-/

import SuperblockGovernance.Octets

namespace SuperblockGovernance.Blake3

/-! ### Compression -/

/-- What is carried from one block to the next. -/
abbrev ChainingValue := Vector UInt32 8

/-- Sixteen words: a block of the message, or the state while one is mixed in. -/
abbrev Block := Vector UInt32 16

/-- The chaining value that every chunk starts from. -/
def initial : ChainingValue :=
  #v[0x6a09e667, 0xbb67ae85, 0x3c6ef372, 0xa54ff53a, 0x510e527f, 0x9b05688c, 0x1f83d9ab, 0x5be0cd19]

/-- Marks the first block of a chunk. -/
def chunkStart : UInt32 := 1

/-- Marks the last block of a chunk. -/
def chunkEnd : UInt32 := 2

/-- Marks a node over two others. -/
def parent : UInt32 := 4

/-- Marks the node over all others. -/
def root : UInt32 := 8

/-- The bits of a word moved to the right, those that leave it coming in on the left. -/
def rotateRight (word amount : UInt32) : UInt32 :=
  (word >>> amount) ||| (word <<< (32 - amount))

/-- Mixes two words of the block into one column or diagonal of the state. -/
def quarter (state : Block) (a b c d : Fin 16) (first second : UInt32) : Block :=
  let a₁ := state[a] + state[b] + first
  let d₁ := rotateRight (state[d] ^^^ a₁) 16
  let c₁ := state[c] + d₁
  let b₁ := rotateRight (state[b] ^^^ c₁) 12
  let a₂ := a₁ + b₁ + second
  let d₂ := rotateRight (d₁ ^^^ a₂) 8
  let c₂ := c₁ + d₂
  let b₂ := rotateRight (b₁ ^^^ c₂) 7
  (((state.set a a₂).set b b₂).set c c₂).set d d₂

/-- One round: the four columns, then the four diagonals. -/
def mixRound (state block : Block) : Block :=
  let state := quarter state 0 4 8 12 block[0] block[1]
  let state := quarter state 1 5 9 13 block[2] block[3]
  let state := quarter state 2 6 10 14 block[4] block[5]
  let state := quarter state 3 7 11 15 block[6] block[7]
  let state := quarter state 0 5 10 15 block[8] block[9]
  let state := quarter state 1 6 11 12 block[10] block[11]
  let state := quarter state 2 7 8 13 block[12] block[13]
  quarter state 3 4 9 14 block[14] block[15]

/-- The order in which the next round reads the words of the block. -/
def permuted (block : Block) : Block :=
  #v[block[2], block[6], block[3], block[10], block[7], block[0], block[4], block[13],
    block[1], block[11], block[12], block[5], block[9], block[14], block[15], block[8]]

/-- Mixes the block in a number of rounds, permuted from one to the next. -/
def mixRounds : Nat → Block → Block → Block
  | 0, state, _ => state
  | rounds + 1, state, block => mixRounds rounds (mixRound state block) (permuted block)

/-- A compression that is still to be carried out: the inputs of one node of the tree. -/
structure Node where
  chaining : ChainingValue
  block : Block
  counter : Nat
  length : Nat
  flags : UInt32

/-- The chaining value of a node, with further flags set. -/
def Node.compress (node : Node) (flags : UInt32) : ChainingValue :=
  let key := node.chaining
  let state : Block :=
    #v[key[0], key[1], key[2], key[3], key[4], key[5], key[6], key[7],
      initial[0], initial[1], initial[2], initial[3],
      UInt32.ofNat node.counter, UInt32.ofNat (node.counter / 2 ^ 32),
      UInt32.ofNat node.length, node.flags ||| flags]
  let mixed := mixRounds 7 state node.block
  Vector.ofFn fun index => mixed[index.val] ^^^ mixed[index.val + 8]

/-! ### Chunks -/

/-- Sixteen words from at most sixty-four octets, filled up with zeros. -/
def blockOf (octets : Octets) : Block :=
  let words := ((Octets.chunks 4 octets).map fun word =>
    UInt32.ofNat (Octets.ofLittleEndian word)).toArray
  Vector.ofFn fun index => words.getD index 0

/-- The last block of a chunk as a node, after the blocks before it were compressed. -/
def chunkNode (counter : Nat) (chaining : ChainingValue) (flags : UInt32) : List Octets → Node
  | [] => ⟨chaining, blockOf [], counter, 0, flags ||| chunkEnd⟩
  | [last] => ⟨chaining, blockOf last, counter, last.length, flags ||| chunkEnd⟩
  | block :: rest =>
    let node : Node := ⟨chaining, blockOf block, counter, block.length, flags⟩
    chunkNode counter (node.compress 0) 0 rest

/-- The node of one chunk, by its place in the message. -/
def leaf (counter : Nat) (chunk : Octets) : Node :=
  chunkNode counter initial chunkStart (Octets.chunks 64 chunk)

/-! ### The tree -/

/-- The number of chunks in the left part of a tree of `count` chunks. -/
def leftCount (count : Nat) : Nat :=
  2 ^ (count - 1).log2

theorem leftCount_pos (count : Nat) : 0 < leftCount count :=
  Nat.two_pow_pos _

theorem leftCount_lt {count : Nat} (several : 1 < count) : leftCount count < count := by
  have bound : 2 ^ (count - 1).log2 ≤ count - 1 := Nat.log2_self_le (by omega)
  rw [leftCount]
  omega

/-- The node above two chaining values. -/
def parentNode (left right : ChainingValue) : Node :=
  ⟨initial, left ++ right, 0, 64, parent⟩

/-- The node at the top of a tree of chunks, the first of which has the number `counter`. -/
def tree (counter : Nat) (chunks : List Octets) : Node :=
  if chunks.length ≤ 1 then leaf counter (chunks.headD [])
  else
    let left := leftCount chunks.length
    parentNode ((tree counter (chunks.take left)).compress 0)
      ((tree (counter + left) (chunks.drop left)).compress 0)
termination_by chunks.length
decreasing_by
  · have := leftCount_lt (show 1 < chunks.length by omega)
    rw [List.length_take]
    omega
  · have := leftCount_pos chunks.length
    rw [List.length_drop]
    omega

/-- The thirty-two octets of the digest. -/
def digest (message : Octets) : Octets :=
  let words := (tree 0 (Octets.chunks 1024 message)).compress root
  words.toList.flatMap fun word => Octets.littleEndian 4 word.toNat

end SuperblockGovernance.Blake3

/-
The MD5 digest (RFC 1321) of an octet string. The message is filled up to whole
blocks of sixteen words, and each block is folded into a state of four words in
sixty-four steps.
-/

import SuperblockGovernance.Octets

namespace SuperblockGovernance.Md5

/-- The chaining state between two blocks. -/
structure State where
  a : UInt32
  b : UInt32
  c : UInt32
  d : UInt32
  deriving DecidableEq, Repr

/-- The state before the first block. -/
def start : State :=
  ⟨0x67452301, 0xefcdab89, 0x98badcfe, 0x10325476⟩

/-- The additive constant of each step: the whole part of `2 ^ 32 * |sin (step + 1)|`. -/
def constants : Array UInt32 :=
  #[
    0xd76aa478, 0xe8c7b756, 0x242070db, 0xc1bdceee, 0xf57c0faf, 0x4787c62a, 0xa8304613, 0xfd469501,
    0x698098d8, 0x8b44f7af, 0xffff5bb1, 0x895cd7be, 0x6b901122, 0xfd987193, 0xa679438e, 0x49b40821,
    0xf61e2562, 0xc040b340, 0x265e5a51, 0xe9b6c7aa, 0xd62f105d, 0x02441453, 0xd8a1e681, 0xe7d3fbc8,
    0x21e1cde6, 0xc33707d6, 0xf4d50d87, 0x455a14ed, 0xa9e3e905, 0xfcefa3f8, 0x676f02d9, 0x8d2a4c8a,
    0xfffa3942, 0x8771f681, 0x6d9d6122, 0xfde5380c, 0xa4beea44, 0x4bdecfa9, 0xf6bb4b60, 0xbebfbc70,
    0x289b7ec6, 0xeaa127fa, 0xd4ef3085, 0x04881d05, 0xd9d4d039, 0xe6db99e5, 0x1fa27cf8, 0xc4ac5665,
    0xf4292244, 0x432aff97, 0xab9423a7, 0xfc93a039, 0x655b59c3, 0x8f0ccc92, 0xffeff47d, 0x85845dd1,
    0x6fa87e4f, 0xfe2ce6e0, 0xa3014314, 0x4e0811a1, 0xf7537e82, 0xbd3af235, 0x2ad7d2bb, 0xeb86d391]

/-- The left rotations of the four rounds, each used in turn within its round. -/
def rotations : Array UInt32 :=
  #[7, 12, 17, 22, 5, 9, 14, 20, 4, 11, 16, 23, 6, 10, 15, 21]

/-- The bits of a word moved to the left, those that leave it coming in on the right. -/
def rotateLeft (word amount : UInt32) : UInt32 :=
  (word <<< amount) ||| (word >>> (32 - amount))

/-- The word of the block that a step reads, and the mix of `b`, `c` and `d` it adds. -/
def mix (state : State) (step : Nat) : Nat × UInt32 :=
  let ⟨_, b, c, d⟩ := state
  if step < 16 then (step, (b &&& c) ||| (~~~b &&& d))
  else if step < 32 then ((5 * step + 1) % 16, (d &&& b) ||| (~~~d &&& c))
  else if step < 48 then ((3 * step + 5) % 16, b ^^^ c ^^^ d)
  else (7 * step % 16, c ^^^ (b ||| ~~~d))

/-- One of the sixty-four steps for a block. -/
def step (block : Array UInt32) (state : State) (index : Nat) : State :=
  let (source, mixed) := mix state index
  let sum := state.a + mixed + constants.getD index 0 + block.getD source 0
  let amount := rotations.getD (index / 16 * 4 + index % 4) 0
  ⟨state.d, state.b + rotateLeft sum amount, state.b, state.c⟩

/-- Folds one block of sixty-four octets into the state. -/
def absorb (state : State) (block : Octets) : State :=
  let words := (Octets.chunks 4 block).map fun word => UInt32.ofNat (Octets.ofLittleEndian word)
  let mixed := (List.range 64).foldl (step words.toArray) state
  ⟨state.a + mixed.a, state.b + mixed.b, state.c + mixed.c, state.d + mixed.d⟩

/-- The message, a one bit, zeros up to eight octets short of a block, and the length in bits. -/
def padded (message : Octets) : Octets :=
  message ++ 0x80 :: List.replicate ((119 - message.length % 64) % 64) 0 ++
    Octets.littleEndian 8 (8 * message.length)

/-- The sixteen octets of the digest. -/
def digest (message : Octets) : Octets :=
  let final := (Octets.chunks 64 (padded message)).foldl absorb start
  [final.a, final.b, final.c, final.d].flatMap fun word => Octets.littleEndian 4 word.toNat

end SuperblockGovernance.Md5

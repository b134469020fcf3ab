import MultipartUpload.Text.Hex

/-!
# MD5

The digest of a byte string in sixteen bytes. The message is padded to whole blocks of 64 bytes, and
every block is mixed into four words of 32 bits in 64 steps. All words are little-endian.
-/

namespace MultipartUpload.Md5

/-- The four chaining words. -/
structure State where
  a : UInt32
  b : UInt32
  c : UInt32
  d : UInt32
  deriving DecidableEq, Repr

def State.start : State :=
  ⟨0x67452301, 0xefcdab89, 0x98badcfe, 0x10325476⟩

/-- The added constants: the integer parts of `2 ^ 32 * |sin (i + 1)|`. -/
def constants : List UInt32 :=
  [0xd76aa478, 0xe8c7b756, 0x242070db, 0xc1bdceee, 0xf57c0faf, 0x4787c62a,
    0xa8304613, 0xfd469501, 0x698098d8, 0x8b44f7af, 0xffff5bb1, 0x895cd7be,
    0x6b901122, 0xfd987193, 0xa679438e, 0x49b40821, 0xf61e2562, 0xc040b340,
    0x265e5a51, 0xe9b6c7aa, 0xd62f105d, 0x02441453, 0xd8a1e681, 0xe7d3fbc8,
    0x21e1cde6, 0xc33707d6, 0xf4d50d87, 0x455a14ed, 0xa9e3e905, 0xfcefa3f8,
    0x676f02d9, 0x8d2a4c8a, 0xfffa3942, 0x8771f681, 0x6d9d6122, 0xfde5380c,
    0xa4beea44, 0x4bdecfa9, 0xf6bb4b60, 0xbebfbc70, 0x289b7ec6, 0xeaa127fa,
    0xd4ef3085, 0x04881d05, 0xd9d4d039, 0xe6db99e5, 0x1fa27cf8, 0xc4ac5665,
    0xf4292244, 0x432aff97, 0xab9423a7, 0xfc93a039, 0x655b59c3, 0x8f0ccc92,
    0xffeff47d, 0x85845dd1, 0x6fa87e4f, 0xfe2ce6e0, 0xa3014314, 0x4e0811a1,
    0xf7537e82, 0xbd3af235, 0x2ad7d2bb, 0xeb86d391]

/-- What one step adds and how it moves the words. -/
structure Step where
  /-- The round that the step belongs to, counted from zero. -/
  round : Nat
  constant : UInt32
  /-- Which of the sixteen words of the block the step adds. -/
  word : Nat
  /-- How far the step rotates. -/
  rotation : UInt32

namespace Step

/-- The rotations of a round, which take turns. -/
def rotations : Nat → Array UInt32
  | 0 => #[7, 12, 17, 22]
  | 1 => #[5, 9, 14, 20]
  | 2 => #[4, 11, 16, 23]
  | _ => #[6, 10, 15, 21]

/-- The word that a step of a round adds. -/
def wordIndex (round index : Nat) : Nat :=
  match round with
  | 0 => index
  | 1 => (5 * index + 1) % 16
  | 2 => (3 * index + 5) % 16
  | _ => 7 * index % 16

/-- The step with a place in the sequence, counted from zero. -/
def ofIndex (index : Nat) (constant : UInt32) : Step where
  round := index / 16
  constant := constant
  word := wordIndex (index / 16) index
  rotation := (rotations (index / 16)).getD (index % 4) 0

def all : List Step :=
  constants.zipIdx.map fun (constant, index) ↦ ofIndex index constant

/-- The nonlinear function of the step's round. -/
def mix (step : Step) (b c d : UInt32) : UInt32 :=
  match step.round with
  | 0 => (b &&& c) ||| (~~~b &&& d)
  | 1 => (d &&& b) ||| (~~~d &&& c)
  | 2 => b ^^^ c ^^^ d
  | _ => c ^^^ (b ||| ~~~d)

def apply (step : Step) (block : Array UInt32) (s : State) : State :=
  let sum := step.mix s.b s.c s.d + s.a + step.constant + block.getD step.word 0
  let r := step.rotation
  ⟨s.d, s.b + (sum <<< r ||| sum >>> (32 - r)), s.b, s.c⟩

end Step

/-- Mixes one block of sixteen words into the state. -/
def State.absorb (s : State) (block : Array UInt32) : State :=
  let t := Step.all.foldl (fun t step ↦ step.apply block t) s
  ⟨s.a + t.a, s.b + t.b, s.c + t.c, s.d + t.d⟩

/-- The bytes of a number, the lowest first. -/
def littleEndian : Nat → Nat → Bytes
  | 0, _ => []
  | count + 1, n => UInt8.ofNat n :: littleEndian count (n / 256)

/-- Reads words of four bytes each behind those already read, and gives the bytes that are left. -/
def readWords : Nat → Bytes → Array UInt32 → Array UInt32 × Bytes
  | count + 1, b₀ :: b₁ :: b₂ :: b₃ :: rest, words =>
    readWords count rest <| words.push <|
      b₀.toUInt32 ||| b₁.toUInt32 <<< 8 ||| b₂.toUInt32 <<< 16 ||| b₃.toUInt32 <<< 24
  | _, rest, words => (words, rest)

/-- What follows the whole blocks of a message: the bytes left over, a one bit, zeros up to the last
eight bytes of a block, and the length of the message in bits. -/
def pad (rest : Bytes) (length : Nat) : Bytes :=
  rest ++ 0x80 :: List.replicate ((119 - length % 64) % 64) 0 ++ littleEndian 8 (8 * length)

/-- Absorbs the given number of blocks and gives the bytes that are left. -/
def absorbBlocks : Nat → Bytes → State → State × Bytes
  | 0, bytes, s => (s, bytes)
  | count + 1, bytes, s =>
    let (block, rest) := readWords 16 bytes #[]
    absorbBlocks count rest (s.absorb block)

/-- The digest of a message. -/
def digest (message : Bytes) : Bytes :=
  let (s, rest) := absorbBlocks (message.length / 64) message .start
  let last := pad rest message.length
  let (s, _) := absorbBlocks (last.length / 64) last s
  [s.a, s.b, s.c, s.d].flatMap fun w ↦ littleEndian 4 w.toNat

end MultipartUpload.Md5

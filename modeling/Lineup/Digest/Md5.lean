/-
  Lineup.Digest.Md5
  ─────────────────
  **THE MD5 DIGEST.**  A message is padded to whole blocks of sixteen 32-bit
  words; every block stirs a state of four words in 64 steps; the last state,
  low bytes first, is the digest.
-/

namespace Lineup.Md5

/-! ## §1. Blocks. -/

/-- The byte of a number at a place; place 0 is the lowest. -/
def byteAt (n place : Nat) : Nat := (n >>> (8 * place)) % 256

/-- A message with its padding: one set bit, zeros, and the length in bits in
64 bits, low byte first. -/
def pad (message : List UInt8) : List UInt8 :=
  let n := message.length
  message ++ [0x80] ++ List.replicate ((119 - n % 64) % 64) 0
    ++ (List.range 8).map fun i => UInt8.ofNat (byteAt (8 * n) i)

/-- Words of four bytes, low byte first. A rest of fewer than four bytes is
left out; a padded message has none. -/
def toWords : List UInt8 → List UInt32
  | a :: b :: c :: d :: rest =>
    (a.toUInt32 ||| (b.toUInt32 <<< 8) ||| (c.toUInt32 <<< 16) ||| (d.toUInt32 <<< 24))
      :: toWords rest
  | _ => []

/-- Blocks of sixteen words. -/
def blocks (ws : List UInt32) : List (Array UInt32) :=
  match ws with
  | [] => []
  | w :: rest => (w :: rest.take 15).toArray :: blocks (rest.drop 15)
termination_by ws.length
decreasing_by simp only [List.length_drop, List.length_cons]; omega

/-! ## §2. Steps. -/

/-- The state of the digest. -/
structure State where
  /-- The first word. -/
  a : UInt32
  /-- The second word. -/
  b : UInt32
  /-- The third word. -/
  c : UInt32
  /-- The fourth word. -/
  d : UInt32
  deriving DecidableEq, Repr

/-- The state before the first block. -/
def State.initial : State := ⟨0x67452301, 0xefcdab89, 0x98badcfe, 0x10325476⟩

/-- Two states word by word. -/
def State.add (s t : State) : State := ⟨s.a + t.a, s.b + t.b, s.c + t.c, s.d + t.d⟩

/-- The constants of the 64 steps: the fractions of sines. -/
def sines : Array UInt32 := #[
   0xd76aa478, 0xe8c7b756, 0x242070db, 0xc1bdceee,
   0xf57c0faf, 0x4787c62a, 0xa8304613, 0xfd469501,
   0x698098d8, 0x8b44f7af, 0xffff5bb1, 0x895cd7be,
   0x6b901122, 0xfd987193, 0xa679438e, 0x49b40821,
   0xf61e2562, 0xc040b340, 0x265e5a51, 0xe9b6c7aa,
   0xd62f105d, 0x02441453, 0xd8a1e681, 0xe7d3fbc8,
   0x21e1cde6, 0xc33707d6, 0xf4d50d87, 0x455a14ed,
   0xa9e3e905, 0xfcefa3f8, 0x676f02d9, 0x8d2a4c8a,
   0xfffa3942, 0x8771f681, 0x6d9d6122, 0xfde5380c,
   0xa4beea44, 0x4bdecfa9, 0xf6bb4b60, 0xbebfbc70,
   0x289b7ec6, 0xeaa127fa, 0xd4ef3085, 0x04881d05,
   0xd9d4d039, 0xe6db99e5, 0x1fa27cf8, 0xc4ac5665,
   0xf4292244, 0x432aff97, 0xab9423a7, 0xfc93a039,
   0x655b59c3, 0x8f0ccc92, 0xffeff47d, 0x85845dd1,
   0x6fa87e4f, 0xfe2ce6e0, 0xa3014314, 0x4e0811a1,
   0xf7537e82, 0xbd3af235, 0x2ad7d2bb, 0xeb86d391]

/-- How far each of four steps in a row rotates, for every round of sixteen. -/
def rotations (i : Nat) : UInt32 :=
  let row : Array UInt32 :=
    if i < 16 then #[7, 12, 17, 22]
    else if i < 32 then #[5, 9, 14, 20]
    else if i < 48 then #[4, 11, 16, 23]
    else #[6, 10, 15, 21]
  row.getD (i % 4) 0

/-- What step `i` mixes from a state, and which word of the block it takes. -/
def mix (s : State) (i : Nat) : UInt32 × Nat :=
  if i < 16 then ((s.b &&& s.c) ||| (~~~s.b &&& s.d), i)
  else if i < 32 then ((s.d &&& s.b) ||| (~~~s.d &&& s.c), (5 * i + 1) % 16)
  else if i < 48 then (s.b ^^^ s.c ^^^ s.d, (3 * i + 5) % 16)
  else (s.c ^^^ (s.b ||| ~~~s.d), (7 * i) % 16)

/-- A word rotated to the left. -/
def rotate (w n : UInt32) : UInt32 := (w <<< n) ||| (w >>> (32 - n))

/-- Step `i` of a block. -/
def step (block : Array UInt32) (s : State) (i : Nat) : State :=
  -- all sums are taken modulo the size of a word
  let (f, g) := mix s i
  let sum := f + s.a + sines.getD i 0 + block.getD g 0
  ⟨s.d, s.b + rotate sum (rotations i), s.b, s.c⟩

/-- A whole block. -/
def stir (s : State) (block : Array UInt32) : State :=
  s.add ((List.range 64).foldl (step block) s)

/-! ## §3. The digest. -/

/-- The state after a message. -/
def run (message : List UInt8) : State := (blocks (toWords (pad message))).foldl stir .initial

/-- Two lower-case hexadecimal digits. -/
def hexByte (n : Nat) : List Char := [Nat.digitChar (n / 16 % 16), Nat.digitChar (n % 16)]

/-- The hexadecimal form of a word, low byte first. -/
def hexWord (w : UInt32) : List Char :=
  (List.range 4).flatMap fun i => hexByte (byteAt w.toNat i)

/-- The hexadecimal form of the digest of a message. -/
def hex (message : ByteArray) : String :=
  let s := run message.toList
  String.ofList ([s.a, s.b, s.c, s.d].flatMap hexWord)

end Lineup.Md5

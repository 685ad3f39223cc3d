/-!
# MD5

The digest of RFC 1321.  A message is padded to blocks of 64 bytes; each block is mixed into a
state of four 32-bit words by 64 steps; the words are written with their low bytes first.

    (padded message).length % 64 = 0                        (length_padded)
    (digest message).length = 16                            (length_digest)
-/

namespace RunLedger.Md5

/-- The four words that the blocks are mixed into. -/
structure State where
  a : UInt32
  b : UInt32
  c : UInt32
  d : UInt32
deriving Repr, DecidableEq

def initialState : State := ⟨0x67452301, 0xefcdab89, 0x98badcfe, 0x10325476⟩

/-- The additive constants of the 64 steps: the first 32 bits after the point of |sin i|. -/
def stepConstants : List UInt32 := [
  0xd76aa478, 0xe8c7b756, 0x242070db, 0xc1bdceee, 0xf57c0faf, 0x4787c62a, 0xa8304613, 0xfd469501,
  0x698098d8, 0x8b44f7af, 0xffff5bb1, 0x895cd7be, 0x6b901122, 0xfd987193, 0xa679438e, 0x49b40821,
  0xf61e2562, 0xc040b340, 0x265e5a51, 0xe9b6c7aa, 0xd62f105d, 0x02441453, 0xd8a1e681, 0xe7d3fbc8,
  0x21e1cde6, 0xc33707d6, 0xf4d50d87, 0x455a14ed, 0xa9e3e905, 0xfcefa3f8, 0x676f02d9, 0x8d2a4c8a,
  0xfffa3942, 0x8771f681, 0x6d9d6122, 0xfde5380c, 0xa4beea44, 0x4bdecfa9, 0xf6bb4b60, 0xbebfbc70,
  0x289b7ec6, 0xeaa127fa, 0xd4ef3085, 0x04881d05, 0xd9d4d039, 0xe6db99e5, 0x1fa27cf8, 0xc4ac5665,
  0xf4292244, 0x432aff97, 0xab9423a7, 0xfc93a039, 0x655b59c3, 0x8f0ccc92, 0xffeff47d, 0x85845dd1,
  0x6fa87e4f, 0xfe2ce6e0, 0xa3014314, 0x4e0811a1, 0xf7537e82, 0xbd3af235, 0x2ad7d2bb, 0xeb86d391]

/-- How far each step rotates: four rounds of sixteen steps, four distances to a round. -/
def rotation (step : Nat) : UInt32 :=
  let distances : List UInt32 :=
    match step / 16 with
    | 0 => [7, 12, 17, 22]
    | 1 => [5, 9, 14, 20]
    | 2 => [4, 11, 16, 23]
    | _ => [6, 10, 15, 21]
  distances.getD (step % 4) 0

def rotateLeft (x n : UInt32) : UInt32 := (x <<< n) ||| (x >>> (32 - n))

/-- The bitwise function of a step's round. -/
def roundFunction (step : Nat) (b c d : UInt32) : UInt32 :=
  match step / 16 with
  | 0 => (b &&& c) ||| (~~~b &&& d)
  | 1 => (d &&& b) ||| (~~~d &&& c)
  | 2 => b ^^^ c ^^^ d
  | _ => c ^^^ (b ||| ~~~d)

/-- Which word of the block a step takes in. -/
def wordIndex (step : Nat) : Nat :=
  match step / 16 with
  | 0 => step
  | 1 => (5 * step + 1) % 16
  | 2 => (3 * step + 5) % 16
  | _ => 7 * step % 16

/-- One step over the words of a block. -/
def mixStep (words : List UInt32) (s : State) (step : Nat) : State :=
  let sum := s.a + roundFunction step s.b s.c s.d + stepConstants.getD step 0 +
    words.getD (wordIndex step) 0
  ⟨s.d, s.b + rotateLeft sum (rotation step), s.b, s.c⟩

def mixBlock (s : State) (words : List UInt32) : State :=
  let t := (List.range 64).foldl (mixStep words) s
  ⟨s.a + t.a, s.b + t.b, s.c + t.c, s.d + t.d⟩

/-- The low `count` bytes of a number, lowest first. -/
def lowBytes : (count n : Nat) → List UInt8
  | 0, _ => []
  | count + 1, n => UInt8.ofNat (n % 256) :: lowBytes count (n / 256)

/-- The message with a one bit, zeros and its length in bits, in whole blocks. -/
def padded (message : List UInt8) : List UInt8 :=
  let zeros := (119 - message.length % 64) % 64
  message ++ 0x80 :: (List.replicate zeros 0 ++ lowBytes 8 (8 * message.length))

/-- Bytes taken four at a time as words, low byte first. -/
def toWords : List UInt8 → List UInt32
  | b0 :: b1 :: b2 :: b3 :: rest =>
    (b0.toUInt32 ||| (b1.toUInt32 <<< 8) ||| (b2.toUInt32 <<< 16) ||| (b3.toUInt32 <<< 24)) ::
      toWords rest
  | _ => []

/-- Blocks of sixteen words, one after the other. -/
def mixWords (count : Nat) (s : State) (words : List UInt32) : State :=
  match count with
  | 0 => s
  | count + 1 => mixWords count (mixBlock s (words.take 16)) (words.drop 16)

def digest (message : List UInt8) : List UInt8 :=
  let words := toWords (padded message)
  let s := mixWords (words.length / 16) initialState words
  [s.a, s.b, s.c, s.d].flatMap fun word => lowBytes 4 word.toNat

/-! ## Lemmas -/

theorem length_lowBytes (count n : Nat) : (lowBytes count n).length = count := by
  induction count generalizing n with
  | zero => rfl
  | succ count ih => simp [lowBytes, ih]

/-- A padded message is whole blocks, of which none is left over. -/
theorem length_padded (message : List UInt8) : (padded message).length % 64 = 0 := by
  simp only [padded, List.length_append, List.length_cons, List.length_replicate, length_lowBytes]
  omega

theorem length_digest (message : List UInt8) : (digest message).length = 16 := by
  simp [digest, length_lowBytes]

end RunLedger.Md5

import KernelCache.Power
import KernelCache.Text.Utf8

/-
**SHA-256.**

* `Sha256.pad` completes a message to whole blocks: the bit 1, zeros, and the length in 64 bits.
* `Sha256.schedule` extends one block to the 64 words of a round.
* `Sha256.compress` folds one block into the eight words of the state.
* `Sha256.digest` is the state after the last block.
-/

namespace KernelCache.Sha256

/-- The eight working words. -/
structure State where
  a : UInt32
  b : UInt32
  c : UInt32
  d : UInt32
  e : UInt32
  f : UInt32
  g : UInt32
  h : UInt32

/-- The words before the first block. -/
def initial : State :=
  ⟨0x6a09e667, 0xbb67ae85, 0x3c6ef372, 0xa54ff53a, 0x510e527f, 0x9b05688c, 0x1f83d9ab, 0x5be0cd19⟩

/-- One constant for each of the 64 steps. -/
def constants : List UInt32 := [
  0x428a2f98, 0x71374491, 0xb5c0fbcf, 0xe9b5dba5, 0x3956c25b, 0x59f111f1, 0x923f82a4, 0xab1c5ed5,
  0xd807aa98, 0x12835b01, 0x243185be, 0x550c7dc3, 0x72be5d74, 0x80deb1fe, 0x9bdc06a7, 0xc19bf174,
  0xe49b69c1, 0xefbe4786, 0x0fc19dc6, 0x240ca1cc, 0x2de92c6f, 0x4a7484aa, 0x5cb0a9dc, 0x76f988da,
  0x983e5152, 0xa831c66d, 0xb00327c8, 0xbf597fc7, 0xc6e00bf3, 0xd5a79147, 0x06ca6351, 0x14292967,
  0x27b70a85, 0x2e1b2138, 0x4d2c6dfc, 0x53380d13, 0x650a7354, 0x766a0abb, 0x81c2c92e, 0x92722c85,
  0xa2bfe8a1, 0xa81a664b, 0xc24b8b70, 0xc76c51a3, 0xd192e819, 0xd6990624, 0xf40e3585, 0x106aa070,
  0x19a4c116, 0x1e376c08, 0x2748774c, 0x34b0bcb5, 0x391c0cb3, 0x4ed8aa4a, 0x5b9cca4f, 0x682e6ff3,
  0x748f82ee, 0x78a5636f, 0x84c87814, 0x8cc70208, 0x90befffa, 0xa4506ceb, 0xbef9a3f7, 0xc67178f2]

/-- Rotation to the right. -/
def rotate (word : UInt32) (count : UInt32) : UInt32 :=
  (word >>> count) ||| (word <<< (32 - count))

/-- A number as eight octets, most significant first. -/
def octets64 (value : Nat) : Bytes :=
  [56, 48, 40, 32, 24, 16, 8, 0].map fun shift => UInt8.ofNat (value / twoTo shift)

/-- The message followed by the bit 1, zeros and its length in bits; a multiple of 64 octets. -/
def pad (message : Bytes) : Bytes :=
  let zeros := (55 + 64 - message.length % 64) % 64
  message ++ 0x80 :: List.replicate zeros 0 ++ octets64 (message.length * 8)

/-- Four octets as a word, most significant first. -/
def wordOf (octets : Bytes) : UInt32 :=
  octets.foldl (fun word octet => word * 256 + UInt32.ofNat octet.toNat) 0

/-- A list cut into pieces of the given size. -/
def chunks {α : Type} (size : Nat) (items : List α) : List (List α) :=
  match size, items with
  | 0, _ => []
  | _, [] => []
  | size + 1, item :: rest => (item :: rest.take size) :: chunks (size + 1) (rest.drop size)
termination_by items.length
decreasing_by simp only [List.length_drop, List.length_cons]; omega

/-- One more word of the schedule. -/
def extend (words : Array UInt32) : Array UInt32 :=
  let index := words.size
  let near := words.getD (index - 2) 0
  let far := words.getD (index - 15) 0
  let first := rotate far 7 ^^^ rotate far 18 ^^^ (far >>> 3)
  let second := rotate near 17 ^^^ rotate near 19 ^^^ (near >>> 10)
  words.push (words.getD (index - 16) 0 + first + words.getD (index - 7) 0 + second)

/-- The 64 words of a block. -/
def schedule (block : Bytes) : Array UInt32 :=
  (List.range 48).foldl (fun words _ => extend words) ((chunks 4 block).map wordOf).toArray

/-- One step with its constant and word. -/
def step (state : State) (constant word : UInt32) : State :=
  let mixE := rotate state.e 6 ^^^ rotate state.e 11 ^^^ rotate state.e 25
  let choice := (state.e &&& state.f) ^^^ (~~~state.e &&& state.g)
  let first := state.h + mixE + choice + constant + word
  let mixA := rotate state.a 2 ^^^ rotate state.a 13 ^^^ rotate state.a 22
  let majority := (state.a &&& state.b) ^^^ (state.a &&& state.c) ^^^ (state.b &&& state.c)
  ⟨first + (mixA + majority), state.a, state.b, state.c, state.d + first, state.e, state.f, state.g⟩

/-- The state with one more block. -/
def compress (state : State) (block : Bytes) : State :=
  let last := (constants.zip (schedule block).toList).foldl
    (fun current pair => step current pair.1 pair.2) state
  ⟨state.a + last.a, state.b + last.b, state.c + last.c, state.d + last.d,
    state.e + last.e, state.f + last.f, state.g + last.g, state.h + last.h⟩

/-- The state after the whole message. -/
def digest (message : Bytes) : State :=
  (chunks 64 (pad message)).foldl compress initial

/-- The first eight octets of the digest as one word. -/
def digest64 (message : Bytes) : UInt64 :=
  let final := digest message
  final.a.toUInt64 <<< 32 ||| final.b.toUInt64

end KernelCache.Sha256

/-! ## MD5

Blocks are padded as for SHA-256, but words have their lowest octet first.
-/

namespace KernelCache.Md5

/-- The four working words. -/
structure State where
  a : UInt32
  b : UInt32
  c : UInt32
  d : UInt32

/-- The words before the first block. -/
def initial : State := ⟨0x67452301, 0xefcdab89, 0x98badcfe, 0x10325476⟩

/-- One constant for each of the 64 steps. -/
def constants : List UInt32 := [
  0xd76aa478, 0xe8c7b756, 0x242070db, 0xc1bdceee, 0xf57c0faf, 0x4787c62a, 0xa8304613, 0xfd469501,
  0x698098d8, 0x8b44f7af, 0xffff5bb1, 0x895cd7be, 0x6b901122, 0xfd987193, 0xa679438e, 0x49b40821,
  0xf61e2562, 0xc040b340, 0x265e5a51, 0xe9b6c7aa, 0xd62f105d, 0x02441453, 0xd8a1e681, 0xe7d3fbc8,
  0x21e1cde6, 0xc33707d6, 0xf4d50d87, 0x455a14ed, 0xa9e3e905, 0xfcefa3f8, 0x676f02d9, 0x8d2a4c8a,
  0xfffa3942, 0x8771f681, 0x6d9d6122, 0xfde5380c, 0xa4beea44, 0x4bdecfa9, 0xf6bb4b60, 0xbebfbc70,
  0x289b7ec6, 0xeaa127fa, 0xd4ef3085, 0x04881d05, 0xd9d4d039, 0xe6db99e5, 0x1fa27cf8, 0xc4ac5665,
  0xf4292244, 0x432aff97, 0xab9423a7, 0xfc93a039, 0x655b59c3, 0x8f0ccc92, 0xffeff47d, 0x85845dd1,
  0x6fa87e4f, 0xfe2ce6e0, 0xa3014314, 0x4e0811a1, 0xf7537e82, 0xbd3af235, 0x2ad7d2bb, 0xeb86d391]

/-- How far each step rotates: four distances in turn for each of the four rounds. -/
def distances : List (List UInt32) :=
  [[7, 12, 17, 22], [5, 9, 14, 20], [4, 11, 16, 23], [6, 10, 15, 21]]

/-- A word of four octets, the lowest first. -/
def wordOf (octets : Bytes) : UInt32 := Sha256.wordOf octets.reverse

/-- The octets of a word, the lowest first. -/
def octetsOf (word : UInt32) : Bytes :=
  ([0, 8, 16, 24] : List UInt32).map fun shift => (word >>> shift).toUInt8

/-- One step of a round. -/
def step (words : Array UInt32) (state : State) (index : Nat) (constant : UInt32) : State :=
  let round := index / 16
  let mixed := match round with
    | 0 => (state.b &&& state.c) ||| (~~~state.b &&& state.d)
    | 1 => (state.d &&& state.b) ||| (~~~state.d &&& state.c)
    | 2 => state.b ^^^ state.c ^^^ state.d
    | _ => state.c ^^^ (state.b ||| ~~~state.d)
  let place := match round with
    | 0 => index
    | 1 => (5 * index + 1) % 16
    | 2 => (3 * index + 5) % 16
    | _ => 7 * index % 16
  let distance := (((distances[round]?).getD [])[index % 4]?).getD 0
  let sum := mixed + state.a + constant + words.getD place 0
  ⟨state.d, state.b + Sha256.rotate sum (32 - distance), state.b, state.c⟩

/-- The state with one more block. -/
def compress (state : State) (block : Bytes) : State :=
  let words := ((Sha256.chunks 4 block).map wordOf).toArray
  let last := ((List.range 64).zip constants).foldl
    (fun current (index, constant) => step words current index constant) state
  ⟨state.a + last.a, state.b + last.b, state.c + last.c, state.d + last.d⟩

/-- The message completed to whole blocks. -/
def pad (message : Bytes) : Bytes :=
  let zeros := (55 + 64 - message.length % 64) % 64
  message ++ 0x80 :: List.replicate zeros 0 ++ (Sha256.octets64 (message.length * 8)).reverse

/-- The octets of the digest. -/
def digest (message : Bytes) : Bytes :=
  let final := (Sha256.chunks 64 (pad message)).foldl compress initial
  [final.a, final.b, final.c, final.d].flatMap octetsOf

end KernelCache.Md5

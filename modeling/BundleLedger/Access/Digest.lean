/-!
# Digests of the SHA-2 family

A message is padded to whole blocks of sixteen words. Each block is mixed into a chaining state of eight
words by a number of rounds, each with a word of the message schedule and a constant. The members of the
family differ in the width of a word, the number of rounds, the distances of the rotations, the initial
state and the length of the digest; one definition serves them all. The constants are leading bits of the
fractional parts of roots of primes, and are computed as such.
-/

set_option autoImplicit false

namespace BundleLedger

/-- A byte string. -/
abbrev Bytes := List UInt8

namespace Digest

/-! ### Constants -/

/-- The largest number below `2 ^ bits` whose `power`-th power is at most `n`, bit by bit from the top. -/
def root (power n : Nat) : Nat → Nat
  | 0 => 0
  | bits + 1 =>
    -- The root without its last bit is the root of `n` over `2 ^ power`.
    let r := 2 * root power (n / Nat.pow 2 power) bits
    if Nat.pow (r + 1) power ≤ n then r + 1 else r

/-- Whether a number has no divisor from two up to itself. -/
def isPrime (n : Nat) : Bool :=
  2 ≤ n && (List.range n).all fun d ↦ d < 2 || n % d != 0

/-- The primes below 410, of which there are eighty. -/
def primes : List Nat :=
  (List.range 410).filter isPrime

/-- The first `width` bits of the fractional part of the root of a prime. -/
def rootBits (width power prime : Nat) : BitVec width :=
  BitVec.ofNat width (root power (prime * Nat.pow 2 (power * width)) (width + 5))

/-! ### The family -/

/-- A member of the family with words of `width` bits. -/
structure Member (width : Nat) where
  rounds : Nat
  /-- Rotations that mix the first word of the state. -/
  firstMix : Nat × Nat × Nat
  /-- Rotations that mix the fifth word of the state. -/
  fifthMix : Nat × Nat × Nat
  /-- Two rotations and a shift that spread an early word of the schedule. -/
  earlySpread : Nat × Nat × Nat
  /-- Two rotations and a shift that spread a late word of the schedule. -/
  lateSpread : Nat × Nat × Nat
  /-- The primes whose square roots give the initial state. -/
  seeds : List Nat
  /-- The number of bytes of a digest. -/
  size : Nat

variable {width : Nat}

/-- The chaining state. -/
structure State (width : Nat) where
  a : BitVec width
  b : BitVec width
  c : BitVec width
  d : BitVec width
  e : BitVec width
  f : BitVec width
  g : BitVec width
  h : BitVec width

namespace State

def words (s : State width) : List (BitVec width) :=
  [s.a, s.b, s.c, s.d, s.e, s.f, s.g, s.h]

/-- The state of eight words; missing words are zero. -/
def ofWords (ws : List (BitVec width)) : State width :=
  let word (i : Nat) := ws.getD i 0
  ⟨word 0, word 1, word 2, word 3, word 4, word 5, word 6, word 7⟩

/-- The sum of two states, word by word. -/
def add (s t : State width) : State width :=
  ofWords (List.zipWith (· + ·) s.words t.words)

end State

/-- Three rotations of a word, combined. -/
def mix (distances : Nat × Nat × Nat) (x : BitVec width) : BitVec width :=
  x.rotateRight distances.1 ^^^ x.rotateRight distances.2.1 ^^^ x.rotateRight distances.2.2

/-- Two rotations and a shift of a word, combined. -/
def spread (distances : Nat × Nat × Nat) (x : BitVec width) : BitVec width :=
  x.rotateRight distances.1 ^^^ x.rotateRight distances.2.1 ^^^ (x >>> distances.2.2)

/-- The bits of `y` where `x` has ones, those of `z` elsewhere. -/
def choose (x y z : BitVec width) : BitVec width :=
  (x &&& y) ^^^ (~~~x &&& z)

/-- The bits that at least two of three words have. -/
def majority (x y z : BitVec width) : BitVec width :=
  (x &&& y) ^^^ (x &&& z) ^^^ (y &&& z)

namespace Member

/-- The constants of the rounds. -/
def constants (m : Member width) : List (BitVec width) :=
  (primes.take m.rounds).map (rootBits width 3)

/-- The state before the first block. -/
def start (m : Member width) : State width :=
  .ofWords (m.seeds.map (rootBits width 2))

/-- One round with a constant and a word of the schedule. -/
def round (m : Member width) (s : State width) (constant word : BitVec width) : State width :=
  let first := s.h + mix m.fifthMix s.e + choose s.e s.f s.g + constant + word
  let second := mix m.firstMix s.a + majority s.a s.b s.c
  ⟨first + second, s.a, s.b, s.c, s.d + first, s.e, s.f, s.g⟩

/-- The rounds with the remaining constants. `window` holds the next sixteen words of the schedule. -/
def runRounds (m : Member width) (s : State width) (window : List (BitVec width)) :
    List (BitVec width) → State width
  | [] => s
  | constant :: rest =>
    let word (i : Nat) := window.getD i 0
    let next := spread m.lateSpread (word 14) + word 9 + spread m.earlySpread (word 1) + word 0
    m.runRounds (m.round s constant (word 0)) (window.drop 1 ++ [next]) rest

/-- The state after one block of sixteen words. -/
def compress (m : Member width) (constants : List (BitVec width)) (s : State width)
    (block : List (BitVec width)) : State width :=
  s.add (m.runRounds s block constants)

end Member

/-! ### Bytes and words -/

/-- The number that bytes stand for, the first the highest. -/
def numberOf (bytes : Bytes) : Nat :=
  bytes.foldl (fun n byte ↦ n * 256 + byte.toNat) 0

/-- A number in `count` bytes, the first the highest. -/
def bytesOf (count n : Nat) : Bytes :=
  (List.range count).reverse.map fun i ↦ UInt8.ofNat (n / Nat.pow 256 i)

/-- A list in pieces of `size`, up to `count` of them. -/
def pieces {α : Type} (size : Nat) : Nat → List α → List (List α)
  | 0, _ => []
  | count + 1, l => l.take size :: pieces size count (l.drop size)

namespace Member

/-- The number of bytes of a block. -/
def blockSize (_ : Member width) : Nat :=
  2 * width

/-- A message followed by a mark, zeros and its length in bits, filling whole blocks. -/
def pad (m : Member width) (message : Bytes) : Bytes :=
  let used := message.length + 1 + width / 4
  message ++ 128 :: List.replicate ((m.blockSize - used % m.blockSize) % m.blockSize) 0 ++
    bytesOf (width / 4) (8 * message.length)

/-- The blocks of a padded message, in words. -/
def blocks (m : Member width) (message : Bytes) : List (List (BitVec width)) :=
  let padded := m.pad message
  (pieces m.blockSize (padded.length / m.blockSize) padded).map fun block ↦
    (pieces (width / 8) 16 block).map fun word ↦ BitVec.ofNat width (numberOf word)

/-- The digest of a message. -/
def digest (m : Member width) (message : Bytes) : Bytes :=
  let final := (m.blocks message).foldl (m.compress m.constants) m.start
  (final.words.flatMap fun word ↦ bytesOf (width / 8) word.toNat).take m.size

end Member

/-! ### Three members -/

/-- The member with words of 32 bits and a digest of 256. -/
def sha256 : Member 32 where
  rounds := 64
  firstMix := (2, 13, 22)
  fifthMix := (6, 11, 25)
  earlySpread := (7, 18, 3)
  lateSpread := (17, 19, 10)
  seeds := primes.take 8
  size := 32

/-- The member with words of 64 bits and a digest of 512. -/
def sha512 : Member 64 where
  rounds := 80
  firstMix := (28, 34, 39)
  fifthMix := (14, 18, 41)
  earlySpread := (1, 8, 7)
  lateSpread := (19, 61, 6)
  seeds := primes.take 8
  size := 64

/-- The member with words of 64 bits and a digest of 384: another start, cut short. -/
def sha384 : Member 64 :=
  { sha512 with seeds := (primes.drop 8).take 8, size := 48 }

end Digest
end BundleLedger

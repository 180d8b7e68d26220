import MockIssuer.Encoding.Bytes

/-!
# Secure hashes of the second family

One construction on words of 32 or of 64 bits, with a record of rotation amounts for each width.
The constants are the first bits after the point of the cube roots of the first primes, and the
initial states those of square roots. A message is padded to whole blocks of sixteen words, each
block is expanded to a schedule, and the rounds over it are added to the state.
-/
namespace MockIssuer.Sha2

/-- The primes among the first numbers, by trial division. -/
def primesBelow (bound : Nat) : List Nat :=
  (List.range bound).filter fun n => 2 ≤ n && (List.range n).all fun d => d < 2 || n % d != 0

/-- The greatest `r` with `bits` bits and `r ^ degree ≤ n`. -/
def root (degree n : Nat) : Nat → Nat → Nat
  | 0, found => found
  | bits + 1, found =>
    let next := found + Nat.pow 2 bits
    root degree n bits (if Nat.pow next degree ≤ n then next else found)

/-- The first `w` bits after the point of a root of a number below 512. -/
def rootBits (w degree n : Nat) : BitVec w :=
  BitVec.ofNat w (root degree (n * Nat.pow 2 (degree * w)) (w + 10) 0)

/-- The cube roots of the first primes, one for each round. -/
def cubeRoots (w rounds : Nat) : List (BitVec w) :=
  ((primesBelow 410).take rounds).map (rootBits w 3)

/-- The state from the square roots of eight primes after the first `skip`. -/
def squareRoots (w skip : Nat) : List (BitVec w) :=
  (((primesBelow 60).drop skip).take 8).map (rootBits w 2)

/-- Amounts of the rotations, and of the shift where a third is one. -/
structure Rotations where
  a : Nat
  b : Nat
  c : Nat

/-- What tells the two word sizes apart: the constants of the rounds and the rotations. -/
structure Variant (w : Nat) where
  constants : List (BitVec w)
  lowSigma : Rotations
  highSigma : Rotations
  lowSum : Rotations
  highSum : Rotations

def words32 : Variant 32 :=
  ⟨cubeRoots 32 64, ⟨7, 18, 3⟩, ⟨17, 19, 10⟩, ⟨2, 13, 22⟩, ⟨6, 11, 25⟩⟩

def words64 : Variant 64 :=
  ⟨cubeRoots 64 80, ⟨1, 8, 7⟩, ⟨19, 61, 6⟩, ⟨28, 34, 39⟩, ⟨14, 18, 41⟩⟩

def shiftMix {w : Nat} (r : Rotations) (x : BitVec w) : BitVec w :=
  x.rotateRight r.a ^^^ x.rotateRight r.b ^^^ x >>> r.c

def rotateMix {w : Nat} (r : Rotations) (x : BitVec w) : BitVec w :=
  x.rotateRight r.a ^^^ x.rotateRight r.b ^^^ x.rotateRight r.c

/-- The last sixteen words of a schedule, newest first, extended by `count` further words. -/
def extend {w : Nat} (variant : Variant w) : Nat → List (BitVec w) → List (BitVec w)
  | 0, schedule => schedule
  | count + 1, schedule =>
    let word (back : Nat) := schedule.getD (back - 1) 0
    let next := shiftMix variant.highSigma (word 2) + word 7 +
      shiftMix variant.lowSigma (word 15) + word 16
    extend variant count (next :: schedule)

structure State (w : Nat) where
  a : BitVec w
  b : BitVec w
  c : BitVec w
  d : BitVec w
  e : BitVec w
  f : BitVec w
  g : BitVec w
  h : BitVec w

def State.ofList {w : Nat} (words : List (BitVec w)) : State w :=
  let word (i : Nat) := words.getD i 0
  ⟨word 0, word 1, word 2, word 3, word 4, word 5, word 6, word 7⟩

def State.toList {w : Nat} (s : State w) : List (BitVec w) :=
  [s.a, s.b, s.c, s.d, s.e, s.f, s.g, s.h]

def State.add {w : Nat} (s t : State w) : State w :=
  ⟨s.a + t.a, s.b + t.b, s.c + t.c, s.d + t.d, s.e + t.e, s.f + t.f, s.g + t.g, s.h + t.h⟩

/-- One round with a constant and a word of the schedule. -/
def round {w : Nat} (variant : Variant w) (s : State w) (input : BitVec w × BitVec w) : State w :=
  let choice := (s.e &&& s.f) ^^^ (~~~s.e &&& s.g)
  let majority := (s.a &&& s.b) ^^^ (s.a &&& s.c) ^^^ (s.b &&& s.c)
  let first := s.h + rotateMix variant.highSum s.e + choice + input.1 + input.2
  let second := rotateMix variant.lowSum s.a + majority
  ⟨first + second, s.a, s.b, s.c, s.d + first, s.e, s.f, s.g⟩

def compress {w : Nat} (variant : Variant w) (s : State w) (block : List (BitVec w)) : State w :=
  let schedule := (extend variant (variant.constants.length - 16) block.reverse).reverse
  s.add ((variant.constants.zip schedule).foldl (round variant) s)

/-- Big-endian words of `size` bytes. -/
def wordsOf (w size : Nat) : Nat → Bytes → List (BitVec w)
  | 0, _ => []
  | count + 1, bytes =>
    BitVec.ofNat w (Bytes.toNat (bytes.take size)) :: wordsOf w size count (bytes.drop size)

/-- The message, a single bit, zeros, and its length in bits: a multiple of sixteen words. -/
def pad (size : Nat) (message : Bytes) : Bytes :=
  let block := 16 * size
  let used := message.length + 1 + 2 * size
  message ++ 0x80 :: List.replicate ((block - used % block) % block) 0 ++
    Bytes.ofNat (2 * size) (8 * message.length)

def blocks {w : Nat} : Nat → List (BitVec w) → List (List (BitVec w))
  | 0, _ => []
  | count + 1, words => words.take 16 :: blocks count (words.drop 16)

/-- The digest of `length` bytes from an initial state. -/
def digest {w : Nat} (variant : Variant w) (initial : List (BitVec w)) (length : Nat)
    (message : Bytes) : Bytes :=
  let size := w / 8
  let padded := pad size message
  let words := wordsOf w size (padded.length / size) padded
  let state := (blocks (words.length / 16) words).foldl (compress variant)
    (State.ofList initial)
  (state.toList.flatMap fun word => Bytes.ofNat size word.toNat).take length

end MockIssuer.Sha2

namespace MockIssuer

/-- The hashes that tokens are signed with. -/
inductive Hash where
  | sha256
  | sha384
  | sha512
  deriving DecidableEq, Repr

/-- The bytes of a digest. -/
def Hash.size : Hash → Nat
  | sha256 => 32
  | sha384 => 48
  | sha512 => 64

def Hash.digest : Hash → Bytes → Bytes
  | sha256 => Sha2.digest Sha2.words32 (Sha2.squareRoots 32 0) 32
  | sha384 => Sha2.digest Sha2.words64 (Sha2.squareRoots 64 8) 48
  | sha512 => Sha2.digest Sha2.words64 (Sha2.squareRoots 64 0) 64

end MockIssuer

import BundleTrust.Crypto.Octets

/-!
# SHA-256

The hash function of FIPS 180-4.  A word is a natural number below `2 ^ 32`, which lets
closed digests be computed by evaluation.
-/

namespace BundleTrust
namespace Crypto

namespace Sha256

/-- The number of words. -/
def wordCount : Nat := UInt32.size

/-- Add words. -/
def add (left right : Nat) : Nat := (left + right) % wordCount

/-- Rotate a word to the right. -/
def rotate (count word : Nat) : Nat :=
  word >>> count ||| (word <<< (32 - count)) % wordCount

/-- The complement of a word. -/
def complement (word : Nat) : Nat := wordCount - 1 - word

/-- Each bit of the second or the third word, as the first one says. -/
def choose (first second third : Nat) : Nat :=
  (first &&& second) ^^^ (complement first &&& third)

/-- Each bit that at least two words have. -/
def majority (first second third : Nat) : Nat :=
  (first &&& second) ^^^ (first &&& third) ^^^ (second &&& third)

/-- The mixing of the first state word. -/
def bigSigma0 (word : Nat) : Nat := rotate 2 word ^^^ rotate 13 word ^^^ rotate 22 word

/-- The mixing of the fifth state word. -/
def bigSigma1 (word : Nat) : Nat := rotate 6 word ^^^ rotate 11 word ^^^ rotate 25 word

/-- The mixing of the schedule word fifteen back. -/
def smallSigma0 (word : Nat) : Nat := rotate 7 word ^^^ rotate 18 word ^^^ word >>> 3

/-- The mixing of the schedule word two back. -/
def smallSigma1 (word : Nat) : Nat := rotate 17 word ^^^ rotate 19 word ^^^ word >>> 10

/-- The constants of the sixty-four rounds. -/
def roundConstants : List Nat :=
  [0x428a2f98, 0x71374491, 0xb5c0fbcf, 0xe9b5dba5, 0x3956c25b, 0x59f111f1, 0x923f82a4,
    0xab1c5ed5, 0xd807aa98, 0x12835b01, 0x243185be, 0x550c7dc3, 0x72be5d74, 0x80deb1fe,
    0x9bdc06a7, 0xc19bf174, 0xe49b69c1, 0xefbe4786, 0x0fc19dc6, 0x240ca1cc, 0x2de92c6f,
    0x4a7484aa, 0x5cb0a9dc, 0x76f988da, 0x983e5152, 0xa831c66d, 0xb00327c8, 0xbf597fc7,
    0xc6e00bf3, 0xd5a79147, 0x06ca6351, 0x14292967, 0x27b70a85, 0x2e1b2138, 0x4d2c6dfc,
    0x53380d13, 0x650a7354, 0x766a0abb, 0x81c2c92e, 0x92722c85, 0xa2bfe8a1, 0xa81a664b,
    0xc24b8b70, 0xc76c51a3, 0xd192e819, 0xd6990624, 0xf40e3585, 0x106aa070, 0x19a4c116,
    0x1e376c08, 0x2748774c, 0x34b0bcb5, 0x391c0cb3, 0x4ed8aa4a, 0x5b9cca4f, 0x682e6ff3,
    0x748f82ee, 0x78a5636f, 0x84c87814, 0x8cc70208, 0x90befffa, 0xa4506ceb, 0xbef9a3f7,
    0xc67178f2]

/-- The eight words that are hashed into. -/
structure State where
  /-- The first word. -/
  a : Nat
  /-- The second word. -/
  b : Nat
  /-- The third word. -/
  c : Nat
  /-- The fourth word. -/
  d : Nat
  /-- The fifth word. -/
  e : Nat
  /-- The sixth word. -/
  f : Nat
  /-- The seventh word. -/
  g : Nat
  /-- The eighth word. -/
  h : Nat
  deriving DecidableEq, Repr

/-- The state before the first block. -/
def initial : State :=
  ⟨0x6a09e667, 0xbb67ae85, 0x3c6ef372, 0xa54ff53a, 0x510e527f, 0x9b05688c, 0x1f83d9ab,
    0x5be0cd19⟩

/-- One round with its constant and its schedule word. -/
def round (state : State) (constant word : Nat) : State :=
  let first :=
    add (add (add (add state.h (bigSigma1 state.e)) (choose state.e state.f state.g)) constant)
      word
  let second := add (bigSigma0 state.a) (majority state.a state.b state.c)
  ⟨add first second, state.a, state.b, state.c, add state.d first, state.e, state.f, state.g⟩

/-- The schedule word that follows sixteen words. -/
def nextWord (window : List Nat) : Nat :=
  add (add (smallSigma1 (window.getD 14 0)) (window.getD 9 0))
    (add (smallSigma0 (window.getD 1 0)) (window.getD 0 0))

/-- All rounds whose constants are given; the window holds the next sixteen words of the
schedule. -/
def rounds : (constants window : List Nat) → State → State
  | [], _, state => state
  | constant :: constants, window, state =>
      rounds constants (window.drop 1 ++ [nextWord window])
        (round state constant (window.getD 0 0))

/-- Hash one block of sixteen words into a state. -/
def compress (state : State) (block : List Nat) : State :=
  let mixed := rounds roundConstants block state
  ⟨add state.a mixed.a, add state.b mixed.b, add state.c mixed.c, add state.d mixed.d,
    add state.e mixed.e, add state.f mixed.f, add state.g mixed.g, add state.h mixed.h⟩

/-- Octets as words, four to a word. -/
def wordsOfOctets : List UInt8 → List Nat
  | first :: second :: third :: fourth :: rest =>
      natOfOctets [first, second, third, fourth] :: wordsOfOctets rest
  | _ => []

/-- A message with a one bit, zero bits up to a whole number of blocks, and its length in
bits. -/
def pad (message : List UInt8) : List UInt8 :=
  message ++ 0x80 :: List.replicate ((119 - message.length % 64) % 64) 0 ++
    octetsOfNat 8 (8 * message.length)

/-- Hash a number of blocks into a state. -/
def hashBlocks : (count : Nat) → State → List Nat → State
  | 0, state, _ => state
  | count + 1, state, words =>
      hashBlocks count (compress state (words.take 16)) (words.drop 16)

/-- The octets of a state. -/
def State.octets (state : State) : List UInt8 :=
  [state.a, state.b, state.c, state.d, state.e, state.f, state.g, state.h].flatMap
    (octetsOfNat 4)

end Sha256

/-- The SHA-256 digest of a message. -/
def sha256 (message : List UInt8) : List UInt8 :=
  let padded := Sha256.pad message
  (Sha256.hashBlocks (padded.length / 64) Sha256.initial (Sha256.wordsOfOctets padded)).octets

/-- A digest has thirty-two octets. -/
@[simp] theorem length_sha256 (message : List UInt8) : (sha256 message).length = 32 := by
  simp [sha256, Sha256.State.octets]

end Crypto
end BundleTrust

import ChainProfile.Bytes

/-!
# SHA-256

The message is padded to whole blocks of sixteen big-endian words, and eight
working words are compressed with one block after another.  The schedule of a
block is a sliding window of sixteen words, so a round needs only the window's
head.  All recursion is structural: over the list of round constants and over
the number of blocks.
-/

namespace ChainProfile.Sha256

/-- The eight working words. -/
structure State where
  a : UInt32
  b : UInt32
  c : UInt32
  d : UInt32
  e : UInt32
  f : UInt32
  g : UInt32
  h : UInt32

/-- The working words before the first block. -/
def State.initial : State where
  a := 0x6a09e667
  b := 0xbb67ae85
  c := 0x3c6ef372
  d := 0xa54ff53a
  e := 0x510e527f
  f := 0x9b05688c
  g := 0x1f83d9ab
  h := 0x5be0cd19

/-- One constant for each of the sixty-four rounds. -/
def roundConstants : List UInt32 := [
  0x428a2f98, 0x71374491, 0xb5c0fbcf, 0xe9b5dba5, 0x3956c25b, 0x59f111f1, 0x923f82a4, 0xab1c5ed5,
  0xd807aa98, 0x12835b01, 0x243185be, 0x550c7dc3, 0x72be5d74, 0x80deb1fe, 0x9bdc06a7, 0xc19bf174,
  0xe49b69c1, 0xefbe4786, 0x0fc19dc6, 0x240ca1cc, 0x2de92c6f, 0x4a7484aa, 0x5cb0a9dc, 0x76f988da,
  0x983e5152, 0xa831c66d, 0xb00327c8, 0xbf597fc7, 0xc6e00bf3, 0xd5a79147, 0x06ca6351, 0x14292967,
  0x27b70a85, 0x2e1b2138, 0x4d2c6dfc, 0x53380d13, 0x650a7354, 0x766a0abb, 0x81c2c92e, 0x92722c85,
  0xa2bfe8a1, 0xa81a664b, 0xc24b8b70, 0xc76c51a3, 0xd192e819, 0xd6990624, 0xf40e3585, 0x106aa070,
  0x19a4c116, 0x1e376c08, 0x2748774c, 0x34b0bcb5, 0x391c0cb3, 0x4ed8aa4a, 0x5b9cca4f, 0x682e6ff3,
  0x748f82ee, 0x78a5636f, 0x84c87814, 0x8cc70208, 0x90befffa, 0xa4506ceb, 0xbef9a3f7, 0xc67178f2]

/-- Moves the bits of a word down, those that leave it coming in at the top. -/
def rotateRight (word amount : UInt32) : UInt32 :=
  (word >>> amount) ||| (word <<< (32 - amount))

/-- The schedule word that follows a window of sixteen. -/
def nextWord : List UInt32 → UInt32
  | w0 :: w1 :: _ :: _ :: _ :: _ :: _ :: _ :: _ :: w9 :: _ :: _ :: _ :: _ :: w14 :: _ =>
      w0 + (rotateRight w1 7 ^^^ rotateRight w1 18 ^^^ (w1 >>> 3)) + w9 +
        (rotateRight w14 17 ^^^ rotateRight w14 19 ^^^ (w14 >>> 10))
  | _ => 0

/-- One round with its constant and its schedule word. -/
def State.round (s : State) (constant word : UInt32) : State :=
  let choice := (s.e &&& s.f) ^^^ (~~~s.e &&& s.g)
  let majority := (s.a &&& s.b) ^^^ (s.a &&& s.c) ^^^ (s.b &&& s.c)
  let mixedE := rotateRight s.e 6 ^^^ rotateRight s.e 11 ^^^ rotateRight s.e 25
  let mixedA := rotateRight s.a 2 ^^^ rotateRight s.a 13 ^^^ rotateRight s.a 22
  let change := s.h + mixedE + choice + constant + word
  { a := change + mixedA + majority, b := s.a, c := s.b, d := s.c
    e := s.d + change, f := s.e, g := s.f, h := s.g }

/-- Runs the rounds of the given constants, sliding the schedule window along. -/
def State.rounds : List UInt32 → List UInt32 → State → State
  | [], _, s => s
  | constant :: constants, window, s =>
      rounds constants (window.tail ++ [nextWord window]) (s.round constant (window.headD 0))

/-- Adds working words one by one. -/
def State.add (s t : State) : State where
  a := s.a + t.a
  b := s.b + t.b
  c := s.c + t.c
  d := s.d + t.d
  e := s.e + t.e
  f := s.f + t.f
  g := s.g + t.g
  h := s.h + t.h

/-- Compresses one block of sixteen words into the state. -/
def State.compress (s : State) (block : List UInt32) : State :=
  s.add (State.rounds roundConstants block s)

/-- Compresses the given number of blocks from the front of a list of words. -/
def State.compressBlocks : Nat → List UInt32 → State → State
  | 0, _, s => s
  | count + 1, words, s => compressBlocks count (words.drop 16) (s.compress (words.take 16))

/-- Groups bytes into big-endian words; fewer than four bytes at the end are dropped. -/
def words : Bytes → List UInt32
  | b0 :: b1 :: b2 :: b3 :: rest =>
      (b0.toUInt32 <<< 24 ||| b1.toUInt32 <<< 16 ||| b2.toUInt32 <<< 8 ||| b3.toUInt32) ::
        words rest
  | _ => []

/-- The big-endian bytes of a word. -/
def wordBytes (word : UInt32) : Bytes :=
  [(word >>> 24).toUInt8, (word >>> 16).toUInt8, (word >>> 8).toUInt8, word.toUInt8]

/-- The working words one after another, each with its highest byte first. -/
def State.toBytes (s : State) : Bytes :=
  [s.a, s.b, s.c, s.d, s.e, s.f, s.g, s.h].flatMap wordBytes

/-- Appends a one bit, zeros, and the message length in bits, up to a whole block. -/
def padded (message : Bytes) : Bytes :=
  message ++ (0x80 :: List.replicate ((119 - message.length % 64) % 64) 0) ++
    bigEndian 8 (8 * message.length)

/-- The hash of a message. -/
def digest (message : Bytes) : Bytes :=
  let schedule := words (padded message)
  (State.compressBlocks (schedule.length / 16) schedule .initial).toBytes

theorem State.length_toBytes (s : State) : s.toBytes.length = 32 := rfl

@[simp]
theorem length_digest (message : Bytes) : (digest message).length = 32 := rfl

end ChainProfile.Sha256

import Switchboard.Text.Digits

namespace Switchboard

/-!
# The SHA-1 digest

The digest of a byte sequence by the Secure Hash Standard, of which a rollout
takes the first four bytes.  Words have 32 bits and wrap.
-/

namespace Digest

/-- The five words that the compression of one block turns into the next five. -/
structure Words where
  a : UInt32
  b : UInt32
  c : UInt32
  d : UInt32
  e : UInt32
  deriving DecidableEq, Repr

/-- The words before the first block. -/
def initialWords : Words :=
  ⟨0x67452301, 0xEFCDAB89, 0x98BADCFE, 0x10325476, 0xC3D2E1F0⟩

/-- A word with its bits rotated to the left by less than 32 places. -/
def rotateLeft (word places : UInt32) : UInt32 :=
  (word <<< places) ||| (word >>> (32 - places))

/-- The bytes of a message, a mark, zeros, and the bit length, in whole blocks of 64. -/
def padMessage (message : List UInt8) : List UInt8 :=
  let bits := message.length * 8
  let zeros := (119 - message.length % 64) % 64
  message ++ 0x80 :: List.replicate zeros 0 ++
    (List.range 8).map fun place => UInt8.ofNat (bits / 256 ^ (7 - place))

/-- The words of a byte sequence, four bytes each, the high one first. -/
def wordsOf : List UInt8 → List UInt32
  | a :: b :: c :: d :: rest =>
      ((a.toUInt32 <<< 24) ||| (b.toUInt32 <<< 16) ||| (c.toUInt32 <<< 8) ||| d.toUInt32) ::
        wordsOf rest
  | _ => []

/-- The next word of a schedule of which at least sixteen words, latest first, are given. -/
def scheduleWord (latest : List UInt32) : UInt32 :=
  rotateLeft (latest.getD 2 0 ^^^ latest.getD 7 0 ^^^ latest.getD 13 0 ^^^ latest.getD 15 0) 1

/-- A schedule with more words, latest first. -/
def extendSchedule : Nat → List UInt32 → List UInt32
  | 0, latest => latest
  | more + 1, latest => extendSchedule more (scheduleWord latest :: latest)

/-- The mixing function of a round and its constant. -/
def mix (round : Nat) (b c d : UInt32) : UInt32 × UInt32 :=
  if round < 20 then ((b &&& c) ||| (~~~b &&& d), 0x5A827999)
  else if round < 40 then (b ^^^ c ^^^ d, 0x6ED9EBA1)
  else if round < 60 then ((b &&& c) ||| (b &&& d) ||| (c &&& d), 0x8F1BBCDC)
  else (b ^^^ c ^^^ d, 0xCA62C1D6)

/-- One round. -/
def round (words : Words) (number : Nat) (scheduled : UInt32) : Words :=
  let (mixed, constant) := mix number words.b words.c words.d
  ⟨rotateLeft words.a 5 + mixed + words.e + constant + scheduled, words.a,
    rotateLeft words.b 30, words.c, words.d⟩

/-- The rounds over a schedule in order. -/
def rounds (words : Words) (number : Nat) : List UInt32 → Words
  | [] => words
  | scheduled :: rest => rounds (round words number scheduled) (number + 1) rest

/-- The words after a block of sixteen message words. -/
def compress (words : Words) (block : List UInt32) : Words :=
  let after := rounds words 0 (extendSchedule 64 block.reverse).reverse
  ⟨words.a + after.a, words.b + after.b, words.c + after.c, words.d + after.d, words.e + after.e⟩

/-- The words after the given number of blocks. -/
def compressBlocks : Nat → Words → List UInt32 → Words
  | 0, words, _ => words
  | more + 1, words, message =>
      compressBlocks more (compress words (message.take 16)) (message.drop 16)

/-- The digest of a message as five words. -/
def sha1 (message : List UInt8) : Words :=
  let words := wordsOf (padMessage message)
  compressBlocks (words.length / 16) initialWords words

end Digest

end Switchboard

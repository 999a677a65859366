import Prospector.Text.Digit

/-!
# SHA-256

The 256-bit digest of bytes. The bytes are filled up to blocks of sixteen words, each block is
stretched to sixty-four words, and the words of a block are mixed into eight running sums, which
are the digest after the last block.
-/

namespace Prospector.Sha256

/-- The constants added to the words of a block. -/
def constants : List UInt32 := [
  0x428a2f98, 0x71374491, 0xb5c0fbcf, 0xe9b5dba5, 0x3956c25b, 0x59f111f1, 0x923f82a4, 0xab1c5ed5,
  0xd807aa98, 0x12835b01, 0x243185be, 0x550c7dc3, 0x72be5d74, 0x80deb1fe, 0x9bdc06a7, 0xc19bf174,
  0xe49b69c1, 0xefbe4786, 0x0fc19dc6, 0x240ca1cc, 0x2de92c6f, 0x4a7484aa, 0x5cb0a9dc, 0x76f988da,
  0x983e5152, 0xa831c66d, 0xb00327c8, 0xbf597fc7, 0xc6e00bf3, 0xd5a79147, 0x06ca6351, 0x14292967,
  0x27b70a85, 0x2e1b2138, 0x4d2c6dfc, 0x53380d13, 0x650a7354, 0x766a0abb, 0x81c2c92e, 0x92722c85,
  0xa2bfe8a1, 0xa81a664b, 0xc24b8b70, 0xc76c51a3, 0xd192e819, 0xd6990624, 0xf40e3585, 0x106aa070,
  0x19a4c116, 0x1e376c08, 0x2748774c, 0x34b0bcb5, 0x391c0cb3, 0x4ed8aa4a, 0x5b9cca4f, 0x682e6ff3,
  0x748f82ee, 0x78a5636f, 0x84c87814, 0x8cc70208, 0x90befffa, 0xa4506ceb, 0xbef9a3f7, 0xc67178f2]

/-- The eight running sums. -/
structure Sums where
  a : UInt32
  b : UInt32
  c : UInt32
  d : UInt32
  e : UInt32
  f : UInt32
  g : UInt32
  h : UInt32
  deriving DecidableEq, Repr, Inhabited

/-- The sums before the first block. -/
def Sums.start : Sums where
  a := 0x6a09e667
  b := 0xbb67ae85
  c := 0x3c6ef372
  d := 0xa54ff53a
  e := 0x510e527f
  f := 0x9b05688c
  g := 0x1f83d9ab
  h := 0x5be0cd19

/-- Two rows of sums, added one by one. -/
def Sums.add (x y : Sums) : Sums :=
  ⟨x.a + y.a, x.b + y.b, x.c + y.c, x.d + y.d, x.e + y.e, x.f + y.f, x.g + y.g, x.h + y.h⟩

/-- A word rotated to the right. -/
def rotate (x : UInt32) (n : UInt32) : UInt32 :=
  (x >>> n) ||| (x <<< (32 - n))

/-- The sums after a word and its constant are mixed in. -/
def Sums.mix (s : Sums) (word : UInt32 × UInt32) : Sums :=
  let spread := rotate s.e 6 ^^^ rotate s.e 11 ^^^ rotate s.e 25
  let choice := (s.e &&& s.f) ^^^ (~~~s.e &&& s.g)
  let first := s.h + spread + choice + word.2 + word.1
  let spread := rotate s.a 2 ^^^ rotate s.a 13 ^^^ rotate s.a 22
  let majority := (s.a &&& s.b) ^^^ (s.a &&& s.c) ^^^ (s.b &&& s.c)
  ⟨first + (spread + majority), s.a, s.b, s.c, s.d + first, s.e, s.f, s.g⟩

/-- The word that sixteen words are followed by; `w` holds them, the last one first. -/
def nextWord (w : List UInt32) : UInt32 :=
  let back := fun i => w.getD (i - 1) 0
  let old := rotate (back 15) 7 ^^^ rotate (back 15) 18 ^^^ (back 15 >>> 3)
  let new := rotate (back 2) 17 ^^^ rotate (back 2) 19 ^^^ (back 2 >>> 10)
  back 16 + old + back 7 + new

/-- A block followed by `n` more words, the last one first. -/
def stretch (w : List UInt32) : Nat → List UInt32
  | 0 => w
  | n + 1 => stretch (nextWord w :: w) n

/-- The sums after a block of sixteen words. -/
def Sums.block (s : Sums) (words : List UInt32) : Sums :=
  s.add (((stretch words.reverse 48).reverse.zip constants).foldl Sums.mix s)

/-! ## Bytes -/

/-- The bytes of a number, the highest first, `n` of them. -/
def bytesOf (value : Nat) : Nat → List UInt8
  | 0 => []
  | n + 1 => UInt8.ofNat (value / Nat.pow 256 n) :: bytesOf value n

/-- Bytes filled up to whole blocks: a single bit, zeros, and the number of bits. -/
def padded (bytes : List UInt8) : List UInt8 :=
  let size := bytes.length
  bytes ++ 0x80 :: List.replicate ((119 - size % 64) % 64) 0 ++ bytesOf (8 * size) 8

/-- The words that bytes make, four bytes each. -/
def words : List UInt8 → List UInt32
  | a :: b :: c :: d :: rest =>
    ((a.toUInt32 <<< 24) ||| (b.toUInt32 <<< 16) ||| (c.toUInt32 <<< 8) ||| d.toUInt32) ::
      words rest
  | _ => []

/-- The sums after `n` blocks of words. -/
def blocks (s : Sums) (ws : List UInt32) : Nat → Sums
  | 0 => s
  | n + 1 => blocks (s.block (ws.take 16)) (ws.drop 16) n

/-- The digest of bytes. -/
def digest (bytes : List UInt8) : List UInt8 :=
  let ws := words (padded bytes)
  let s := blocks .start ws (ws.length / 16)
  [s.a, s.b, s.c, s.d, s.e, s.f, s.g, s.h].flatMap fun word => bytesOf word.toNat 4

/-- The digest of bytes in hexadecimal digits. -/
def hex (bytes : List UInt8) : String :=
  String.ofList ((digest bytes).flatMap Text.hexByte)

end Prospector.Sha256

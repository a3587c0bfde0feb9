import SpatialQuery.Text.Encoding

/-!
# Fingerprints of texts

A fingerprint is the first sixteen hexadecimal digits of the SHA-256 digest of a text in UTF-8.  The
digest is computed on lists of bytes and words, block by block.
-/

set_option autoImplicit false

namespace SpatialQuery.Fingerprint

structure Digest where
  a : UInt32
  b : UInt32
  c : UInt32
  d : UInt32
  e : UInt32
  f : UInt32
  g : UInt32
  h : UInt32

def initial : Digest :=
  ⟨0x6a09e667, 0xbb67ae85, 0x3c6ef372, 0xa54ff53a, 0x510e527f, 0x9b05688c, 0x1f83d9ab, 0x5be0cd19⟩

def roundConstants : List UInt32 := [
  0x428a2f98, 0x71374491, 0xb5c0fbcf, 0xe9b5dba5, 0x3956c25b, 0x59f111f1, 0x923f82a4, 0xab1c5ed5,
  0xd807aa98, 0x12835b01, 0x243185be, 0x550c7dc3, 0x72be5d74, 0x80deb1fe, 0x9bdc06a7, 0xc19bf174,
  0xe49b69c1, 0xefbe4786, 0x0fc19dc6, 0x240ca1cc, 0x2de92c6f, 0x4a7484aa, 0x5cb0a9dc, 0x76f988da,
  0x983e5152, 0xa831c66d, 0xb00327c8, 0xbf597fc7, 0xc6e00bf3, 0xd5a79147, 0x06ca6351, 0x14292967,
  0x27b70a85, 0x2e1b2138, 0x4d2c6dfc, 0x53380d13, 0x650a7354, 0x766a0abb, 0x81c2c92e, 0x92722c85,
  0xa2bfe8a1, 0xa81a664b, 0xc24b8b70, 0xc76c51a3, 0xd192e819, 0xd6990624, 0xf40e3585, 0x106aa070,
  0x19a4c116, 0x1e376c08, 0x2748774c, 0x34b0bcb5, 0x391c0cb3, 0x4ed8aa4a, 0x5b9cca4f, 0x682e6ff3,
  0x748f82ee, 0x78a5636f, 0x84c87814, 0x8cc70208, 0x90befffa, 0xa4506ceb, 0xbef9a3f7, 0xc67178f2]

def rotateRight (x : UInt32) (n : UInt32) : UInt32 := (x >>> n) ||| (x <<< (32 - n))

/-- The bits of the length in eight bytes, the high byte first. -/
def lengthBytes (count : Nat) : List UInt8 :=
  (List.range 8).map fun i => (8 * count / Nat.pow 256 (7 - i)).toUInt8

/-- A one bit, zeros, and the length, up to a whole number of blocks of 64 bytes. -/
def padded (message : List UInt8) : List UInt8 :=
  message ++ 0x80 :: List.replicate ((119 - message.length % 64) % 64) 0 ++
    lengthBytes message.length

def words : List UInt8 → List UInt32
  | p :: q :: r :: s :: rest =>
    ((p.toUInt32 <<< 24) ||| (q.toUInt32 <<< 16) ||| (r.toUInt32 <<< 8) ||| s.toUInt32) :: words rest
  | _ => []

/-- Adds `count` words to a schedule that is kept with its newest word first. -/
def extend : Nat → List UInt32 → List UInt32
  | 0, newest => newest
  | count + 1, newest =>
    let near := newest.getD 1 0
    let far := newest.getD 14 0
    let mixNear := rotateRight near 17 ^^^ rotateRight near 19 ^^^ (near >>> 10)
    let mixFar := rotateRight far 7 ^^^ rotateRight far 18 ^^^ (far >>> 3)
    extend count ((mixNear + newest.getD 6 0 + mixFar + newest.getD 15 0) :: newest)

def schedule (block : List UInt32) : List UInt32 := (extend 48 block.reverse).reverse

def round (x : Digest) (constant word : UInt32) : Digest :=
  let sumE := rotateRight x.e 6 ^^^ rotateRight x.e 11 ^^^ rotateRight x.e 25
  let choice := (x.e &&& x.f) ^^^ (~~~x.e &&& x.g)
  let fresh := x.h + sumE + choice + constant + word
  let sumA := rotateRight x.a 2 ^^^ rotateRight x.a 13 ^^^ rotateRight x.a 22
  let majority := (x.a &&& x.b) ^^^ (x.a &&& x.c) ^^^ (x.b &&& x.c)
  ⟨fresh + (sumA + majority), x.a, x.b, x.c, x.d + fresh, x.e, x.f, x.g⟩

def absorb (x : Digest) (block : List UInt32) : Digest :=
  let y := (roundConstants.zip (schedule block)).foldl (fun y step => round y step.1 step.2) x
  ⟨x.a + y.a, x.b + y.b, x.c + y.c, x.d + y.d, x.e + y.e, x.f + y.f, x.g + y.g, x.h + y.h⟩

def absorbBlocks : Nat → List UInt32 → Digest → Digest
  | 0, _, x => x
  | count + 1, stream, x => absorbBlocks count (stream.drop 16) (absorb x (stream.take 16))

def digest (message : List UInt8) : Digest :=
  let stream := words (padded message)
  absorbBlocks (stream.length / 16) stream initial

def ofString (text : String) : String :=
  let x := digest text.toUTF8.toList
  String.ofList (Text.hexDigits 8 x.a.toNat ++ Text.hexDigits 8 x.b.toNat)

/-- The fingerprint of a text.  One with surrogates has none. -/
def ofText (text : Text) : Except Text.SurrogateFault String := text.ordinary.map ofString

end SpatialQuery.Fingerprint

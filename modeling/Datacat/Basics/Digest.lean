import Datacat.Basics.Text

/-!
# Identifiers and Digests

A UUID is sixteen bytes. The hash function is a parameter of the development, of which nothing
is assumed here; `Sha256.standard` is the function it stands for.
-/

namespace Datacat.Basics

/-- `uuid::Uuid`. -/
structure Uuid where
  bytes : Vector UInt8 16
deriving DecidableEq

namespace Uuid

/-- The hyphenated lower-case text. -/
def text (u : Uuid) : List Char :=
  let group (start stop : Nat) := hexChars ((u.bytes.toList.drop start).take (stop - start))
  group 0 4 ++ '-' :: group 4 6 ++ '-' :: group 6 8 ++ '-' :: group 8 10 ++ '-' :: group 10 16

end Uuid

/-- `sha2::Sha256::digest`. -/
class Sha256 where
  digest : List UInt8 → Vector UInt8 32

/-- The first sixteen bytes of the digest. -/
def truncatedDigest [Sha256] (input : List UInt8) : Uuid :=
  ⟨Vector.ofFn fun i : Fin 16 => (Sha256.digest input)[i.val]⟩

/-! ## The standard function -/

namespace Sha256

/-- Round constants: fractional parts of the cube roots of the first 64 primes. -/
def roundConstants : List UInt32 := [
  0x428a2f98, 0x71374491, 0xb5c0fbcf, 0xe9b5dba5, 0x3956c25b, 0x59f111f1, 0x923f82a4, 0xab1c5ed5,
  0xd807aa98, 0x12835b01, 0x243185be, 0x550c7dc3, 0x72be5d74, 0x80deb1fe, 0x9bdc06a7, 0xc19bf174,
  0xe49b69c1, 0xefbe4786, 0x0fc19dc6, 0x240ca1cc, 0x2de92c6f, 0x4a7484aa, 0x5cb0a9dc, 0x76f988da,
  0x983e5152, 0xa831c66d, 0xb00327c8, 0xbf597fc7, 0xc6e00bf3, 0xd5a79147, 0x06ca6351, 0x14292967,
  0x27b70a85, 0x2e1b2138, 0x4d2c6dfc, 0x53380d13, 0x650a7354, 0x766a0abb, 0x81c2c92e, 0x92722c85,
  0xa2bfe8a1, 0xa81a664b, 0xc24b8b70, 0xc76c51a3, 0xd192e819, 0xd6990624, 0xf40e3585, 0x106aa070,
  0x19a4c116, 0x1e376c08, 0x2748774c, 0x34b0bcb5, 0x391c0cb3, 0x4ed8aa4a, 0x5b9cca4f, 0x682e6ff3,
  0x748f82ee, 0x78a5636f, 0x84c87814, 0x8cc70208, 0x90befffa, 0xa4506ceb, 0xbef9a3f7, 0xc67178f2]

/-- The eight working words. -/
structure State where
  a : UInt32
  b : UInt32
  c : UInt32
  d : UInt32
  e : UInt32
  f : UInt32
  g : UInt32
  h : UInt32

def initial : State :=
  ⟨0x6a09e667, 0xbb67ae85, 0x3c6ef372, 0xa54ff53a, 0x510e527f, 0x9b05688c, 0x1f83d9ab, 0x5be0cd19⟩

def rotr (x : UInt32) (n : UInt32) : UInt32 := (x >>> n) ||| (x <<< (32 - n))

/-- Message of whole blocks: a one bit, zeros, and the length in bits. -/
def pad (input : List UInt8) : List UInt8 :=
  let zeros := (119 - input.length % 64) % 64
  input ++ 0x80 :: List.replicate zeros 0 ++ (leBytes 8 (8 * input.length)).reverse

def words : List UInt8 → List UInt32
  | a :: b :: c :: d :: rest =>
    ((a.toUInt32 <<< 24) ||| (b.toUInt32 <<< 16) ||| (c.toUInt32 <<< 8) ||| d.toUInt32)
      :: words rest
  | _ => []

/-- Extends the last sixteen words, kept newest first, by one. -/
def schedule : Nat → List UInt32 → List UInt32
  | 0, w => w
  | n + 1, w =>
    let w15 := w.getD 14 0
    let w2 := w.getD 1 0
    let s0 := rotr w15 7 ^^^ rotr w15 18 ^^^ (w15 >>> 3)
    let s1 := rotr w2 17 ^^^ rotr w2 19 ^^^ (w2 >>> 10)
    schedule n ((w.getD 15 0 + s0 + w.getD 6 0 + s1) :: w)

def round (s : State) (k w : UInt32) : State :=
  let s1 := rotr s.e 6 ^^^ rotr s.e 11 ^^^ rotr s.e 25
  let ch := (s.e &&& s.f) ^^^ (~~~s.e &&& s.g)
  let t1 := s.h + s1 + ch + k + w
  let s0 := rotr s.a 2 ^^^ rotr s.a 13 ^^^ rotr s.a 22
  let maj := (s.a &&& s.b) ^^^ (s.a &&& s.c) ^^^ (s.b &&& s.c)
  ⟨t1 + (s0 + maj), s.a, s.b, s.c, s.d + t1, s.e, s.f, s.g⟩

def compress (s : State) (block : List UInt32) : State :=
  let w := (schedule 48 block.reverse).reverse
  let r := (roundConstants.zip w).foldl (fun s kw => round s kw.1 kw.2) s
  ⟨s.a + r.a, s.b + r.b, s.c + r.c, s.d + r.d, s.e + r.e, s.f + r.f, s.g + r.g, s.h + r.h⟩

def blocks : Nat → List UInt32 → State → State
  | 0, _, s => s
  | n + 1, ws, s => blocks n (ws.drop 16) (compress s (ws.take 16))

def bytes (x : UInt32) : List UInt8 := (leBytes 4 x.toNat).reverse

def sha256 (input : List UInt8) : List UInt8 :=
  let ws := words (pad input)
  let s := blocks (ws.length / 16) ws initial
  bytes s.a ++ bytes s.b ++ bytes s.c ++ bytes s.d ++ bytes s.e ++ bytes s.f ++ bytes s.g
    ++ bytes s.h

theorem sha256_length (input : List UInt8) : (sha256 input).length = 32 := by
  simp [sha256, bytes]

/-- SHA-256 itself. -/
@[reducible] def standard : Sha256 where
  digest input := ⟨(sha256 input).toArray, by simp [sha256_length]⟩

example : String.ofList (hexChars (sha256 (asBytes "abc")))
    = "ba7816bf8f01cfea414140de5dae2223b00361a396177a9cb410ff61f20015ad" := by
  decide +kernel

end Sha256

end Datacat.Basics

import BranchLock.Data.Bytes

/-!
# SHA-256

The SHA-256 digest of FIPS 180-4. The message is padded with a one bit, zeros and its bit
length as a 64-bit big-endian number to a whole number of 64-byte blocks; each block is read as
sixteen big-endian words, stretched to a schedule of 64 words, and mixed into the eight-word
state by 64 rounds. The digest is the final state, big-endian.
-/

namespace BranchLock

namespace Sha256

/-- The 64 round constants: the first 32 bits of the fractional parts of the cube roots of the
first 64 primes. -/
def roundConstants : Array UInt32 := #[
  0x428a2f98, 0x71374491, 0xb5c0fbcf, 0xe9b5dba5, 0x3956c25b, 0x59f111f1, 0x923f82a4, 0xab1c5ed5,
  0xd807aa98, 0x12835b01, 0x243185be, 0x550c7dc3, 0x72be5d74, 0x80deb1fe, 0x9bdc06a7, 0xc19bf174,
  0xe49b69c1, 0xefbe4786, 0x0fc19dc6, 0x240ca1cc, 0x2de92c6f, 0x4a7484aa, 0x5cb0a9dc, 0x76f988da,
  0x983e5152, 0xa831c66d, 0xb00327c8, 0xbf597fc7, 0xc6e00bf3, 0xd5a79147, 0x06ca6351, 0x14292967,
  0x27b70a85, 0x2e1b2138, 0x4d2c6dfc, 0x53380d13, 0x650a7354, 0x766a0abb, 0x81c2c92e, 0x92722c85,
  0xa2bfe8a1, 0xa81a664b, 0xc24b8b70, 0xc76c51a3, 0xd192e819, 0xd6990624, 0xf40e3585, 0x106aa070,
  0x19a4c116, 0x1e376c08, 0x2748774c, 0x34b0bcb5, 0x391c0cb3, 0x4ed8aa4a, 0x5b9cca4f, 0x682e6ff3,
  0x748f82ee, 0x78a5636f, 0x84c87814, 0x8cc70208, 0x90befffa, 0xa4506ceb, 0xbef9a3f7, 0xc67178f2]

/-- The initial state: the first 32 bits of the fractional parts of the square roots of the
first eight primes. -/
def initialState : Array UInt32 :=
  #[0x6a09e667, 0xbb67ae85, 0x3c6ef372, 0xa54ff53a, 0x510e527f, 0x9b05688c, 0x1f83d9ab, 0x5be0cd19]

/-- Rotation of a word to the right. -/
def rotr (x : UInt32) (n : UInt32) : UInt32 := (x >>> n) ||| (x <<< (32 - n))

/-- The big-endian word at byte offset `i` of a block. -/
def wordAt (bs : Array UInt8) (i : Nat) : UInt32 :=
  ((bs.getD i 0).toUInt32 <<< 24) ||| ((bs.getD (i + 1) 0).toUInt32 <<< 16) |||
    ((bs.getD (i + 2) 0).toUInt32 <<< 8) ||| (bs.getD (i + 3) 0).toUInt32

/-- The padded message: the bytes, `0x80`, zeros up to 56 modulo 64, and the bit length. -/
def pad (msg : Bytes) : Array UInt8 :=
  let len := msg.length
  let zeros := (119 - len % 64) % 64
  (msg ++ 0x80 :: List.replicate zeros 0 ++ Bytes.ofNatBE 8 (8 * len)).toArray

/-- The 64-word schedule of a block at byte offset `off`. -/
def schedule (bs : Array UInt8) (off : Nat) : Array UInt32 :=
  let first := (List.range 16).foldl (fun w i => w.push (wordAt bs (off + 4 * i))) #[]
  (List.range 48).foldl (fun w t =>
    let i := t + 16
    let x := w.getD (i - 15) 0
    let y := w.getD (i - 2) 0
    let s0 := rotr x 7 ^^^ rotr x 18 ^^^ (x >>> 3)
    let s1 := rotr y 17 ^^^ rotr y 19 ^^^ (y >>> 10)
    w.push (w.getD (i - 16) 0 + s0 + w.getD (i - 7) 0 + s1)) first

/-- The state after mixing in the block at byte offset `off`. -/
def compress (h : Array UInt32) (bs : Array UInt8) (off : Nat) : Array UInt32 :=
  let w := schedule bs off
  let g (i : Nat) : UInt32 := h.getD i 0
  let start := (g 0, g 1, g 2, g 3, g 4, g 5, g 6, g 7)
  let (a, b, c, d, e, f, gg, hh) := (List.range 64).foldl (fun st i =>
    let (a, b, c, d, e, f, gg, hh) := st
    let s1 := rotr e 6 ^^^ rotr e 11 ^^^ rotr e 25
    let ch := (e &&& f) ^^^ (~~~e &&& gg)
    let t1 := hh + s1 + ch + roundConstants.getD i 0 + w.getD i 0
    let s0 := rotr a 2 ^^^ rotr a 13 ^^^ rotr a 22
    let maj := (a &&& b) ^^^ (a &&& c) ^^^ (b &&& c)
    let t2 := s0 + maj
    (t1 + t2, a, b, c, d + t1, e, f, gg)) start
  #[g 0 + a, g 1 + b, g 2 + c, g 3 + d, g 4 + e, g 5 + f, g 6 + gg, g 7 + hh]

/-- The SHA-256 digest of a byte string. -/
def digest (msg : Bytes) : Bytes :=
  let bs := pad msg
  let h := (List.range (bs.size / 64)).foldl (fun h k => compress h bs (64 * k)) initialState
  h.toList.flatMap fun x => Bytes.ofNatBE 4 x.toNat

end Sha256

end BranchLock

import BranchLock.Hash.Sha256

/-!
# SHA-1

The SHA-1 digest of FIPS 180-4, which scripts can still ask for. Padding and word order are
those of SHA-256; each block is stretched to 80 words by a one-bit rotation of the exclusive or
of four earlier words and mixed into the five-word state by 80 rounds in four groups.
-/

namespace BranchLock

namespace Sha1

/-- Rotation of a word to the left. -/
def rotl (x : UInt32) (n : UInt32) : UInt32 := (x <<< n) ||| (x >>> (32 - n))

/-- The initial state. -/
def initialState : Array UInt32 := #[0x67452301, 0xefcdab89, 0x98badcfe, 0x10325476, 0xc3d2e1f0]

/-- The 80-word schedule of a block at byte offset `off`. -/
def schedule (bs : Array UInt8) (off : Nat) : Array UInt32 :=
  let first := (List.range 16).foldl (fun w i => w.push (Sha256.wordAt bs (off + 4 * i))) #[]
  (List.range 64).foldl (fun w t =>
    let i := t + 16
    w.push (rotl (w.getD (i - 3) 0 ^^^ w.getD (i - 8) 0 ^^^ w.getD (i - 14) 0 ^^^
      w.getD (i - 16) 0) 1)) first

/-- The state after mixing in the block at byte offset `off`. -/
def compress (h : Array UInt32) (bs : Array UInt8) (off : Nat) : Array UInt32 :=
  let w := schedule bs off
  let g (i : Nat) : UInt32 := h.getD i 0
  let (a, b, c, d, e) := (List.range 80).foldl (fun st i =>
    let (a, b, c, d, e) := st
    let (f, k) :=
      if i < 20 then ((b &&& c) ||| (~~~b &&& d), (0x5a827999 : UInt32))
      else if i < 40 then (b ^^^ c ^^^ d, 0x6ed9eba1)
      else if i < 60 then ((b &&& c) ||| (b &&& d) ||| (c &&& d), 0x8f1bbcdc)
      else (b ^^^ c ^^^ d, 0xca62c1d6)
    let t := rotl a 5 + f + e + k + w.getD i 0
    (t, a, rotl b 30, c, d)) (g 0, g 1, g 2, g 3, g 4)
  #[g 0 + a, g 1 + b, g 2 + c, g 3 + d, g 4 + e]

/-- The SHA-1 digest of a byte string. -/
def digest (msg : Bytes) : Bytes :=
  let bs := Sha256.pad msg
  let h := (List.range (bs.size / 64)).foldl (fun h k => compress h bs (64 * k)) initialState
  h.toList.flatMap fun x => Bytes.ofNatBE 4 x.toNat

end Sha1

end BranchLock

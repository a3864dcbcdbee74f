import BranchLock.Data.Bytes

/-!
# RIPEMD-160

The RIPEMD-160 digest of Dobbertin, Bosselaers and Preneel. The message is padded as for MD4
(a one bit, zeros, and the bit length as a 64-bit little-endian number); each 64-byte block is
read as sixteen little-endian words and run through two parallel lines of 80 steps, which are
then folded into the five-word state. The digest is the final state, little-endian.
-/

namespace BranchLock

namespace Ripemd160

/-- The word order of the left line. -/
def leftOrder : Array Nat := #[
  0, 1, 2, 3, 4, 5, 6, 7, 8, 9, 10, 11, 12, 13, 14, 15,
  7, 4, 13, 1, 10, 6, 15, 3, 12, 0, 9, 5, 2, 14, 11, 8,
  3, 10, 14, 4, 9, 15, 8, 1, 2, 7, 0, 6, 13, 11, 5, 12,
  1, 9, 11, 10, 0, 8, 12, 4, 13, 3, 7, 15, 14, 5, 6, 2,
  4, 0, 5, 9, 7, 12, 2, 10, 14, 1, 3, 8, 11, 6, 15, 13]

/-- The word order of the right line. -/
def rightOrder : Array Nat := #[
  5, 14, 7, 0, 9, 2, 11, 4, 13, 6, 15, 8, 1, 10, 3, 12,
  6, 11, 3, 7, 0, 13, 5, 10, 14, 15, 8, 12, 4, 9, 1, 2,
  15, 5, 1, 3, 7, 14, 6, 9, 11, 8, 12, 2, 10, 0, 4, 13,
  8, 6, 4, 1, 3, 11, 15, 0, 5, 12, 2, 13, 9, 7, 10, 14,
  12, 15, 10, 4, 1, 5, 8, 7, 6, 2, 13, 14, 0, 3, 9, 11]

/-- The rotation amounts of the left line. -/
def leftShift : Array UInt32 := #[
  11, 14, 15, 12, 5, 8, 7, 9, 11, 13, 14, 15, 6, 7, 9, 8,
  7, 6, 8, 13, 11, 9, 7, 15, 7, 12, 15, 9, 11, 7, 13, 12,
  11, 13, 6, 7, 14, 9, 13, 15, 14, 8, 13, 6, 5, 12, 7, 5,
  11, 12, 14, 15, 14, 15, 9, 8, 9, 14, 5, 6, 8, 6, 5, 12,
  9, 15, 5, 11, 6, 8, 13, 12, 5, 12, 13, 14, 11, 8, 5, 6]

/-- The rotation amounts of the right line. -/
def rightShift : Array UInt32 := #[
  8, 9, 9, 11, 13, 15, 15, 5, 7, 7, 8, 11, 14, 14, 12, 6,
  9, 13, 15, 7, 12, 8, 9, 11, 7, 7, 12, 7, 6, 15, 13, 11,
  9, 7, 15, 11, 8, 6, 6, 14, 12, 13, 5, 14, 13, 13, 7, 5,
  15, 5, 8, 11, 14, 14, 6, 14, 6, 9, 12, 9, 12, 5, 15, 8,
  8, 5, 12, 9, 12, 5, 14, 6, 8, 13, 6, 5, 15, 13, 11, 11]

/-- The additive constants of the left line, one per round of sixteen steps. -/
def leftConstants : Array UInt32 := #[0x00000000, 0x5a827999, 0x6ed9eba1, 0x8f1bbcdc, 0xa953fd4e]

/-- The additive constants of the right line, one per round of sixteen steps. -/
def rightConstants : Array UInt32 := #[0x50a28be6, 0x5c4dd124, 0x6d703ef3, 0x7a6d76e9, 0x00000000]

/-- The initial state. -/
def initialState : Array UInt32 := #[0x67452301, 0xefcdab89, 0x98badcfe, 0x10325476, 0xc3d2e1f0]

/-- Rotation of a word to the left. -/
def rotl (x : UInt32) (n : UInt32) : UInt32 := (x <<< n) ||| (x >>> (32 - n))

/-- The boolean function of round `r` (0‥4). -/
def mix (r : Nat) (x y z : UInt32) : UInt32 :=
  match r with
  | 0 => x ^^^ y ^^^ z
  | 1 => (x &&& y) ||| (~~~x &&& z)
  | 2 => (x ||| ~~~y) ^^^ z
  | 3 => (x &&& z) ||| (y &&& ~~~z)
  | _ => x ^^^ (y ||| ~~~z)

/-- The little-endian word at byte offset `i`. -/
def wordAt (bs : Array UInt8) (i : Nat) : UInt32 :=
  (bs.getD i 0).toUInt32 ||| ((bs.getD (i + 1) 0).toUInt32 <<< 8) |||
    ((bs.getD (i + 2) 0).toUInt32 <<< 16) ||| ((bs.getD (i + 3) 0).toUInt32 <<< 24)

/-- The padded message: the bytes, `0x80`, zeros up to 56 modulo 64, and the bit length. -/
def pad (msg : Bytes) : Array UInt8 :=
  let len := msg.length
  let zeros := (119 - len % 64) % 64
  (msg ++ 0x80 :: List.replicate zeros 0 ++ Bytes.ofNatLE 8 (8 * len)).toArray

/-- One line of 80 steps over the block words `x`; `left` selects the line, which fixes the word
order, rotations, constants and the order in which the round functions are used. -/
def line (left : Bool) (h : Array UInt32) (x : Array UInt32) :
    UInt32 × UInt32 × UInt32 × UInt32 × UInt32 :=
  let g (i : Nat) : UInt32 := h.getD i 0
  (List.range 80).foldl (fun st j =>
    let (a, b, c, d, e) := st
    let r := j / 16
    let f := if left then mix r b c d else mix (4 - r) b c d
    let word := x.getD ((if left then leftOrder else rightOrder).getD j 0) 0
    let k := (if left then leftConstants else rightConstants).getD r 0
    let s := (if left then leftShift else rightShift).getD j 0
    let t := rotl (a + f + word + k) s + e
    (e, t, b, rotl c 10, d)) (g 0, g 1, g 2, g 3, g 4)

/-- The state after mixing in the block at byte offset `off`. -/
def compress (h : Array UInt32) (bs : Array UInt8) (off : Nat) : Array UInt32 :=
  let x := (List.range 16).foldl (fun w i => w.push (wordAt bs (off + 4 * i))) #[]
  let (a, b, c, d, e) := line true h x
  let (a', b', c', d', e') := line false h x
  let g (i : Nat) : UInt32 := h.getD i 0
  #[g 1 + c + d', g 2 + d + e', g 3 + e + a', g 4 + a + b', g 0 + b + c']

/-- The RIPEMD-160 digest of a byte string. -/
def digest (msg : Bytes) : Bytes :=
  let bs := pad msg
  let h := (List.range (bs.size / 64)).foldl (fun h k => compress h bs (64 * k)) initialState
  h.toList.flatMap fun w => Bytes.ofNatLE 4 w.toNat

/-- A compression keeps the state at five words. -/
theorem size_compress (h : Array UInt32) (bs : Array UInt8) (off : Nat) :
    (compress h bs off).size = 5 := by
  unfold compress
  dsimp only
  rfl

/-- A RIPEMD-160 digest is 20 bytes. -/
theorem length_digest (msg : Bytes) : (digest msg).length = 20 := by
  have hsize : ∀ (l : List Nat) (h : Array UInt32), h.size = 5 →
      (l.foldl (fun h k => compress h (pad msg) (64 * k)) h).size = 5 := by
    intro l
    induction l with
    | nil => exact fun h hh => hh
    | cons k l ih => exact fun h _ => ih _ (size_compress _ _ _)
  unfold digest
  have hsum : ∀ L : List UInt32, (L.map fun _ => (4 : Nat)).sum = 4 * L.length := by
    intro L
    induction L with
    | nil => rfl
    | cons w L ih =>
      simp only [List.map_cons, List.sum_cons, ih, List.length_cons]
      omega
  simp only [List.length_flatMap, Bytes.length_ofNatLE]
  rw [hsum, Array.length_toList, hsize _ _ rfl]

end Ripemd160

end BranchLock

import BranchLock.Curve.Secp256k1
import BranchLock.Data.Hex
import BranchLock.Data.Failure

/-!
# Public and private keys

A private key is a scalar modulo the group order; its public key is that multiple of the base
point. A public key is written in one of three forms: compressed (`0x02`/`0x03` by the parity
of `y`, then `x`), uncompressed (`0x04`, `x`, `y`) or hybrid (`0x06`/`0x07`, `x`, `y`), each
coordinate as 32 big-endian bytes.

Reading a key checks, in order: the length (33 or 65), the format byte, that the coordinates
are below the field prime, for hybrid keys the parity of `y`, and that the point lies on the
curve; a compressed key's `y` is recovered as a square root.
-/

namespace BranchLock

open Secp256k1

/-- A point of the curve other than infinity, used as a public key. -/
structure PublicKey where
  /-- The x coordinate. -/
  x : Nat
  /-- The y coordinate. -/
  y : Nat
  deriving DecidableEq, Repr

/-- A scalar modulo the group order, used as a private key. -/
structure PrivateKey where
  /-- The scalar. -/
  scalar : Nat
  deriving DecidableEq, Repr

/-- Why a byte string is not a public key. -/
inductive PubKeyError where
  /-- The string is neither 33 nor 65 bytes long. -/
  | badLength (len : Nat)
  /-- The format byte does not fit the length. -/
  | badFormat (format : UInt8)
  /-- The x coordinate is not below the field prime. -/
  | xTooBig
  /-- The y coordinate is not below the field prime. -/
  | yTooBig
  /-- A hybrid key's format byte promises the other parity of `y`. -/
  | parityMismatch (wantOdd : Bool)
  /-- The point does not lie on the curve. -/
  | notOnCurve (x y : Nat)
  /-- No point of the curve has this x coordinate. -/
  | noPointAt (x : Nat)
  deriving DecidableEq, Repr

/-- The 64-digit hexadecimal text of a field element. -/
def fieldText (v : Nat) : String := Hex.encode (Bytes.ofNatBE 32 v)

/-- The text of a key reading error. -/
def PubKeyError.message : PubKeyError → String
  | .badLength len => "malformed public key: invalid length: " ++ toString len
  | .badFormat f =>
    "invalid public key: unsupported format: " ++ String.ofList (Nat.toDigits 16 f.toNat)
  | .xTooBig => "invalid public key: x >= field prime"
  | .yTooBig => "invalid public key: y >= field prime"
  | .parityMismatch wantOdd =>
    "invalid public key: y oddness does not match specified value of " ++
      (if wantOdd then "true" else "false")
  | .notOnCurve x y =>
    "invalid public key: [" ++ fieldText x ++ "," ++ fieldText y ++ "] not on secp256k1 curve"
  | .noPointAt x =>
    "invalid public key: x coordinate " ++ fieldText x ++ " is not on the secp256k1 curve"

/-- A key reading error is plain text. -/
instance : Failure PubKeyError where
  message := PubKeyError.message
  origin _ := (.plain, "")

namespace PublicKey

/-- The compressed form: the parity of `y`, then `x`. -/
def compressed (k : PublicKey) : Bytes :=
  (if k.y % 2 = 1 then 0x03 else 0x02) :: Bytes.ofNatBE 32 k.x

/-- The uncompressed form: `0x04`, `x`, `y`. -/
def uncompressed (k : PublicKey) : Bytes := 0x04 :: Bytes.ofNatBE 32 k.x ++ Bytes.ofNatBE 32 k.y

/-- The compressed form is 33 bytes long. -/
@[simp] theorem length_compressed (k : PublicKey) : k.compressed.length = 33 := by
  simp [compressed]

/-- The uncompressed form is 65 bytes long. -/
@[simp] theorem length_uncompressed (k : PublicKey) : k.uncompressed.length = 65 := by
  simp [uncompressed]

/-- The curve point of a key. -/
def point (k : PublicKey) : Point := .affine k.x k.y

/-- Reads a public key in any of its three forms. -/
def parse (bs : Bytes) : Except PubKeyError PublicKey :=
  match bs with
  | [] => .error (.badLength 0)
  | format :: rest =>
    if bs.length = 65 then
      if format = 4 ∨ format = 6 ∨ format = 7 then
        let x := Bytes.toNatBE (rest.take 32)
        let y := Bytes.toNatBE (rest.drop 32)
        if x ≥ p then .error .xTooBig
        else if y ≥ p then .error .yTooBig
        else if (format = 6 ∨ format = 7) ∧ (y % 2 = 1) ≠ (format = 7) then
          .error (.parityMismatch (format = 7))
        else if !onCurve x y then .error (.notOnCurve x y)
        else .ok ⟨x, y⟩
      else .error (.badFormat format)
    else if bs.length = 33 then
      if format = 2 ∨ format = 3 then
        let x := Bytes.toNatBE rest
        if x ≥ p then .error .xTooBig
        else
          let rhs := (x * x % p * x + 7) % p
          let r := sqrtMod rhs
          if r * r % p ≠ rhs then .error (.noPointAt x)
          else
            let y := if (r % 2 = 1) = (format = 3) then r else (p - r) % p
            .ok ⟨x, y⟩
      else .error (.badFormat format)
    else .error (.badLength bs.length)

end PublicKey

namespace PrivateKey

/-- The private key of 32 big-endian bytes, reduced modulo the group order. -/
def ofBytes (bs : Bytes) : PrivateKey := ⟨Bytes.toNatBE bs % n⟩

/-- The 32 big-endian bytes of a private key. -/
def toBytes (k : PrivateKey) : Bytes := Bytes.ofNatBE 32 k.scalar

/-- The public key of a private key. -/
def publicKey (k : PrivateKey) : PublicKey :=
  match Point.mul k.scalar generator with
  | .affine x y => ⟨x, y⟩
  | .infinity => ⟨0, 0⟩

end PrivateKey

end BranchLock

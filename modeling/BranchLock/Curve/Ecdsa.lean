import BranchLock.Curve.PublicKey
import BranchLock.Hash.Digest

/-!
# ECDSA signatures over secp256k1

Signing is deterministic: the nonce is drawn from the private key and the message hash by a
chain of HMAC-SHA256 calls keyed with both, and the signature is normalised to the lower of `s`
and `n - s`. Signatures travel in DER form, `0x30 len 0x02 len(r) r 0x02 len(s) s`, each integer in
its shortest big-endian form with a zero byte in front when its top bit is set.
-/

namespace BranchLock

open Secp256k1

/-- An ECDSA signature. -/
structure Signature where
  /-- The x coordinate of the nonce point, modulo the group order. -/
  r : Nat
  /-- The proof scalar. -/
  s : Nat
  deriving DecidableEq, Repr

namespace Signature

/-- The shortest DER integer body of a number below `2²⁵⁶`. -/
def derInt (v : Nat) : Bytes :=
  let full := (0 : UInt8) :: Bytes.ofNatBE 32 v
  let rec strip : Bytes → Bytes
    | a :: b :: rest => if a = 0 ∧ b &&& 0x80 = 0 then strip (b :: rest) else a :: b :: rest
    | bs => bs
  strip full

/-- The DER form of a signature. -/
def toDer (sig : Signature) : Bytes :=
  let r := derInt sig.r
  let s := derInt sig.s
  [0x30, UInt8.ofNat (4 + r.length + s.length), 0x02, UInt8.ofNat r.length] ++ r ++
    [0x02, UInt8.ofNat s.length] ++ s

/-- Reads a signature from a DER form that has already been checked for layout; refuses values
that are zero or not below the group order. -/
def ofDer? (bs : Bytes) : Option Signature :=
  match bs with
  | _ :: _ :: _ :: rLen :: rest =>
    let rb := rest.take rLen.toNat
    let after := rest.drop rLen.toNat
    match after with
    | _ :: sLen :: sb =>
      let r := Bytes.toNatBE rb
      let s := Bytes.toNatBE (sb.take sLen.toNat)
      if r = 0 ∨ r ≥ n ∨ s = 0 ∨ s ≥ n then none else some ⟨r, s⟩
    | _ => none
  | _ => none

end Signature

/-- The deterministic nonce for a private key `x` and a 32-byte message hash, reduced modulo
the order to `h`. From `V = 0x01…` and `K = 0x00…` of 32 bytes each, first
`K := HMAC_K(V ‖ 0x00 ‖ x ‖ h)` and `V := HMAC_K(V)`, then the same with `0x01`. Each candidate
is `V := HMAC_K(V)`; one outside `[1, n)` is followed by `K := HMAC_K(V ‖ 0x00)` and
`V := HMAC_K(V)` before the next, and after 64 refused candidates the nonce is 1. -/
def deterministicNonce (key : PrivateKey) (hash : Bytes) : Nat :=
  let x := key.toBytes
  let h := Bytes.ofNatBE 32 (Bytes.toNatBE hash % n)
  let v0 := List.replicate 32 (1 : UInt8)
  let k0 := List.replicate 32 (0 : UInt8)
  let k1 := hmacSha256 k0 (v0 ++ [0] ++ x ++ h)
  let v1 := hmacSha256 k1 v0
  let k2 := hmacSha256 k1 (v1 ++ [1] ++ x ++ h)
  let v2 := hmacSha256 k2 v1
  let rec attempt : Nat → Bytes → Bytes → Nat
    | 0, _, _ => 1
    | fuel + 1, k, v =>
      let v' := hmacSha256 k v
      let cand := Bytes.toNatBE v'
      if 1 ≤ cand ∧ cand < n then cand
      else
        let k' := hmacSha256 k (v' ++ [0])
        attempt fuel k' (hmacSha256 k' v')
  attempt 64 k2 v2

/-- The deterministic low-`s` signature of a 32-byte message hash. -/
def PrivateKey.sign (key : PrivateKey) (hash : Bytes) : Signature :=
  let k := deterministicNonce key hash
  let e := Bytes.toNatBE hash % n
  let r := match Point.mul k generator with
    | .affine x _ => x % n
    | .infinity => 0
  let s := invMod k n * ((e + r * key.scalar) % n) % n
  let s := if s > n / 2 then n - s else s
  ⟨r, s⟩

/-- Whether a signature is valid for a 32-byte message hash under a public key. -/
def PublicKey.verify (key : PublicKey) (hash : Bytes) (sig : Signature) : Bool :=
  if sig.r = 0 ∨ sig.r ≥ n ∨ sig.s = 0 ∨ sig.s ≥ n then false
  else
    let e := Bytes.toNatBE hash % n
    let w := invMod sig.s n
    let u1 := e * w % n
    let u2 := sig.r * w % n
    match (Point.mul u1 generator).add (Point.mul u2 key.point) with
    | .affine x _ => x % n = sig.r
    | .infinity => false

end BranchLock

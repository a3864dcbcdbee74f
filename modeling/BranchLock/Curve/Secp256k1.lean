import BranchLock.Data.Bytes

/-!
# The curve secp256k1

The curve `y² = x³ + 7` over the prime field of `p = 2²⁵⁶ - 2³² - 977`, with the base point `G`
of prime order `n`. Points are affine pairs or the point at infinity; sums and multiples are
computed in Jacobian coordinates `(X, Y, Z)`, standing for `(X/Z², Y/Z³)`, so that only the
final conversion back needs a field inversion.

Inverses are computed by Fermat's little theorem, `a⁻¹ = a^(q-2) mod q` for a prime `q`.
-/

namespace BranchLock

namespace Secp256k1

/-- The field prime. -/
def p : Nat := 0xfffffffffffffffffffffffffffffffffffffffffffffffffffffffefffffc2f

/-- The order of the base point. -/
def n : Nat := 0xfffffffffffffffffffffffffffffffebaaedce6af48a03bbfd25e8cd0364141

/-- The x coordinate of the base point. -/
def gx : Nat := 0x79be667ef9dcbbac55a06295ce870b07029bfcdb2dce28d959f2815b16f81798

/-- The y coordinate of the base point. -/
def gy : Nat := 0x483ada7726a3c4655da4fbfc0e1108a8fd17b448a68554199c47d08ffb10d4b8

/-- `b ^ e mod m`, by squaring and multiplying. -/
def powMod (b e m : Nat) : Nat :=
  if h : e = 0 then 1 % m
  else
    let half := powMod (b * b % m) (e / 2) m
    if e % 2 = 1 then half * b % m else half
termination_by e
decreasing_by omega

/-- The inverse modulo a prime `q` of a number not divisible by it. -/
def invMod (a q : Nat) : Nat := powMod (a % q) (q - 2) q

/-- A point of the curve in affine coordinates, or the point at infinity. -/
inductive Point where
  /-- The neutral element. -/
  | infinity
  /-- The point `(x, y)`. -/
  | affine (x y : Nat)
  deriving DecidableEq, Repr

/-- The base point. -/
def generator : Point := .affine gx gy

/-- Whether `(x, y)` satisfies the curve equation. -/
def onCurve (x y : Nat) : Bool := (y * y) % p = (x * x % p * x + 7) % p

/-- A point in Jacobian coordinates; `z = 0` is the point at infinity. -/
structure Jacobian where
  /-- `X`, standing for `X / Z²`. -/
  x : Nat
  /-- `Y`, standing for `Y / Z³`. -/
  y : Nat
  /-- `Z`. -/
  z : Nat

namespace Jacobian

/-- Subtraction in the field. -/
def sub (a b : Nat) : Nat := (a + p - b % p) % p

/-- The Jacobian form of an affine point. -/
def ofPoint : Point → Jacobian
  | .infinity => ⟨1, 1, 0⟩
  | .affine x y => ⟨x, y, 1⟩

/-- The affine point a Jacobian triple stands for. -/
def toPoint (q : Jacobian) : Point :=
  if q.z % p = 0 then .infinity
  else
    let zi := invMod q.z p
    let zi2 := zi * zi % p
    .affine (q.x * zi2 % p) (q.y * (zi2 * zi % p) % p)

/-- Twice a point. -/
def double (q : Jacobian) : Jacobian :=
  if q.z % p = 0 ∨ q.y % p = 0 then ⟨1, 1, 0⟩
  else
    let a := q.x * q.x % p
    let b := q.y * q.y % p
    let c := b * b % p
    let t := (q.x + b) % p
    let d := 2 * sub (sub (t * t % p) a) c % p
    let e := 3 * a % p
    let f := e * e % p
    let x3 := sub f (2 * d % p)
    let y3 := sub (e * sub d x3 % p) (8 * c % p)
    let z3 := 2 * q.y * q.z % p
    ⟨x3, y3, z3⟩

/-- The sum of two points. -/
def add (q r : Jacobian) : Jacobian :=
  if q.z % p = 0 then r
  else if r.z % p = 0 then q
  else
    let z1z1 := q.z * q.z % p
    let z2z2 := r.z * r.z % p
    let u1 := q.x * z2z2 % p
    let u2 := r.x * z1z1 % p
    let s1 := q.y * r.z % p * z2z2 % p
    let s2 := r.y * q.z % p * z1z1 % p
    if u1 = u2 then
      if s1 = s2 then double q else ⟨1, 1, 0⟩
    else
      let h := sub u2 u1
      let i := (2 * h) * (2 * h) % p
      let j := h * i % p
      let rr := 2 * sub s2 s1 % p
      let v := u1 * i % p
      let x3 := sub (sub (rr * rr % p) j) (2 * v % p)
      let y3 := sub (rr * sub v x3 % p) (2 * s1 * j % p)
      let zs := (q.z + r.z) % p
      let z3 := sub (sub (zs * zs % p) z1z1) z2z2 * h % p
      ⟨x3, y3, z3⟩

end Jacobian

/-- The multiple `k · P`, by doubling and adding over the 256 bits of `k` from the top. -/
def Point.mul (k : Nat) (pt : Point) : Point :=
  let base := Jacobian.ofPoint pt
  let acc := (List.range 256).reverse.foldl (fun acc i =>
    let d := acc.double
    if k.testBit i then d.add base else d) (Jacobian.ofPoint .infinity)
  acc.toPoint

/-- The sum of two affine points. -/
def Point.add (a b : Point) : Point :=
  ((Jacobian.ofPoint a).add (Jacobian.ofPoint b)).toPoint

/-- A square root of `a` modulo `p`, which exists exactly when its square is `a`; since
`p ≡ 3 (mod 4)` it is `a^((p+1)/4)`. -/
def sqrtMod (a : Nat) : Nat := powMod a ((p + 1) / 4) p

end Secp256k1

end BranchLock

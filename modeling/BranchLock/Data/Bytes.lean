/-!
# Byte strings

Every script, hash, key and stored value in this library is a `Bytes`: a list of octets. The
list form keeps the encoders and decoders of later modules open to structural induction; the
hash functions convert to arrays internally where speed matters.

The helpers here read and write unsigned integers in big- and little-endian order, and compare
byte strings in the bytewise lexicographic order that key/value engines sort by. The main
statements are the round trips `toNatLE_ofNatLE` and `toNatBE_ofNatBE` for values that fit
the width, and that the order is strict and total (`lt_irrefl`, `lt_trans`, `lt_or_lt_of_ne`)
and unchanged by a common prefix (`lt_append_left`), which is what keeps prefixed keys in the
order of what follows the prefix.
-/

namespace BranchLock

/-- A byte string: scripts, hashes, keys and stored values. -/
abbrev Bytes := List UInt8

namespace Bytes

/-- The little-endian encoding of `n` in exactly `width` bytes; higher bits are dropped. -/
def ofNatLE : Nat → Nat → Bytes
  | 0, _ => []
  | width + 1, n => UInt8.ofNat (n % 256) :: ofNatLE width (n / 256)

/-- The value of a little-endian byte string. -/
def toNatLE : Bytes → Nat
  | [] => 0
  | b :: rest => b.toNat + 256 * toNatLE rest

/-- The big-endian encoding of `n` in exactly `width` bytes; higher bits are dropped. -/
def ofNatBE (width n : Nat) : Bytes := (ofNatLE width n).reverse

/-- The value of a big-endian byte string. -/
def toNatBE (bs : Bytes) : Nat := toNatLE bs.reverse

/-- The little-endian encoding has exactly the width asked for. -/
@[simp] theorem length_ofNatLE (width n : Nat) : (ofNatLE width n).length = width := by
  induction width generalizing n with
  | zero => rfl
  | succ w ih => simp [ofNatLE, ih]

/-- The big-endian encoding has exactly the width asked for. -/
@[simp] theorem length_ofNatBE (width n : Nat) : (ofNatBE width n).length = width := by
  simp [ofNatBE]

/-- A value that fits the width reads back from its little-endian encoding. -/
theorem toNatLE_ofNatLE (width n : Nat) (h : n < Nat.pow 256 width) :
    toNatLE (ofNatLE width n) = n := by
  induction width generalizing n with
  | zero =>
    have h : n < 1 := h
    simp [ofNatLE, toNatLE]; omega
  | succ w ih =>
    have hq : n / 256 < Nat.pow 256 w := by
      have h : n < Nat.pow 256 w * 256 := h
      exact Nat.div_lt_of_lt_mul (by rw [Nat.mul_comm]; exact h)
    simp only [ofNatLE, toNatLE, ih (n / 256) hq]
    have : (UInt8.ofNat (n % 256)).toNat = n % 256 := by
      simp
    omega

/-- A value that fits the width reads back from its big-endian encoding. -/
theorem toNatBE_ofNatBE (width n : Nat) (h : n < Nat.pow 256 width) :
    toNatBE (ofNatBE width n) = n := by
  simp [toNatBE, ofNatBE, toNatLE_ofNatLE width n h]

/-- A zero byte after a little-endian value leaves it as it is. -/
theorem toNatLE_append_zero (bs : Bytes) : toNatLE (bs ++ [0]) = toNatLE bs := by
  induction bs with
  | nil => rfl
  | cons b bs ih => simp [toNatLE, ih]

/-- A zero byte in front of a big-endian value leaves it as it is. -/
@[simp] theorem toNatBE_zero_cons (bs : Bytes) : toNatBE (0 :: bs) = toNatBE bs := by
  simp [toNatBE, toNatLE_append_zero]

/-- Bytewise lexicographic order, the order in which key/value engines keep their keys: a
proper prefix sorts first. -/
def lt : Bytes → Bytes → Bool
  | [], [] => false
  | [], _ :: _ => true
  | _ :: _, [] => false
  | a :: as, b :: bs => if a < b then true else if b < a then false else lt as bs

/-- `a ≤ b` in the bytewise order. -/
def le (a b : Bytes) : Bool := !lt b a

/-- No string is below the empty one. -/
@[simp] theorem lt_nil (a : Bytes) : lt a [] = false := by
  cases a <;> rfl

/-- Two nonempty strings compare by their first bytes, and by the rest when those are equal. -/
theorem lt_cons_cons (x y : UInt8) (xs ys : Bytes) :
    lt (x :: xs) (y :: ys) =
      if x.toNat < y.toNat then true else if y.toNat < x.toNat then false else lt xs ys := by
  simp only [lt, UInt8.lt_iff_toNat_lt]

/-- A nonempty string is below another when its first byte is, or when the first bytes are
equal and its rest is below the other's. -/
theorem lt_cons_cons_eq_true {x y : UInt8} {xs ys : Bytes} :
    lt (x :: xs) (y :: ys) = true ↔ x.toNat < y.toNat ∨ (x = y ∧ lt xs ys = true) := by
  rw [lt_cons_cons]
  by_cases hxy : x.toNat < y.toNat
  · simp [hxy]
  · by_cases hyx : y.toNat < x.toNat
    · have hne : x ≠ y := fun h => by subst h; omega
      simp [hxy, hyx, hne]
    · obtain rfl : x = y := UInt8.toNat_inj.1 (by omega)
      simp

/-- No string is below itself. -/
@[simp] theorem lt_irrefl (a : Bytes) : lt a a = false := by
  induction a with
  | nil => rfl
  | cons x xs ih => simp [lt_cons_cons, ih]

/-- The bytewise order is transitive. -/
theorem lt_trans {a b c : Bytes} (hab : lt a b = true) (hbc : lt b c = true) :
    lt a c = true := by
  induction a generalizing b c with
  | nil => cases b <;> cases c <;> simp_all [lt]
  | cons x xs ih =>
    cases b with
    | nil => simp [lt] at hab
    | cons y ys =>
      cases c with
      | nil => simp [lt] at hbc
      | cons z zs =>
        rw [lt_cons_cons_eq_true] at hab hbc ⊢
        rcases hab with hxy | ⟨rfl, hxy⟩ <;> rcases hbc with hyz | ⟨rfl, hyz⟩
        · exact Or.inl (by omega)
        · exact Or.inl hxy
        · exact Or.inl hyz
        · exact Or.inr ⟨rfl, ih hxy hyz⟩

/-- Two different strings are ordered one way or the other. -/
theorem lt_or_lt_of_ne {a b : Bytes} (h : a ≠ b) : lt a b = true ∨ lt b a = true := by
  induction a generalizing b with
  | nil =>
    cases b with
    | nil => exact absurd rfl h
    | cons => exact Or.inl rfl
  | cons x xs ih =>
    cases b with
    | nil => exact Or.inr rfl
    | cons y ys =>
      rw [lt_cons_cons, lt_cons_cons]
      by_cases hxy : x = y
      · subst hxy
        have hne : xs ≠ ys := fun h' => h (h' ▸ rfl)
        simpa using ih hne
      · have hne : x.toNat ≠ y.toNat := fun h' => hxy (UInt8.toNat_inj.1 h')
        rcases Nat.lt_or_gt_of_ne hne with hlt | hgt
        · exact Or.inl (by simp [hlt])
        · exact Or.inr (by simp [hgt])

/-- A common prefix does not change the order. -/
@[simp] theorem lt_append_left (p a b : Bytes) : lt (p ++ a) (p ++ b) = lt a b := by
  induction p with
  | nil => rfl
  | cons x p ih => simp [lt_cons_cons, ih]

/-- The bytes of a text, in its UTF-8 encoding. -/
def ofString (s : String) : Bytes := s.toUTF8.toList

end Bytes

end BranchLock

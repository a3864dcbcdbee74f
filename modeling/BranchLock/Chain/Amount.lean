import BranchLock.Data.Binary64

/-!
# Amounts

An amount is a signed 64-bit count of satoshis, a hundred million to the bitcoin. It is shown in
bitcoin: the count divided by `10^8` in double precision, printed in its shortest form when that
is a whole number and with exactly eight decimals otherwise, followed by ` BTC`. So one satoshi
shows as `0.00000001 BTC` and a hundred million of them as `1 BTC`.

An amount typed in bitcoin is a double; it is multiplied by `10^8` in double precision and
rounded half away from zero. Not-a-number and the infinities are refused; a product beyond the
64-bit range becomes the least 64-bit number, as the hardware conversion does.
-/

namespace BranchLock

/-- A count of satoshis. -/
structure Amount where
  /-- The count, a signed 64-bit number. -/
  satoshis : Int
  deriving DecidableEq, Repr

namespace Amount

/-- Satoshis to the bitcoin. -/
def perBitcoin : Nat := 100000000

/-- The least signed 64-bit number. -/
def minInt64 : Int := -(Nat.pow 2 63 : Nat)

/-- Wraps an integer into the signed 64-bit range. -/
def wrap64 (n : Int) : Int :=
  let m := n % (Nat.pow 2 64 : Nat)
  if m ≥ (Nat.pow 2 63 : Nat) then m - (Nat.pow 2 64 : Nat) else m

/-- The amount in bitcoin, as a double. -/
def inBitcoin (a : Amount) : Binary64 := (Binary64.ofInt a.satoshis).scale 1 perBitcoin

/-- The text of an amount in bitcoin. -/
def text (a : Amount) : String :=
  let x := a.inBitcoin
  let number := match x.truncate with
    | some t => if x.isWhole then toString t else x.fixedText 8
    | none => x.fixedText 8
  number ++ " BTC"

/-- The difference of two amounts, wrapping as 64-bit arithmetic does. -/
def sub (a b : Amount) : Amount := ⟨wrap64 (a.satoshis - b.satoshis)⟩

/-- Why a double is not an amount. -/
inductive AmountError where
  /-- Not a number or an infinity. -/
  | invalid
  deriving DecidableEq, Repr

/-- The text of an amount error. -/
def AmountError.message : AmountError → String
  | .invalid => "invalid bitcoin amount"

/-- The amount of a number of bitcoin. -/
def ofBitcoin (x : Binary64) : Except AmountError Amount :=
  match x with
  | .finite _ _ _ =>
    let rounded := (x.scale perBitcoin 1).awayByHalf
    match rounded.truncate with
    | some t =>
      if minInt64 ≤ t ∧ t < (Nat.pow 2 63 : Nat) then .ok ⟨t⟩ else .ok ⟨minInt64⟩
    | none => .ok ⟨minInt64⟩
  | _ => .error .invalid

end Amount

end BranchLock

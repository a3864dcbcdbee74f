import BranchLock.Data.Bytes

/-!
# Script numbers

Scripts carry integers as little-endian sign-magnitude byte strings: the high bit of the last
byte is the sign, and the shortest form has no superfluous zero byte at the end. Zero is the
empty string.

`encode` writes the shortest form; `decode` reads a form of bounded length and, when asked,
refuses one that is not the shortest.
-/

namespace BranchLock

namespace ScriptNum

/-- The magnitude of a number in little-endian bytes, with no trailing zero byte. -/
def magnitude (n : Nat) : Bytes :=
  if n = 0 then [] else UInt8.ofNat (n % 256) :: magnitude (n / 256)
termination_by n
decreasing_by omega

/-- The shortest sign-magnitude form of an integer. -/
def encode (v : Int) : Bytes :=
  let mag := magnitude v.natAbs
  match mag.getLast? with
  | none => []
  | some last =>
    if last &&& 0x80 ≠ 0 then mag ++ [if v < 0 then 0x80 else 0x00]
    else if v < 0 then mag.dropLast ++ [last ||| 0x80]
    else mag

/-- Why a byte string is not an acceptable number. -/
inductive DecodeError where
  /-- The form is longer than the bound allows. -/
  | tooLong (bs : Bytes) (limit : Nat)
  /-- The form has a superfluous last byte. -/
  | notMinimal (bs : Bytes)
  deriving DecidableEq, Repr

/-- Whether a form is the shortest one for its value: its last byte carries more than the sign,
or the byte before it needs the sign bit to itself. -/
def isMinimal (bs : Bytes) : Bool :=
  match bs.getLast? with
  | none => true
  | some last =>
    if last &&& 0x7f = 0 then
      match bs.dropLast.getLast? with
      | none => false
      | some prev => prev &&& 0x80 ≠ 0
    else true

/-- The value of a sign-magnitude form, without checks. -/
def value (bs : Bytes) : Int :=
  match bs.getLast? with
  | none => 0
  | some last =>
    if last &&& 0x80 ≠ 0 then
      -((Bytes.toNatLE (bs.dropLast ++ [last &&& 0x7f]) : Nat) : Int)
    else (Bytes.toNatLE bs : Int)

/-- Reads a number of at most `limit` bytes, refusing a longer form, and, when `minimal` is
set, one that is not the shortest. -/
def decode (bs : Bytes) (minimal : Bool) (limit : Nat) : Except DecodeError Int :=
  if bs.length > limit then .error (.tooLong bs limit)
  else if minimal && !isMinimal bs then .error (.notMinimal bs)
  else .ok (value bs)

/-- Clamps a number into the signed 32-bit range, as counts and indices are read. -/
def toInt32 (v : Int) : Int :=
  if v > 2147483647 then 2147483647 else if v < -2147483648 then -2147483648 else v

end ScriptNum

end BranchLock

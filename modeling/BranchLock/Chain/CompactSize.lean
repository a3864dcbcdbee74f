import BranchLock.Data.Hex
import BranchLock.Data.Failure

/-!
# Variable-length integers

Counts and lengths in transactions and stored sets are written as variable-length integers: a
value below `0xfd` as one byte, otherwise a marker `0xfd`, `0xfe` or `0xff` followed by the value
in 2, 4 or 8 little-endian bytes. Only the shortest form is accepted when reading: a value
behind a marker must need that marker.
-/

namespace BranchLock

namespace CompactSize

/-- The shortest encoding of a value below `2⁶⁴`. -/
def encode (v : Nat) : Bytes :=
  if v < 0xfd then [UInt8.ofNat v]
  else if v ≤ 0xffff then 0xfd :: Bytes.ofNatLE 2 v
  else if v ≤ 0xffffffff then 0xfe :: Bytes.ofNatLE 4 v
  else 0xff :: Bytes.ofNatLE 8 v

/-- Why bytes do not start with a variable-length integer. -/
inductive DecodeError where
  /-- There are no bytes where the value or its width begins. -/
  | eof
  /-- The bytes end inside the value. -/
  | unexpectedEof
  /-- The value behind a marker is small enough for a shorter form. -/
  | nonCanonical (value : Nat) (marker : UInt8) (least : Nat)
  deriving DecidableEq, Repr

/-- The text of a reading error. -/
def DecodeError.message : DecodeError → String
  | .eof => "EOF"
  | .unexpectedEof => "unexpected EOF"
  | .nonCanonical v m least =>
    "ReadVarInt: non-canonical varint " ++ String.ofList (Nat.toDigits 16 v) ++
      " - discriminant " ++ Hex.encode [m] ++ " must encode a value greater than " ++
      String.ofList (Nat.toDigits 16 least)

/-- A non-canonical compact size is reported under the wire encoding; other decoding errors
are plain text. -/
instance : Failure DecodeError where
  message := DecodeError.message
  origin
    | .nonCanonical _ _ _ => (.wire, "")
    | _ => (.plain, "")

/-- Reads a fixed-width little-endian value after a marker, refusing one below `least`. -/
def readWide (marker : UInt8) (width least : Nat) (rest : Bytes) :
    Except DecodeError (Nat × Bytes) :=
  if rest.isEmpty then .error .eof
  else if rest.length < width then .error .unexpectedEof
  else
    let v := Bytes.toNatLE (rest.take width)
    if v < least then .error (.nonCanonical v marker least) else .ok (v, rest.drop width)

/-- Reads a variable-length integer, in its shortest form only. -/
def decode : Bytes → Except DecodeError (Nat × Bytes)
  | [] => .error .eof
  | b :: rest =>
    if b = 0xff then readWide b 8 0x100000000 rest
    else if b = 0xfe then readWide b 4 0x10000 rest
    else if b = 0xfd then readWide b 2 0xfd rest
    else .ok (b.toNat, rest)

end CompactSize

end BranchLock

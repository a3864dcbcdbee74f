import BranchLock.Data.Bytes
import BranchLock.Data.Failure
import BranchLock.Data.Printable

/-!
# Hexadecimal text

Byte strings travel as hexadecimal text: two digits per byte, lower case when written, either
case when read. Reading works on the UTF-8 bytes of the text, pair by pair from the left, so the
first offending byte is the one reported; an odd trailing digit is reported as a bad length only
after it has been checked to be a digit.

`nibble_digit` says that every written digit reads back as its value.
-/

namespace BranchLock

namespace Hex

/-- Why a text is not hexadecimal. -/
inductive DecodeError where
  /-- The text has an odd number of bytes. -/
  | oddLength
  /-- The byte is not a hexadecimal digit. -/
  | invalidByte (b : UInt8)
  deriving DecidableEq, Repr

/-- The digit of a value below 16, in lower case. -/
def digit (n : Nat) : Char :=
  if n < 10 then Char.ofNat (48 + n) else Char.ofNat (87 + n)

/-- The value of a hexadecimal digit byte of either case. -/
def nibble (b : UInt8) : Option Nat :=
  let n := b.toNat
  if 48 ≤ n ∧ n ≤ 57 then some (n - 48)
  else if 97 ≤ n ∧ n ≤ 102 then some (n - 87)
  else if 65 ≤ n ∧ n ≤ 70 then some (n - 55)
  else none

/-- The two digits of one byte. -/
def byteDigits (b : UInt8) : List Char := [digit (b.toNat / 16), digit (b.toNat % 16)]

/-- The lower-case hexadecimal text of a byte string. -/
def encode (bs : Bytes) : String := String.ofList (bs.flatMap byteDigits)

/-- Reads digit bytes pair by pair. -/
def decodeDigits : List UInt8 → Except DecodeError Bytes
  | [] => .ok []
  | [a] => if (nibble a).isSome then .error .oddLength else .error (.invalidByte a)
  | a :: b :: rest =>
    match nibble a, nibble b with
    | some x, some y => (decodeDigits rest).map (UInt8.ofNat (16 * x + y) :: ·)
    | none, _ => .error (.invalidByte a)
    | some _, none => .error (.invalidByte b)

/-- Reads hexadecimal text of either case. -/
def decode (s : String) : Except DecodeError Bytes := decodeDigits s.toUTF8.toList

/-- The code point of a byte as four upper-case hexadecimal digits after `U+`, followed by the
character in quotes when it is printable. -/
def codePointText (b : UInt8) : String :=
  let n := b.toNat
  let d (k : Nat) : Char := (digit k).toUpper
  let code := String.ofList ['U', '+', '0', '0', d (n / 16), d (n % 16)]
  if isPrintable n then code ++ " '" ++ String.singleton (Char.ofNat n) ++ "'" else code

/-- The text of a reading error. -/
def DecodeError.message : DecodeError → String
  | .oddLength => "encoding/hex: odd length hex string"
  | .invalidByte b => "encoding/hex: invalid byte: " ++ codePointText b

/-- A hexadecimal decoding error is plain text. -/
instance : Failure DecodeError where
  message := DecodeError.message
  origin _ := (.plain, "")

/-- The digit written for a value below 16 reads back as that value. -/
theorem nibble_digit (n : Nat) (h : n < 16) :
    nibble (UInt8.ofNat (digit n).toNat) = some n := by
  have : n = 0 ∨ n = 1 ∨ n = 2 ∨ n = 3 ∨ n = 4 ∨ n = 5 ∨ n = 6 ∨ n = 7 ∨ n = 8 ∨ n = 9 ∨
      n = 10 ∨ n = 11 ∨ n = 12 ∨ n = 13 ∨ n = 14 ∨ n = 15 := by omega
  rcases this with h | h | h | h | h | h | h | h | h | h | h | h | h | h | h | h <;>
    subst h <;> rfl

end Hex

end BranchLock

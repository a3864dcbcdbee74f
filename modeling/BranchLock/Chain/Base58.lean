import BranchLock.Hash.Digest
import BranchLock.Data.Utf8

/-!
# Base58 and base58check

Base58 writes a byte string as a number in base 58 over an alphabet without `0`, `O`, `I` and
`l`, with one `1` for each leading zero byte. Base58check adds a version byte in front and the
first four bytes of the double SHA-256 of both behind.

Reading a text with a character outside the alphabet gives the empty string, which no checked
payload can be.
-/

namespace BranchLock

namespace Base58

/-- The 58 digits, in order. -/
def alphabet : List Char := "123456789ABCDEFGHJKLMNPQRSTUVWXYZabcdefghijkmnopqrstuvwxyz".toList

/-- The value of a digit. -/
def digitValue (c : Char) : Option Nat := alphabet.idxOf? c

/-- The digits of a number in base 58, most significant first; none for zero. -/
def digitsOf (v : Nat) : List Char :=
  if v = 0 then []
  else digitsOf (v / 58) ++ [alphabet.getD (v % 58) '1']
termination_by v
decreasing_by omega

/-- The bytes of a number in big-endian order, without leading zeros. -/
def bytesOf (v : Nat) : Bytes :=
  if v = 0 then []
  else bytesOf (v / 256) ++ [UInt8.ofNat (v % 256)]
termination_by v
decreasing_by omega

/-- The base58 text of a byte string. -/
def encode (bs : Bytes) : String :=
  let zeros := (bs.takeWhile (· = 0)).length
  String.ofList (List.replicate zeros '1' ++ digitsOf (Bytes.toNatBE bs))

/-- The bytes of a base58 text, read a byte at a time; empty when a byte is not a digit. -/
def decode (s : Bytes) : Bytes :=
  let cs := s.chars
  match cs.mapM digitValue with
  | none => []
  | some ds =>
    let v := ds.foldl (fun acc d => acc * 58 + d) 0
    let zeros := (cs.takeWhile (· = '1')).length
    List.replicate zeros 0 ++ bytesOf v

/-- The four-byte checksum of a payload. -/
def checksum (bs : Bytes) : Bytes := (hash256 bs).take 4

/-- The base58check text of a version byte and payload. -/
def checkEncode (version : UInt8) (payload : Bytes) : String :=
  let body := version :: payload
  encode (body ++ checksum body)

/-- Why a text is not base58check. -/
inductive CheckError where
  /-- Too short to hold a version byte and a checksum. -/
  | invalidFormat
  /-- The checksum does not match. -/
  | checksumMismatch
  deriving DecidableEq, Repr

/-- The version byte and payload of a base58check text. -/
def checkDecode (s : Bytes) : Except CheckError (UInt8 × Bytes) :=
  let bs := decode s
  if bs.length < 5 then .error .invalidFormat
  else
    let body := bs.take (bs.length - 4)
    if checksum body ≠ bs.drop (bs.length - 4) then .error .checksumMismatch
    else
      match body with
      | v :: payload => .ok (v, payload)
      | [] => .error .invalidFormat

end Base58

end BranchLock

import BranchLock.Data.Bytes
import BranchLock.Data.Utf8

/-!
# Bech32 and bech32m

Segwit addresses are written in bech32 (BIP 173) or bech32m (BIP 350): a human-readable part, the
separator `1`, and five-bit groups in a 32-character alphabet, the last six of which are a
checksum over both parts. The two encodings differ only in the constant the checksum must
leave.

Reading checks, in order: the length (8 to 90), that every character is printable ASCII and the
case is not mixed, the position of the last `1`, the alphabet, and the checksum.
-/

namespace BranchLock

namespace Bech32

/-- The 32 data characters, in order of value. -/
def charset : List Char := "qpzry9x8gf2tvdw0s3jn54khce6mua7l".toList

/-- Which of the two checksums a text carries. -/
inductive Variant where
  /-- The checksum constant 1 of BIP 173. -/
  | bech32
  /-- The modified checksum constant `0x2bc830a3`. -/
  | bech32m
  deriving DecidableEq, Repr

/-- The checksum constant of a variant. -/
def Variant.constant : Variant → Nat
  | .bech32 => 1
  | .bech32m => 0x2bc830a3

/-- The BCH checksum polynomial over five-bit groups. -/
def polymod (values : List Nat) : Nat :=
  let gen : List Nat := [0x3b6a57b2, 0x26508e6d, 0x1ea119fa, 0x3d4233dd, 0x2a1462b3]
  values.foldl (fun chk v =>
    let top := chk / Nat.pow 2 25
    let chk := (chk % Nat.pow 2 25) * 32 ^^^ v
    (List.range 5).foldl (fun c i => if (top / Nat.pow 2 i) % 2 = 1 then c ^^^ gen.getD i 0 else c) chk)
    1

/-- The human-readable part spread into five-bit groups for the checksum. -/
def hrpExpand (hrp : String) : List Nat :=
  let cs := hrp.toList.map Char.toNat
  cs.map (· / 32) ++ [0] ++ cs.map (· % 32)

/-- The six checksum characters of a part and its data for a variant. -/
def checksumText (hrp : String) (data : List Nat) (v : Variant) : String :=
  let pm := polymod (hrpExpand hrp ++ data ++ List.replicate 6 0) ^^^ v.constant
  String.ofList ((List.range 6).map fun i => charset.getD ((pm / Nat.pow 32 (5 - i)) % 32) 'q')

/-- Why a text is not bech32. -/
inductive DecodeError where
  /-- The length is outside 8 to 90. -/
  | invalidLength (len : Nat)
  /-- A character is not printable ASCII. -/
  | invalidCharacter (c : Char)
  /-- Both cases are used. -/
  | mixedCase
  /-- The last separator is missing, first, or among the last six characters. -/
  | invalidSeparatorIndex (i : Int)
  /-- A data character is not in the alphabet. -/
  | nonCharsetChar (c : Char)
  /-- The checksum matches neither variant. -/
  | invalidChecksum (expected expectedM actual : String)
  /-- Regrouping into bytes leaves a group that is too long or not zero. -/
  | invalidIncompleteGroup
  deriving DecidableEq, Repr

/-- The text of a bech32 reading error. -/
def DecodeError.message : DecodeError → String
  | .invalidLength n => "invalid bech32 string length " ++ toString n
  | .invalidCharacter c => "invalid character in string: '" ++ String.singleton c ++ "'"
  | .mixedCase => "string not all lowercase or all uppercase"
  | .invalidSeparatorIndex i => "invalid separator index " ++ toString i
  | .nonCharsetChar c => "invalid character not part of charset: " ++ toString c.toNat
  | .invalidChecksum e m a =>
    "invalid checksum (expected (bech32=" ++ e ++ ", bech32m=" ++ m ++ "), got " ++ a ++ ")"
  | .invalidIncompleteGroup => "invalid incomplete group"

/-- Scans the characters from the left: the first one outside printable ASCII, or the first
one that makes both cases appear, is refused. -/
def scanCase : List Char → Bool → Bool → Except DecodeError Unit
  | [], _, _ => .ok ()
  | c :: rest, lower, upper =>
    if c.toNat < 33 ∨ c.toNat > 126 then .error (.invalidCharacter c)
    else
      let lower := lower || c.isLower
      let upper := upper || c.isUpper
      if lower && upper then .error .mixedCase else scanCase rest lower upper

/-- The human-readable part, the five-bit data groups (without checksum) and the variant of a
bech32 text. The text is read a byte at a time: its length is counted in bytes, and a byte
outside printable ASCII is reported as the character with its code. -/
def decode (s : Bytes) : Except DecodeError (String × List Nat × Variant) := do
  let cs := s.chars
  if cs.length > 90 ∨ cs.length < 8 then throw (.invalidLength cs.length)
  scanCase cs false false
  let cs := cs.map Char.toLower
  let one : Int := match (cs.reverse.idxOf? '1') with
    | some k => (cs.length - 1 - k : Nat)
    | none => -1
  if one < 1 ∨ one + 7 > cs.length then throw (.invalidSeparatorIndex one)
  let hrp := String.ofList (cs.take one.toNat)
  let dataChars := cs.drop (one.toNat + 1)
  let data ← dataChars.mapM fun c =>
    match charset.idxOf? c with
    | some v => .ok v
    | none => .error (.nonCharsetChar c)
  let pm := polymod (hrpExpand hrp ++ data)
  let payload := data.take (data.length - 6)
  if pm = Variant.bech32.constant then return (hrp, payload, .bech32)
  else if pm = Variant.bech32m.constant then return (hrp, payload, .bech32m)
  else
    let e := checksumText hrp payload .bech32
    throw (.invalidChecksum e (e ++ checksumText hrp payload .bech32m)
      (String.ofList (dataChars.drop (dataChars.length - 6))))

/-- Regroups five-bit groups into bytes, refusing a leftover of more than four bits or one
that is not zero. -/
def toBytes (groups : List Nat) : Except DecodeError Bytes :=
  let (acc, bits, out) := groups.foldl (fun (st : Nat × Nat × List UInt8) g =>
    let (acc, bits, out) := st
    let acc := acc * 32 + g % 32
    let bits := bits + 5
    if bits ≥ 8 then (acc % Nat.pow 2 (bits - 8), bits - 8, UInt8.ofNat (acc / Nat.pow 2 (bits - 8)) :: out)
    else (acc, bits, out)) (0, 0, [])
  if bits > 4 ∨ acc ≠ 0 then .error .invalidIncompleteGroup else .ok out.reverse

end Bech32

end BranchLock

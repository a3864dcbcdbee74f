import BranchLock.Script.Error
import BranchLock.Script.Opcode

/-!
# Signature and key encodings the interpreter accepts

Under the standard policy a signature is `DER ‖ hash type` with the hash type one of the three
modes, optionally with `0x80`, and the DER part strictly laid out: `0x30 len 0x02 len(r) r 0x02
len(s) s`, 8 to 72 bytes, both integers positive, without superfluous leading zero bytes, and
`s` at most half the group order. A public key must be compressed or uncompressed (not hybrid).
The checks run in a fixed order and the first failure is reported.
-/

namespace BranchLock

namespace Policy

/-- Half the order of the curve group: the largest `s` a signature may carry. -/
def halfOrder : Nat := 0x7fffffffffffffffffffffffffffffff5d576e7357a4501ddfe92f46681b20a0

/-- The text of a byte as `0x` followed by its hexadecimal digits without padding. -/
def byteText (b : UInt8) : String := "0x" ++ String.ofList (Nat.toDigits 16 b.toNat)

/-- Checks the hash type byte of a signature. -/
def checkHashType (hashType : UInt8) : Except ScriptError Unit :=
  let mode := hashType &&& 0x7f
  if mode < 1 ∨ mode > 3 then
    .error ⟨.invalidSigHashType, "invalid hash type " ++ byteText hashType⟩
  else .ok ()

/-- Checks the strict DER layout of a signature without its hash type byte. -/
def checkSignature (sig : Bytes) : Except ScriptError Unit := do
  let len := sig.length
  let byteAt (i : Nat) : UInt8 := sig.getD i 0
  if len < 8 then
    throw ⟨.sigTooShort, "malformed signature: too short: " ++ toString len ++ " < 8"⟩
  if len > 72 then
    throw ⟨.sigTooLong, "malformed signature: too long: " ++ toString len ++ " > 72"⟩
  if byteAt 0 ≠ 0x30 then
    throw ⟨.sigInvalidSeqId,
      "malformed signature: format has wrong type: " ++ byteText (byteAt 0)⟩
  if (byteAt 1).toNat ≠ len - 2 then
    throw ⟨.sigInvalidDataLen, "malformed signature: bad length: " ++ toString (byteAt 1).toNat ++
      " != " ++ toString (len - 2)⟩
  let rLen := (byteAt 3).toNat
  let sType := 4 + rLen
  if sType ≥ len then
    throw ⟨.sigMissingSTypeId, "malformed signature: S type indicator missing"⟩
  if sType + 1 ≥ len then throw ⟨.sigMissingSLen, "malformed signature: S length missing"⟩
  let sLen := (byteAt (sType + 1)).toNat
  let sOff := sType + 2
  if sOff + sLen ≠ len then throw ⟨.sigInvalidSLen, "malformed signature: invalid S length"⟩
  if byteAt 2 ≠ 0x02 then
    throw ⟨.sigInvalidRIntId, "malformed signature: R integer marker: " ++ byteText (byteAt 2) ++
      " != 0x2"⟩
  if rLen = 0 then throw ⟨.sigZeroRLen, "malformed signature: R length is zero"⟩
  if byteAt 4 &&& 0x80 ≠ 0 then throw ⟨.sigNegativeR, "malformed signature: R is negative"⟩
  if rLen > 1 ∧ byteAt 4 = 0 ∧ byteAt 5 &&& 0x80 = 0 then
    throw ⟨.sigTooMuchRPadding, "malformed signature: R value has too much padding"⟩
  if byteAt sType ≠ 0x02 then
    throw ⟨.sigInvalidSIntId,
      "malformed signature: S integer marker: " ++ byteText (byteAt sType) ++
      " != 0x2"⟩
  if sLen = 0 then throw ⟨.sigZeroSLen, "malformed signature: S length is zero"⟩
  if byteAt sOff &&& 0x80 ≠ 0 then throw ⟨.sigNegativeS, "malformed signature: S is negative"⟩
  if sLen > 1 ∧ byteAt sOff = 0 ∧ byteAt (sOff + 1) &&& 0x80 = 0 then
    throw ⟨.sigTooMuchSPadding, "malformed signature: S value has too much padding"⟩
  if Bytes.toNatBE ((sig.drop sOff).take sLen) > halfOrder then
    throw ⟨.sigHighS, "signature is not canonical due to unnecessarily high S value"⟩

/-- Checks that a public key is compressed or uncompressed. -/
def checkPubKey (key : Bytes) : Except ScriptError Unit :=
  match key with
  | k :: _ =>
    if (key.length = 33 ∧ (k = 2 ∨ k = 3)) ∨ (key.length = 65 ∧ k = 4) then .ok ()
    else .error ⟨.pubKeyType, "unsupported public key type"⟩
  | [] => .error ⟨.pubKeyType, "unsupported public key type"⟩

end Policy

end BranchLock

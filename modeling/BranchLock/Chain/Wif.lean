import BranchLock.Chain.Base58
import BranchLock.Chain.Network
import BranchLock.Curve.PublicKey

/-!
# Private keys in wallet import format

A private key travels as base58 of a network byte, the 32 key bytes, an optional `0x01` that
asks for the compressed public key, and a four-byte double SHA-256 checksum. Reading checks the
length first (37 or 38 bytes, the latter ending its key part in `0x01`), then the checksum.
-/

namespace BranchLock

/-- A private key read from wallet import format. -/
structure Wif where
  /-- The key. -/
  key : PrivateKey
  /-- Whether the compressed public key is meant. -/
  compress : Bool
  /-- The network byte. -/
  netId : UInt8
  deriving DecidableEq, Repr

/-- Why a text is not a key in wallet import format. -/
inductive WifError where
  /-- The decoded length or compression marker is wrong. -/
  | malformed
  /-- The checksum does not match. -/
  | checksumMismatch
  deriving DecidableEq, Repr

/-- The text of a key reading error. -/
def WifError.message : WifError → String
  | .malformed => "malformed private key"
  | .checksumMismatch => "checksum mismatch"

namespace Wif

/-- Reads a key in wallet import format. -/
def decode (s : Bytes) : Except WifError Wif :=
  let bs := Base58.decode s
  let compress := bs.length = 38
  if ¬(bs.length = 37 ∨ bs.length = 38) then .error .malformed
  else if compress ∧ bs.getD 33 0 ≠ 1 then .error .malformed
  else
    let body := bs.take (if compress then 34 else 33)
    if Base58.checksum body ≠ bs.drop (bs.length - 4) then .error .checksumMismatch
    else .ok ⟨PrivateKey.ofBytes ((bs.drop 1).take 32), compress, bs.getD 0 0⟩

/-- Whether a key belongs to a network. -/
def isForNet (w : Wif) (net : Network) : Bool := w.netId = net.privateKeyId

end Wif

end BranchLock

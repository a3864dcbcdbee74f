import BranchLock.Hash.Sha256
import BranchLock.Hash.Ripemd160

/-!
# The digests of the chain

Keys and scripts are named by `hash160`, RIPEMD-160 of SHA-256, and transactions and checksums
by `hash256`, SHA-256 applied twice. `hmacSha256` keys SHA-256 with a secret: the hash of the
message after the key masked with one constant, hashed again after the key masked with another;
signing nonces are drawn from it.
-/

namespace BranchLock

/-- RIPEMD-160 of SHA-256: the 20-byte name of a key or script. -/
def hash160 (bs : Bytes) : Bytes := Ripemd160.digest (Sha256.digest bs)

/-- A HASH160 digest is 20 bytes. -/
theorem hash160_length (bs : Bytes) : (hash160 bs).length = 20 := Ripemd160.length_digest _

/-- SHA-256 applied twice. -/
def hash256 (bs : Bytes) : Bytes := Sha256.digest (Sha256.digest bs)

/-- HMAC over SHA-256: the key is hashed when longer than a block and padded with zeros to 64
bytes, then `H((k ⊕ opad) ‖ H((k ⊕ ipad) ‖ m))`. -/
def hmacSha256 (key msg : Bytes) : Bytes :=
  let k := if key.length > 64 then Sha256.digest key else key
  let block := k ++ List.replicate (64 - k.length) 0
  let inner := Sha256.digest (block.map (· ^^^ 0x36) ++ msg)
  Sha256.digest (block.map (· ^^^ 0x5c) ++ inner)

end BranchLock

import BranchLock.Script.Token

/-!
# Standard script forms

The output script forms that wallets recognise: pay to a public key, pay to the hash of a public
key, bare M-of-N multisig and pay to a script hash. Each is recognised by its exact byte layout;
a multisig script is read token by token, and any token that is not a count between the two
counts takes a key's place, whether or not it pushes a well-formed key.
-/

namespace BranchLock

/-- Whether a byte opens the count of a multisig script: `OP_0` or `OP_1`‥`OP_16`. -/
def Script.isCountOp (b : UInt8) : Bool := b = Opcode.op0 || (Opcode.op1 ≤ b && b ≤ Opcode.op16)

/-- The number a count opcode stands for. -/
def Script.countValue (b : UInt8) : Nat := if b = Opcode.op0 then 0 else b.toNat - 0x50

/-- Whether a token is a count opcode. -/
def Token.isCount (t : Token) : Bool :=
  match t with
  | .op b => Script.isCountOp b
  | .push _ _ => false

namespace Script

/-- The script paying to a 33-byte compressed key (`0x02`/`0x03`) or a 65-byte uncompressed or
hybrid key (`0x04`/`0x06`/`0x07`) followed by `OP_CHECKSIG`. -/
def isPayToPubKey (bs : Bytes) : Bool :=
  match bs with
  | 0x21 :: k :: rest =>
    rest.length = 33 && (k = 2 || k = 3) && rest.getLast? = some Opcode.opCheckSig
  | 0x41 :: k :: rest =>
    rest.length = 65 && (k = 4 || k = 6 || k = 7) && rest.getLast? = some Opcode.opCheckSig
  | _ => false

/-- The 20-byte hash a pay-to-pubkey-hash script pays to:
`OP_DUP OP_HASH160 <20 bytes> OP_EQUALVERIFY OP_CHECKSIG`. -/
def pubKeyHash? (bs : Bytes) : Option Bytes :=
  match bs with
  | 0x76 :: 0xa9 :: 0x14 :: rest =>
    if rest.length = 22 ∧ rest.drop 20 = [Opcode.opEqualVerify, Opcode.opCheckSig]
    then some (rest.take 20) else none
  | _ => none

/-- Whether a script is a pay-to-pubkey-hash script. -/
def isPayToPubKeyHash (bs : Bytes) : Bool := (pubKeyHash? bs).isSome

/-- Whether a script is `OP_HASH160 <20 bytes> OP_EQUAL`. -/
def isPayToScriptHash (bs : Bytes) : Bool :=
  match bs with
  | 0xa9 :: 0x14 :: rest => rest.length = 21 && rest.getLast? = some Opcode.opEqual
  | _ => false

/-- Whether the tokens of a script have the multisig layout: a count, the key places, a count
equal to the number of places, and `OP_CHECKMULTISIG`. -/
def multiSigLayout : List Token → Bool
  | t :: rest =>
    t.isCount &&
      match rest.span (fun u => !u.isCount) with
      | (keys, [.op n, .op 0xae]) => isCountOp n && countValue n = keys.length
      | _ => false
  | [] => false

/-- Whether a script is a bare multisig script. -/
def isMultiSig (bs : Bytes) : Bool :=
  bs.length ≥ 3 && bs.getLast? = some Opcode.opCheckMultiSig &&
    match tokens bs with
    | .ok ts => multiSigLayout ts
    | .error _ => false

/-- Whether every token of a script is a push (an opcode up to `OP_16`); a malformed script is
not. -/
def isPushOnly (bs : Bytes) : Bool :=
  match tokens bs with
  | .ok ts => ts.all fun t => t.opcode ≤ Opcode.op16
  | .error _ => false

/-- The pay-to-pubkey-hash script for a 20-byte hash. -/
def payToPubKeyHash (h : Bytes) : Bytes :=
  [Opcode.opDup, Opcode.opHash160, 0x14] ++ h ++ [Opcode.opEqualVerify, Opcode.opCheckSig]

/-- The pay-to-script-hash script for a 20-byte hash. -/
def payToScriptHash (h : Bytes) : Bytes := [Opcode.opHash160, 0x14] ++ h ++ [Opcode.opEqual]

end Script

end BranchLock

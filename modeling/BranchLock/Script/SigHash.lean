import BranchLock.Chain.Transaction
import BranchLock.Script.Token

/-!
# The legacy signature hash

A signature commits to a transaction through its signature hash: the transaction with every
unlocking script emptied except that of the input being signed, which holds the script being
satisfied without its `OP_CODESEPARATOR`s, followed by the hash type as four little-endian bytes,
hashed twice with SHA-256. The low five bits of the hash type choose which outputs are covered
(all; none; only the one at the input's position) and the bit `0x80` keeps only the input being
signed. Asking to cover only the output at a position the transaction has no output at gives the
hash `1`, as the consensus rules have it.
-/

namespace BranchLock

namespace SigHash

/-- Covers every output. -/
def all : Nat := 1
/-- Covers no output. -/
def none : Nat := 2
/-- Covers only the output at the input's position. -/
def single : Nat := 3
/-- Covers only the input being signed. -/
def anyoneCanPay : Nat := 0x80

end SigHash

/-- A script without its `op` opcodes. The script is read up to its first malformed push, if
any; when no `op` is met before that point the script is kept whole, malformed tail included. -/
def Script.removeOpcode (op : UInt8) (script : Bytes) : Bytes :=
  let ts := (Script.parse script).1
  if ts.any (·.opcode == op) then (ts.filter (·.opcode != op)).flatMap Token.encode else script

/-- Whether a push token is in its shortest form. -/
def Token.isCanonicalPush : Token → Bool
  | .op b => b ≤ Opcode.op16
  | .push b d =>
    if b < Opcode.pushData1 ∧ d.length = 1 ∧ d.getD 0 0 ≤ 16 then false
    else if b = Opcode.pushData1 ∧ d.length < 0x4c then false
    else if b = Opcode.pushData2 ∧ d.length ≤ 0xff then false
    else if b = Opcode.pushData4 ∧ d.length ≤ 0xffff then false
    else true

/-- A script without the shortest-form pushes of exactly `data`, and whether it had any. A push
whose data only contains `data` among other bytes stays, as does a push of `data` in a longer
form than needed. Reading stops at the first malformed push, as for `removeOpcode`; an empty
`data` is never looked for. -/
def Script.removeData (data : Bytes) (script : Bytes) : Bytes × Bool :=
  if data.isEmpty then (script, false)
  else
    let ts := (Script.parse script).1
    let drop (t : Token) : Bool :=
      match t with
      | .push _ d => t.isCanonicalPush && d == data
      | .op _ => false
    if ts.any drop then ((ts.filter (fun t => !drop t)).flatMap Token.encode, true)
    else (script, false)

/-- The legacy signature hash of input `idx` for a script. -/
def Transaction.sigHash (tx : Transaction) (idx : Nat) (script : Bytes) (hashType : Nat) :
    Bytes :=
  let mode := hashType % 32
  if mode = SigHash.single ∧ idx ≥ tx.outputs.length then 1 :: List.replicate 31 0
  else
    let script := Script.removeOpcode 0xab script
    let inputs := tx.inputs.zipIdx.map fun (i, k) =>
      let i := { i with sigScript := if k = idx then script else [] }
      if (mode = SigHash.none ∨ mode = SigHash.single) ∧ k ≠ idx then { i with sequence := 0 }
      else i
    let outputs :=
      if mode = SigHash.none then []
      else if mode = SigHash.single then
        (tx.outputs.take (idx + 1)).zipIdx.map fun (o, k) =>
          if k < idx then { value := -1, pkScript := [] } else o
      else tx.outputs
    let inputs :=
      if hashType &&& SigHash.anyoneCanPay ≠ 0 then (inputs.drop idx).take 1 else inputs
    let copy : Transaction := { tx with inputs := inputs, outputs := outputs }
    hash256 (copy.serialize ++ Bytes.ofNatLE 4 hashType)

end BranchLock

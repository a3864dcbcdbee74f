import BranchLock.Chain.Amount
import BranchLock.Chain.Wif
import BranchLock.Spend.Assembler
import BranchLock.Spend.Verify
import BranchLock.Tool.Spec

/-!
# Spending a stored set

A spend takes one output paying to a set and sends its value, less a fee, to an address through
one branch of the set. The transaction has version one, the one input and the one output; a
nonzero lock time also lowers the input's sequence number below the final one, so that the lock
time is enforced. The input is assembled by choosing the branch, signing it with every key given
in order, and building; the result is then checked against the set's output script before it is
handed out, so that a refused spend is never printed.

The output is written `<txid>:<index>`, split at the first colon, the index a 32-bit number;
keys are in wallet import format and must belong to the network.
-/

namespace BranchLock

/-- Why an output reference was refused. -/
inductive OutPointError where
  /-- There is no colon. -/
  | notOutPoint (text : Bytes)
  /-- The transaction id is not a hash. -/
  | hash (e : HashTextError)
  /-- The index is not a 32-bit number. -/
  | index (text : Bytes) (e : NumError)
  deriving DecidableEq, Repr

/-- An outpoint reading error is plain text. -/
instance : Failure OutPointError where
  message
    | .notOutPoint s => "outpoint " ++ quoteBytes s ++ " is not of the form <txid>:<index>"
    | .hash e => e.message
    | .index t e => "invalid output index " ++ quoteBytes t ++ ": " ++ e.message
  origin _ := (.plain, "")

/-- Reads an output reference `<txid>:<index>`. -/
def parseOutPoint (s : Bytes) : Except OutPointError OutPoint := do
  let (txid, index) ← match Bytes.cutAt colon s with
    | some p => pure p
    | none => throw (.notOutPoint s)
  let hash ← (hashOfDisplay txid).mapError .hash
  let n ← (parseUint 32 index).mapError (.index index)
  return ⟨hash, n⟩

/-- Why a list of keys was refused; keys are counted from zero. -/
inductive KeyListError where
  /-- A key does not decode. -/
  | invalid (position : Nat) (e : WifError)
  /-- A key belongs to another network. -/
  | otherNetwork (position : Nat) (net : String)
  deriving DecidableEq, Repr

/-- A key list reading error is plain text. -/
instance : Failure KeyListError where
  message
    | .invalid i e => "invalid key " ++ toString i ++ ": " ++ e.message
    | .otherNetwork i net => "key " ++ toString i ++ " is not for " ++ net
  origin _ := (.plain, "")

/-- Reads keys in wallet import format, all of the network. -/
def decodeKeys (wifs : List Bytes) (net : Network) : Except KeyListError (List PrivateKey) :=
  (wifs.zipIdx).mapM fun (w, i) => do
    let k ← (Wif.decode w).mapError (.invalid i)
    if !k.isForNet net then throw (.otherNetwork i net.name)
    return k.key

/-- A spend of one output paying to a set. -/
structure SpendRequest where
  /-- The set the output pays to. -/
  set : BranchSet
  /-- The output. -/
  prevOut : OutPoint
  /-- The value of the output. -/
  amount : Amount
  /-- The fee left to the miner. -/
  fee : Amount
  /-- The address paid. -/
  payTo : Address
  /-- The branch spent through. -/
  branch : Int
  /-- The signing keys, in order. -/
  keys : List PrivateKey
  /-- The lock time. -/
  lockTime : Nat

/-- Why a spend could not be made. -/
inductive SpendError where
  /-- The fee takes all of the value. -/
  | nothingLeft (fee amount : Amount)
  /-- The branch cannot be chosen. -/
  | branch (e : BranchError)
  /-- A key cannot sign. -/
  | contribute (e : ContributeError)
  /-- The unlocking script cannot be built. -/
  | finalize (e : FinalizeError)
  /-- The assembled input does not unlock the output. -/
  | rejected (e : InputCheckError)
  deriving DecidableEq, Repr

/-- A spend error is reported with the origin of the error it wraps; a fee that leaves nothing
is plain text. -/
instance : Failure SpendError where
  message
    | .nothingLeft f a => "fee " ++ f.text ++ " leaves nothing of the spent " ++ a.text
    | .branch e => Failure.message e
    | .contribute e => Failure.message e
    | .finalize e => Failure.message e
    | .rejected e => Failure.message e
  origin
    | .nothingLeft _ _ => (.plain, "")
    | .branch e => Failure.origin e
    | .contribute e => Failure.origin e
    | .finalize e => Failure.origin e
    | .rejected e => Failure.origin e

/-- The unsigned transaction of a spend paying `value`. -/
def SpendRequest.unsigned (req : SpendRequest) (value : Amount) : Transaction :=
  let sequence := if req.lockTime = 0 then 0xffffffff else 0xfffffffe
  { version := 1
    inputs := [⟨req.prevOut, [], sequence⟩]
    outputs := [⟨value.satoshis, req.payTo.outputScript⟩]
    lockTime := req.lockTime }

/-- Signs every key in turn into input zero. -/
def signAll (combined branchScript : Bytes) :
    Assembler → List PrivateKey → Except ContributeError Assembler
  | a, [] => .ok a
  | a, k :: ks => do
    let a ← a.contributeSignature 0 k combined SigHash.all branchScript
    signAll combined branchScript a ks

/-- Builds, signs and checks the spend. -/
def buildSpend (registry : Registry) (req : SpendRequest) : Except SpendError Transaction := do
  let value := req.amount.sub req.fee
  if value.satoshis ≤ 0 then throw (.nothingLeft req.fee req.amount)
  let branch ← (req.set.branch req.branch).mapError .branch
  let a : Assembler := { tx := req.unsigned value }
  let a ← (a.selectBranch 0 (some req.set) req.branch req.set.numBranches).mapError .branch
  let a ← (signAll req.set.script branch.script a req.keys).mapError .contribute
  let (signed, _) ← (a.build registry).mapError .finalize
  (signed.verifyInput 0 req.set.pkScript).mapError .rejected
  return signed

end BranchLock

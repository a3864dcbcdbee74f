import BranchLock.Spend.Unlock
import BranchLock.Branch.Set
import BranchLock.Script.SigHash
import BranchLock.Curve.Ecdsa

/-!
# Assembling spends of branch sets

An assembler holds a transaction whose inputs spend branch-set outputs and builds their
unlocking scripts. Each input goes through three states: *unselected*; *selecting*, once a branch
of a set is chosen for it, while signatures are collected; and *finalized*, once its unlocking
script is attached. The unlocking script is the branch's unlocking data, then one `OP_TRUE` or
`OP_FALSE` per conditional around the branch, innermost first (the script pops them outermost
first), then the combined script as the redeem script.

Choosing a branch again discards the signatures collected; a finalized input cannot change.
Finalizing all pending inputs at once is all or nothing: the first input, in index order, whose
script cannot be built stops the whole step with nothing attached.
-/

namespace BranchLock

/-- The signature of input `index` over a script: DER signature and hash type byte. The script
must read as a script; a hash type of a single mode out of range signs the constant hash 1. -/
def Transaction.signInput (tx : Transaction) (index : Nat) (script : Bytes) (hashType : Nat)
    (key : PrivateKey) : Except PushError Bytes := do
  let _ ← Script.tokens script
  let hash := tx.sigHash index script hashType
  return (key.sign hash).toDer ++ [UInt8.ofNat hashType]

/-- What an assembler records for an input once a branch is chosen for it. -/
structure Signer where
  /-- The set the input spends. -/
  set : BranchSet
  /-- The chosen branch. -/
  branch : Nat
  /-- The signatures collected, in order. -/
  contributions : List Contribution := []
  /-- Whether the unlocking script is attached. -/
  finalized : Bool := false

/-- Why an unlocking script could not be built. -/
inductive AssemblyError where
  /-- The branch's unlocking data could not be produced. -/
  | unlock (e : UnlockError)
  /-- The unlocking script breaks a size limit. -/
  | build (e : BuildError)
  deriving DecidableEq, Repr

/-- An assembly error is reported as the error it wraps. -/
instance : Failure AssemblyError where
  message
    | .unlock e => Failure.message e
    | .build e => Failure.message e
  origin
    | .unlock e => Failure.origin e
    | .build e => Failure.origin e

/-- Why a signature could not be contributed. -/
inductive ContributeError where
  /-- A misuse of the assembler. -/
  | branch (e : BranchError)
  /-- The combined script of input `input` does not read as a script. -/
  | sign (input : Nat) (e : PushError)
  deriving DecidableEq, Repr

/-- A contribution error is reported as the error it wraps, a signing failure under the
interpreter. -/
instance : Failure ContributeError where
  message
    | .branch e => Failure.message e
    | .sign i e => "unable to sign input " ++ toString i ++ ": " ++ e.message
  origin
    | .branch e => Failure.origin e
    | .sign _ e => Failure.origin e.toScriptError

/-- Why inputs could not be finalized. -/
inductive FinalizeError where
  /-- An input in the wrong state. -/
  | state (e : BranchError)
  /-- The unlocking script of input `input` could not be built. -/
  | input (input : Nat) (e : AssemblyError)
  deriving DecidableEq, Repr

/-- A finalization error is reported as the error it wraps, with the input it failed at. -/
instance : Failure FinalizeError where
  message
    | .state e => Failure.message e
    | .input i e => "input " ++ toString i ++ ": " ++ Failure.message e
  origin
    | .state e => Failure.origin e
    | .input _ e => Failure.origin e

namespace Signer

/-- The unlocking script of the chosen branch with the signatures collected. -/
def unlockingScript (registry : Registry) (s : Signer) : Except AssemblyError Bytes := do
  let b := s.set.branches.getD s.branch ⟨.nonStandard, []⟩
  let u ← (registry.lookup b.kind).mapError (.unlock ∘ .branch)
  let data ← (u.unlockData b.script s.contributions).mapError .unlock
  let path ← (s.set.pathFor s.branch).mapError (.unlock ∘ .branch)
  let decisions := path.reverse.map fun d => Push.op (if d then Opcode.op1 else Opcode.op0)
  (Push.build (Push.datas data ++ decisions ++ [.data s.set.script])).mapError .build

end Signer

/-- A transaction being signed, and what is recorded for each input a branch was chosen for. -/
structure Assembler where
  /-- The transaction, with the unlocking scripts attached so far. -/
  tx : Transaction
  /-- The inputs with a chosen branch, by index. -/
  signers : List (Nat × Signer) := []

namespace Assembler

/-- The record of an input. -/
def signer? (a : Assembler) (input : Int) : Option Signer :=
  if input < 0 then none else (a.signers.find? (·.1 = input.toNat)).map (·.2)

/-- The state of an input. -/
def inputState (a : Assembler) (input : Int) : InputState :=
  match a.signer? input with
  | none => .unselected
  | some s => if s.finalized then .finalized else .selecting

/-- Replaces the record of an input. -/
def setSigner (a : Assembler) (input : Nat) (s : Signer) : Assembler :=
  { a with signers := (a.signers.filter (·.1 ≠ input)) ++ [(input, s)] }

/-- Chooses branch `i` of a set of `n` branches for an input, discarding any signatures
collected for an earlier choice. -/
def selectBranch (a : Assembler) (input : Int) (set : Option BranchSet) (i n : Int) :
    Except BranchError Assembler := do
  if ¬(0 ≤ input ∧ input < a.tx.inputs.length) then
    throw (.noSuchInput input a.tx.inputs.length)
  if ¬(0 ≤ i ∧ i < n) then throw (.indexOutOfRange i n)
  match set with
  | none => throw (.noSet input n)
  | some set =>
    if n ≠ set.numBranches then throw (.setSizeMismatch input set.numBranches n)
    if (a.inputState input) = .finalized then throw (.finalized input)
    return a.setSigner input.toNat { set := set, branch := i.toNat }

/-- The record of an input that is collecting signatures. -/
def selecting (a : Assembler) (input : Int) : Except BranchError Signer :=
  match a.signer? input with
  | some s => if s.finalized then .error (.notSelecting input .finalized) else .ok s
  | none => .error (.notSelecting input .unselected)

/-- Signs an input with a key over the combined script, which must be the one the input spends,
for the branch script, which must be the chosen one; hash type 0 means all. -/
def contributeSignature (a : Assembler) (input : Int) (key : PrivateKey) (combined : Bytes)
    (hashType : Nat) (branchScript : Bytes) : Except ContributeError Assembler := do
  let s ← (a.selecting input).mapError .branch
  if s.set.script ≠ combined then throw (.branch (.combinedScriptMismatch input))
  let chosen := (s.set.branches.getD s.branch ⟨.nonStandard, []⟩).script
  if chosen ≠ branchScript then throw (.branch (.branchScriptMismatch input s.branch))
  let hashType := if hashType = 0 then SigHash.all else hashType
  let sig ← (a.tx.signInput input.toNat combined hashType key).mapError (.sign input.toNat)
  let c : Contribution := ⟨key.publicKey, some sig⟩
  return a.setSigner input.toNat { s with contributions := s.contributions ++ [c] }

/-- Adds a signature made elsewhere for an input. -/
def addSignature (a : Assembler) (input : Int) (key : PublicKey) (sig : Option Bytes) :
    Except BranchError Assembler := do
  let s ← a.selecting input
  return a.setSigner input.toNat { s with contributions := s.contributions ++ [⟨key, sig⟩] }

/-- Attaches an unlocking script to an input and marks it finalized. -/
def attach (a : Assembler) (input : Nat) (s : Signer) (script : Bytes) : Assembler :=
  let a := { a with tx := a.tx.setSigScript input script }
  a.setSigner input { s with finalized := true }

/-- Builds and attaches the unlocking script of one input. -/
def finalizeInput (registry : Registry) (a : Assembler) (input : Int) :
    Except FinalizeError Assembler := do
  match a.signer? input with
  | none => throw (.state (.notSelected input))
  | some s =>
    if s.finalized then throw (.state (.finalized input))
    let script ← (s.unlockingScript registry).mapError (.input input.toNat)
    return a.attach input.toNat s script

/-- The indices of the inputs collecting signatures, ascending. -/
def pending (a : Assembler) : List Nat :=
  ((a.signers.filter fun p => !p.2.finalized).map (·.1)).mergeSort

/-- The unlocking scripts of the given inputs, all or the first failure. -/
def unlockingScripts (registry : Registry) (a : Assembler) :
    List Nat → Except FinalizeError (List (Nat × Signer × Bytes))
  | [] => .ok []
  | i :: is => do
    match a.signer? i with
    | none => unlockingScripts registry a is
    | some s =>
      let script ← (s.unlockingScript registry).mapError (.input i)
      let rest ← unlockingScripts registry a is
      return (i, s, script) :: rest

/-- Builds the unlocking scripts of all pending inputs and attaches them, or none of them. -/
def finalize (registry : Registry) (a : Assembler) : Except FinalizeError Assembler := do
  let scripts ← unlockingScripts registry a a.pending
  return scripts.foldl (fun a (i, s, script) => a.attach i s script) a

/-- Finalizes every pending input and returns the transaction. -/
def build (registry : Registry) (a : Assembler) : Except FinalizeError (Transaction × Assembler) :=
  (a.finalize registry).map fun a => (a.tx, a)

end Assembler

end BranchLock

import BranchLock.Script.Stack
import BranchLock.Script.Signature
import BranchLock.Script.SigHash
import BranchLock.Script.Standard
import BranchLock.Curve.Ecdsa
import BranchLock.Hash.Sha1
import BranchLock.Script.Builder

/-!
# The script interpreter

Checking an input runs its unlocking script and then the locking script of the output it spends
on one stack; when that locking script pays to a script hash, the last item the unlocking script
left is run in turn as the redeem script on the rest. The input is valid when the last script
leaves exactly one item and it is true.

The rules are those of the standard relay policy: pushes in shortest form, strict signature and
key encodings, low `s`, failed signature checks only with empty signatures, a null dummy for
multisig, upgradable no-ops refused, and lock-time checks enforced. The script a signature is
checked over must not push the signature itself, and a code separator may not run: both
would let a script change what its own signatures cover.

Each script is read into tokens before it runs, and running is a walk over its tokens: at most
201 non-push opcodes per script (counted in arms that do not run too), no item above 520 bytes,
at most 1000 items on both stacks together, and every conditional closed by the end of its
script. A conditional opcode runs in every arm, so that the nesting is tracked; any other opcode
runs only where every enclosing arm is taken.
-/

namespace BranchLock

/-- The state of one enclosing conditional. -/
inductive Branching where
  /-- This arm runs. -/
  | taken
  /-- This arm does not run, its sibling did or will. -/
  | notTaken
  /-- Neither arm runs: an enclosing conditional is not taken. -/
  | skipped
  deriving DecidableEq, Repr

/-- What the interpreter knows of the transaction while it checks one input. -/
structure Spending where
  /-- The transaction. -/
  tx : Transaction
  /-- The position of the input checked. -/
  index : Nat

/-- The state of the interpreter inside one script. -/
structure Machine where
  /-- The main stack, top first. -/
  stack : Stack := []
  /-- The alternate stack, top first. -/
  alt : Stack := []
  /-- The enclosing conditionals, innermost first. -/
  branches : List Branching := []
  /-- Non-push opcodes met so far in this script. -/
  ops : Nat := 0
  /-- The script running. A code separator that runs stops it, so signatures always cover
  the whole of it. -/
  script : Bytes := []

namespace Machine

/-- Whether the current opcode runs: every enclosing arm is taken. -/
def executing (m : Machine) : Bool :=
  match m.branches with
  | [] => true
  | b :: _ => b = .taken

/-- Pushes an item. -/
def push (m : Machine) (v : Bytes) : Machine := { m with stack := v :: m.stack }

end Machine

/-- Opcodes that are refused wherever they stand. -/
def Opcode.isDisabled (op : UInt8) : Bool :=
  [0x7e, 0x7f, 0x80, 0x81, 0x83, 0x84, 0x85, 0x86, 0x8d, 0x8e, 0x95, 0x96, 0x97, 0x98,
    0x99].contains
    op

/-- The error for a push that is not in its shortest form. -/
def minimalPushError (op : UInt8) (d : Bytes) : Option ScriptError :=
  let n := d.length
  let name := Opcode.name op
  let fail (s : String) : Option ScriptError := some ⟨.minimalData, s⟩
  if n = 0 then
    if op ≠ Opcode.op0 then
      fail ("zero length data push is encoded with opcode " ++ name ++ " instead of OP_0")
    else none
  else if n = 1 ∧ 1 ≤ d.getD 0 0 ∧ d.getD 0 0 ≤ 16 then
    let v := (d.getD 0 0).toNat
    if op.toNat ≠ 0x50 + v then
      fail ("data push of the value " ++ toString v ++ " encoded with opcode " ++ name ++
        " instead of OP_" ++ toString v)
    else none
  else if n = 1 ∧ d.getD 0 0 = 0x81 then
    if op ≠ Opcode.op1Negate then
      fail ("data push of the value -1 encoded with opcode " ++ name ++ " instead of OP_1NEGATE")
    else none
  else if n ≤ 75 then
    if op.toNat ≠ n then
      fail ("data push of " ++ toString n ++ " bytes encoded with opcode " ++ name ++
        " instead of OP_DATA_" ++ toString n)
    else none
  else if n ≤ 255 then
    if op ≠ Opcode.pushData1 then
      fail ("data push of " ++ toString n ++ " bytes encoded with opcode " ++ name ++
        " instead of OP_PUSHDATA1")
    else none
  else if n ≤ 65535 then
    if op ≠ Opcode.pushData2 then
      fail ("data push of " ++ toString n ++ " bytes encoded with opcode " ++ name ++
        " instead of OP_PUSHDATA2")
    else none
  else none

namespace Interpreter

/-- Fails with the given rule when the popped boolean is false. -/
def verifyTop (m : Machine) (op : UInt8) (code : ScriptCode) : Except ScriptError Machine := do
  let (ok, s) ← Stack.popBool m.stack
  if ok then return { m with stack := s }
  else throw ⟨code, Opcode.name op ++ " failed"⟩

/-- Replaces the top number by a function of it. -/
def unary (m : Machine) (f : Int → Int) : Except ScriptError Machine := do
  let (a, s) ← Stack.popNum m.stack true
  return { m with stack := ScriptNum.encode (f a) :: s }

/-- Replaces the top two numbers by a function of them, the deeper one first. -/
def binary (m : Machine) (f : Int → Int → Int) : Except ScriptError Machine := do
  let (b, s) ← Stack.popNum m.stack true
  let (a, s) ← Stack.popNum s true
  return { m with stack := ScriptNum.encode (f a b) :: s }

/-- One for a true condition, zero otherwise. -/
def flag (c : Bool) : Int := if c then 1 else 0

/-- The lock-time comparison shared by the two lock-time checks: both values of one kind (below
or from `threshold`) and the required one not above the transaction's. -/
def checkLockTime (txValue threshold required : Int) : Except ScriptError Unit :=
  if ¬((txValue < threshold ∧ required < threshold) ∨
      (txValue ≥ threshold ∧ required ≥ threshold))
  then
    .error ⟨.unsatisfiedLockTime, "mismatched locktime types -- tx locktime " ++
      toString txValue ++ ", stack locktime " ++ toString required⟩
  else if required > txValue then
    .error ⟨.unsatisfiedLockTime, "locktime requirement not satisfied -- locktime is greater " ++
      "than the transaction locktime: " ++ toString required ++ " > " ++ toString txValue⟩
  else .ok ()

/-- The top item read as a number of up to five bytes, for the lock-time checks. -/
def peekLockNum (m : Machine) : Except ScriptError Int := do
  let v ← Stack.peek m.stack 0
  match ScriptNum.decode v true 5 with
  | .ok n => return n
  | .error e => throw (ScriptNum.DecodeError.toScriptError e)

/-- The input's sequence number. -/
def sequenceOf (ctx : Spending) : Nat :=
  match ctx.tx.inputs[ctx.index]? with
  | some i => i.sequence
  | none => 0

/-- Checks a signature against a key over the running script with the signature removed from
it. -/
def signatureValid (ctx : Spending) (subScript : Bytes) (key : PublicKey) (sig : Signature)
    (hashType : UInt8) : Bool :=
  key.verify (ctx.tx.sigHash ctx.index subScript hashType.toNat) sig

/-- A byte string as a list of decimal numbers in brackets, as the multisig check reports it. -/
def decimalList (bs : Bytes) : String := "[" ++ " ".intercalate (bs.map (toString ·.toNat)) ++ "]"

/-- `OP_CHECKSIG`: pops a key and a signature and pushes whether the signature is valid. -/
def checkSig (ctx : Spending) (m : Machine) : Except ScriptError Machine := do
  let (keyBytes, s) ← Stack.pop m.stack
  let (full, s) ← Stack.pop s
  let m := { m with stack := s }
  match full.getLast? with
  | none => return m.push (Bytes.ofBool false)
  | some hashType =>
    let sigBytes := full.dropLast
    Policy.checkHashType hashType
    Policy.checkSignature sigBytes
    Policy.checkPubKey keyBytes
    match PublicKey.parse keyBytes, Signature.ofDer? sigBytes with
    | .ok key, some sig =>
      let (sub, found) := Script.removeData full m.script
      let valid := signatureValid ctx sub key sig hashType
      if found then throw ⟨.nonConstScriptCode, "non-const script code"⟩
      if !valid then throw ⟨.nullFail, "signature not empty on failed checksig"⟩
      return m.push (Bytes.ofBool true)
    | _, _ => return m.push (Bytes.ofBool false)

/-- One signature of a multisig check, parsed once when first met: `none` until then. -/
structure MultiSigItem where
  /-- The signature with its hash type byte. -/
  raw : Bytes
  /-- The parsed signature, once met; `some none` when it did not parse. -/
  parsed : Option (Option Signature) := none

/-- Matches signatures against keys in order: each signature is tried against the keys that
remain, a key that fails is passed over, and the check fails once fewer keys remain than
signatures. -/
def matchSigs (ctx : Spending) (sub : Bytes) :
    List MultiSigItem → List Bytes → Except ScriptError Bool
  | [], _ => .ok true
  | sig :: sigs, keys =>
    match keys with
    | [] => .ok false
    | key :: rest =>
      if sigs.length + 1 > keys.length then .ok false
      else
        match sig.raw.getLast? with
        | none => matchSigs ctx sub (sig :: sigs) rest
        | some hashType => do
          let parsed ← match sig.parsed with
            | some p => pure p
            | none => do
              Policy.checkHashType hashType
              Policy.checkSignature sig.raw.dropLast
              pure (Signature.ofDer? sig.raw.dropLast)
          let sig := { sig with parsed := some parsed }
          match parsed with
          | none => matchSigs ctx sub (sig :: sigs) rest
          | some s =>
            Policy.checkPubKey key
            match PublicKey.parse key with
            | .error _ => matchSigs ctx sub (sig :: sigs) rest
            | .ok k =>
              if signatureValid ctx sub k s hashType then matchSigs ctx sub sigs rest
              else matchSigs ctx sub (sig :: sigs) rest

/-- Pops `k` items. -/
def popMany (s : Stack) : Nat → Except ScriptError (List Bytes × Stack)
  | 0 => .ok ([], s)
  | k + 1 => do
    let (v, s) ← Stack.pop s
    let (vs, s) ← popMany s k
    return (v :: vs, s)

/-- Removes each signature in turn from the script they are checked over; a signature found
in it is refused. -/
def removeSigs : List Bytes → Bytes → Except ScriptError Bytes
  | [], script => .ok script
  | sig :: sigs, script =>
    let (script, found) := Script.removeData sig script
    if found then
      .error ⟨.nonConstScriptCode, "got match of " ++ decimalList sig ++ " in " ++
        decimalList script⟩
    else removeSigs sigs script

/-- `OP_CHECKMULTISIG`: pops a key count, the keys, a signature count, the signatures and a
dummy item that must be empty, and pushes whether the signatures match keys in order. -/
def checkMultiSig (ctx : Spending) (m : Machine) : Except ScriptError Machine := do
  let (nKeys, s) ← Stack.popNum m.stack true
  let nKeys := ScriptNum.toInt32 nKeys
  if nKeys < 0 then
    throw ⟨.invalidPubKeyCount, "number of pubkeys " ++ toString nKeys ++ " is negative"⟩
  if nKeys > 20 then
    throw ⟨.invalidPubKeyCount, "too many pubkeys: " ++ toString nKeys ++ " > 20"⟩
  let ops := m.ops + nKeys.toNat
  if ops > 201 then throw ⟨.tooManyOperations, "exceeded max operation limit of 201"⟩
  let (keys, s) ← popMany s nKeys.toNat
  let (nSigs, s) ← Stack.popNum s true
  let nSigs := ScriptNum.toInt32 nSigs
  if nSigs < 0 then
    throw ⟨.invalidSignatureCount, "number of signatures " ++ toString nSigs ++ " is negative"⟩
  if nSigs > nKeys then
    throw ⟨.invalidSignatureCount, "more signatures than pubkeys: " ++ toString nSigs ++ " > " ++
      toString nKeys⟩
  let (sigs, s) ← popMany s nSigs.toNat
  let (dummy, s) ← Stack.pop s
  if dummy.length ≠ 0 then
    throw ⟨.sigNullDummy, "multisig dummy argument has length " ++ toString dummy.length ++
      " instead of 0"⟩
  let sub ← removeSigs sigs m.script
  let ok ← matchSigs ctx sub (sigs.map fun r => { raw := r }) keys
  if !ok ∧ sigs.any (fun g => !g.isEmpty) then
    throw ⟨.nullFail, "not all signatures empty on failed checkmultisig"⟩
  return { m with stack := Bytes.ofBool ok :: s, ops := ops }

/-- Runs one opcode that is executing (or is a conditional). -/
def run (ctx : Spending) (m : Machine) (t : Token) : Except ScriptError Machine := do
  let op := t.opcode
  let n := op.toNat
  let reserved : ScriptError :=
    ⟨.reservedOpcode, "attempt to execute reserved opcode " ++ Opcode.name op⟩
  let invalid : ScriptError :=
    ⟨.reservedOpcode, "attempt to execute invalid opcode " ++ Opcode.name op⟩
  match t with
  | .push _ d => return m.push d
  | .op _ =>
  if n = 0 then return m.push []
  else if n = 0x4f then return m.push (ScriptNum.encode (-1))
  else if 0x51 ≤ n ∧ n ≤ 0x60 then return m.push (ScriptNum.encode (n - 0x50 : Nat))
  else if n = 0x50 ∨ n = 0x62 ∨ n = 0x89 ∨ n = 0x8a then throw reserved
  else if n = 0x61 then return m
  else if n = 0x63 ∨ n = 0x64 then
    if m.executing then
      let (c, s) ← Stack.popBool m.stack
      let take := if n = 0x63 then c else !c
      return { m with stack := s, branches := (if take then .taken else .notTaken) :: m.branches }
    else return { m with branches := .skipped :: m.branches }
  else if n = 0x67 then
    match m.branches with
    | [] => throw ⟨.unbalancedConditional,
      "encountered opcode OP_ELSE with no matching opcode " ++
        "to begin conditional execution"⟩
    | b :: bs =>
      let b' := match b with
        | .taken => Branching.notTaken
        | .notTaken => .taken
        | .skipped => .skipped
      return { m with branches := b' :: bs }
  else if n = 0x68 then
    match m.branches with
    | [] => throw ⟨.unbalancedConditional,
      "encountered opcode OP_ENDIF with no matching opcode " ++
        "to begin conditional execution"⟩
    | _ :: bs => return { m with branches := bs }
  else if n = 0x69 then verifyTop m op .verify
  else if n = 0x6a then throw ⟨.earlyReturn, "script returned early"⟩
  else if n = 0x6b then
    let (v, s) ← Stack.pop m.stack
    return { m with stack := s, alt := v :: m.alt }
  else if n = 0x6c then
    let (v, a) ← Stack.pop m.alt
    return { m with stack := v :: m.stack, alt := a }
  else if n = 0x6d then return { m with stack := ← Stack.drop 2 m.stack }
  else if n = 0x6e then return { m with stack := ← Stack.dup 2 m.stack }
  else if n = 0x6f then return { m with stack := ← Stack.dup 3 m.stack }
  else if n = 0x70 then return { m with stack := ← Stack.copyOver 2 m.stack }
  else if n = 0x71 then return { m with stack := ← Stack.rot 2 m.stack }
  else if n = 0x72 then return { m with stack := ← Stack.swap 2 m.stack }
  else if n = 0x73 then
    let v ← Stack.peek m.stack 0
    return (if v.asBool then m.push v else m)
  else if n = 0x74 then return m.push (ScriptNum.encode m.stack.length)
  else if n = 0x75 then return { m with stack := ← Stack.drop 1 m.stack }
  else if n = 0x76 then return { m with stack := ← Stack.dup 1 m.stack }
  else if n = 0x77 then
    let (_, s) ← Stack.nip m.stack 1
    return { m with stack := s }
  else if n = 0x78 then return { m with stack := ← Stack.copyOver 1 m.stack }
  else if n = 0x79 ∨ n = 0x7a then
    let (k, s) ← Stack.popNum m.stack true
    let k := ScriptNum.toInt32 k
    if n = 0x79 then
      let v ← Stack.peek s k
      return { m with stack := v :: s }
    else
      let (v, s) ← Stack.nip s k
      return { m with stack := v :: s }
  else if n = 0x7b then return { m with stack := ← Stack.rot 1 m.stack }
  else if n = 0x7c then return { m with stack := ← Stack.swap 1 m.stack }
  else if n = 0x7d then
    let (a, s) ← Stack.pop m.stack
    let (b, s) ← Stack.pop s
    return { m with stack := a :: b :: a :: s }
  else if n = 0x82 then
    let v ← Stack.peek m.stack 0
    return m.push (ScriptNum.encode v.length)
  else if n = 0x87 ∨ n = 0x88 then
    let (a, s) ← Stack.pop m.stack
    let (b, s) ← Stack.pop s
    let m := { m with stack := Bytes.ofBool (a = b) :: s }
    if n = 0x88 then verifyTop m op .equalVerify else return m
  else if n = 0x8b then unary m (· + 1)
  else if n = 0x8c then unary m (· - 1)
  else if n = 0x8f then unary m (fun a => -a)
  else if n = 0x90 then unary m (fun a => (a.natAbs : Int))
  else if n = 0x91 then unary m (fun a => flag (a = 0))
  else if n = 0x92 then unary m (fun a => flag (a ≠ 0))
  else if n = 0x93 then binary m (· + ·)
  else if n = 0x94 then binary m (· - ·)
  else if n = 0x9a then binary m (fun a b => flag (a ≠ 0 ∧ b ≠ 0))
  else if n = 0x9b then binary m (fun a b => flag (a ≠ 0 ∨ b ≠ 0))
  else if n = 0x9c then binary m (fun a b => flag (a = b))
  else if n = 0x9d then
    let m ← binary m (fun a b => flag (a = b))
    verifyTop m op .numEqualVerify
  else if n = 0x9e then binary m (fun a b => flag (a ≠ b))
  else if n = 0x9f then binary m (fun a b => flag (a < b))
  else if n = 0xa0 then binary m (fun a b => flag (a > b))
  else if n = 0xa1 then binary m (fun a b => flag (a ≤ b))
  else if n = 0xa2 then binary m (fun a b => flag (a ≥ b))
  else if n = 0xa3 then binary m min
  else if n = 0xa4 then binary m max
  else if n = 0xa5 then
    let (hi, s) ← Stack.popNum m.stack true
    let (lo, s) ← Stack.popNum s true
    let (x, s) ← Stack.popNum s true
    return { m with stack := ScriptNum.encode (flag (lo ≤ x ∧ x < hi)) :: s }
  else if 0xa6 ≤ n ∧ n ≤ 0xaa then
    let (v, s) ← Stack.pop m.stack
    let h := if n = 0xa6 then Ripemd160.digest v
      else if n = 0xa7 then Sha1.digest v
      else if n = 0xa8 then Sha256.digest v
      else if n = 0xa9 then hash160 v
      else hash256 v
    return { m with stack := h :: s }
  else if n = 0xab then
    throw ⟨.codeSeparator, "OP_CODESEPARATOR used in non-segwit script"⟩
  else if n = 0xac then checkSig ctx m
  else if n = 0xad then
    let m ← checkSig ctx m
    verifyTop m op .checkSigVerify
  else if n = 0xae then checkMultiSig ctx m
  else if n = 0xaf then
    let m ← checkMultiSig ctx m
    verifyTop m op .checkMultiSigVerify
  else if n = 0xb0 ∨ (0xb3 ≤ n ∧ n ≤ 0xb9) then
    throw ⟨.discourageUpgradableNops, Opcode.name op ++ " reserved for soft-fork upgrades"⟩
  else if n = 0xb1 then
    let lock ← peekLockNum m
    if lock < 0 then
      throw ⟨.negativeLockTime, "negative lock time: " ++ toString lock⟩
    checkLockTime ctx.tx.lockTime 500000000 lock
    if sequenceOf ctx = 0xffffffff then
      throw ⟨.unsatisfiedLockTime, "transaction input is finalized"⟩
    return m
  else if n = 0xb2 then
    let seq ← peekLockNum m
    if seq < 0 then throw ⟨.negativeLockTime, "negative sequence: " ++ toString seq⟩
    if seq.toNat &&& 0x80000000 ≠ 0 then return m
    let version := (ctx.tx.version % (Nat.pow 2 32 : Nat)).toNat
    if version < 2 then
      throw ⟨.unsatisfiedLockTime, "invalid transaction version: " ++ toString version⟩
    let txSeq := sequenceOf ctx
    if txSeq &&& 0x80000000 ≠ 0 then
      throw ⟨.unsatisfiedLockTime, "transaction sequence has sequence locktime disabled bit " ++
        "set: 0x" ++ String.ofList (Nat.toDigits 16 txSeq)⟩
    let mask := 0x400000 ||| 0xffff
    checkLockTime (txSeq &&& mask : Nat) 0x400000 (seq.toNat &&& mask : Nat)
    return m
  else throw invalid

/-- Runs one token: the opcode limits first, then the opcode itself where it runs. -/
def step (ctx : Spending) (m : Machine) (t : Token) : Except ScriptError Machine := do
  let op := t.opcode
  if Opcode.isDisabled op then
    throw ⟨.disabledOpcode, "attempt to execute disabled opcode " ++ Opcode.name op⟩
  if op = Opcode.opVerIf ∨ op = Opcode.opVerNotIf then
    throw ⟨.reservedOpcode, "attempt to execute reserved opcode " ++ Opcode.name op⟩
  let m ← if op > Opcode.op16 then
      if m.ops + 1 > 201 then throw ⟨.tooManyOperations, "exceeded max operation limit of 201"⟩
      pure { m with ops := m.ops + 1 }
    else
      let len := (t.data?.getD []).length
      if len > maxElementSize then
        throw ⟨.elementTooBig, "element size " ++ toString len ++ " exceeds max allowed size " ++
          toString maxElementSize⟩
      pure m
  let conditional := op = Opcode.opIf ∨ op = Opcode.opNotIf ∨ op = Opcode.opElse ∨
    op = Opcode.opEndIf
  let m ← if !m.executing && !conditional then pure m
    else do
      if m.executing ∧ op ≤ Opcode.pushData4 then
        match minimalPushError op (t.data?.getD []) with
        | some e => throw e
        | none => pure ()
      run ctx m t
  let depth := m.stack.length + m.alt.length
  if depth > 1000 then
    throw ⟨.stackOverflow, "combined stack size " ++ toString depth ++ " > max allowed 1000"⟩
  return m

/-- Runs the tokens of a script in order. -/
def runTokens (ctx : Spending) : Machine → List Token → Except ScriptError Machine
  | m, [] => .ok m
  | m, t :: ts => do
    let m ← step ctx m t
    runTokens ctx m ts

/-- Runs a whole script on a stack and returns the stack it leaves; every conditional must be
closed at its end. -/
def runScript (ctx : Spending) (stack : Stack) (script : Bytes) : Except ScriptError Stack := do
  let ts ← (Script.tokens script).mapError PushError.toScriptError
  let m ← runTokens ctx { stack := stack, script := script } ts
  if !m.branches.isEmpty then
    throw ⟨.unbalancedConditional, "end of script reached in conditional execution"⟩
  return m.stack

end Interpreter

/-- Whether a script is a witness program: a version opcode and one push of 2 to 40 bytes. -/
def Script.witnessProgram? (bs : Bytes) : Option (Nat × Bytes) :=
  match bs with
  | v :: len :: prog =>
    if 4 ≤ bs.length ∧ bs.length ≤ 42 ∧ Script.isCountOp v ∧
        len.toNat + 2 = bs.length then
      some (Script.countValue v, prog)
    else none
  | _ => none

/-- Why an input fails its check: the interpreter refused to start, or the scripts failed. -/
inductive CheckFailure where
  /-- The check could not be set up. -/
  | setup (e : ScriptError)
  /-- The scripts ran and broke a rule, or left no true result. -/
  | failed (e : ScriptError)
  deriving DecidableEq, Repr

/-- The error a witness program of the given version and length gives when spent with no
witness data. -/
def witnessFailure (version : Nat) (prog : Bytes) : ScriptError :=
  if version = 0 then
    if prog.length = 20 then
      ⟨.witnessProgramMismatch, "should have exactly two items in witness, instead have 0"⟩
    else if prog.length = 32 then
      ⟨.witnessProgramEmpty, "witness program empty passed empty witness"⟩
    else
      ⟨.witnessProgramWrongLength, "length of witness program must either be 20 or 32 bytes, " ++
        "instead is " ++ toString prog.length ++ " bytes"⟩
  else if version = 1 ∧ prog.length = 32 then
    ⟨.witnessProgramEmpty, "witness program empty passed empty witness"⟩
  else
    ⟨.discourageUpgradableWitnessProgram, "new witness program versions invalid: [" ++
      " ".intercalate (prog.map fun b => toString b.toNat) ++ "]"⟩

/-- The final check on the stack the last script leaves: exactly one item, and true. -/
def finalCheck (stack : Stack) : Except ScriptError Unit :=
  if stack.length ≠ 1 then
    .error ⟨.cleanStack, "stack must contain exactly one item (contains " ++
      toString stack.length ++ ")"⟩
  else
    match stack with
    | [v] => if v.asBool then .ok ()
      else .error ⟨.evalFalse, "false stack entry at end of script execution"⟩
    | _ => .error ⟨.evalFalse, "false stack entry at end of script execution"⟩

/-- Checks input `index` of a transaction against the locking script it spends. -/
def Transaction.checkInput (tx : Transaction) (index : Int) (pkScript : Bytes) :
    Except CheckFailure Unit := do
  if h : 0 ≤ index ∧ index.toNat < tx.inputs.length then
    let ctx : Spending := ⟨tx, index.toNat⟩
    let sig := (tx.inputs.get ⟨index.toNat, h.2⟩).sigScript
    if sig.isEmpty ∧ pkScript.isEmpty then
      throw (.setup ⟨.evalFalse, "false stack entry at end of script execution"⟩)
    let p2sh := Script.isPayToScriptHash pkScript
    if p2sh ∧ !Script.isPushOnly sig then
      throw (.setup ⟨.notPushOnly, "pay to script hash is not push only"⟩)
    for scr in [sig, pkScript] do
      if scr.length > maxScriptSize then
        throw (.setup ⟨.scriptTooBig, "script size " ++ toString scr.length ++
          " is larger than max allowed size " ++ toString maxScriptSize⟩)
      match Script.tokens scr with
      | .error e => throw (.setup e.toScriptError)
      | .ok _ => pure ()
    let witness := Script.witnessProgram? pkScript
    if witness.isSome ∧ !sig.isEmpty then
      throw (.setup ⟨.witnessMalleated,
        "native witness program cannot also have a signature script"⟩)
    let run (stack : Stack) (s : Bytes) : Except CheckFailure Stack :=
      if s.isEmpty then .ok stack else (Interpreter.runScript ctx stack s).mapError .failed
    let afterSig ← run [] sig
    let afterPk ← run afterSig pkScript
    match witness with
    | some (v, prog) => throw (.failed (witnessFailure v prog))
    | none => pure ()
    let final ← if p2sh then
        match afterPk with
        | [] => throw (.failed ⟨.emptyStack, "stack empty at end of script execution"⟩)
        | top :: _ =>
          if !top.asBool then
            throw (.failed ⟨.evalFalse, "false stack entry at end of script execution"⟩)
          match afterSig with
          | [] => pure afterPk
          | redeem :: rest =>
            match Script.tokens redeem with
            | .error e => throw (.failed e.toScriptError)
            | .ok _ => run rest redeem
      else pure afterPk
    (finalCheck final).mapError .failed
  else
    throw (.setup ⟨.invalidIndex, "transaction input index " ++ toString index ++
      " is negative or >= " ++ toString tx.inputs.length⟩)

end BranchLock

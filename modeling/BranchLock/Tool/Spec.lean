import BranchLock.Branch.Composer
import BranchLock.Chain.Address
import BranchLock.Data.Numeral

/-!
# Branch specifications

On the command line a branch is written `<kind>:<value>`, split at the first colon:

* `script:<hex>` — the script itself;
* `pkh:<address>` — pay to the key hash of an address of the network;
* `pk:<hex key>` — pay to a key, in the form the key is written in;
* `multisig:<m>:<key>,<key>,...` — `m` of the listed keys, `1 ≤ m ≤` the number of keys.

A specification is a byte string and is split and matched bytewise. A branch whose script comes
out empty is refused. The set of a list of specifications is the sealed composition of their
branches in order.
-/

namespace BranchLock

/-- The colon that separates a kind from its value. -/
def colon : UInt8 := 58

/-- The comma that separates keys. -/
def comma : UInt8 := 44

/-- Why the value of a branch specification was refused. -/
inductive SpecCause where
  /-- The hex is malformed. -/
  | hex (e : Hex.DecodeError)
  /-- The address does not decode. -/
  | address (e : AddressError)
  /-- The address is not a pay-to-pubkey-hash address of the network. -/
  | notPubKeyHash (net : String)
  /-- The key does not parse. -/
  | key (e : PubKeyError)
  /-- A multisig value has no count. -/
  | noCount
  /-- The count is not a number. -/
  | count (e : NumError)
  /-- The count is outside one to the number of keys. -/
  | countOutOfRange (m : Int) (keys : Nat)
  /-- The script breaks a size limit. -/
  | build (e : BuildError)
  deriving DecidableEq, Repr

/-- The cause of a refused branch specification: a builder error keeps its origin, the rest
are plain text. -/
instance : Failure SpecCause where
  message
    | .hex e => e.message
    | .address e => e.message
    | .notPubKeyHash net => "not a " ++ net ++ " pay-to-pubkey-hash address"
    | .key e => e.message
    | .noCount => "expected <m>:<pk1>,<pk2>,..."
    | .count e => e.message
    | .countOutOfRange m n =>
      toString m ++ " signatures can not be required from " ++ toString n ++ " keys"
    | .build e => Failure.message e
  origin
    | .build e => Failure.origin e
    | _ => (.plain, "")

/-- Why a branch specification was refused. -/
inductive SpecError where
  /-- There is no colon. -/
  | noKind (spec : Bytes)
  /-- The kind is not one of the four. -/
  | unknownKind (kind : Bytes)
  /-- The value does not make a script of the kind. -/
  | invalid (kind : String) (value : Bytes) (cause : SpecCause)
  /-- The script is empty. -/
  | empty (spec : Bytes)
  deriving DecidableEq, Repr

/-- A refused branch specification is reported with the origin of its cause, or as plain text. -/
instance : Failure SpecError where
  message
    | .noKind spec => "branch " ++ quoteBytes spec ++ " is not of the form <kind>:<value>"
    | .unknownKind k =>
      "unknown branch kind " ++ quoteBytes k ++
        " -- supported kinds are script, pkh, pk and multisig"
    | .invalid k v c =>
      "invalid " ++ k ++ " branch " ++ quoteBytes v ++ ": " ++ Failure.message c
    | .empty spec => "branch " ++ quoteBytes spec ++ " has an empty script"
  origin
    | .invalid _ _ c => Failure.origin c
    | _ => (.plain, "")

/-- The pay-to-pubkey-hash script of an address of a network. -/
def pubKeyHashScript (text : Bytes) (net : Network) : Except SpecCause Bytes := do
  let a ← (Address.decode text net).mapError .address
  match a with
  | .pubKeyHash h id =>
    if id = net.pubKeyHashId then pure (Script.payToPubKeyHash h)
    else throw (.notPubKeyHash net.name)
  | _ => throw (.notPubKeyHash net.name)

/-- The bare key address of a hex key. -/
def keyAddress (text : Bytes) (net : Network) : Except SpecCause Address := do
  let bs ← (Hex.decodeDigits text).mapError .hex
  (Address.ofKeyBytes bs net).mapError .key

/-- The key bytes a bare key address pushes. -/
def Address.pushedKey : Address → Bytes
  | .pubKey k f _ => Address.keyBytes k f
  | _ => []

/-- The script requiring `m` signatures of the keys, in order. -/
def multiSigScript (m : Int) (keys : List Bytes) : Except BuildError Bytes :=
  Push.build ([Push.num m] ++ keys.map Push.data ++
    [Push.num keys.length, Push.op Opcode.opCheckMultiSig])

/-- The multisig script of a value `<m>:<key>,<key>,...`. -/
def multiSigOfText (value : Bytes) (net : Network) : Except SpecCause Bytes := do
  let (count, keys) ← match Bytes.cutAt colon value with
    | some p => pure p
    | none => throw .noCount
  let m ← (atoi count).mapError .count
  let addrs ← (Bytes.splitAt comma keys).mapM (keyAddress · net)
  if m < 1 ∨ m > addrs.length then throw (.countOutOfRange m addrs.length)
  (multiSigScript m (addrs.map Address.pushedKey)).mapError .build

/-- The kinds of branch, by name. -/
def branchKinds : List String := ["script", "pkh", "pk", "multisig"]

/-- The branch of a specification. -/
def parseBranch (spec : Bytes) (net : Network) : Except SpecError Branch := do
  let (kindBytes, value) ← match Bytes.cutAt colon spec with
    | some p => pure p
    | none => throw (.noKind spec)
  let kind ← match branchKinds.find? (Utf8.encode · == kindBytes) with
    | some k => pure k
    | none => throw (.unknownKind kindBytes)
  let script := match kind with
    | "script" => (Hex.decodeDigits value).mapError SpecCause.hex
    | "pkh" => pubKeyHashScript value net
    | "pk" => (keyAddress value net).map Address.outputScript
    | _ => multiSigOfText value net
  let script ← script.mapError (.invalid kind value)
  if script.isEmpty then throw (.empty spec)
  return Branch.ofScript script

/-- Why a set could not be composed from specifications. -/
inductive ComposeError where
  /-- No specification was given. -/
  | noBranches
  /-- A specification was refused. -/
  | spec (e : SpecError)
  /-- The branches do not fold into a set. -/
  | fold (e : FoldError)
  deriving DecidableEq, Repr

/-- A composition error is reported with the origin of the error it wraps, or as plain text. -/
instance : Failure ComposeError where
  message
    | .noBranches => "at least one --branch is required"
    | .spec e => Failure.message e
    | .fold e => Failure.message e
  origin
    | .noBranches => (.plain, "")
    | .spec e => Failure.origin e
    | .fold e => Failure.origin e

/-- The sealed set of the branches of specifications, in order. -/
def composeSet (specs : List Bytes) (net : Network) : Except ComposeError BranchSet := do
  if specs.isEmpty then throw .noBranches
  let branches ← (specs.mapM (parseBranch · net)).mapError .spec
  let c := branches.foldl (fun (c : Composer) b => { c with branches := c.branches ++ [b] }) {}
  let (s, _) ← c.sealSet.mapError .fold
  return s

end BranchLock

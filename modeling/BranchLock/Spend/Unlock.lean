import BranchLock.Branch.Error
import BranchLock.Curve.PublicKey
import BranchLock.Script.Error
import BranchLock.Script.Standard
import BranchLock.Hash.Digest

/-!
# Unlocking conventions

Spending a branch means pushing, before the path and the combined script, the data the branch's
script consumes. What that data is depends on the kind of branch: a pay-to-pubkey-hash branch
takes a signature and the key it hashes, a multisig branch a dummy item and signatures in key
order, a pay-to-pubkey branch the signatures alone. An `Unlocker` turns a branch script and the
signatures contributed for it into that data, and a `Registry` says which unlocker serves each
kind; a kind without one cannot be spent.

A contributed signature may be absent (`none`), which is not the same as an empty one: the
multisig convention leaves absent signatures out but pushes empty ones.
-/

namespace BranchLock

/-- A signature contributed for a branch, with the key that made it. -/
structure Contribution where
  /-- The signer's key. -/
  pubKey : PublicKey
  /-- The signature with its hash type byte, if any. -/
  signature : Option Bytes
  deriving DecidableEq, Repr

/-- Why the unlocking data of a branch could not be produced. -/
inductive UnlockError where
  /-- A misuse: no unlocker for the kind, or a signer foreign to the branch. -/
  | branch (e : BranchError)
  /-- The multisig script does not read as a script. -/
  | unparsable (e : PushError)
  /-- An unlocker declined, for a reason of its own. -/
  | refused (text : String)
  deriving DecidableEq, Repr

/-- The text of an unlock error. -/
def UnlockError.message : UnlockError → String
  | .branch e => e.message
  | .unparsable e => "unable to parse multisig script: " ++ e.message
  | .refused text => text

/-- An unlock error is reported as the error it wraps, or as plain text. -/
instance : Failure UnlockError where
  message := UnlockError.message
  origin
    | .branch e => Failure.origin e
    | .unparsable e => Failure.origin e.toScriptError
    | .refused _ => (.plain, "")

/-- A convention turning a branch script and its contributions into the data pushed before
the path. -/
structure Unlocker where
  /-- The data, in push order. -/
  unlockData : Bytes → List Contribution → Except UnlockError (List Bytes)

namespace Unlocker

/-- The key bytes whose hash a pay-to-pubkey-hash script expects: compressed, unless only the
uncompressed form hashes to the given hash. -/
def keyForHash (key : PublicKey) (pkHash : Option Bytes) : Bytes :=
  match pkHash with
  | none => key.compressed
  | some h =>
    if hash160 key.compressed = h then key.compressed
    else if hash160 key.uncompressed = h then key.uncompressed
    else key.compressed

/-- A signature and the signer's key for each contribution; the key form is the one the
script's only push, its hash, expects. -/
def pubKeyHash : Unlocker where
  unlockData script cs :=
    let pkHash := match Script.pushedData script with
      | .ok [h] => some h
      | _ => none
    .ok (cs.flatMap fun c => [c.signature.getD [], keyForHash c.pubKey pkHash])

/-- Records each contribution at the position of its key among the script's pushes; a later
contribution for a key replaces an earlier one. -/
def placeSignatures (keys : List (Option PublicKey)) :
    List (Option Bytes) → List Contribution → Except UnlockError (List (Option Bytes))
  | sigs, [] => .ok sigs
  | sigs, c :: cs =>
    match keys.findIdx? (· = some c.pubKey) with
    | none => .error (.branch (.unknownSigner c.pubKey.compressed))
    | some k => placeSignatures keys (sigs.set k c.signature) cs

/-- The dummy item, then the signatures in the order of their keys in the script; pushes that
are not keys are passed over, and absent signatures are left out. -/
def multiSig : Unlocker where
  unlockData script cs := do
    let pushes ← (Script.pushedData script).mapError .unparsable
    let keys := pushes.map fun p => (PublicKey.parse p).toOption
    let sigs ← placeSignatures keys (keys.map fun _ => none) cs
    return [] :: sigs.filterMap id

/-- The signatures alone. -/
def pubKey : Unlocker where
  unlockData _ cs := .ok (cs.map fun c => c.signature.getD [])

end Unlocker

/-- Which unlocker serves each branch kind. -/
structure Registry where
  /-- The kinds served, each once. -/
  entries : List (BranchKind × Unlocker)

namespace Registry

/-- The conventions every registry starts with. -/
def standard : Registry :=
  ⟨[(.pubKeyHash, .pubKeyHash), (.multiSig, .multiSig), (.pubKey, .pubKey)]⟩

/-- The unlocker of a kind. -/
def lookup (r : Registry) (kind : BranchKind) : Except BranchError Unlocker :=
  match r.entries.find? (·.1 = kind) with
  | some (_, u) => .ok u
  | none => .error (.noUnlocker kind)

/-- Adds an unlocker for a kind not yet served. -/
def register (r : Registry) (kind : BranchKind) (u : Unlocker) : Except BranchError Registry :=
  if r.entries.any (·.1 = kind) then .error (.duplicateUnlocker kind)
  else .ok ⟨r.entries ++ [(kind, u)]⟩

end Registry

end BranchLock

import BranchLock.Branch.Kind
import BranchLock.Spend.InputState
import BranchLock.Data.Hex
import BranchLock.Data.Failure

/-!
# Errors of composing and spending branch sets

Every misuse of a shape, a composer or an assembler is a `BranchError`: a violation of the
calling contract, so the same call fails the same way again. Each constructor is one cause with
the values its message shows; `BranchError.code` sorts the causes into the twelve codes callers
test for, and `BranchError.message` is the one place their wording lives.
-/

namespace BranchLock

/-- The codes of branch errors, in their numbering order. -/
inductive BranchCode where
  | sealedSet
  | emptyBranchSet
  | invalidBranchIndex
  | branchCountMismatch
  | branchScriptMismatch
  | combinedScriptMismatch
  | invalidInputIndex
  | invalidState
  | alreadyFinalized
  | noUnlocker
  | duplicateUnlocker
  | unknownSigner
  deriving DecidableEq, Repr

namespace BranchCode

/-- All codes, in their numbering order. -/
def all : List BranchCode :=
  [.sealedSet, .emptyBranchSet, .invalidBranchIndex, .branchCountMismatch,
   .branchScriptMismatch, .combinedScriptMismatch, .invalidInputIndex, .invalidState,
   .alreadyFinalized, .noUnlocker, .duplicateUnlocker, .unknownSigner]

/-- The name of a code. -/
def name : BranchCode → String
  | .sealedSet => "ErrSealedSet"
  | .emptyBranchSet => "ErrEmptyBranchSet"
  | .invalidBranchIndex => "ErrInvalidBranchIndex"
  | .branchCountMismatch => "ErrBranchCountMismatch"
  | .branchScriptMismatch => "ErrBranchScriptMismatch"
  | .combinedScriptMismatch => "ErrCombinedScriptMismatch"
  | .invalidInputIndex => "ErrInvalidInputIndex"
  | .invalidState => "ErrInvalidState"
  | .alreadyFinalized => "ErrAlreadyFinalized"
  | .noUnlocker => "ErrNoUnlocker"
  | .duplicateUnlocker => "ErrDuplicateUnlocker"
  | .unknownSigner => "ErrUnknownSigner"

end BranchCode

/-- The text of an error code number: the code's name, or `Unknown ErrorCode (N)` for a number
that stands for no code. -/
def describeErrorCode (names : List String) (n : Int) : String :=
  if 0 ≤ n then
    match names[n.toNat]? with
    | some s => s
    | none => "Unknown ErrorCode (" ++ toString n ++ ")"
  else "Unknown ErrorCode (" ++ toString n ++ ")"

/-- The text of a branch error code number. -/
def BranchCode.describe (n : Int) : String :=
  describeErrorCode (BranchCode.all.map BranchCode.name) n

/-- A misuse of a shape, a composer or an assembler. -/
inductive BranchError where
  /-- A branch was added after the combined script of `count` branches was derived. -/
  | sealed (count : Nat)
  /-- A set or shape of fewer than one branch was asked for. -/
  | emptySet (count : Int)
  /-- A branch index lies outside `[0, count)`. -/
  | indexOutOfRange (index count : Int)
  /-- A shape of `branches` branches was given `scripts` scripts. -/
  | scriptCountMismatch (branches scripts : Nat)
  /-- An input was pointed at no set at all. -/
  | noSet (input : Int) (assumed : Int)
  /-- An input's set has `actual` branches, the selection assumed `assumed`. -/
  | setSizeMismatch (input : Int) (actual : Nat) (assumed : Int)
  /-- A signature names a branch script other than the selected one. -/
  | branchScriptMismatch (input : Int) (branch : Nat)
  /-- A signature names a combined script other than the one spent. -/
  | combinedScriptMismatch (input : Int)
  /-- The transaction has no such input. -/
  | noSuchInput (input : Int) (count : Nat)
  /-- An input that is not selecting was asked to take a signature. -/
  | notSelecting (input : Int) (state : InputState)
  /-- An input with no selected branch was asked to finalize. -/
  | notSelected (input : Int)
  /-- A finalized input was asked to change. -/
  | finalized (input : Int)
  /-- No unlocking convention is registered for the kind. -/
  | noUnlocker (kind : BranchKind)
  /-- An unlocking convention is already registered for the kind. -/
  | duplicateUnlocker (kind : BranchKind)
  /-- A signer's key (shown compressed) is not among a multisig branch's keys. -/
  | unknownSigner (key : Bytes)
  deriving DecidableEq, Repr

namespace BranchError

/-- The code of an error. -/
def code : BranchError → BranchCode
  | .sealed _ => .sealedSet
  | .emptySet _ => .emptyBranchSet
  | .indexOutOfRange _ _ => .invalidBranchIndex
  | .scriptCountMismatch _ _ => .branchCountMismatch
  | .noSet _ _ => .branchCountMismatch
  | .setSizeMismatch _ _ _ => .branchCountMismatch
  | .branchScriptMismatch _ _ => .branchScriptMismatch
  | .combinedScriptMismatch _ => .combinedScriptMismatch
  | .noSuchInput _ _ => .invalidInputIndex
  | .notSelecting _ _ => .invalidState
  | .notSelected _ => .invalidState
  | .finalized _ => .alreadyFinalized
  | .noUnlocker _ => .noUnlocker
  | .duplicateUnlocker _ => .duplicateUnlocker
  | .unknownSigner _ => .unknownSigner

/-- The text of an error. -/
def message : BranchError → String
  | .sealed count =>
    "unable to add branch " ++ toString count ++ ": combined script already derived from " ++
      toString count ++ " branches"
  | .emptySet count => "a branch set needs at least one branch, got " ++ toString count
  | .indexOutOfRange index count =>
    "branch index " ++ toString index ++ " out of range for " ++ toString count ++ " branches"
  | .scriptCountMismatch branches scripts =>
    "shape has " ++ toString branches ++ " branches, got " ++ toString scripts ++ " scripts"
  | .noSet input assumed =>
    "input " ++ toString input ++ " has no branch set, selection assumed " ++
      toString assumed ++ " branches"
  | .setSizeMismatch input actual assumed =>
    "input " ++ toString input ++ " spends a set of " ++ toString actual ++
      " branches, selection assumed " ++ toString assumed
  | .branchScriptMismatch input branch =>
    "input " ++ toString input ++ " selected branch " ++ toString branch ++
      ", signature refers to another branch script"
  | .combinedScriptMismatch input =>
    "input " ++ toString input ++ " spends a different combined script"
  | .noSuchInput input count =>
    "transaction has no input " ++ toString input ++ " (" ++ toString count ++ " inputs)"
  | .notSelecting input state =>
    "input " ++ toString input ++ " is " ++ state.name ++
      ", a branch must be selected before signing"
  | .notSelected input => "input " ++ toString input ++ " has no selected branch"
  | .finalized input => "input " ++ toString input ++ " is already finalized"
  | .noUnlocker kind => "no unlocker registered for branch kind " ++ kind.name
  | .duplicateUnlocker kind => "unlocker for branch kind " ++ kind.name ++ " is already registered"
  | .unknownSigner key =>
    "public key " ++ Hex.encode key ++ " is not part of the multisig branch"

end BranchError

/-- A branch error is reported by its text, under the branch component and its code. -/
instance : Failure BranchError where
  message := BranchError.message
  origin e := (.branch, e.code.name)

end BranchLock

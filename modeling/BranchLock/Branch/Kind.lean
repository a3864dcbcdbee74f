import BranchLock.Script.Standard

/-!
# Branches and their kinds

A branch is one alternative locking script of a set, tagged with a kind: a byte that says how
the script is unlocked. Kinds 1, 2 and 3 are the standard pay-to-pubkey-hash, multisig and
pay-to-pubkey forms, kind 0 is a script of no known form, and every other byte is free for
conventions registered by the user of the library.

`BranchKind.classify` reads the kind of a script off its standard form; pay to pubkey is tried
first, then pay to pubkey hash, then multisig.
-/

namespace BranchLock

/-- The unlocking convention of a branch script. -/
structure BranchKind where
  /-- The tag byte, as stored. -/
  code : UInt8
  deriving DecidableEq, Repr

namespace BranchKind

/-- A script of no known form. -/
def nonStandard : BranchKind := ⟨0⟩
/-- A pay-to-pubkey-hash script. -/
def pubKeyHash : BranchKind := ⟨1⟩
/-- A bare multisig script. -/
def multiSig : BranchKind := ⟨2⟩
/-- A pay-to-pubkey script. -/
def pubKey : BranchKind := ⟨3⟩

/-- The name of a kind: the four built-in ones by name, every other as `kind(N)`. -/
def name (k : BranchKind) : String :=
  match k.code.toNat with
  | 0 => "nonstandard"
  | 1 => "pubkeyhash"
  | 2 => "multisig"
  | 3 => "pubkey"
  | n => "kind(" ++ toString n ++ ")"

/-- The kind of a script, read off its standard form. -/
def classify (script : Bytes) : BranchKind :=
  if Script.isPayToPubKey script then pubKey
  else if Script.isPayToPubKeyHash script then pubKeyHash
  else if Script.isMultiSig script then multiSig
  else nonStandard

end BranchKind

/-- One alternative locking script of a set, with its unlocking convention. -/
structure Branch where
  /-- How the script is unlocked. -/
  kind : BranchKind
  /-- The locking script itself. -/
  script : Bytes
  deriving DecidableEq, Repr

/-- A branch tagged with the kind its script's form shows. -/
def Branch.ofScript (script : Bytes) : Branch := ⟨BranchKind.classify script, script⟩

end BranchLock

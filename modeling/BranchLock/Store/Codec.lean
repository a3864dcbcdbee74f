import BranchLock.Branch.Set
import BranchLock.Chain.CompactSize

/-!
# The stored form of a branch set

A set is stored as a version byte `0x01`, the number of branches as a variable-length integer,
then per branch its kind byte and its script behind its length. Reading checks, in order: the
version, a count from 1 to 10000, per branch a kind byte and a script of at most 10000 bytes
that is there in full, no bytes left over, and last that the branches fold into a set.
-/

namespace BranchLock

/-- The version byte of the stored form. -/
def storedSetVersion : UInt8 := 1

/-- The most branches and the longest script a stored set may have. -/
def maxStoredLength : Nat := 10000

/-- The stored form of one branch: its kind byte, then its script behind its length. -/
def Branch.serialize (b : Branch) : Bytes :=
  b.kind.code :: CompactSize.encode b.script.length ++ b.script

/-- The stored form of a set. -/
def BranchSet.serialize (s : BranchSet) : Bytes :=
  storedSetVersion :: CompactSize.encode s.branches.length ++ s.branches.flatMap Branch.serialize

/-- Why bytes are not the stored form of a set. -/
inductive SetDecodeError where
  /-- The bytes end where a field begins. -/
  | eof
  /-- The bytes end inside a field. -/
  | unexpectedEof
  /-- A variable-length integer is not in its shortest form. -/
  | length (e : CompactSize.DecodeError)
  /-- The version byte is not the known one. -/
  | version (v : UInt8)
  /-- The branch count is zero or above the limit. -/
  | count (n : Nat)
  /-- A script length is above the limit. -/
  | scriptTooLong (n : Nat)
  /-- Bytes remain after the last branch. -/
  | trailing (n : Nat)
  /-- The branches do not fold into a set. -/
  | fold (e : FoldError)
  deriving DecidableEq, Repr

/-- The text of a decoding error. -/
def SetDecodeError.message : SetDecodeError → String
  | .eof => "EOF"
  | .unexpectedEof => "unexpected EOF"
  | .length e => e.message
  | .version v => "unsupported branch set version " ++ toString v.toNat
  | .count n => "invalid branch count " ++ toString n
  | .scriptTooLong n =>
    "ReadVarBytes: branch script is larger than the max allowed size [count " ++ toString n ++
      ", max " ++ toString maxStoredLength ++ "]"
  | .trailing n => toString n ++ " trailing bytes"
  | .fold e => e.message

/-- Reads a variable-length integer. -/
def readLength (bs : Bytes) : Except SetDecodeError (Nat × Bytes) :=
  (CompactSize.decode bs).mapError .length

/-- Reads one branch: its kind byte and its script. -/
def readBranch (bs : Bytes) : Except SetDecodeError (Branch × Bytes) := do
  match bs with
  | [] => throw .eof
  | kind :: rest =>
    let (n, rest) ← readLength rest
    if n > maxStoredLength then throw (.scriptTooLong n)
    if n > 0 ∧ rest.isEmpty then throw .eof
    if rest.length < n then throw .unexpectedEof
    return (⟨⟨kind⟩, rest.take n⟩, rest.drop n)

/-- Reads `k` branches in order. -/
def readBranches : Nat → Bytes → Except SetDecodeError (List Branch × Bytes)
  | 0, bs => .ok ([], bs)
  | k + 1, bs => do
    let (b, bs) ← readBranch bs
    let (rest, bs) ← readBranches k bs
    return (b :: rest, bs)

/-- Reads the stored form of a set. -/
def BranchSet.deserialize (bs : Bytes) : Except SetDecodeError BranchSet := do
  match bs with
  | [] => throw .eof
  | v :: rest =>
    if v ≠ storedSetVersion then throw (.version v)
    let (count, rest) ← readLength rest
    if count = 0 ∨ count > maxStoredLength then throw (.count count)
    let (branches, rest) ← readBranches count rest
    if rest.length ≠ 0 then throw (.trailing rest.length)
    (BranchSet.make branches).mapError .fold

end BranchLock

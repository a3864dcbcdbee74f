import BranchLock.Branch.Set

/-!
# Composing a branch set

A composer collects branches one at a time and seals them into a set. Sealing fixes the
combined script: later seals return the same set, and adding a branch after it is refused, since
an output may already commit to the script derived. A failed seal fixes nothing.
-/

namespace BranchLock

/-- Branches collected so far, and the set once sealed. -/
structure Composer where
  /-- The branches, in the order added. -/
  branches : List Branch := []
  /-- The sealed set, once derived. -/
  sealed : Option BranchSet := none

namespace Composer

/-- The number of branches collected. -/
def numBranches (c : Composer) : Nat := c.branches.length

/-- Adds a branch, unless the set is sealed. -/
def addAlternative (c : Composer) (b : Branch) : Except BranchError Composer :=
  match c.sealed with
  | some _ => .error (.sealed c.branches.length)
  | none => .ok { c with branches := c.branches ++ [b] }

/-- Adds a script as a branch of the kind its form shows. -/
def addScript (c : Composer) (script : Bytes) : Except BranchError Composer :=
  c.addAlternative (Branch.ofScript script)

/-- The sealed set, derived on the first call. -/
def sealSet (c : Composer) : Except FoldError (BranchSet × Composer) :=
  match c.sealed with
  | some s => .ok (s, c)
  | none => do
    let s ← BranchSet.make c.branches
    return (s, { c with sealed := some s })

/-- The combined script, sealing the set. -/
def combinedScript (c : Composer) : Except FoldError (Bytes × Composer) :=
  c.sealSet.map fun (s, c) => (s.script, c)

end Composer

end BranchLock

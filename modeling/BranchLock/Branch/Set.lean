import BranchLock.Branch.Shape
import BranchLock.Branch.Kind
import BranchLock.Chain.Address

/-!
# Branch sets

A branch set is a list of alternative locking scripts folded into one combined script: the
script a pay-to-script-hash output commits to through its hash, and that a spend reveals as its
redeem script. The set keeps its branches, its shape and the combined script, so that a spend
can look up the path to its branch and check that it spends this very set.

A combined script over 520 bytes is accepted here even though it can never be pushed as a
redeem script; callers are warned instead.
-/

namespace BranchLock

/-- Alternative branches folded into one combined script. -/
structure BranchSet where
  /-- The branches, in order. -/
  branches : List Branch
  /-- The shape of the set, one leaf per branch. -/
  shape : Shape
  /-- The combined script. -/
  script : Bytes
  /-- The combined script is the branch scripts folded along the shape. -/
  folded : shape.fold (branches.map (·.script)) = .ok script

namespace BranchSet

/-- The set of the given branches; an empty list and a combined script over the size limits
are refused. -/
def make (branches : List Branch) : Except FoldError BranchSet :=
  match Shape.ofCount branches.length with
  | .error e => .error (.branch e)
  | .ok shape =>
    match h : shape.fold (branches.map (·.script)) with
    | .error e => .error e
    | .ok script => .ok ⟨branches, shape, script, h⟩

/-- The number of branches. -/
def numBranches (s : BranchSet) : Nat := s.branches.length

/-- The branch at an index. -/
def branch (s : BranchSet) (i : Int) : Except BranchError Branch :=
  if h : 0 ≤ i ∧ i.toNat < s.branches.length then .ok (s.branches.get ⟨i.toNat, h.2⟩)
  else .error (.indexOutOfRange i s.branches.length)

/-- The hash a pay-to-script-hash output commits to. -/
def scriptHash (s : BranchSet) : Bytes := hash160 s.script

/-- The pay-to-script-hash address of the set on a network. -/
def address (s : BranchSet) (net : Network) : Address := .scriptHash s.scriptHash net.scriptHashId

/-- The pay-to-script-hash output script of the set. -/
def pkScript (s : BranchSet) : Bytes := Script.payToScriptHash s.scriptHash

/-- The decisions that reach a branch, outermost first. -/
def pathFor (s : BranchSet) (i : Int) : Except BranchError (List Bool) := s.shape.path i

/-- Whether the combined script is too long to be pushed as a redeem script. -/
def oversized (s : BranchSet) : Bool := s.script.length > maxElementSize

/-- A set's shape has one leaf per branch, since its scripts were folded along it. -/
theorem shape_numBranches (s : BranchSet) : s.shape.numBranches = s.numBranches := by
  have h := s.folded
  unfold Shape.fold at h
  split at h
  · cases h
  · rename_i hlen
    simp only [List.length_map, Decidable.not_not] at hlen
    simp [numBranches, hlen]

/-- The path of every branch of a set exists. -/
theorem pathFor_eq_ok (s : BranchSet) {i : Int} (hi : 0 ≤ i ∧ i < s.numBranches) :
    s.pathFor i = .ok (s.shape.nesting.path i.toNat) := by
  have h := s.shape_numBranches
  simp [pathFor, Shape.path, h, hi]

end BranchSet

end BranchLock

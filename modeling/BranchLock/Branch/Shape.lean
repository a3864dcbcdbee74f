import BranchLock.Branch.Error
import BranchLock.Script.Builder

/-!
# The nesting of branches into conditionals

`n` branch scripts become one script of nested conditionals. The nesting leans left: branch 0
is the innermost true arm, and each later branch `k` is the false arm of a new conditional that
wraps branches `0‥k-1`. So the combined script of scripts `s₀ … sₙ₋₁` is

  `OP_IF`ⁿ⁻¹ `s₀` (`OP_ELSE` `sₖ` `OP_ENDIF` for k = 1‥n-1)

and the decisions that reach branch `i`, outermost first, are `n-1` times true for branch 0,
and `n-1-i` times true followed by one false for every other branch.

Both the combined script (`Nesting.pushes`) and the decisions (`Nesting.path`) are read off the
one tree `Nesting.leftLeaning`, which is what keeps them in step. `path_leftLeaning` states the
closed form of the decisions.
-/

namespace BranchLock

/-- A tree of conditionals whose leaves are branch indices. -/
inductive Nesting where
  /-- The branch with this index. -/
  | leaf (index : Nat)
  /-- A conditional whose true arm is `ifArm` and whose false arm is `elseArm`. -/
  | cond (ifArm elseArm : Nesting)
  deriving DecidableEq, Repr

namespace Nesting

/-- The smallest branch index below a node. -/
def first : Nesting → Nat
  | leaf i => i
  | cond a _ => a.first

/-- The largest branch index below a node. -/
def last : Nesting → Nat
  | leaf i => i
  | cond _ b => b.last

/-- Whether a branch index lies in the range of a node. -/
def covers (t : Nesting) (i : Nat) : Bool := t.first ≤ i && i ≤ t.last

/-- The left-leaning nesting of branches `0‥k`. -/
def leftLeaning : Nat → Nesting
  | 0 => leaf 0
  | k + 1 => cond (leftLeaning k) (leaf (k + 1))

/-- The decisions that lead from the root to branch `i`, outermost first: true takes the true
arm, false the false arm. -/
def path (t : Nesting) (i : Nat) : List Bool :=
  match t with
  | leaf _ => []
  | cond a b => if a.covers i then true :: a.path i else false :: b.path i

/-- The instructions of the combined script: each leaf's script as raw bytes, each conditional
as `OP_IF`, its true arm, `OP_ELSE`, its false arm, `OP_ENDIF`. -/
def pushes (t : Nesting) (scripts : List Bytes) : List Push :=
  match t with
  | leaf i => [.raw (scripts.getD i [])]
  | cond a b =>
    .op Opcode.opIf :: a.pushes scripts ++ .op Opcode.opElse :: b.pushes scripts ++
      [.op Opcode.opEndIf]

/-- The left-leaning tree of branches `0‥k` starts at branch 0. -/
@[simp] theorem first_leftLeaning (k : Nat) : (leftLeaning k).first = 0 := by
  induction k with
  | zero => rfl
  | succ k ih => simpa [leftLeaning, first] using ih

/-- The left-leaning tree of branches `0‥k` ends at branch `k`. -/
@[simp] theorem last_leftLeaning (k : Nat) : (leftLeaning k).last = k := by
  cases k <;> rfl

/-- The closed form of the decisions: `k` times true for branch 0, and `k - i` times true
followed by one false for a branch `1 ≤ i ≤ k`. -/
theorem path_leftLeaning (k i : Nat) (h : i ≤ k) :
    (leftLeaning k).path i =
      if i = 0 then List.replicate k true else List.replicate (k - i) true ++ [false] := by
  induction k with
  | zero =>
    have : i = 0 := by omega
    subst this; rfl
  | succ k ih =>
    by_cases hik : i ≤ k
    · have hc : (leftLeaning k).covers i = true := by simp [covers, hik]
      simp only [leftLeaning, path, hc, if_true, ih hik]
      by_cases hi : i = 0
      · simp [hi, List.replicate_succ]
      · simp only [hi, if_false]
        rw [show k + 1 - i = (k - i) + 1 by omega, List.replicate_succ]
        rfl
    · have hi : i = k + 1 := by omega
      subst hi
      have hc : (leftLeaning k).covers (k + 1) = false := by simp [covers]
      simp [leftLeaning, path, hc]

/-- A branch of the left-leaning nesting of `0‥k` lies under at most `k` conditionals. -/
theorem length_path_leftLeaning_le (k i : Nat) : ((leftLeaning k).path i).length ≤ k := by
  induction k with
  | zero => simp [leftLeaning, path]
  | succ k ih =>
    unfold leftLeaning path
    split
    · simp only [List.length_cons]
      omega
    · simp [path]

end Nesting

/-- How many branches a set has, and hence the nesting of their conditionals. -/
structure Shape where
  /-- The number of branches. -/
  numBranches : Nat
  /-- A shape has at least one branch. -/
  pos : 0 < numBranches

/-- Why branch scripts could not be folded into one script. -/
inductive FoldError where
  /-- The scripts do not fit the shape. -/
  | branch (e : BranchError)
  /-- The combined script breaks a size limit. -/
  | build (e : BuildError)
  deriving DecidableEq, Repr

/-- The text of a fold error. -/
def FoldError.message : FoldError → String
  | .branch e => e.message
  | .build e => "unable to fold branch scripts: " ++ e.message

/-- A fold error is reported as the error it wraps. -/
instance : Failure FoldError where
  message := FoldError.message
  origin
    | .branch e => Failure.origin e
    | .build e => Failure.origin e

namespace Shape

/-- The shape of `n` branches; fewer than one is refused. -/
def ofCount (n : Int) : Except BranchError Shape :=
  if h : 1 ≤ n then .ok ⟨n.toNat, by omega⟩ else .error (.emptySet n)

/-- The nesting tree of a shape. -/
def nesting (s : Shape) : Nesting := Nesting.leftLeaning (s.numBranches - 1)

/-- The decisions that reach a branch, outermost first; an index outside the shape is
refused. -/
def path (s : Shape) (branch : Int) : Except BranchError (List Bool) :=
  if 0 ≤ branch ∧ branch < s.numBranches then .ok (s.nesting.path branch.toNat)
  else .error (.indexOutOfRange branch s.numBranches)

/-- The number of conditionals around a branch. -/
def depth (s : Shape) (branch : Int) : Except BranchError Nat :=
  (s.path branch).map List.length

/-- The combined script of exactly `numBranches` scripts. -/
def fold (s : Shape) (scripts : List Bytes) : Except FoldError Bytes :=
  if scripts.length ≠ s.numBranches then
    .error (.branch (.scriptCountMismatch s.numBranches scripts.length))
  else (Push.build (s.nesting.pushes scripts)).mapError .build

end Shape

/-- The combined script of a non-empty list of scripts. -/
def foldScripts (scripts : List Bytes) : Except FoldError Bytes :=
  match Shape.ofCount scripts.length with
  | .error e => .error (.branch e)
  | .ok s => s.fold scripts

/-- The decisions that reach branch `i` of `n`; every `i` outside `[0, n)` is refused, also when
`n` is below one. -/
def pathFor (i n : Int) : Except BranchError (List Bool) :=
  if n < 1 then .error (.indexOutOfRange i n)
  else
    match Shape.ofCount n with
    | .error e => .error e
    | .ok s => s.path i

end BranchLock

/-!
# The lifecycle of a spending input

An input of a transaction under assembly is first unselected, then selecting (a branch is chosen
and signatures are being gathered), and at last finalized (its unlocking script is attached).
Finalized is final: nothing changes such an input again.
-/

namespace BranchLock

/-- Where an input stands in its assembly. -/
inductive InputState where
  /-- No branch is chosen; the input is never touched. -/
  | unselected
  /-- A branch is chosen and signatures are being gathered. -/
  | selecting
  /-- The unlocking script is attached. -/
  | finalized
  deriving DecidableEq, Repr

namespace InputState

/-- The number that stands for a state. -/
def code : InputState → Int
  | .unselected => 0
  | .selecting => 1
  | .finalized => 2

/-- The name of a state. -/
def name (s : InputState) : String :=
  match s with
  | .unselected => "unselected"
  | .selecting => "selecting"
  | .finalized => "finalized"

/-- The text of a state number: the state's name, or `state(N)` for a number that stands for
none. -/
def describe (n : Int) : String :=
  if n = 0 then "unselected"
  else if n = 1 then "selecting"
  else if n = 2 then "finalized"
  else "state(" ++ toString n ++ ")"

/-- The text of the number of a state is the name of that state. -/
theorem describe_code (s : InputState) : describe s.code = s.name := by
  cases s <;> rfl

end InputState

end BranchLock

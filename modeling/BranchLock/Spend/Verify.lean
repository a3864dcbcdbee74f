import BranchLock.Script.Engine

/-!
# Verifying a spend

An assembled input is checked by running its unlocking script against the output script it
spends under the standard policy. A failure says which input failed and whether the check could
not start or the scripts failed.
-/

namespace BranchLock

/-- A failed check of one input. -/
structure InputCheckError where
  /-- The index of the input, as asked for. -/
  index : Int
  /-- What failed. -/
  failure : CheckFailure
  deriving DecidableEq, Repr

/-- The broken rule behind a failed check. -/
def InputCheckError.cause (e : InputCheckError) : ScriptError :=
  match e.failure with
  | .setup c => c
  | .failed c => c

/-- A failed check is reported with the input it failed at, under the rule it broke. -/
instance : Failure InputCheckError where
  message e :=
    match e.failure with
    | .setup c => "unable to create script engine for input " ++ toString e.index ++ ": " ++ c.text
    | .failed c => "input " ++ toString e.index ++ " failed validation: " ++ c.text
  origin e := Failure.origin e.cause

/-- Checks input `index` of a transaction against the output script it spends. -/
def Transaction.verifyInput (tx : Transaction) (index : Int) (pkScript : Bytes) :
    Except InputCheckError Unit :=
  (tx.checkInput index pkScript).mapError (⟨index, ·⟩)

end BranchLock

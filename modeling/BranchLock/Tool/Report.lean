import BranchLock.Branch.Set
import BranchLock.Script.Disasm

/-!
# Printed reports of the tool

How the tool writes decisions and sets for a reader. A path of decisions is `IF`/`ELSE` words
joined by commas, `(none)` for the empty path. A script is its disassembly; one that does not
read to its end is the disassembly of what reads, marked, after the reading error.

A set is reported as its address on the network, its script hash, its redeem script in hex,
size and disassembly, and then every branch with its kind, path and disassembly; a redeem
script too long to be pushed gets a warning, since no spend can reveal it.
-/

namespace BranchLock

/-- The decisions of a path as words: `IF` for true, `ELSE` for false, joined by commas;
`(none)` when there are none. -/
def formatPath (path : List Bool) : String :=
  if path.isEmpty then "(none)"
  else ",".intercalate (path.map fun d => if d then "IF" else "ELSE")

/-- The disassembly of a script, after the reading error if it does not read to its end. -/
def disasmText (bs : Bytes) : String :=
  match Script.disasm bs with
  | (t, none) => t
  | (t, some e) => "[error: " ++ e.message ++ "] " ++ t

/-- A text padded with spaces on the right to at least `n` characters. -/
def padRight (s : String) (n : Nat) : String :=
  s ++ String.ofList (List.replicate (n - s.length) ' ')

/-- The report lines of one branch of a set. -/
def branchReport (s : BranchSet) (i : Nat) (b : Branch) : String :=
  let path := (s.pathFor i).toOption.getD []
  "  [" ++ toString i ++ "] " ++ padRight b.kind.name 11 ++ " path=" ++ formatPath path ++ "\n" ++
    "      " ++ disasmText b.script ++ "\n"

/-- The report of a set on a network. -/
def setReport (s : BranchSet) (net : Network) : String :=
  "Address:       " ++ (s.address net).encode ++ "\n" ++
  "Script hash:   " ++ Hex.encode s.scriptHash ++ "\n" ++
  "Redeem script: " ++ Hex.encode s.script ++ "\n" ++
  "Script size:   " ++ toString s.script.length ++ " bytes\n" ++
  "Disassembly:   " ++ disasmText s.script ++ "\n" ++
  "Branches:      " ++ toString s.numBranches ++ "\n" ++
  String.join (s.branches.zipIdx.map fun (b, i) => branchReport s i b) ++
  (if s.oversized then
    "WARNING: the redeem script exceeds the " ++ toString maxElementSize ++
      " byte push limit and can not be spent\n"
  else "")

/-- The line listing a stored set. -/
def listLine (s : BranchSet) (net : Network) : String :=
  (s.address net).encode ++ "  " ++ toString s.numBranches ++ " branches  " ++
    toString s.script.length ++ " bytes\n"

end BranchLock

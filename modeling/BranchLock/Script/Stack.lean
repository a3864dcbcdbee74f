import BranchLock.Script.Error
import BranchLock.Script.Number
import BranchLock.Data.Hex

/-!
# The interpreter's stacks

A stack of byte strings, its top first. Every access names a depth counted from the top and
fails when no item lies that deep; compound moves (duplicate, rotate, swap, copy over) are
sequences of single removals and copies, each checked against the stack as it stands at that
moment, which fixes which depth an error names.

Items read as booleans are true unless every byte is zero, allowing a sign bit on the last
byte; items read as numbers are script numbers of at most four bytes.
-/

namespace BranchLock

/-- A stack of items, its top first. -/
abbrev Stack := List Bytes

/-- Whether an item reads as true: some byte is non-zero, other than a lone sign bit in the
last byte. -/
def Bytes.asBool : Bytes → Bool
  | [] => false
  | [b] => b ≠ 0 ∧ b ≠ 0x80
  | b :: rest => b ≠ 0 || asBool rest

/-- The item a boolean is pushed as. -/
def Bytes.ofBool (b : Bool) : Bytes := if b then [1] else []

/-- The interpreter's report of a number it refuses to read. -/
def ScriptNum.DecodeError.toScriptError : ScriptNum.DecodeError → ScriptError
  | .tooLong bs limit =>
    ⟨.numberTooBig, "numeric value encoded as " ++ Hex.encode bs ++ " is " ++
      toString bs.length ++ " bytes which exceeds the max allowed of " ++ toString limit⟩
  | .notMinimal bs =>
    ⟨.minimalData, "numeric value encoded as " ++ Hex.encode bs ++ " is not minimally encoded"⟩

namespace Stack

/-- The error for a depth with no item. -/
def badIndex (i : Int) (size : Nat) : ScriptError :=
  ⟨.invalidStackOperation,
    "index " ++ toString i ++ " is invalid for stack size " ++ toString size⟩

/-- The item at a depth. -/
def peek (s : Stack) (i : Int) : Except ScriptError Bytes :=
  if h : 0 ≤ i ∧ i.toNat < s.length then .ok (s.get ⟨i.toNat, h.2⟩)
  else .error (badIndex i s.length)

/-- Removes the item at a depth. -/
def nip (s : Stack) (i : Int) : Except ScriptError (Bytes × Stack) :=
  if h : 0 ≤ i ∧ i.toNat < s.length then .ok (s.get ⟨i.toNat, h.2⟩, s.eraseIdx i.toNat)
  else .error (badIndex i s.length)

/-- Removes the top item. -/
def pop (s : Stack) : Except ScriptError (Bytes × Stack) := nip s 0

/-- Removes the top item, read as a number of at most four bytes, in shortest form when
`minimal` is set. -/
def popNum (s : Stack) (minimal : Bool) : Except ScriptError (Int × Stack) := do
  let (v, s) ← pop s
  match ScriptNum.decode v minimal 4 with
  | .ok n => .ok (n, s)
  | .error e => .error (ScriptNum.DecodeError.toScriptError e)

/-- Removes the top item, read as a boolean. -/
def popBool (s : Stack) : Except ScriptError (Bool × Stack) := do
  let (v, s) ← pop s
  return (v.asBool, s)

/-- Repeats `k` times: remove the item at depth `i` and push it on top. -/
def moveUp (i : Int) : Nat → Stack → Except ScriptError Stack
  | 0, s => .ok s
  | k + 1, s => do
    let (v, s) ← nip s i
    moveUp i k (v :: s)

/-- Repeats `k` times: copy the item at depth `i` on top. -/
def copyUp (i : Int) : Nat → Stack → Except ScriptError Stack
  | 0, s => .ok s
  | k + 1, s => do
    let v ← peek s i
    copyUp i k (v :: s)

/-- Removes the top `k` items one by one. -/
def drop : Nat → Stack → Except ScriptError Stack
  | 0, s => .ok s
  | k + 1, s => do
    let (_, s) ← pop s
    drop k s

/-- Copies the top `k` items, keeping their order. -/
def dup (k : Nat) (s : Stack) : Except ScriptError Stack := copyUp (k - 1) k s

/-- Moves the third group of `k` items to the top. -/
def rot (k : Nat) (s : Stack) : Except ScriptError Stack := moveUp (3 * k - 1) k s

/-- Exchanges the top two groups of `k` items. -/
def swap (k : Nat) (s : Stack) : Except ScriptError Stack := moveUp (2 * k - 1) k s

/-- Copies the second group of `k` items to the top. -/
def copyOver (k : Nat) (s : Stack) : Except ScriptError Stack := copyUp (2 * k - 1) k s

end Stack

end BranchLock

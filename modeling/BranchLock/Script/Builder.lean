import BranchLock.Script.Opcode
import BranchLock.Script.Number
import BranchLock.Data.Failure

/-!
# Building scripts in canonical form

A script is built from a list of `Push` instructions: a single opcode, a run of raw script
bytes, or a data element, which is written in its shortest push form (a small-number opcode
where one exists, a direct push up to 75 bytes, then `OP_PUSHDATA1/2/4`). Building refuses a
script longer than `maxScriptSize` and a data element longer than `maxElementSize`; the first
instruction that breaks a limit decides the error, and nothing after it is looked at.

The main statements are `build_eq_ok_iff`, that building succeeds exactly when no prefix of the
instructions breaks a limit, and `build_ok_eq`, that the built script is the concatenation of
the encoded instructions.
-/

namespace BranchLock

/-- The longest script the builder produces. -/
def maxScriptSize : Nat := 10000

/-- The longest data element a script may push. -/
def maxElementSize : Nat := 520

/-- One instruction of a script under construction. -/
inductive Push where
  /-- A single opcode byte. -/
  | op (b : UInt8)
  /-- Raw script bytes, copied as they are. -/
  | raw (bs : Bytes)
  /-- A data element, written in its shortest push form. -/
  | data (bs : Bytes)
  /-- A number, written as a small-number opcode or as the push of its shortest form. -/
  | num (v : Int)
  deriving DecidableEq, Repr

/-- Why a script could not be built in canonical form. -/
inductive BuildError where
  /-- One more opcode would make the script too long. -/
  | opcodeTooLong
  /-- The raw bytes would make the script too long. -/
  | opcodesTooLong
  /-- One more number would make the script too long. -/
  | integerTooLong
  /-- The push of a data element of this encoded size would make the script too long. -/
  | dataTooLong (size : Nat)
  /-- A data element of this length exceeds the element limit. -/
  | elementTooLarge (len : Nat)
  deriving DecidableEq, Repr

/-- The text of a build error. -/
def BuildError.message : BuildError → String
  | .opcodeTooLong =>
    "adding an opcode would exceed the maximum allowed canonical script length of " ++
      toString maxScriptSize
  | .opcodesTooLong =>
    "adding opcodes would exceed the maximum allowed canonical script length of " ++
      toString maxScriptSize
  | .integerTooLong =>
    "adding an integer would exceed the maximum allow canonical script length of " ++
      toString maxScriptSize
  | .dataTooLong size =>
    "adding " ++ toString size ++ " bytes of data would exceed the maximum allowed " ++
      "canonical script length of " ++ toString maxScriptSize
  | .elementTooLarge len =>
    "adding a data element of " ++ toString len ++ " bytes would exceed the maximum " ++
      "allowed script element size of " ++ toString maxElementSize

/-- A build error is the builder's refusal of a script that is not canonical. -/
instance : Failure BuildError where
  message := BuildError.message
  origin _ := (.builder, "ErrScriptNotCanonical")

namespace Push

/-- The shortest push of a data element. -/
def encodeData (bs : Bytes) : Bytes :=
  match bs with
  | [] => [Opcode.op0]
  | [b] =>
    if b = 0 then [Opcode.op0]
    else if b ≤ 16 then [Opcode.op1 - 1 + b]
    else if b = 0x81 then [Opcode.op1Negate]
    else [1, b]
  | _ =>
    let n := bs.length
    if n < 0x4c then UInt8.ofNat n :: bs
    else if n ≤ 0xff then Opcode.pushData1 :: UInt8.ofNat n :: bs
    else if n ≤ 0xffff then Opcode.pushData2 :: Bytes.ofNatLE 2 n ++ bs
    else Opcode.pushData4 :: Bytes.ofNatLE 4 n ++ bs

/-- The shortest push of an element of up to `0xffff` bytes adds at most three bytes to it. -/
theorem length_encodeData_le (bs : Bytes) (h : bs.length ≤ 0xffff) :
    (encodeData bs).length ≤ bs.length + 3 := by
  unfold encodeData
  split
  · simp
  · repeat' split
    all_goals simp
  · simp only
    repeat' split
    all_goals simp
    omega

/-- The bytes an instruction adds to the script. -/
def encode : Push → Bytes
  | .op b => [b]
  | .raw bs => bs
  | .data bs => encodeData bs
  | .num v =>
    if v = 0 then [Opcode.op0]
    else if v = -1 ∨ (1 ≤ v ∧ v ≤ 16) then [UInt8.ofNat (0x50 + v).toNat]
    else encodeData (ScriptNum.encode v)

/-- The error an instruction raises when added to a script of `used` bytes, if any. -/
def check (used : Nat) : Push → Option BuildError
  | .op _ => if used + 1 > maxScriptSize then some .opcodeTooLong else none
  | .raw bs => if used + bs.length > maxScriptSize then some .opcodesTooLong else none
  | .data bs =>
    let size := (encodeData bs).length
    if used + size > maxScriptSize then some (.dataTooLong size)
    else if bs.length > maxElementSize then some (.elementTooLarge bs.length)
    else none
  | .num v =>
    if used + 1 > maxScriptSize then some .integerTooLong
    else if v = 0 ∨ v = -1 ∨ (1 ≤ v ∧ v ≤ 16) then none
    else
      let bs := ScriptNum.encode v
      let size := (encodeData bs).length
      if used + size > maxScriptSize then some (.dataTooLong size)
      else if bs.length > maxElementSize then some (.elementTooLarge bs.length)
      else none

end Push

/-- The first error met when the instructions are added, in order, to a script of `used` bytes. -/
def Push.firstError : Nat → List Push → Option BuildError
  | _, [] => none
  | used, p :: ps =>
    match p.check used with
    | some e => some e
    | none => firstError (used + p.encode.length) ps

/-- Builds a script from instructions, or reports the first limit broken. -/
def Push.build (ps : List Push) : Except BuildError Bytes :=
  match Push.firstError 0 ps with
  | some e => .error e
  | none => .ok (ps.flatMap Push.encode)

/-- A single push of each data element. -/
def Push.datas (items : List Bytes) : List Push := items.map Push.data

/-- A build succeeds exactly when no instruction breaks a limit, and then gives the encoded
instructions. -/
theorem Push.build_eq_ok_iff (ps : List Push) (s : Bytes) :
    Push.build ps = .ok s ↔ Push.firstError 0 ps = none ∧ s = ps.flatMap Push.encode := by
  unfold Push.build
  cases h : Push.firstError 0 ps with
  | none => simp [eq_comm]
  | some e => simp

/-- A built script is the concatenation of its encoded instructions. -/
theorem Push.build_ok_eq {ps : List Push} {s : Bytes} (h : Push.build ps = .ok s) :
    s = ps.flatMap Push.encode :=
  ((Push.build_eq_ok_iff ps s).1 h).2

end BranchLock

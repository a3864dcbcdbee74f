import BranchLock.Data.Bytes

/-!
# Opcodes

A script is a sequence of one-byte opcodes, some followed by the data they push. This module
names the 256 opcode bytes, fixes the constants the rest of the library builds scripts from, and
says how much data each push opcode carries.

`Opcode.dataLength` sorts every byte into one of three cases: no data, a fixed number of
following bytes (the direct pushes `0x01`‥`0x4b`), or a little-endian length prefix of 1, 2 or
4 bytes (`OP_PUSHDATA1/2/4`).
-/

namespace BranchLock

namespace Opcode

/-- Pushes the empty byte string (also read as false). -/
def op0 : UInt8 := 0x00
/-- Pushes the data whose length follows in one byte. -/
def pushData1 : UInt8 := 0x4c
/-- Pushes the data whose length follows in two little-endian bytes. -/
def pushData2 : UInt8 := 0x4d
/-- Pushes the data whose length follows in four little-endian bytes. -/
def pushData4 : UInt8 := 0x4e
/-- Pushes the number -1. -/
def op1Negate : UInt8 := 0x4f
/-- Pushes the number 1 (also read as true). -/
def op1 : UInt8 := 0x51
/-- Pushes the number 16. -/
def op16 : UInt8 := 0x60
/-- Opens a conditional that runs its first arm when the top of the stack is true. -/
def opIf : UInt8 := 0x63
/-- Opens a conditional that runs its first arm when the top of the stack is false. -/
def opNotIf : UInt8 := 0x64
/-- A conditional that is invalid even where it is not executed. -/
def opVerIf : UInt8 := 0x65
/-- A conditional that is invalid even where it is not executed. -/
def opVerNotIf : UInt8 := 0x66
/-- Switches to the other arm of the innermost conditional. -/
def opElse : UInt8 := 0x67
/-- Closes the innermost conditional. -/
def opEndIf : UInt8 := 0x68
/-- Duplicates the top item. -/
def opDup : UInt8 := 0x76
/-- Compares the two top items for equality. -/
def opEqual : UInt8 := 0x87
/-- Compares the two top items for equality and fails if they differ. -/
def opEqualVerify : UInt8 := 0x88
/-- Replaces the top item with its RIPEMD-160 of SHA-256. -/
def opHash160 : UInt8 := 0xa9
/-- Checks one signature against one public key. -/
def opCheckSig : UInt8 := 0xac
/-- Checks m signatures against n public keys. -/
def opCheckMultiSig : UInt8 := 0xae

/-- The number of data bytes that follow an opcode: none, a fixed count, or a count read from a
little-endian prefix of the given width. -/
inductive DataLength where
  /-- The opcode carries no data. -/
  | none
  /-- The opcode is followed by exactly this many data bytes. -/
  | fixed (n : Nat)
  /-- The opcode is followed by a little-endian length of this many bytes, then the data. -/
  | prefixed (width : Nat)
  deriving DecidableEq, Repr

/-- How much data an opcode byte carries. -/
def dataLength (op : UInt8) : DataLength :=
  if 1 ≤ op.toNat ∧ op.toNat ≤ 75 then .fixed op.toNat
  else if op = pushData1 then .prefixed 1
  else if op = pushData2 then .prefixed 2
  else if op = pushData4 then .prefixed 4
  else .none

/-- Names of the opcodes from `0x4c` to `0xb9`, in byte order. -/
def namesFrom4c : List String :=
  ["OP_PUSHDATA1", "OP_PUSHDATA2", "OP_PUSHDATA4", "OP_1NEGATE", "OP_RESERVED",
   "OP_1", "OP_2", "OP_3", "OP_4", "OP_5", "OP_6", "OP_7", "OP_8", "OP_9", "OP_10", "OP_11",
   "OP_12", "OP_13", "OP_14", "OP_15", "OP_16",
   "OP_NOP", "OP_VER", "OP_IF", "OP_NOTIF", "OP_VERIF", "OP_VERNOTIF", "OP_ELSE", "OP_ENDIF",
   "OP_VERIFY", "OP_RETURN",
   "OP_TOALTSTACK", "OP_FROMALTSTACK", "OP_2DROP", "OP_2DUP", "OP_3DUP", "OP_2OVER", "OP_2ROT",
   "OP_2SWAP", "OP_IFDUP", "OP_DEPTH", "OP_DROP", "OP_DUP", "OP_NIP", "OP_OVER", "OP_PICK",
   "OP_ROLL", "OP_ROT", "OP_SWAP", "OP_TUCK",
   "OP_CAT", "OP_SUBSTR", "OP_LEFT", "OP_RIGHT", "OP_SIZE",
   "OP_INVERT", "OP_AND", "OP_OR", "OP_XOR", "OP_EQUAL", "OP_EQUALVERIFY", "OP_RESERVED1",
   "OP_RESERVED2",
   "OP_1ADD", "OP_1SUB", "OP_2MUL", "OP_2DIV", "OP_NEGATE", "OP_ABS", "OP_NOT", "OP_0NOTEQUAL",
   "OP_ADD", "OP_SUB", "OP_MUL", "OP_DIV", "OP_MOD", "OP_LSHIFT", "OP_RSHIFT", "OP_BOOLAND",
   "OP_BOOLOR", "OP_NUMEQUAL", "OP_NUMEQUALVERIFY", "OP_NUMNOTEQUAL", "OP_LESSTHAN",
   "OP_GREATERTHAN", "OP_LESSTHANOREQUAL", "OP_GREATERTHANOREQUAL", "OP_MIN", "OP_MAX",
   "OP_WITHIN",
   "OP_RIPEMD160", "OP_SHA1", "OP_SHA256", "OP_HASH160", "OP_HASH256", "OP_CODESEPARATOR",
   "OP_CHECKSIG", "OP_CHECKSIGVERIFY", "OP_CHECKMULTISIG", "OP_CHECKMULTISIGVERIFY",
   "OP_NOP1", "OP_CHECKLOCKTIMEVERIFY", "OP_CHECKSEQUENCEVERIFY", "OP_NOP4", "OP_NOP5",
   "OP_NOP6", "OP_NOP7", "OP_NOP8", "OP_NOP9", "OP_NOP10", "OP_CHECKSIGADD"]

/-- The name of an opcode byte, as scripts are disassembled and errors name them. -/
def name (op : UInt8) : String :=
  let n := op.toNat
  if n = 0 then "OP_0"
  else if n ≤ 75 then "OP_DATA_" ++ toString n
  else if n ≤ 0xba then namesFrom4c.getD (n - 0x4c) ""
  else if n ≤ 0xf9 then "OP_UNKNOWN" ++ toString n
  else if n = 0xfa then "OP_SMALLINTEGER"
  else if n = 0xfb then "OP_PUBKEYS"
  else if n = 0xfc then "OP_UNKNOWN252"
  else if n = 0xfd then "OP_PUBKEYHASH"
  else if n = 0xfe then "OP_PUBKEY"
  else "OP_INVALIDOPCODE"

/-- Whether an opcode opens, switches or closes a conditional. -/
def isConditional (op : UInt8) : Bool :=
  op = opIf || op = opNotIf || op = opVerIf || op = opVerNotIf || op = opElse || op = opEndIf

/-- Opcodes that push a small number: `OP_0`, `OP_1NEGATE` and `OP_1`‥`OP_16`. -/
def isSmallInt (op : UInt8) : Bool :=
  op = op0 || op = op1Negate || (op1 ≤ op && op ≤ op16)

/-- The number an `OP_0`, `OP_1NEGATE` or `OP_1`‥`OP_16` pushes. -/
def smallIntValue (op : UInt8) : Int :=
  if op = op0 then 0 else if op = op1Negate then -1 else (op.toNat : Int) - 0x50

end Opcode

end BranchLock

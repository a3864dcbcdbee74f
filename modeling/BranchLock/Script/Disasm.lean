import BranchLock.Script.Token
import BranchLock.Data.Hex

/-!
# One-line disassembly

A script is shown on one line, its tokens separated by single spaces: a push as the hexadecimal
text of its data, a small-number opcode as its number (`0`, `-1`, `1`‥`16`), and any other
opcode by its name. A malformed push ends the line with `[error]`.
-/

namespace BranchLock

/-- The one-line text of a token. -/
def Token.disasm : Token → String
  | .push _ d => Hex.encode d
  | .op b =>
    if b = Opcode.op0 then "0"
    else if b = Opcode.op1Negate then "-1"
    else if Opcode.op1 ≤ b ∧ b ≤ Opcode.op16 then toString (b.toNat - 0x50)
    else Opcode.name b

/-- The one-line disassembly of a script, and the malformed push that ends it, if any. -/
def Script.disasm (bs : Bytes) : String × Option PushError :=
  let (ts, err) := Script.parse bs
  let body := " ".intercalate (ts.map Token.disasm)
  match err with
  | none => (body, none)
  | some e => (body ++ (if ts.isEmpty then "" else " ") ++ "[error]", some e)

end BranchLock

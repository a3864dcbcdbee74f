import BranchLock.Script.Opcode

/-!
# Reading a script into tokens

A script reads, from the left, as a sequence of tokens: an opcode on its own, or a push opcode
with the data it carries. Reading stops at the first push whose length prefix or data runs past
the end of the script; that push is reported as malformed, with the tokens read before it.

A data length read from a four-byte prefix is taken as a signed 32-bit number, so a prefix
above `2^31 - 1` reads as negative and is refused like one that runs past the end.

`Token.next_rest_length` says that reading a token never lengthens the rest, which is what
makes reading a whole script terminate.
-/

namespace BranchLock

/-- One token of a script. -/
inductive Token where
  /-- An opcode that carries no data. -/
  | op (b : UInt8)
  /-- A push opcode and the data it carries. -/
  | push (b : UInt8) (data : Bytes)
  deriving DecidableEq, Repr

/-- A push that runs past the end of its script. -/
inductive PushError where
  /-- The opcode needs `need` bytes (its length prefix, or itself and its data) and only
  `remaining` are left. -/
  | short (op : UInt8) (need remaining : Nat)
  /-- The length prefix announces `len` data bytes and only `remaining` are left. -/
  | overrun (op : UInt8) (len : Int) (remaining : Nat)
  deriving DecidableEq, Repr

/-- The text of a malformed push. -/
def PushError.message : PushError → String
  | .short op need remaining =>
    "opcode " ++ Opcode.name op ++ " requires " ++ toString need ++
      " bytes, but script only has " ++ toString remaining ++ " remaining"
  | .overrun op len remaining =>
    "opcode " ++ Opcode.name op ++ " pushes " ++ toString len ++
      " bytes, but script only has " ++ toString remaining ++ " remaining"

namespace Token

/-- The opcode byte of a token. -/
def opcode : Token → UInt8
  | .op b => b
  | .push b _ => b

/-- The data a token pushes, if it is a push. -/
def data? : Token → Option Bytes
  | .op _ => none
  | .push _ d => some d

/-- The script bytes of a token: its opcode, its length prefix if any, and its data. -/
def encode : Token → Bytes
  | .op b => [b]
  | .push b d =>
    match Opcode.dataLength b with
    | .prefixed w => b :: Bytes.ofNatLE w d.length ++ d
    | _ => b :: d

end Token

/-- A signed 32-bit reading of a natural number below `2^32`. -/
def int32OfNat (n : Nat) : Int := if n < Nat.pow 2 31 then n else (n : Int) - (Nat.pow 2 32 : Nat)

/-- Reads one token from a non-empty script: the token and the rest, or the malformed push. -/
def Token.next (op : UInt8) (rest : Bytes) : Except PushError (Token × Bytes) :=
  match Opcode.dataLength op with
  | .none => .ok (.op op, rest)
  | .fixed n =>
    if rest.length < n then .error (.short op (n + 1) (rest.length + 1))
    else .ok (.push op (rest.take n), rest.drop n)
  | .prefixed w =>
    if rest.length < w then .error (.short op w rest.length)
    else
      let len := int32OfNat (Bytes.toNatLE (rest.take w))
      let body := rest.drop w
      if len < 0 ∨ len > body.length then .error (.overrun op len body.length)
      else .ok (.push op (body.take len.toNat), body.drop len.toNat)

/-- Reading a token never lengthens the rest of the script. -/
theorem Token.next_rest_length {op : UInt8} {rest : Bytes} {t : Token} {r : Bytes}
    (h : Token.next op rest = .ok (t, r)) : r.length ≤ rest.length := by
  unfold Token.next at h
  split at h
  · simp at h; obtain ⟨-, rfl⟩ := h; exact Nat.le_refl _
  · split at h
    · simp at h
    · simp at h; obtain ⟨-, rfl⟩ := h; simp
  · split at h
    · simp at h
    · simp only at h
      split at h
      · simp at h
      · simp at h; obtain ⟨-, rfl⟩ := h; simp

/-- The tokens of a script, and the malformed push that ends reading early, if any. -/
def Script.parse : Bytes → List Token × Option PushError
  | [] => ([], none)
  | op :: rest =>
    match h : Token.next op rest with
    | .error e => ([], some e)
    | .ok (t, r) =>
      have : r.length < rest.length + 1 := Nat.lt_succ_of_le (Token.next_rest_length h)
      let (ts, e) := Script.parse r
      (t :: ts, e)
termination_by bs => bs.length

/-- The tokens of a script that reads completely, or its malformed push. -/
def Script.tokens (bs : Bytes) : Except PushError (List Token) :=
  match Script.parse bs with
  | (ts, none) => .ok ts
  | (_, some e) => .error e

/-- Whether a script reads completely. -/
def Script.parses (bs : Bytes) : Bool := (Script.parse bs).2.isNone

/-- The data pushed by a script, in order, with `OP_0` counted as pushing nothing; opcodes that
push no data are skipped. Fails on a malformed push. -/
def Script.pushedData (bs : Bytes) : Except PushError (List Bytes) :=
  (Script.tokens bs).map fun ts =>
    ts.filterMap fun t =>
      match t with
      | .push _ d => some d
      | .op b => if b = Opcode.op0 then some [] else none

end BranchLock

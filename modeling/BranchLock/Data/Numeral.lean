import BranchLock.Data.Text

/-!
# Decimal integers in texts

Counts, indices and lock times are read from decimal texts of a fixed width: an optional sign
(for signed readings), then one or more digits, nothing else. A text is a byte string and is
read a byte at a time, so any byte outside the ASCII digits is refused. The digits are read left
to right
and the first problem met is the one reported: a character that is not a digit makes the text
*invalid*, and a value that no longer fits the width makes it *out of range*, even when an
invalid character follows. Leading zeros are allowed.
-/

namespace BranchLock

/-- Why a text is not a number of the width asked for. -/
inductive NumProblem where
  /-- The text is not a number. -/
  | malformed
  /-- The number does not fit. -/
  | range
  deriving DecidableEq, Repr

/-- A refused reading of a number: what reading was asked for, of which text, and why. -/
structure NumError where
  /-- The reading asked for, such as `Atoi` or `ParseUint`. -/
  reading : String
  /-- The text. -/
  text : Bytes
  /-- What is wrong with it. -/
  problem : NumProblem
  deriving DecidableEq, Repr

/-- The text of a number reading error. -/
def NumError.message (e : NumError) : String :=
  "strconv." ++ e.reading ++ ": parsing " ++ quoteBytes e.text ++ ": " ++
    (match e.problem with
      | .malformed => "invalid syntax"
      | .range => "value out of range")

/-- Reads decimal digits left to right, refusing a value above `max`. -/
def readDigits (max : Nat) : Nat → List Char → Except NumProblem Nat
  | n, [] => .ok n
  | n, c :: cs =>
    if c.isDigit then
      let n' := 10 * n + (c.toNat - '0'.toNat)
      if n' > max then .error .range else readDigits max n' cs
    else .error .malformed

/-- Reads an unsigned decimal number of `bits` bits. -/
def parseUnsigned (bits : Nat) (s : Bytes) : Except NumProblem Nat :=
  if s.isEmpty then .error .malformed else readDigits (Nat.pow 2 bits - 1) 0 s.chars

/-- Reads a signed decimal number of `bits` bits. -/
def parseSigned (bits : Nat) (s : Bytes) : Except NumProblem Int :=
  let (neg, digits) := match s.chars with
    | '+' :: rest => (false, rest)
    | '-' :: rest => (true, rest)
    | cs => (false, cs)
  if digits.isEmpty then .error .malformed
  else
    match readDigits (Nat.pow 2 bits - 1) 0 digits with
    | .error .malformed => .error .malformed
    | .error .range => .error .range
    | .ok n =>
      let half := Nat.pow 2 (bits - 1)
      if (!neg ∧ n ≥ half) ∨ (neg ∧ n > half) then .error .range
      else .ok (if neg then -(n : Int) else n)

/-- Reads a number as `Atoi` does: signed, 64 bits. -/
def atoi (s : Bytes) : Except NumError Int :=
  (parseSigned 64 s).mapError fun p => ⟨"Atoi", s, p⟩

/-- Reads an unsigned number as `ParseUint` does. -/
def parseUint (bits : Nat) (s : Bytes) : Except NumError Nat :=
  (parseUnsigned bits s).mapError fun p => ⟨"ParseUint", s, p⟩

/-- Reads a signed number as `ParseInt` does. -/
def parseInt (bits : Nat) (s : Bytes) : Except NumError Int :=
  (parseSigned bits s).mapError fun p => ⟨"ParseInt", s, p⟩

end BranchLock

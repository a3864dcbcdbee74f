import BranchLock.Data.Numeral

/-!
# Double precision numbers

Amounts typed in bitcoin pass through double precision arithmetic, so converting them to
satoshis and back is computed here exactly as the hardware does. A finite double is
`± m · 2^e` with `m < 2^53` and `e ≥ -1074`; every operation computes its exact rational result
and rounds it once to the nearest double, ties to an even significand, overflowing to an
infinity. The printing and reading of doubles are done on exact values too: a fixed number of
decimals is the exact value rounded half to even, and reading a decimal or hexadecimal text
rounds the exact number it writes.
-/

namespace BranchLock

/-- A double precision number. -/
inductive Binary64 where
  /-- `± mantissa · 2^exponent`. -/
  | finite (neg : Bool) (mantissa : Nat) (exponent : Int)
  /-- An infinity. -/
  | inf (neg : Bool)
  /-- Not a number. -/
  | nan
  deriving DecidableEq, Repr

namespace Binary64

/-- The length in bits of a positive number. -/
def bitLength (n : Nat) : Nat := if n = 0 then 0 else Nat.log2 n + 1

/-- `p / q` rounded to the nearest integer, ties to even. -/
def roundHalfEven (p q : Nat) : Nat :=
  let d := p / q
  let r := p % q
  if 2 * r > q then d + 1
  else if 2 * r < q then d
  else if d % 2 = 0 then d else d + 1

/-- `p · 2^k` as a fraction of naturals, for any integer `k`. -/
def scaled (p : Nat) (k : Int) : Nat × Nat :=
  if k ≥ 0 then (p * Nat.pow 2 k.toNat, 1) else (p, Nat.pow 2 (-k).toNat)

/-- The nearest double to `± p / q`, for `q > 0`. -/
def ofRatio (neg : Bool) (p q : Nat) : Binary64 :=
  if p = 0 then .finite neg 0 0
  else
    -- an exponent `k` with `2^52 ≤ p / q / 2^k < 2^54`, then no lower than the subnormal one
    let k0 : Int := (bitLength p : Int) - (bitLength q : Int) - 53
    let k := max k0 (-1074)
    let (num, den) := scaled p (-k)
    let m := roundHalfEven num (q * den)
    -- the rounded significand may need one bit more than 53
    let (m, k) := if m ≥ Nat.pow 2 53 then (roundHalfEven num (2 * q * den), k + 1) else (m, k)
    let (m, k) := if m ≥ Nat.pow 2 53 then (m / 2, k + 1) else (m, k)
    if (bitLength m : Int) + k > 1024 then .inf neg else .finite neg m k

/-- The nearest double to an integer. -/
def ofInt (n : Int) : Binary64 := ofRatio (n < 0) n.natAbs 1

/-- A finite double's magnitude as a fraction of naturals. -/
def ratio (m : Nat) (e : Int) : Nat × Nat := scaled m e

/-- Whether a double is below zero. -/
def isNeg : Binary64 → Bool
  | .finite neg m _ => neg && m ≠ 0
  | .inf neg => neg
  | .nan => false

/-- The double nearest to this one times `p / q`, for positive finite factors. -/
def scale (x : Binary64) (p q : Nat) : Binary64 :=
  match x with
  | .finite neg m e =>
    let (a, b) := ratio m e
    ofRatio neg (a * p) (b * q)
  | other => other

/-- The double nearest to this one's magnitude plus one half, with this one's sign. -/
def awayByHalf (x : Binary64) : Binary64 :=
  match x with
  | .finite neg m e =>
    let (a, b) := ratio m e
    ofRatio neg (2 * a + b) (2 * b)
  | other => other

/-- Whether a finite double is a whole number. -/
def isWhole : Binary64 → Bool
  | .finite _ m e => e ≥ 0 || m % Nat.pow 2 (-e).toNat = 0
  | _ => false

/-- The integer part of a finite double, toward zero. -/
def truncate : Binary64 → Option Int
  | .finite neg m e =>
    let (a, b) := ratio m e
    let t : Int := a / b
    some (if neg then -t else t)
  | _ => none

/-- The text of a finite double with exactly `d` decimals, rounded half to even. -/
def fixedText (x : Binary64) (d : Nat) : String :=
  match x with
  | .finite neg m e =>
    let (a, b) := ratio m e
    let n := roundHalfEven (a * Nat.pow 10 d) b
    let digits := toString n
    let digits := String.ofList (List.replicate (d + 1 - digits.length) '0') ++ digits
    let whole := digits.take (digits.length - d)
    let frac := digits.drop (digits.length - d)
    (if neg then "-" else "") ++ whole.toString ++
      (if d = 0 then "" else "." ++ frac.toString)
  | .inf neg => if neg then "-Inf" else "+Inf"
  | .nan => "NaN"

/-- How many leading characters of a text spell a word, ignoring case. -/
def commonPrefix : List Char → List Char → Nat
  | c :: cs, w :: ws => if c.toLower = w then commonPrefix cs ws + 1 else 0
  | _, _ => 0

/-- The value of a hexadecimal digit. -/
def hexValue (c : Char) : Option Nat :=
  if c.isDigit then some (c.toNat - '0'.toNat)
  else if 'a' ≤ c.toLower ∧ c.toLower ≤ 'f' then some (c.toLower.toNat - 'a'.toNat + 10)
  else none

/-- Whether the underscores of a number text stand between digits, or between a base prefix
and a digit. -/
def underscoresOk (cs : List Char) : Bool :=
  let cs := match cs with
    | '+' :: rest => rest
    | '-' :: rest => rest
    | _ => cs
  let (hex, body, start) : Bool × List Char × Char := match cs with
    | '0' :: b :: rest =>
      if b.toLower = 'x' then (true, rest, '0')
      else if b.toLower = 'b' ∨ b.toLower = 'o' then (false, rest, '0')
      else (false, cs, '^')
    | _ => (false, cs, '^')
  let step (saw : Option Char) (c : Char) : Option Char :=
    match saw with
    | none => none
    | some last =>
      if c.isDigit ∨ (hex ∧ (hexValue c).isSome) then some '0'
      else if c = '_' then (if last = '0' then some '_' else none)
      else if last = '_' then none
      else some '!'
  match body.foldl step (some start) with
  | some last => last ≠ '_'
  | none => false

/-- The digits part of a number text: the digits without leading zeros, the position of the
point counted in digits, whether a point was seen, and the rest of the text. -/
structure DigitRun where
  /-- The value of the digits read, leading zeros dropped. -/
  value : Nat := 0
  /-- How many digits count, leading zeros dropped. -/
  count : Nat := 0
  /-- The position of the point among the counted digits. -/
  point : Int := 0
  /-- Whether a point was read. -/
  sawPoint : Bool := false
  /-- Whether any digit was read. -/
  sawDigit : Bool := false
  /-- Whether an underscore was read. -/
  underscores : Bool := false

/-- Reads the digits of a mantissa in a base. -/
def readRun (base : Nat) : DigitRun → List Char → DigitRun × List Char
  | r, [] => (r, [])
  | r, c :: cs =>
    if c = '_' then readRun base { r with underscores := true } cs
    else if c = '.' then
      if r.sawPoint then (r, c :: cs)
      else readRun base { r with sawPoint := true, point := r.count } cs
    else
      match (if base = 16 then hexValue c else if c.isDigit then hexValue c else none) with
      | some d =>
        if d = 0 ∧ r.count = 0 then
          readRun base { r with sawDigit := true, point := r.point - 1 } cs
        else
          let r := { r with sawDigit := true, count := r.count + 1 }
          readRun base { r with value := base * r.value + d } cs
      | none => (r, c :: cs)

/-- Reads the digits of an exponent, capping its growth as the reader does. -/
def readExponent : Nat → Bool → List Char → Nat × Bool × List Char
  | e, u, c :: cs =>
    if c = '_' then readExponent e true cs
    else if c.isDigit then
      readExponent (if e < 10000 then 10 * e + (c.toNat - '0'.toNat) else e) u cs
    else (e, u, c :: cs)
  | e, u, [] => (e, u, [])

/-- Reads a whole text as a double, as `ParseFloat` does: decimal or hexadecimal, with `Inf`,
`Infinity` and `NaN` in any case; a finite number too large is refused as out of range. The text
is read a byte at a time. -/
def parse (s : Bytes) : Except NumProblem Binary64 := do
  let cs := s.chars
  -- the special values
  let (neg0, afterSign, signLen) := match cs with
    | '+' :: rest => (false, rest, 1)
    | '-' :: rest => (true, rest, 1)
    | _ => (false, cs, 0)
  let infLen := commonPrefix afterSign "infinity".toList
  let infLen := if 3 < infLen ∧ infLen < 8 then 3 else infLen
  if infLen = 3 ∨ infLen = 8 then
    if signLen + infLen = cs.length then return .inf neg0 else throw .malformed
  if signLen = 0 ∧ commonPrefix cs "nan".toList = 3 then
    if cs.length = 3 then return .nan else throw .malformed
  -- a number
  let hex : Bool := match afterSign with
    | '0' :: x :: _ :: _ => x.toLower == 'x'
    | _ => false
  let body := if hex then afterSign.drop 2 else afterSign
  let base := if hex then 16 else 10
  let (run, rest) := readRun base {} body
  if !run.sawDigit then throw .malformed
  let point : Int := if run.sawPoint then run.point else run.count
  let expChar := if hex then 'p' else 'e'
  let (shift, underscores, rest) ← match rest with
    | c :: more =>
      if c.toLower = expChar then
        let (sign, digits) := match more with
          | '+' :: r => ((1 : Int), r)
          | '-' :: r => (-1, r)
          | r => (1, r)
        match digits with
        | d :: _ =>
          if d.isDigit then
            let (e, u, rest) := readExponent 0 false digits
            pure (sign * e, u, rest)
          else throw .malformed
        | [] => throw .malformed
      else if hex then throw .malformed
      else pure (0, false, c :: more)
    | [] => if hex then throw .malformed else pure (0, false, [])
  if !rest.isEmpty then throw .malformed
  let consumed := cs.take (cs.length - rest.length)
  if (run.underscores || underscores) && !underscoresOk consumed then throw .malformed
  let x := if hex then
      let k : Int := 4 * (point - run.count) + shift
      let (a, b) := scaled run.value k
      ofRatio neg0 a b
    else
      let k : Int := point - run.count + shift
      if k ≥ 0 then ofRatio neg0 (run.value * Nat.pow 10 k.toNat) 1
      else ofRatio neg0 run.value (Nat.pow 10 (-k).toNat)
  match x with
  | .inf _ => throw .range
  | _ => return x

end Binary64

end BranchLock

import BranchLock.Data.Bytes

/-!
# Key ranges

Range scans over a key/value engine take a half-open range of keys in bytewise order: from
`start` (the beginning when absent) up to but not including `limit` (the end when absent).

`KeyRange.ofPrefix p` is the range of exactly the keys that begin with `p`: it starts at `p`,
and its limit is `p` cut after its last byte below `0xff`, with that byte raised by one; when
every byte is `0xff` (the empty prefix included) no key beyond `p` is too large, and the range
has no limit.
-/

namespace BranchLock

/-- A half-open range of keys in bytewise order. -/
structure KeyRange where
  /-- The smallest key in the range; the beginning when absent. -/
  start : Option Bytes := none
  /-- The first key past the range; the end when absent. -/
  limit : Option Bytes := none
  deriving DecidableEq, Repr

namespace KeyRange

/-- The least byte string above every string that starts with `p`, if there is one: `p` cut
after its last byte below `0xff`, with that byte raised by one. -/
def prefixLimit (p : Bytes) : Option Bytes :=
  match p.reverse.dropWhile (· = 0xff) with
  | [] => none
  | b :: rest => some ((b + 1) :: rest).reverse

/-- The range of the keys that start with `p`. -/
def ofPrefix (p : Bytes) : KeyRange := ⟨some p, prefixLimit p⟩

/-- Whether a key lies in a range. -/
def contains (r : KeyRange) (k : Bytes) : Bool :=
  (match r.start with
    | none => true
    | some s => Bytes.le s k) &&
  (match r.limit with
    | none => true
    | some l => Bytes.lt k l)

end KeyRange

end BranchLock

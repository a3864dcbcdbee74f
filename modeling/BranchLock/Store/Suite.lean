import BranchLock.Store.Engine
import BranchLock.Store.Range

/-!
# The engine contract as checks

Every backend must behave the same way on the uses the store makes of it. The contract is
written here as five runs on fresh engines, each ending in a verdict:

* *commit visibility* — writes of a batch are not seen before its commit and are seen after it,
  and reading a key twice gives the same value;
* *snapshot isolation* — a snapshot keeps seeing the contents as they were when it was taken;
* *delete* — a committed delete removes the key;
* *iteration* — an iterator yields exactly the entries of its range, in key order, for a prefix
  range, a bounded range, an empty range and the whole key space, and releasing it twice is
  harmless;
* *release* — a discarded batch can be discarded again but not committed, a released snapshot
  can be released again but not read, and the engine then closes cleanly.

A run that meets an unexpected engine error fails its check.
-/

namespace BranchLock

/-- A check of the engine contract: its name and whether the engine met it. -/
structure Check where
  /-- The name of the check. -/
  name : String
  /-- Whether the engine met it. -/
  passed : Bool
  deriving DecidableEq, Repr

namespace Suite

/-- The bytes of a text of ASCII characters. -/
def ascii (cs : List Char) : Bytes := cs.map fun c => UInt8.ofNat c.toNat

/-- The verdict of a run: false when an engine call failed on the way. -/
def verdict (r : Except EngineError Bool) : Bool :=
  match r with
  | .ok b => b
  | .error _ => false

/-- Whether a read failed because the key is missing. -/
def isNotFound (r : Except EngineError Bytes) : Bool :=
  match r with
  | .error .notFound => true
  | _ => false

/-- Commits one write in a batch of its own. -/
def putNow (e : Engine) (key value : Bytes) : Except EngineError Engine := do
  let (tx, e) ← e.openBatch
  let e ← e.write tx (.put key value)
  e.commit tx

/-- Writes of a batch are seen exactly once it is committed. -/
def commitVisibility (b : Backend) : Bool := verdict do
  let key := ascii ['b', 's', 'e', 't', '-', 'a']
  let value : Bytes := [0x01, 0x02]
  let (tx, e) ← (Engine.empty b).openBatch
  let e ← e.write tx (.put key value)
  let (s, e) ← e.openView
  let seenBefore ← e.has s key
  let readBefore := e.get s key
  let e := e.releaseView s
  let e ← e.commit tx
  let e := e.discard tx
  let (s, e) ← e.openView
  let got ← e.get s key
  let again ← e.get s key
  let e := e.releaseView s
  let _ ← e.close
  return !seenBefore && isNotFound readBefore && got == value && again == value

/-- A snapshot sees the contents of the moment it was taken. -/
def snapshotIsolation (b : Backend) : Bool := verdict do
  let key := ascii ['k', 'e', 'y']
  let other := ascii ['o', 't', 'h', 'e', 'r']
  let e ← putNow (Engine.empty b) key (ascii ['o', 'l', 'd'])
  let (s, e) ← e.openView
  let e ← putNow e key (ascii ['n', 'e', 'w'])
  let e ← putNow e other (ascii ['x'])
  let got ← e.get s key
  let seen ← e.has s other
  let e := e.releaseView s
  let _ ← e.close
  return got == ascii ['o', 'l', 'd'] && !seen

/-- A committed delete removes the key. -/
def deletion (b : Backend) : Bool := verdict do
  let key := ascii ['k', 'e', 'y']
  let e ← putNow (Engine.empty b) key (ascii ['v', 'a', 'l', 'u', 'e'])
  let (tx, e) ← e.openBatch
  let e ← e.write tx (.delete key)
  let e ← e.commit tx
  let (s, e) ← e.openView
  let gone := isNotFound (e.get s key)
  let e := e.releaseView s
  let _ ← e.close
  return gone

/-- Advances an iterator to its end, collecting its entries. -/
def drain (e : Engine) (h : Nat) : Nat → List (Bytes × Bytes) × Engine
  | 0 => ([], e)
  | fuel + 1 =>
    let (more, e) := e.next h
    if !more then ([], e)
    else
      let here := (e.entry? h).toList
      let (rest, e) := drain e h fuel
      (here ++ rest, e)

/-- The keys stored for the iteration check. -/
def iterationEntries : List (Bytes × Bytes) :=
  let bset := ascii ['b', 's', 'e', 't']
  [(bset ++ [0x01], ascii ['o', 'n', 'e']), (bset ++ [0x02], ascii ['t', 'w', 'o']),
   (bset ++ [0xff], ascii ['m', 'a', 'x']),
   (ascii ['b', 's', 'f', 'x'], ascii ['a', 'f', 't', 'e', 'r']),
   (ascii ['b', 's', 'e', 'a'], ascii ['b', 'e', 'f', 'o', 'r', 'e'])]

/-- The ranges of the iteration check, each with the entries it must yield. -/
def iterationCases : List (KeyRange × List Nat) :=
  let bset := ascii ['b', 's', 'e', 't']
  [(KeyRange.ofPrefix bset, [0, 1, 2]),
   (⟨some (bset ++ [0x02]), some (bset ++ [0xff])⟩, [1]),
   (⟨some (bset ++ [0x03]), some (bset ++ [0x04])⟩, []),
   ({}, [4, 0, 1, 2, 3])]

/-- Runs one range of the iteration check on a snapshot. -/
def iterateCase (e : Engine) (s : Nat) (r : KeyRange) (want : List Nat) : Bool × Engine :=
  let (h, e) := e.openCursor s r
  let (got, e) := drain e h (iterationEntries.length + 1)
  let clean := (e.cursorError? h).isNone
  let e := (e.releaseCursor h).releaseCursor h
  (clean && got == want.filterMap (iterationEntries[·]?), e)

/-- Runs every range of the iteration check. -/
def iterateAll (e : Engine) (s : Nat) : List (KeyRange × List Nat) → Bool × Engine
  | [] => (true, e)
  | (r, want) :: rest =>
    let (ok, e) := iterateCase e s r want
    let (okRest, e) := iterateAll e s rest
    (ok && okRest, e)

/-- An iterator yields exactly the entries of its range, in key order. -/
def iteration (b : Backend) : Bool := verdict do
  let (tx, e) ← (Engine.empty b).openBatch
  let e ← iterationEntries.foldlM (fun e (k, v) => e.write tx (.put k v)) e
  let e ← e.commit tx
  let (s, e) ← e.openView
  let (ok, e) := iterateAll e s iterationCases
  let e := e.releaseView s
  let _ ← e.close
  return ok

/-- Released handles may be released again but not used. -/
def release (b : Backend) : Bool := verdict do
  let (tx, e) ← (Engine.empty b).openBatch
  let e := (e.discard tx).discard tx
  let commitRefused := (e.commit tx).toOption.isNone
  let (s, e) ← e.openView
  let e := (e.releaseView s).releaseView s
  let readRefused := (e.get s (ascii ['k', 'e', 'y'])).toOption.isNone
  let _ ← e.close
  return commitRefused && readRefused

/-- The checks of the engine contract on a backend. -/
def run (b : Backend) : List Check :=
  [⟨"CommitVisibility", commitVisibility b⟩, ⟨"SnapshotIsolation", snapshotIsolation b⟩,
   ⟨"Delete", deletion b⟩, ⟨"Iterator", iteration b⟩, ⟨"Release", release b⟩]

/-- Whether a backend meets the whole contract. -/
def passes (b : Backend) : Bool := (run b).all (·.passed)

end Suite

end BranchLock

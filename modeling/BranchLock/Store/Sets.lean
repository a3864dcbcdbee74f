import BranchLock.Store.Engine
import BranchLock.Store.Codec
import BranchLock.Store.Cache
import BranchLock.Branch.Error
import BranchLock.Data.Text

/-!
# The branch set store

Sets are stored under the key `"bset" ‖ script hash`, in the stored form of `Store.Codec`, and
kept in a cache as they are written and read. A set read back must hash to the hash it was
stored under. Listing walks every key with the prefix in key order, passes over keys of the wrong
length, and stops at the first entry that does not decode or that the visitor refuses.

Every failure is a `StoreError` with one of five codes; failures of the engine are wrapped with
what was being done. Once the engine is closed, sets still in the cache are answered from it and
everything else fails with the engine's error.
-/

namespace BranchLock

/-- The codes of store errors, in their numbering order. -/
inductive StoreCode where
  | setNotFound
  | corruptSet
  | notScriptHash
  | unknownBackend
  | driver
  deriving DecidableEq, Repr

/-- The name of a store error code. -/
def StoreCode.name : StoreCode → String
  | .setNotFound => "ErrSetNotFound"
  | .corruptSet => "ErrCorruptSet"
  | .notScriptHash => "ErrNotScriptHash"
  | .unknownBackend => "ErrUnknownDBType"
  | .driver => "ErrDriver"

/-- The codes in numbering order. -/
def StoreCode.all : List StoreCode :=
  [.setNotFound, .corruptSet, .notScriptHash, .unknownBackend, .driver]

/-- The text of a store error code number. -/
def StoreCode.describe (n : Int) : String :=
  describeErrorCode (StoreCode.all.map StoreCode.name) n

/-- Why a store call failed. -/
inductive StoreError where
  /-- No set is stored under a hash. -/
  | notFound (hash : Bytes)
  /-- The value under a hash is not the stored form of a set. -/
  | undecodable (hash : Bytes) (e : SetDecodeError)
  /-- The set under a hash hashes to another hash. -/
  | misfiled (hash actual : Bytes)
  /-- An address is not a pay-to-script-hash address. -/
  | notScriptHash (address : String)
  /-- No backend has the name. -/
  | unknownBackend (name : String)
  /-- The engine failed while doing what `what` says. -/
  | engine (what : String) (e : EngineError)
  /-- A backend could not open the database at a path, for the reason it gives. -/
  | unopenable (backend : Backend) (path : Bytes) (reason : String)
  deriving DecidableEq, Repr

/-- The code of a store error. -/
def StoreError.code : StoreError → StoreCode
  | .notFound _ => .setNotFound
  | .undecodable _ _ => .corruptSet
  | .misfiled _ _ => .corruptSet
  | .notScriptHash _ => .notScriptHash
  | .unknownBackend _ => .unknownBackend
  | .engine _ _ => .driver
  | .unopenable _ _ _ => .driver

/-- The text of a store error. -/
def StoreError.message : StoreError → String
  | .notFound h => "no branch set for script hash " ++ Hex.encode h
  | .undecodable h e => "unable to decode branch set " ++ Hex.encode h ++ ": " ++ e.message
  | .misfiled h a => "branch set stored under " ++ Hex.encode h ++ " hashes to " ++ Hex.encode a
  | .notScriptHash a => "address " ++ a ++ " is not a pay-to-script-hash address"
  | .unknownBackend n =>
    "unsupported database type " ++ quoteText n ++ " (supported: [" ++
      " ".intercalate (Backend.all.map Backend.name) ++ "])"
  | .engine what e => what ++ ": " ++ e.message
  | .unopenable b p why =>
    "unable to open " ++ b.name ++ " database at " ++ Utf8.display p ++ ": " ++ why

/-- A store error is reported by its text, under the store and its code. -/
instance : Failure StoreError where
  message := StoreError.message
  origin e := (.store, e.code.name)

/-- The prefix of the keys sets are stored under. -/
def setKeyPrefix : Bytes := Bytes.ofString "bset"

/-- The key a set is stored under. -/
def setKey (hash : Bytes) : Bytes := setKeyPrefix ++ hash

/-- Reads a stored set and checks that it hashes to the hash it is stored under. -/
def decodeStoredSet (hash value : Bytes) : Except StoreError BranchSet := do
  let s ← (BranchSet.deserialize value).mapError (.undecodable hash)
  if s.scriptHash ≠ hash then throw (.misfiled hash s.scriptHash)
  return s

/-- Why a walk over the stored sets stopped early. -/
inductive VisitError (ε : Type) where
  /-- A stored entry could not be read. -/
  | store (e : StoreError)
  /-- The visitor refused a set. -/
  | visitor (e : ε)

/-- A store of branch sets over an engine, with its cache. -/
structure SetStore where
  /-- The engine. -/
  engine : Engine
  /-- The cache. -/
  cache : SetCache

namespace SetStore

/-- The cache size used when none is asked for. -/
def defaultCacheSize : Nat := 256

/-- A store over an engine, with a cache of the given size (the default for zero). -/
def make (e : Engine) (cacheSize : Nat) : SetStore :=
  ⟨e, { limit := if cacheSize = 0 then defaultCacheSize else cacheSize }⟩

/-- Stores a set and caches it. -/
def putSet (s : SetStore) (set : BranchSet) : Except StoreError SetStore := do
  let hash := set.scriptHash
  let engine ← (s.engine.writeAll [.put (setKey hash) set.serialize]).mapError
    (.engine "unable to start transaction")
  return { engine := engine, cache := s.cache.add hash set }

/-- The set stored under a hash, from the cache when it holds it. The store comes back with the
cache as the lookup left it, also when no set is found: a lookup forgets a set whose hash the
recency list no longer holds. -/
def fetchSet (s : SetStore) (hash : Bytes) : SetStore × Except StoreError BranchSet :=
  let (cached, cache) := s.cache.lookup hash
  let s := { s with cache := cache }
  match cached with
  | some set => (s, .ok set)
  | none =>
    match s.engine.read (setKey hash) with
    | .error e => (s, .error (.engine "unable to open snapshot" e))
    | .ok none => (s, .error (.notFound hash))
    | .ok (some v) =>
      match decodeStoredSet hash v with
      | .error e => (s, .error e)
      | .ok set => ({ s with cache := s.cache.add hash set }, .ok set)

/-- The set an address pays to. -/
def fetchByAddress (s : SetStore) (a : Address) : SetStore × Except StoreError BranchSet :=
  match a with
  | .scriptHash h _ => s.fetchSet h
  | _ => (s, .error (.notScriptHash a.encode))

/-- Whether a set is stored under a hash; the cache's map answers first. -/
def hasSet (s : SetStore) (hash : Bytes) : Except StoreError Bool :=
  if s.cache.contains hash then .ok true
  else
    (s.engine.read (setKey hash)).map Option.isSome |>.mapError (.engine "unable to open snapshot")

/-- Removes the set stored under a hash. -/
def deleteSet (s : SetStore) (hash : Bytes) : Except StoreError SetStore := do
  if !(← s.hasSet hash) then throw (.notFound hash)
  let engine ← (s.engine.writeAll [.delete (setKey hash)]).mapError
    (.engine "unable to start transaction")
  return { engine := engine, cache := s.cache.delete hash }

/-- Visits stored entries in key order, threading the visitor's state; returns the state
reached and, if the walk stopped early, why. -/
def visitEntries {σ ε : Type} (visit : σ → Bytes → BranchSet → Except ε σ) :
    σ → List (Bytes × Bytes) → σ × Option (VisitError ε)
  | st, [] => (st, none)
  | st, (k, v) :: rest =>
    if k.length ≠ setKeyPrefix.length + 20 then visitEntries visit st rest
    else
      let hash := k.drop setKeyPrefix.length
      match decodeStoredSet hash v with
      | .error e => (st, some (.store e))
      | .ok set =>
        match visit st hash set with
        | .error e => (st, some (.visitor e))
        | .ok st => visitEntries visit st rest

/-- Visits every stored set in key order; the cache is neither read nor filled. Returns the
visitor's state and, if the walk stopped early, why. -/
def forEachSet {σ ε : Type} (s : SetStore) (visit : σ → Bytes → BranchSet → Except ε σ)
    (init : σ) : σ × Option (VisitError ε) :=
  match s.engine.scanNow (KeyRange.ofPrefix setKeyPrefix) with
  | .error e => (init, some (.store (.engine "unable to open snapshot" e)))
  | .ok entries => visitEntries visit init entries

/-- Closes the engine. -/
def close (s : SetStore) : Except EngineError SetStore := do
  return { s with engine := ← s.engine.close }

end SetStore

end BranchLock

import BranchLock.Store.Contents
import BranchLock.Data.Failure

/-!
# Key/value engines

Sets are stored through a small engine interface: write batches (transactions) that apply their
writes on commit, snapshots that read the contents as they were when taken, and iterators over a
key range of a snapshot. Two backends implement it, and they differ in the errors a handle used
past its end reports:

* on the *leveldb* backend a batch used after commit or discard fails with a plain error, a
  released snapshot fails with the backend's sentinel, and a released iterator reports the
  backend's iterator sentinel only once it is advanced after its release;
* on the *pebble* backend every such use fails with the backend's sentinels, and a released
  iterator reports the engine-level sentinel at once.

An iterator made from a released snapshot yields nothing and reports the snapshot's release.

An iterator copies each key it reaches into a buffer of its own. A leveldb iterator allocates
the buffer when it is made. A pebble iterator takes a buffer from a pool that released pebble
iterators return theirs to, and allocates it with the first non-empty key it copies; so the empty
key, copied into a buffer never allocated, reads as no key at all. The pool belongs to the
process, not to the engine: an engine starts with the buffers that the request just before it
left, and buffers left earlier than that are collected by then.
Closing an engine twice fails; once closed, no batch or snapshot can be opened.

An `Engine` holds the contents and every handle made so far, numbered in order of creation
separately for batches, snapshots and iterators.
-/

namespace BranchLock

/-- The two storage backends. -/
inductive Backend where
  | leveldb
  | pebble
  deriving DecidableEq, Repr

/-- The name a backend is chosen by. -/
def Backend.name : Backend → String
  | .leveldb => "leveldb"
  | .pebble => "pebble"

/-- The backends, in the order they are listed. -/
def Backend.all : List Backend := [.leveldb, .pebble]

/-- The backend of a name. -/
def Backend.ofName? (s : String) : Option Backend := Backend.all.find? (·.name = s)

/-- Errors of engine calls. -/
inductive EngineError where
  /-- A key is absent. -/
  | notFound
  /-- A pebble iterator was used after its release. -/
  | iteratorReleased
  /-- The engine is closed. -/
  | closed (b : Backend)
  /-- A snapshot was used after its release. -/
  | snapshotReleased (b : Backend)
  /-- A leveldb iterator was advanced after its release. -/
  | levelIteratorReleased
  /-- A batch was used after its commit or discard. -/
  | batchClosed (b : Backend)
  deriving DecidableEq, Repr

/-- The text of an engine error. -/
def EngineError.message : EngineError → String
  | .notFound => "engine: key not found"
  | .iteratorReleased => "engine: iterator released"
  | .closed .leveldb => "leveldb: closed"
  | .closed .pebble => "pebbledb: closed"
  | .snapshotReleased .leveldb => "leveldb: snapshot released"
  | .snapshotReleased .pebble => "pebbledb: snapshot released"
  | .levelIteratorReleased => "leveldb: iterator released"
  | .batchClosed .leveldb => "leveldb: transaction already closed"
  | .batchClosed .pebble => "pebbledb: transaction already closed"

/-- An engine error is reported by its text, under the engine contract or the backend that
raised it. -/
instance : Failure EngineError where
  message := EngineError.message
  origin
    | .notFound => (.engine, "ErrNotFound")
    | .iteratorReleased => (.engine, "ErrIterReleased")
    | .closed .leveldb => (.leveldb, "ErrClosed")
    | .closed .pebble => (.pebble, "ErrDbClosed")
    | .snapshotReleased .leveldb => (.leveldb, "ErrSnapshotReleased")
    | .snapshotReleased .pebble => (.pebble, "ErrSnapshotReleased")
    | .levelIteratorReleased => (.leveldb, "ErrIterReleased")
    | .batchClosed .leveldb => (.plain, "")
    | .batchClosed .pebble => (.pebble, "ErrTxClosed")

/-- A write batch: its writes so far, and whether it is committed or discarded. -/
structure Batch where
  /-- The writes, in order. -/
  writes : List Write := []
  /-- Whether the batch is committed or discarded. -/
  closed : Bool := false
  deriving DecidableEq, Repr

/-- A snapshot: the contents when it was taken. -/
structure View where
  /-- The contents seen. -/
  contents : Contents
  /-- Whether the snapshot is released. -/
  released : Bool := false
  deriving DecidableEq, Repr

/-- An iterator over the entries of a range of a snapshot. -/
structure Cursor where
  /-- The entries not reached yet. -/
  ahead : List (Bytes × Bytes)
  /-- The entry the iterator is at, if any. -/
  current : Option (Bytes × Bytes) := none
  /-- Whether the iterator was ever advanced. -/
  started : Bool := false
  /-- Whether the iterator is released. -/
  released : Bool := false
  /-- The error it reports, if any. -/
  failure : Option EngineError := none
  /-- Whether the buffer it copies keys into is allocated. -/
  keyBuffer : Bool := false
  deriving DecidableEq, Repr

namespace Cursor

/-- An iterator that yields nothing and reports an error. -/
def failed (e : EngineError) : Cursor := { ahead := [], failure := some e }

/-- Advances to the next entry; false when there is none or the iterator is unusable. -/
def next (b : Backend) (c : Cursor) : Bool × Cursor :=
  if c.failure.isSome then (false, c)
  else if c.released then
    match b with
    | .leveldb => (false, { c with failure := some .levelIteratorReleased })
    | .pebble => (false, c)
  else if c.started ∧ c.current.isNone then (false, c)
  else
    match c.ahead with
    | [] => (false, { c with current := none, started := true })
    | e :: rest =>
      (true, { c with current := some e, ahead := rest, started := true,
                      keyBuffer := c.keyBuffer || !e.1.isEmpty })

/-- The entry the iterator is at, if it is usable. -/
def entry? (c : Cursor) : Option (Bytes × Bytes) :=
  if c.failure.isSome ∨ c.released then none else c.current

/-- The key the iterator is at, as copied into its buffer: the empty key in a buffer never
allocated reads as no key. -/
def key? (c : Cursor) : Option Bytes :=
  c.entry?.bind fun (k, _) => if k.isEmpty && !c.keyBuffer then none else some k

/-- The error the iterator reports. -/
def error? (b : Backend) (c : Cursor) : Option EngineError :=
  match c.failure with
  | some e => some e
  | none => if c.released ∧ b = .pebble then some .iteratorReleased else none

/-- Releases the iterator. -/
def release (c : Cursor) : Cursor := { c with released := true, current := none }

end Cursor

/-- The key buffers that released pebble iterators leave for later ones. The first buffer
returned waits in a slot of its own and is handed out first; the others are handed out most
recently returned first. Each buffer is recorded by whether it is allocated. -/
structure BufferPool where
  /-- The buffer in the slot of its own. -/
  held : Option Bool := none
  /-- The other buffers, the most recently returned first. -/
  stack : List Bool := []
  deriving DecidableEq, Repr

namespace BufferPool

/-- Hands out a buffer, telling whether it is allocated; an empty pool hands out a fresh one. -/
def take (p : BufferPool) : Bool × BufferPool :=
  match p.held, p.stack with
  | some b, _ => (b, { p with held := none })
  | none, b :: rest => (b, { p with stack := rest })
  | none, [] => (false, p)

/-- Returns a buffer to the pool. -/
def give (p : BufferPool) (b : Bool) : BufferPool :=
  match p.held with
  | none => { p with held := some b }
  | some _ => { p with stack := b :: p.stack }

end BufferPool

/-- An engine: its contents, whether it is closed, and every handle made. -/
structure Engine where
  /-- The backend. -/
  backend : Backend
  /-- The committed contents. -/
  contents : Contents := {}
  /-- Whether the engine is closed. -/
  closed : Bool := false
  /-- The batches, by handle. -/
  batches : List Batch := []
  /-- The snapshots, by handle. -/
  views : List View := []
  /-- The iterators, by handle. -/
  cursors : List Cursor := []
  /-- The pool of key buffers its pebble iterators take from and return to. -/
  buffers : BufferPool := {}
  deriving DecidableEq, Repr

namespace Engine

/-- A fresh, empty engine. -/
def empty (b : Backend) : Engine := { backend := b }

/-- A fresh, empty engine in a process whose previous request left the key buffers `left`. -/
def resume (b : Backend) (left : BufferPool) : Engine := { backend := b, buffers := left }

/-- The key buffers the engine leaves to the next request: a leveldb engine uses none, so by the
next request the ones it was given are collected. -/
def leftover (e : Engine) : BufferPool :=
  match e.backend with
  | .pebble => e.buffers
  | .leveldb => {}

/-- Fails when the engine is closed. -/
def ensureOpen (e : Engine) : Except EngineError Unit :=
  if e.closed then .error (.closed e.backend) else .ok ()

/-- Opens a batch and returns its handle. -/
def openBatch (e : Engine) : Except EngineError (Nat × Engine) := do
  e.ensureOpen
  return (e.batches.length, { e with batches := e.batches ++ [{}] })

/-- Takes a snapshot and returns its handle. -/
def openView (e : Engine) : Except EngineError (Nat × Engine) := do
  e.ensureOpen
  return (e.views.length, { e with views := e.views ++ [{ contents := e.contents }] })

/-- Adds a write to a batch. -/
def write (e : Engine) (h : Nat) (w : Write) : Except EngineError Engine :=
  match e.batches[h]? with
  | none => .ok e
  | some b =>
    if b.closed then .error (.batchClosed e.backend)
    else .ok { e with batches := e.batches.set h { b with writes := b.writes ++ [w] } }

/-- Commits a batch: its writes take effect, in order. -/
def commit (e : Engine) (h : Nat) : Except EngineError Engine :=
  match e.batches[h]? with
  | none => .ok e
  | some b =>
    if b.closed then .error (.batchClosed e.backend)
    else .ok { e with contents := e.contents.applyAll b.writes,
                      batches := e.batches.set h { b with closed := true } }

/-- Discards a batch; a closed batch stays as it is. -/
def discard (e : Engine) (h : Nat) : Engine :=
  match e.batches[h]? with
  | none => e
  | some b => { e with batches := e.batches.set h { b with closed := true } }

/-- Reads a key in a snapshot. -/
def get (e : Engine) (h : Nat) (key : Bytes) : Except EngineError Bytes :=
  match e.views[h]? with
  | none => .error .notFound
  | some v =>
    if v.released then .error (.snapshotReleased e.backend)
    else match v.contents.find? key with
      | some x => .ok x
      | none => .error .notFound

/-- Whether a snapshot holds a key. -/
def has (e : Engine) (h : Nat) (key : Bytes) : Except EngineError Bool :=
  match e.get h key with
  | .ok _ => .ok true
  | .error .notFound => .ok false
  | .error err => .error err

/-- Releases a snapshot. -/
def releaseView (e : Engine) (h : Nat) : Engine :=
  match e.views[h]? with
  | none => e
  | some v => { e with views := e.views.set h { v with released := true } }

/-- Opens an iterator over a range of a snapshot and returns its handle. -/
def openCursor (e : Engine) (h : Nat) (r : KeyRange) : Nat × Engine :=
  let failed := (Cursor.failed (.snapshotReleased e.backend), e.buffers)
  let (c, pool) := match e.views[h]? with
    | some v =>
      if v.released then failed
      else
        match e.backend with
        | .leveldb => ({ ahead := v.contents.scan r, keyBuffer := true }, e.buffers)
        | .pebble =>
          let (b, pool) := e.buffers.take
          ({ ahead := v.contents.scan r, keyBuffer := b }, pool)
    | none => failed
  (e.cursors.length, { e with cursors := e.cursors ++ [c], buffers := pool })

/-- Replaces an iterator. -/
def setCursor (e : Engine) (h : Nat) (c : Cursor) : Engine :=
  { e with cursors := e.cursors.set h c }

/-- Advances an iterator. -/
def next (e : Engine) (h : Nat) : Bool × Engine :=
  match e.cursors[h]? with
  | none => (false, e)
  | some c =>
    let (ok, c) := c.next e.backend
    (ok, e.setCursor h c)

/-- The entry an iterator is at. -/
def entry? (e : Engine) (h : Nat) : Option (Bytes × Bytes) :=
  (e.cursors[h]?).bind Cursor.entry?

/-- The key an iterator is at, as it reads it. -/
def key? (e : Engine) (h : Nat) : Option Bytes :=
  (e.cursors[h]?).bind Cursor.key?

/-- The value an iterator is at. -/
def value? (e : Engine) (h : Nat) : Option Bytes :=
  (e.entry? h).map (·.2)

/-- The error an iterator reports. -/
def cursorError? (e : Engine) (h : Nat) : Option EngineError :=
  (e.cursors[h]?).bind (Cursor.error? e.backend)

/-- Releases an iterator. -/
def releaseCursor (e : Engine) (h : Nat) : Engine :=
  match e.cursors[h]? with
  | none => e
  | some c =>
    let leaves := e.backend == .pebble && !c.released && c.failure.isNone
    let e := e.setCursor h c.release
    if leaves then { e with buffers := e.buffers.give c.keyBuffer } else e

/-- Closes the engine; closing it again fails. -/
def close (e : Engine) : Except EngineError Engine :=
  if e.closed then .error (.closed e.backend) else .ok { e with closed := true }

/-- Whether some batch, snapshot or iterator is still open. -/
def hasOpenHandles (e : Engine) : Bool :=
  e.batches.any (!·.closed) || e.views.any (!·.released) || e.cursors.any (!·.released)

/-- Writes in one batch, committed at once. -/
def writeAll (e : Engine) (ws : List Write) : Except EngineError Engine := do
  e.ensureOpen
  return { e with contents := e.contents.applyAll ws }

/-- Reads a key from a snapshot taken now. -/
def read (e : Engine) (key : Bytes) : Except EngineError (Option Bytes) := do
  e.ensureOpen
  return e.contents.find? key

/-- The entries of a range in a snapshot taken now. -/
def scanNow (e : Engine) (r : KeyRange) : Except EngineError (List (Bytes × Bytes)) := do
  e.ensureOpen
  return e.contents.scan r

/-- On an open engine, writes in one batch take effect at once. -/
theorem writeAll_of_open {e : Engine} (h : e.closed = false) (ws : List Write) :
    e.writeAll ws = .ok { e with contents := e.contents.applyAll ws } := by
  simp [writeAll, ensureOpen, h, bind, Except.bind, pure, Except.pure]

/-- On an open engine, a read sees the committed contents. -/
theorem read_of_open {e : Engine} (h : e.closed = false) (key : Bytes) :
    e.read key = .ok (e.contents.find? key) := by
  simp [read, ensureOpen, h, bind, Except.bind, pure, Except.pure]

/-- On an open engine, a scan sees the committed contents. -/
theorem scanNow_of_open {e : Engine} (h : e.closed = false) (r : KeyRange) :
    e.scanNow r = .ok (e.contents.scan r) := by
  simp [scanNow, ensureOpen, h, bind, Except.bind, pure, Except.pure]

/-- Closing an engine keeps its contents. -/
theorem contents_of_close {e e' : Engine} (h : e.close = .ok e') :
    e'.contents = e.contents := by
  unfold close at h
  split at h
  · cases h
  · cases h
    rfl

end Engine

end BranchLock

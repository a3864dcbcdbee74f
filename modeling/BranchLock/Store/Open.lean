import BranchLock.Store.Sets
import BranchLock.Data.Disk

/-!
# Databases in directories

A database lives in a directory of the file system. Both backends read and write the same
databases, so a directory either holds one or not, whichever backend made it. Opening asks
either to create a new database (refused when one is there) or to open an existing one:

* the sorted-table backend refuses a file, a path below a file and a path it cannot look up
  before anything else; it makes the directory with its missing parents when the path is
  missing, and then refuses to open a database that is not there, though the directory stays;
* the log-structured backend makes the directory with its missing parents first, and opens or
  creates the database in it; asked for an existing database it creates one when there is none.

A store opened on a database reads its contents, and closing it writes them back.
-/

namespace BranchLock

/-- The file system of the working directory and the databases in its directories. -/
structure Workspace where
  /-- The file system. -/
  disk : Disk := {}
  /-- The databases, by the components of their directory's path. -/
  databases : List (List Bytes × Contents) := []
  deriving DecidableEq, Repr

namespace Workspace

/-- The database in a directory. -/
def database? (w : Workspace) (path : Bytes) : Option Contents :=
  w.databases.lookup (Path.components path)

/-- Stores the contents of the database in a directory. -/
def setDatabase (w : Workspace) (path : Bytes) (c : Contents) : Workspace :=
  let key := Path.components path
  { w with databases := (key, c) :: w.databases.filter (·.1 ≠ key) }

/-- Opens the database in a directory with a backend: why not, or its contents. The workspace
returned keeps the directories made on the way, also when the open fails. -/
def openDatabase (w : Workspace) (b : Backend) (path : Bytes) (create : Bool) :
    Workspace × Except String Contents :=
  let settle := fun (w : Workspace) =>
    match w.database? path with
    | some c =>
      if create then
        (w, .error (match b with
          | .leveldb => "file already exists"
          | .pebble => "dirname=" ++ quoteBytes path ++ ": pebble: database already exists"))
      else (w, .ok c)
    | none =>
      if create ∨ b = .pebble then (w.setDatabase path {}, .ok {})
      else (w, .error "file does not exist")
  match b with
  | .leveldb =>
    match w.disk.stat path with
    | .ok .file =>
      (w, .error ("leveldb/storage: open " ++ Utf8.display path ++ ": not a directory"))
    | .ok .dir => settle w
    | .error .notFound =>
      match w.disk.mkdirAll path with
      | .ok d => settle { w with disk := d }
      | .error e => (w, .error e.message)
    | .error e => (w, .error (PathError.message ⟨"stat", path, e⟩))
  | .pebble =>
    match w.disk.mkdirAll path with
    | .ok d => settle { w with disk := d }
    | .error e =>
      (w, .error ("error opening database at " ++ quoteBytes path ++ ": " ++ e.message))

/-- Opens a store on the database of a backend named `dbType` in a directory. -/
def openStore (w : Workspace) (dbType : String) (path : Bytes) (create : Bool) :
    Workspace × Except StoreError SetStore :=
  match Backend.ofName? dbType with
  | none => (w, .error (.unknownBackend dbType))
  | some b =>
    match w.openDatabase b path create with
    | (w, .ok c) => (w, .ok (SetStore.make { backend := b, contents := c } 0))
    | (w, .error why) => (w, .error (.unopenable b path why))

/-- Closes a store opened on the database in a directory, keeping its contents. -/
def closeStore (w : Workspace) (path : Bytes) (s : SetStore) : Workspace :=
  w.setDatabase path s.engine.contents

end Workspace

end BranchLock

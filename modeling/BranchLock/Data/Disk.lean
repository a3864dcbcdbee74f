import BranchLock.Data.Path

/-!
# A file system

The tool keeps its data and logs under directories of a file system. The file system is modelled
as the set of paths that exist below the working directory, each a file or a directory, named by
the components of its cleaned path; the working directory itself always exists. The operations
fail the way the system calls do:

* looking a path up fails with *no such file or directory* when some component is missing, and
  with *not a directory* when a component before the last is a file (or the last is a file
  named with a trailing slash);
* making a directory fails when the path exists (*file exists*) or its parent is missing or a
  file;
* making a directory and its missing parents proceeds from the outermost missing one, and fails
  at the first component that exists as a file;
* opening a file for appending creates it when it is missing, and fails on a directory;
* every call refuses a path with a zero byte in it as an *invalid argument*, before looking at
  anything, and then a path of `pathMax` bytes or more as a *file name too long*;
* a component longer than `nameMax` bytes is *too long* when the lookup reaches it, that is once
  every component before it is a directory.
-/

namespace BranchLock

/-- What a path names. -/
inductive Entry where
  | file
  | dir
  deriving DecidableEq, Repr

/-- Why a file system call failed. -/
inductive Errno where
  /-- A component of the path is missing. -/
  | notFound
  /-- A component of the path other than the last is a file. -/
  | notDir
  /-- The path exists. -/
  | taken
  /-- The path is a directory. -/
  | isDir
  /-- The path has a zero byte in it. -/
  | invalid
  /-- The path, or a component of it, is longer than the system allows. -/
  | nameTooLong
  deriving DecidableEq, Repr

/-- The system's text of an error. -/
def Errno.text : Errno → String
  | .notFound => "no such file or directory"
  | .notDir => "not a directory"
  | .taken => "file exists"
  | .isDir => "is a directory"
  | .invalid => "invalid argument"
  | .nameTooLong => "file name too long"

/-- A failed call on a path: the call, the path as given and why. -/
structure PathError where
  /-- The call, such as `mkdir` or `open`. -/
  call : String
  /-- The path as given. -/
  path : Bytes
  /-- Why it failed. -/
  errno : Errno
  deriving DecidableEq, Repr

/-- The text of a failed call. -/
def PathError.message (e : PathError) : String :=
  e.call ++ " " ++ Utf8.display e.path ++ ": " ++ e.errno.text

/-- The paths that exist below the working directory, by their components. -/
structure Disk where
  /-- The entries. -/
  entries : List (List Bytes × Entry) := []
  deriving DecidableEq, Repr

namespace Disk

/-- The longest component a directory can hold, in bytes. -/
def nameMax : Nat := 255

/-- The shortest path, in bytes, that a call refuses as too long. -/
def pathMax : Nat := 4096

/-- The entry at the components of a path; the working directory is a directory. -/
def entry? (d : Disk) : List Bytes → Option Entry
  | [] => some .dir
  | cs => d.entries.lookup cs

/-- Looks up components, knowing that the ones before `seen` are directories. -/
def walk (d : Disk) (seen : List Bytes) : List Bytes → Except Errno Entry
  | [] => .ok .dir
  | [c] =>
    if c.length > nameMax then .error .nameTooLong
    else
      match d.entry? (seen ++ [c]) with
      | some e => .ok e
      | none => .error .notFound
  | c :: rest =>
    if c.length > nameMax then .error .nameTooLong
    else
      match d.entry? (seen ++ [c]) with
      | some .dir => walk d (seen ++ [c]) rest
      | some .file => .error .notDir
      | none => .error .notFound

/-- Whether a path has a zero byte in it, which no call accepts. -/
def hasZero (p : Bytes) : Bool := p.contains 0

/-- Whether a path is too long for any call to take it. -/
def tooLong (p : Bytes) : Bool := Nat.ble pathMax p.length

/-- What a path names. -/
def stat (d : Disk) (p : Bytes) : Except Errno Entry :=
  if hasZero p then .error .invalid
  else if tooLong p then .error .nameTooLong
  else if p.isEmpty then .error .notFound
  else
    match d.walk [] (Path.components p) with
    | .ok .file => if p.getLast? == some Path.slash then .error .notDir else .ok .file
    | r => r

/-- Adds an entry. -/
def add (d : Disk) (p : Bytes) (e : Entry) : Disk :=
  { d with entries := d.entries ++ [(Path.components p, e)] }

/-- Whether the parent of a path is a directory, or why not. -/
def parentReady (d : Disk) (p : Bytes) : Except Errno Unit :=
  match d.walk [] (Path.components p).dropLast with
  | .ok .dir => .ok ()
  | .ok .file => .error .notDir
  | .error e => .error e

/-- Makes one directory. -/
def mkdir (d : Disk) (p : Bytes) : Except PathError Disk :=
  let fail := fun e => Except.error (PathError.mk "mkdir" p e)
  if hasZero p then fail .invalid
  else if tooLong p then fail .nameTooLong
  else
    match (if p.isEmpty then .error .notFound else d.walk [] (Path.components p)) with
    | .ok _ => fail .taken
    | .error .notDir => fail .notDir
    | .error .nameTooLong => fail .nameTooLong
    | .error _ =>
      match d.parentReady p with
      | .ok () => .ok (d.add p .dir)
      | .error e => fail e

/-- The path up to the separator before its last component, trailing separators ignored; empty
when the path has a single component. -/
def parentText (p : Bytes) : Bytes :=
  let cs := (p.reverse.dropWhile (· == Path.slash)).reverse
  let j := cs.length - ((cs.reverse.takeWhile (· != Path.slash)).length)
  if j > 1 then cs.take (j - 1) else []

/-- Whether a path names a directory. -/
def isDirectory (d : Disk) (p : Bytes) : Bool :=
  match d.stat p with
  | .ok .dir => true
  | _ => false

/-- Makes a directory and its missing parents, outermost first; an existing directory is left
as it is. Each level is a shorter path, so the length of the path bounds the levels. -/
def mkdirAll (d : Disk) (p : Bytes) : Except PathError Disk :=
  go p.length d p
where
  go : Nat → Disk → Bytes → Except PathError Disk
    | fuel, d, p =>
      match d.stat p with
      | .ok .dir => .ok d
      | .ok .file => .error ⟨"mkdir", p, .notDir⟩
      | .error _ =>
        let up := parentText p
        let made : Except PathError Disk := match fuel with
          | fuel + 1 => if up.isEmpty then .ok d else go fuel d up
          | 0 => .ok d
        match made with
        | .error e => .error e
        | .ok d =>
          match d.mkdir p with
          | .ok d => .ok d
          | .error e => if d.isDirectory p then .ok d else .error e

/-- Opens a file for appending, creating it when it is missing. -/
def touch (d : Disk) (p : Bytes) : Except PathError Disk :=
  let fail := fun e => Except.error (PathError.mk "open" p e)
  match d.stat p with
  | .error .invalid => fail .invalid
  | .error .nameTooLong => fail .nameTooLong
  | .ok .dir => fail .isDir
  | .ok .file => .ok d
  | .error .notDir => fail .notDir
  | .error _ =>
    match d.parentReady p with
    | .ok () => .ok (d.add p .file)
    | .error e => fail e

/-- Whether a path exists as far as a lookup can tell: only a missing component says no. -/
def exists? (d : Disk) (p : Bytes) : Bool :=
  match d.stat p with
  | .error .notFound => false
  | _ => true

end Disk

end BranchLock

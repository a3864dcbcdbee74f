import BranchLock.Data.Utf8

/-!
# Slash-separated paths

Paths are byte strings whose components are separated by `/`; a leading `/` roots them. A path
is cleaned lexically, without looking at any file system: empty components and `.` are dropped,
a `..` removes the component before it, a `..` at the root is dropped, and a `..` that has
nothing to remove in a relative path is kept. A path that cleans to nothing is `.`. Joining puts
`/` between the nonempty parts and cleans the result; joining only empty parts gives the empty
path.
-/

namespace BranchLock

namespace Path

/-- The separator `/`. -/
def slash : UInt8 := 47

/-- The component `.`. -/
def dot : Bytes := [46]

/-- The component `..`. -/
def dotDot : Bytes := [46, 46]

/-- Whether a path starts at the root. -/
def isRooted (p : Bytes) : Bool := p.head? == some slash

/-- The components of a path after resolving `.` and `..`, outermost first. -/
def resolve (rooted : Bool) (parts : List Bytes) : List Bytes :=
  (parts.foldl (fun (acc : List Bytes) part =>
    if part.isEmpty || part == dot then acc
    else if part == dotDot then
      match acc with
      | top :: rest => if top == dotDot then part :: acc else rest
      | [] => if rooted then [] else [part]
    else part :: acc) []).reverse

/-- The shortest path naming the same file, by lexical processing alone. -/
def clean (p : Bytes) : Bytes :=
  let rooted := isRooted p
  let body := [slash].intercalate (resolve rooted (Bytes.splitAt slash p))
  let out := (if rooted then [slash] else []) ++ body
  if out.isEmpty then dot else out

/-- The nonempty parts joined by `/` and cleaned; the empty path when all are empty. -/
def join (parts : List Bytes) : Bytes :=
  match parts.filter (fun p => !p.isEmpty) with
  | [] => []
  | ps => clean ([slash].intercalate ps)

/-- The components of a path, outermost first, without empty components and `.`. -/
def components (p : Bytes) : List Bytes :=
  (Bytes.splitAt slash p).filter fun c => !c.isEmpty && c != dot

/-- Splits a path after its last `/`: the directory part, keeping the slash, and the name. -/
def split (p : Bytes) : Bytes × Bytes :=
  match p.reverse.idxOf? slash with
  | some i =>
    let k := p.length - i
    (p.take k, p.drop k)
  | none => ([], p)

end Path

end BranchLock

/-!
# The version text of the tool

The tool is version 0.1.0. A pre-release tag follows after `-` and build metadata after `+`;
each keeps only the characters semantic versioning allows in it (letters, digits and `-`, and
for build metadata also `.`), and is left out when nothing remains.
-/

namespace BranchLock

namespace Version

/-- Whether a character may stand in a pre-release tag. -/
def preReleaseChar (c : Char) : Bool :=
  ('0' ≤ c && c ≤ '9') || ('A' ≤ c && c ≤ 'Z') || ('a' ≤ c && c ≤ 'z') || c = '-'

/-- Whether a character may stand in build metadata. -/
def buildChar (c : Char) : Bool := preReleaseChar c || c = '.'

/-- The pre-release tag the tool is released with. -/
def defaultPreRelease : String := "beta"

/-- The version text for a pre-release tag and build metadata. -/
def text (preRelease build : String) : String :=
  let pre := String.ofList (preRelease.toList.filter preReleaseChar)
  let tail := String.ofList (build.toList.filter buildChar)
  "0.1.0" ++ (if pre.isEmpty then "" else "-" ++ pre) ++ (if tail.isEmpty then "" else "+" ++ tail)

end Version

end BranchLock

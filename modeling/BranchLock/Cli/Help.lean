import BranchLock.Cli.Spec

/-!
# Help texts

The help text of a command line is laid out for an 80-column terminal:

* a usage line naming the program, the chosen command and its options, or the commands that
  may follow;
* the chosen command's description, wrapped;
* the global options and the help option, each group under its title, then the chosen
  command's options under `[<command> command options]`, indented by four more columns;
* without a chosen command, the list of commands in name order.

Every option line starts with its names (`-s, --long`, an `=` when it takes an argument) and
continues at one column shared by all options shown, with the description wrapped at spaces to
the right margin and the default value, if any, after it. The shared column leaves room for the
longest long name among the options shown, counting the four columns of indentation of command
options.
-/

namespace BranchLock

namespace Help

/-- The width of the terminal the text is laid out for. -/
def columns : Nat := 80

/-- A run of spaces. -/
def spaces (n : Nat) : String := String.ofList (List.replicate n ' ')

/-- A text without its leading and trailing white space. -/
def trim (cs : List Char) : List Char :=
  ((cs.dropWhile Char.isWhitespace).reverse.dropWhile Char.isWhitespace).reverse

/-- The position of the last space among the first `n` characters. -/
def lastSpace (cs : List Char) (n : Nat) : Option Nat :=
  ((cs.take n).reverse.idxOf? ' ').map fun i => min n cs.length - 1 - i

/-- Wraps one line: while it is longer than `width`, cuts it at its last space within the
width, or hyphenates it at the width when it has none there; continuation lines start with
`pad`. Every cut shortens the line, so its length bounds the cuts. -/
def wrapLine (width : Nat) (pad : String) : Nat → List Char → String → String
  | fuel + 1, line, done =>
    if line.length > width then
      let (pos, suffix) := match lastSpace line width with
        | some p => (p, "")
        | none => (width - 1, "-\n")
      let done := (if done.isEmpty then done else done ++ "\n" ++ pad) ++
        String.ofList (trim (line.take pos)) ++ suffix
      wrapLine width pad fuel (trim (line.drop pos)) done
    else if line.isEmpty then done
    else (if done.isEmpty then done else done ++ "\n" ++ pad) ++ String.ofList line
  | 0, _, done => done

/-- Wraps a text line by line to `width` columns (at least ten), continuation lines starting
with `pad`. -/
def wrapText (s : String) (width : Nat) (pad : String) : String :=
  let width := max width 10
  (s.splitOn "\n").foldl (fun out line =>
    let cs := trim line.toList
    let wrapped := wrapLine width pad (cs.length + 1) cs ""
    (if out.isEmpty then out else out ++ "\n" ++ (if wrapped.isEmpty then "" else pad)) ++
      wrapped) ""

/-- The options shown with a chosen command, and whether each is a command option. -/
def shown (i : Interface) (cmd : Option CommandSpec) : List (OptionSpec × Bool) :=
  (i.globals ++ [helpOption]).map (·, false) ++
    match cmd with
    | some c => (c.options ++ [helpOption]).map (·, true)
    | none => []

/-- The column where descriptions start. -/
def descriptionColumn (i : Interface) (cmd : Option CommandSpec) : Nat :=
  let opts := shown i cmd
  let longest := opts.foldl (fun m (o, indented) =>
    max m (o.long.length + if indented then 4 else 0)) 0
  let hasShort := opts.any fun (o, _) => o.short.isSome
  longest + 2 + (if hasShort then 2 else 0) + (if longest > 0 then 4 else 0) + 2

/-- The help line of an option. -/
def optionLine (hasShort : Bool) (column : Nat) (indented : Bool) (o : OptionSpec) : String :=
  let names := spaces (if indented then 6 else 2) ++
    (match o.short with
      | some c => "-" ++ c.toString
      | none => if hasShort then "  " else "") ++
    (if o.long.isEmpty then ""
      else (if o.short.isSome then ", " else if hasShort then "  " else "") ++ "--" ++ o.long) ++
    (if o.kind.takesArgument then "=" else "")
  if o.description.isEmpty then names ++ "\n"
  else
    let desc := match o.initial with
      | some d => o.description ++ " (default: " ++ d ++ ")"
      | none => o.description
    names ++ spaces (column - names.length) ++ wrapText desc (columns - column) (spaces column) ++
      "\n"

/-- The commands in name order. -/
def sortedCommands (i : Interface) : List CommandSpec :=
  i.commands.mergeSort fun a b => !(b.name < a.name)

/-- The usage line. -/
def usage (i : Interface) (cmd : Option CommandSpec) : String :=
  "Usage:\n  " ++ i.name ++ " [OPTIONS]" ++
    (match cmd with
      | some c => " " ++ c.name ++ (if c.options.isEmpty then "" else " [" ++ c.name ++ "-OPTIONS]")
      | none =>
        if i.commands.isEmpty then ""
        else if i.commands.length > 3 then " [command]"
        else " [" ++ " | ".intercalate ((sortedCommands i).map (·.name)) ++ "]") ++ "\n"

/-- The help text with a chosen command, or none. -/
def text (i : Interface) (cmd : Option CommandSpec) : String :=
  let column := descriptionColumn i cmd
  let hasShort := (shown i cmd).any fun (o, _) => o.short.isSome
  let line := optionLine hasShort column
  let described := match cmd with
    | some c =>
      if c.description.isEmpty then "" else "\n" ++ wrapText c.description columns "" ++ "\n"
    | none => ""
  let globals := if i.globals.isEmpty then ""
    else "\n" ++ i.globalTitle ++ ":\n" ++ String.join (i.globals.map (line false))
  let helpGroup := "\nHelp Options:\n" ++ line false helpOption
  let own := match cmd with
    | some c => if c.options.isEmpty then ""
      else "\n[" ++ c.name ++ " command options]\n" ++ String.join (c.options.map (line true))
    | none => ""
  let list := match cmd with
    | none =>
      if i.commands.isEmpty then ""
      else
        let width := i.commands.foldl (fun m c => max m c.name.length) 0
        "\nAvailable commands:\n" ++ String.join ((sortedCommands i).map fun c =>
          "  " ++ c.name ++
            (if c.summary.isEmpty then ""
              else spaces (width - c.name.length) ++ "  " ++ c.summary) ++
            "\n")
    | some _ => ""
  usage i cmd ++ described ++ globals ++ helpGroup ++ own ++ list

end Help

end BranchLock

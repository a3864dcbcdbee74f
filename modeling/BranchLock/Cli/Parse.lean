import BranchLock.Cli.Help
import BranchLock.Data.Numeral
import BranchLock.Data.Text

/-!
# Reading a command line

Arguments are read left to right.

* `--` ends the options: everything after it is an argument.
* `--name` and `--name=value` are long options; `-x`, `-x=value` and `-xvalue` (for a short
  option that takes an argument) are short ones, and several short switches may share one
  `-`. A lone `-` and anything starting with `---` are plain arguments.
* An option that takes an argument and has none attached takes the next one, unless that looks
  like an option (a minus sign followed by a digit is a number for a numeric option) or is
  `--`.
* The first plain argument names the command when one has that name and no plain argument came
  before it; the command's options are accepted from then on, the global ones everywhere.
* An option's argument is kept as bytes: its UTF-8 encoding, or, when it starts with a double
  quote, the bytes the quoted text stands for, which need not be UTF-8.

The help option stops the reading with the help text of the command chosen so far. After the
last argument, the options not given take their initial values and the required ones must all
have been given.
-/

namespace BranchLock

namespace Flags

/-- Whether an argument is an option: `-` and one more character other than `-`, or `--` and
one more character other than `-`. -/
def isOption (arg : String) : Bool :=
  match arg.toList with
  | '-' :: c :: rest => c ≠ '-' || (match rest with | d :: _ => d ≠ '-' | [] => false)
  | _ => false

/-- The options accepted with a command chosen or none. -/
def accepted (i : Interface) (cmd : Option CommandSpec) : List OptionSpec :=
  i.globals ++ [helpOption] ++ (match cmd with | some c => c.options | none => [])

/-- The option with a long name. -/
def byLong (i : Interface) (cmd : Option CommandSpec) (name : String) : Option OptionSpec :=
  (accepted i cmd).find? (·.long = name)

/-- The option with a short name. -/
def byShort (i : Interface) (cmd : Option CommandSpec) (c : Char) : Option OptionSpec :=
  (accepted i cmd).find? (·.short = some c)

/-- An error of a kind about an option. -/
def refuse (kind : FlagErrorKind) (text : String) : FlagError := ⟨kind, text⟩

/-- The error of an argument that does not convert. -/
def badArgument (o : OptionSpec) (why : String) : FlagError :=
  refuse .marshal ("invalid argument for flag `" ++ o.display ++ "' (expected " ++
    o.kind.typeName ++ "): " ++ why)

/-- Converts an argument of an option and stores it. -/
def assign (r : Reading) (o : OptionSpec) (arg : String) : Except FlagError Reading := do
  let arg ← if arg.startsWith "\"" then
      match unquote? arg with
      | some s => pure s
      | none => throw (badArgument o "invalid syntax")
    else pure (Utf8.encode arg)
  match o.kind with
  | .text => return r.put o (.text arg)
  | .texts =>
    let before := if r.given.contains o.long then r.texts o.long else []
    return r.put o (.texts (before ++ [arg]))
  | .real =>
    match Binary64.parse arg with
    | .ok x => return r.put o (.real x)
    | .error p => throw (badArgument o (NumError.message ⟨"ParseFloat", arg, p⟩))
  | .integer =>
    match parseInt 64 arg with
    | .ok n => return r.put o (.integer n)
    | .error e => throw (badArgument o e.message)
  | .count32 =>
    match parseUint 32 arg with
    | .ok n => return r.put o (.integer n)
    | .error e => throw (badArgument o e.message)
  | .switch | .help => return r.put o .on

/-- Whether the next argument may serve as an option's argument. -/
def usable (o : OptionSpec) (arg : String) : Except FlagError Unit :=
  let cs := arg.toList
  let negative := o.kind.signed && (match cs with
    | '-' :: d :: _ => d.isDigit
    | _ => false)
  if isOption arg && !negative then
    .error (refuse .expectedArgument ("expected argument for flag `" ++ o.display ++
      "', but got option `" ++ arg ++ "'"))
  else if arg = "--" then
    .error (refuse .expectedArgument ("expected argument for flag `" ++ o.display ++
      "', but got double dash `--'"))
  else .ok ()

/-- Applies an option met on the command line, with its attached argument if any; returns the
arguments left. `mayTake` says whether it may take the next argument. -/
def applyOption (i : Interface) (r : Reading) (o : OptionSpec) (mayTake : Bool)
    (attached : Option String) (rest : List String) : Except FlagError (Reading × List String) :=
  if !o.kind.takesArgument then
    if attached.isSome then
      .error (refuse .noArgumentForBool ("bool flag `" ++ o.display ++ "' cannot have an argument"))
    else if o.kind = .help then .error (refuse .help (Help.text i r.command))
    else .ok (r.put o .on, rest)
  else
    match attached, rest with
    | some a, _ => (assign r o a).map (·, rest)
    | none, next :: more =>
      if mayTake then do
        usable o next
        let r ← assign r o next
        return (r, more)
      else .error (refuse .expectedArgument ("expected argument for flag `" ++ o.display ++ "'"))
    | none, [] =>
      .error (refuse .expectedArgument ("expected argument for flag `" ++ o.display ++ "'"))

/-- Applies the short options of one argument in turn; only the last may take the next
argument. -/
def applyShorts (i : Interface) (attached : Option String) :
    Reading → List Char → List String → Except FlagError (Reading × List String)
  | r, [], rest => .ok (r, rest)
  | r, c :: cs, rest =>
    match byShort i r.command c with
    | none => .error (refuse .unknownFlag ("unknown flag `" ++ c.toString ++ "'"))
    | some o => do
      let (r, rest) ← applyOption i r o cs.isEmpty attached rest
      applyShorts i attached r cs rest

/-- Reads one argument that is an option. -/
def readOption (i : Interface) (r : Reading) (arg : String) (rest : List String) :
    Except FlagError (Reading × List String) :=
  let cs := arg.toList
  if arg.startsWith "--" then
    let body := cs.drop 2
    let (name, attached) := match body.idxOf? '=' with
      | some p => if p < body.length then
          (String.ofList (body.take p), some (String.ofList (body.drop (p + 1))))
        else (String.ofList body, none)
      | none => (String.ofList body, none)
    match byLong i r.command name with
    | none => .error (refuse .unknownFlag ("unknown flag `" ++ name ++ "'"))
    | some o => applyOption i r o true attached rest
  else
    let body := cs.drop 1
    let (names, attached) := match body with
      | c :: '=' :: value => ([c], some (String.ofList value))
      | c :: more@(_ :: _) =>
        match byShort i r.command c with
        | some o => if o.kind.takesArgument then ([c], some (String.ofList more)) else (body, none)
        | none => (body, none)
      | _ => (body, none)
    applyShorts i attached r names rest

/-- Reads the arguments; every step uses up at least one, so their number bounds the steps. -/
def readAll (i : Interface) : Nat → Reading → List String → Except FlagError Reading
  | 0, r, _ => .ok r
  | _ + 1, r, [] => .ok r
  | fuel + 1, r, arg :: rest =>
    if arg = "--" then .ok { r with args := r.args ++ rest }
    else if !isOption arg then
      let chosen := if r.command.isNone ∧ r.args.isEmpty then
          i.commands.find? (·.name = arg)
        else none
      match chosen with
      | some c => readAll i fuel { r with command := some c } rest
      | none => readAll i fuel { r with args := r.args ++ [arg] } rest
    else do
      let (r, rest) ← readOption i r arg rest
      readAll i fuel r rest

/-- Gives the options not given their initial values. -/
def fillInitial (r : Reading) (opts : List OptionSpec) : Reading :=
  opts.foldl (fun r o =>
    if r.given.contains o.long then r
    else match o.initial with
      | some v =>
        match assign r o v with
        | .ok r' => { r' with given := r.given }
        | .error _ => r
      | none => r) r

/-- Checks that every required option of the chosen command was given. -/
def checkRequired (i : Interface) (r : Reading) : Except FlagError Unit :=
  let missing := ((accepted i r.command).filter fun o => o.required && !r.given.contains o.long).map
    fun o => "`" ++ o.display ++ "'"
  match (missing.mergeSort fun a b => !(b < a)).reverse with
  | [] => .ok ()
  | [one] => .error (refuse .required ("the required flag " ++ one ++ " was not specified"))
  | last :: others =>
    .error (refuse .required ("the required flags " ++ ", ".intercalate others.reverse ++
      " and " ++ last ++ " were not specified"))

/-- Reads a command line. -/
def read (i : Interface) (args : List String) : Except FlagError Reading := do
  let r ← readAll i (args.length + 1) {} args
  let r := fillInitial r (i.globals ++ i.commands.flatMap (·.options))
  checkRequired i r
  return r

end Flags

end BranchLock

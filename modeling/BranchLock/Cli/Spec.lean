import BranchLock.Data.Binary64
import BranchLock.Data.Failure

/-!
# Command lines: options and commands

A command line is read against a description of what it accepts: a program name, global
options and commands, each command with options of its own. An option has a long name, maybe a
one-letter short name, a description for the help text and a kind that says what argument it
takes. A required option must be given; an option with an initial value takes that value when
it is not given, and the help text shows it as the default.

The values read are kept by long name.
-/

namespace BranchLock

/-- What an option takes. -/
inductive OptionKind where
  /-- Nothing: giving the option switches it on. -/
  | switch
  /-- Nothing: giving the option asks for the help text. -/
  | help
  /-- One text; a later use replaces an earlier one. -/
  | text
  /-- A text per use, collected in order. -/
  | texts
  /-- A double precision number. -/
  | real
  /-- A signed 64-bit number. -/
  | integer
  /-- An unsigned 32-bit number. -/
  | count32
  deriving DecidableEq, Repr

namespace OptionKind

/-- Whether the option takes an argument. -/
def takesArgument : OptionKind → Bool
  | .switch | .help => false
  | _ => true

/-- Whether an argument may start with a minus sign followed by a digit. -/
def signed : OptionKind → Bool
  | .real | .integer => true
  | _ => false

/-- The type name shown when an argument does not convert. -/
def typeName : OptionKind → String
  | .switch | .help => "bool"
  | .text => "string"
  | .texts => "[]string"
  | .real => "float64"
  | .integer => "int"
  | .count32 => "uint32"

end OptionKind

/-- An option. -/
structure OptionSpec where
  /-- The one-letter name, used after `-`. -/
  short : Option Char
  /-- The long name, used after `--`. -/
  long : String
  /-- The description in the help text. -/
  description : String
  /-- What the option takes. -/
  kind : OptionKind
  /-- Whether the option must be given. -/
  required : Bool
  /-- The text of the value the option has when it is not given. -/
  initial : Option String
  deriving DecidableEq, Repr

/-- How an option is named in messages: `-s, --long` or `--long`. -/
def OptionSpec.display (o : OptionSpec) : String :=
  match o.short with
  | some c => "-" ++ c.toString ++ ", --" ++ o.long
  | none => "--" ++ o.long

/-- A command. -/
structure CommandSpec where
  /-- The name that selects it. -/
  name : String
  /-- The one-line description in the list of commands. -/
  summary : String
  /-- The description at the top of its help text; may be empty. -/
  description : String
  /-- Its options. -/
  options : List OptionSpec
  deriving DecidableEq, Repr

/-- A command line interface. -/
structure Interface where
  /-- The program name. -/
  name : String
  /-- The title of the group of global options. -/
  globalTitle : String
  /-- The global options, accepted before and after a command. -/
  globals : List OptionSpec
  /-- The commands. -/
  commands : List CommandSpec
  deriving DecidableEq, Repr

/-- The option asking for the help text, accepted everywhere. -/
def helpOption : OptionSpec :=
  { short := some 'h', long := "help", description := "Show this help message", kind := .help,
    required := false, initial := none }

/-- A value read for an option. -/
inductive OptionValue where
  /-- A switch that was given. -/
  | on
  /-- A text, as bytes. -/
  | text (s : Bytes)
  /-- Texts, in order. -/
  | texts (ss : List Bytes)
  /-- A number. -/
  | real (x : Binary64)
  /-- An integer. -/
  | integer (n : Int)
  deriving DecidableEq, Repr

/-- A command line read: the command chosen, the values by long name and the arguments that
are not options. -/
structure Reading where
  /-- The command chosen, if any. -/
  command : Option CommandSpec := none
  /-- The values, by long name; an option given twice appears once. -/
  values : List (String × OptionValue) := []
  /-- The long names of the options given. -/
  given : List String := []
  /-- The other arguments, in order. -/
  args : List String := []
  deriving DecidableEq, Repr

namespace Reading

/-- Stores a value of an option and records it as given. -/
def put (r : Reading) (o : OptionSpec) (v : OptionValue) : Reading :=
  { r with values := (o.long, v) :: r.values.filter (·.1 ≠ o.long),
           given := if r.given.contains o.long then r.given else r.given ++ [o.long] }

/-- The value of an option. -/
def value? (r : Reading) (long : String) : Option OptionValue := r.values.lookup long

/-- Whether a switch is on. -/
def switch (r : Reading) (long : String) : Bool := r.value? long = some .on

/-- A text option's value, empty when it has none. -/
def text (r : Reading) (long : String) : Bytes :=
  match r.value? long with
  | some (.text s) => s
  | _ => []

/-- A list option's values. -/
def texts (r : Reading) (long : String) : List Bytes :=
  match r.value? long with
  | some (.texts ss) => ss
  | _ => []

/-- A number option's value, zero when it has none. -/
def real (r : Reading) (long : String) : Binary64 :=
  match r.value? long with
  | some (.real x) => x
  | _ => .finite false 0 0

/-- An integer option's value, zero when it has none. -/
def integer (r : Reading) (long : String) : Int :=
  match r.value? long with
  | some (.integer n) => n
  | _ => 0

end Reading

/-- The kinds of command line errors. -/
inductive FlagErrorKind where
  /-- An option lacks its argument. -/
  | expectedArgument
  /-- No option has the name. -/
  | unknownFlag
  /-- An argument does not convert to the option's type. -/
  | marshal
  /-- The help text was asked for. -/
  | help
  /-- A switch was given an argument. -/
  | noArgumentForBool
  /-- Required options are missing. -/
  | required
  deriving DecidableEq, Repr

/-- The name of a command line error kind. -/
def FlagErrorKind.name : FlagErrorKind → String
  | .expectedArgument => "expected argument"
  | .unknownFlag => "unknown flag"
  | .marshal => "marshal"
  | .help => "help"
  | .noArgumentForBool => "no argument for bool"
  | .required => "required"

/-- A command line error: its kind and text. -/
structure FlagError where
  /-- The kind. -/
  kind : FlagErrorKind
  /-- The text; for a help request, the help text. -/
  text : String
  deriving DecidableEq, Repr

/-- A flag error is reported by its text, under the flag reader and its kind. -/
instance : Failure FlagError where
  message e := e.text
  origin e := (.flags, e.kind.name)

end BranchLock

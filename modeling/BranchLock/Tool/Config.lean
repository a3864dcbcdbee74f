import BranchLock.Chain.Network
import BranchLock.Data.Path
import BranchLock.Store.Engine
import BranchLock.Data.Utf8

/-!
# Global settings of the tool

The global options choose the network (main by default; at most one of the test, regression
and simulation networks), the database backend, the log levels and the data and log
directories. They are checked in that order and the first problem is reported. Data and logs of
a network go to a subdirectory named after it.

A log level is one of `trace`, `debug`, `info`, `warn`, `error`, `critical` and `off`. The
level option is either one level for every subsystem or a comma separated list of
`<subsystem>=<level>` pairs; a pair is split at each `=` and only its first two fields count.

The texts of the options are byte strings; names are compared with the UTF-8 encoding of the
names they may be, and an error shows the text it refuses as UTF-8, a stray byte as U+FFFD.
-/

namespace BranchLock

/-- How much a subsystem logs. -/
inductive LogLevel where
  | trace
  | debug
  | info
  | warn
  | error
  | critical
  | off
  deriving DecidableEq, Repr

/-- The level names with their levels. -/
def levelNames : List (String × LogLevel) :=
  [("trace", .trace), ("debug", .debug), ("info", .info), ("warn", .warn), ("error", .error),
   ("critical", .critical), ("off", .off)]

/-- The separator of pairs in a level option, a comma. -/
def LogLevel.pairSeparator : UInt8 := 44

/-- The separator of a subsystem from its level, an equals sign. -/
def LogLevel.fieldSeparator : UInt8 := 61

/-- The logging subsystems, in sorted order. -/
def subsystems : List String := ["BRDB", "BRSC", "BTOL", "SCRP"]

/-- The global options as given. -/
structure GlobalOptions where
  /-- The data directory. -/
  dataDir : Bytes := Utf8.encode "data"
  /-- The log directory. -/
  logDir : Bytes := Utf8.encode "logs"
  /-- The database backend's name. -/
  dbType : Bytes := Utf8.encode "leveldb"
  /-- The log level option. -/
  debugLevel : Bytes := Utf8.encode "info"
  /-- Whether the test network is asked for. -/
  testnet : Bool := false
  /-- Whether the regression test network is asked for. -/
  regtest : Bool := false
  /-- Whether the simulation network is asked for. -/
  simnet : Bool := false
  /-- Whether only the version is asked for. -/
  showVersion : Bool := false
  deriving DecidableEq, Repr

/-- The settings the options stand for. -/
structure Settings where
  /-- The network. -/
  net : Network
  /-- The database backend. -/
  backend : Backend
  /-- The level of each subsystem whose level was set, in the order set. -/
  levels : List (String × LogLevel)
  /-- The data directory of the network. -/
  dataDir : Bytes
  /-- The log directory of the network. -/
  logDir : Bytes

/-- Why the global options were refused. -/
inductive ConfigError where
  /-- More than one network was asked for. -/
  | severalNetworks
  /-- No backend has the name. -/
  | unknownBackend (name : Bytes)
  /-- The level is not a level name. -/
  | unknownLevel (level : Bytes)
  /-- A pair has no `=`. -/
  | notPair (pair : Bytes)
  /-- The subsystem is not one of the logging subsystems. -/
  | unknownSubsystem (name : Bytes)
  deriving DecidableEq, Repr

/-- The text of a configuration error. -/
def ConfigError.message : ConfigError → String
  | .severalNetworks =>
    "the testnet, regtest, and simnet params can't be used together -- choose one of the three"
  | .unknownBackend t =>
    "the specified database type [" ++ Utf8.display t ++ "] is invalid -- supported types [" ++
      " ".intercalate (Backend.all.map Backend.name) ++ "]"
  | .unknownLevel l => "the specified debug level [" ++ Utf8.display l ++ "] is invalid"
  | .notPair p => "the specified debug level contains an invalid subsystem/level pair [" ++ Utf8.display p ++ "]"
  | .unknownSubsystem s =>
    "the specified subsystem [" ++ Utf8.display s ++ "] is invalid -- supported subsystems [" ++
      " ".intercalate subsystems ++ "]"

/-- The network the options ask for. -/
def GlobalOptions.network (o : GlobalOptions) : Except ConfigError Network :=
  let asked := [(o.testnet, Network.testnet3), (o.regtest, Network.regtest),
    (o.simnet, Network.simnet)].filter (·.1)
  match asked with
  | [] => .ok Network.mainnet
  | [(_, n)] => .ok n
  | _ => .error .severalNetworks

/-- The level of a name, or why it is not one. -/
def levelOf (name : Bytes) : Except ConfigError LogLevel :=
  match levelNames.find? (Utf8.encode ·.1 == name) with
  | some (_, l) => .ok l
  | none => .error (.unknownLevel name)

/-- The subsystem levels a level option sets. -/
def parseLevels (option : Bytes) : Except ConfigError (List (String × LogLevel)) :=
  if !option.contains LogLevel.pairSeparator && !option.contains LogLevel.fieldSeparator then do
    let l ← levelOf option
    return subsystems.map (·, l)
  else
    (Bytes.splitAt LogLevel.pairSeparator option).mapM fun pair => do
      if !pair.contains LogLevel.fieldSeparator then throw (.notPair pair)
      let fields := Bytes.splitAt LogLevel.fieldSeparator pair
      let name := fields.getD 0 []
      let some subsystem := subsystems.find? (Utf8.encode · == name)
        | throw (.unknownSubsystem name)
      let l ← levelOf (fields.getD 1 [])
      return (subsystem, l)

/-- Checks the global options and works out the settings. -/
def GlobalOptions.settings (o : GlobalOptions) : Except ConfigError Settings := do
  let net ← o.network
  let backend ← match Backend.all.find? (Utf8.encode ·.name == o.dbType) with
    | some b => pure b
    | none => throw (.unknownBackend o.dbType)
  let levels ← parseLevels o.debugLevel
  return { net := net, backend := backend, levels := levels,
           dataDir := Path.join [o.dataDir, Utf8.encode net.name],
           logDir := Path.join [o.logDir, Utf8.encode net.name] }

end BranchLock

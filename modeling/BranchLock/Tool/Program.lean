import BranchLock.Cli.Parse
import BranchLock.Store.Open
import BranchLock.Tool.Config
import BranchLock.Tool.Report
import BranchLock.Tool.Spend
import BranchLock.Tool.Version

/-!
# The command line tool

`branchtool` composes branch sets, stores them by their pay-to-script-hash address, shows and
lists the stored ones, and spends outputs paying to them:

* `compose` prints the set of its `--branch` specifications and stores it, unless `--nostore`;
* `show <address>` prints a stored set;
* `list` prints one line per stored set, in key order;
* `spend` builds, signs and checks a transaction spending one output through one branch, and
  prints it in hex.

Every command first checks the global options and opens the log file `branchtool.log` in the
network's log directory, making the directory when needed. The sets of a network are stored in
the database `branchsets_<backend>` in its data directory, created on first use.

A run answers what it printed and, when it failed, why. The command's own output comes first;
`--version` adds the version line after it, and a run without a command and without `--version`
fails.
-/

namespace BranchLock

/-- Why the log file could not be opened. -/
inductive LogSetupError where
  /-- Its directory could not be made. -/
  | directory (e : PathError)
  /-- The file could not be opened. -/
  | file (e : PathError)
  deriving DecidableEq, Repr

/-- Why a run of the tool failed. -/
inductive ToolError where
  /-- The command line was refused, or help was asked for. -/
  | flags (e : FlagError)
  /-- No command was given. -/
  | noCommand
  /-- The global options were refused. -/
  | config (e : ConfigError)
  /-- The log file could not be opened. -/
  | logSetup (e : LogSetupError)
  /-- The data directory could not be made. -/
  | dataDir (e : PathError)
  /-- The store failed. -/
  | store (e : StoreError)
  /-- The set could not be composed. -/
  | compose (e : ComposeError)
  /-- `show` was given no address. -/
  | noAddress
  /-- An address does not decode. -/
  | address (e : AddressError)
  /-- An address belongs to another network. -/
  | otherNetwork (address : Bytes) (net : String)
  /-- `spend` was given no key. -/
  | noKeys
  /-- The output reference was refused. -/
  | outPoint (e : OutPointError)
  /-- An amount was refused. -/
  | amount (e : Amount.AmountError)
  /-- A key was refused. -/
  | keys (e : KeyListError)
  /-- The spend could not be made. -/
  | spend (e : SpendError)
  deriving DecidableEq, Repr

/-- A tool error is reported with the origin of the error it wraps, or as plain text. -/
instance : Failure ToolError where
  message
    | .flags e => Failure.message e
    | .noCommand => "a command must be specified"
    | .config e => e.message
    | .logSetup (.directory e) => "failed to create log directory: " ++ e.message
    | .logSetup (.file e) => "failed to create file rotator: " ++ e.message
    | .dataDir e => e.message
    | .store e => e.message
    | .compose e => Failure.message e
    | .noAddress => "required address parameter not specified"
    | .address e => e.message
    | .otherNetwork a net => "address " ++ Utf8.display a ++ " is not for " ++ net
    | .noKeys => "at least one --wif is required"
    | .outPoint e => Failure.message e
    | .amount e => e.message
    | .keys e => Failure.message e
    | .spend e => Failure.message e
  origin
    | .flags e => Failure.origin e
    | .store e => Failure.origin e
    | .compose e => Failure.origin e
    | .spend e => Failure.origin e
    | _ => (.plain, "")

namespace Tool

/-- An option of the tool. -/
def opt (short : Option Char) (long description : String) (kind : OptionKind) : OptionSpec :=
  { short := short, long := long, description := description, kind := kind, required := false,
    initial := none }

/-- The global options. -/
def globals : List OptionSpec :=
  [{ opt (some 'b') "datadir" "Directory to store branch sets" .text with initial := some "data" },
   { opt none "logdir" "Directory to log output" .text with initial := some "logs" },
   { opt none "dbtype" "Database backend to use for branch sets" .text with
       initial := some "leveldb" },
   { opt (some 'd') "debuglevel"
       ("Logging level for all subsystems \x7btrace, debug, info, warn, error, critical\x7d " ++
        "-- You may also specify <subsystem>=<level>,<subsystem2>=<level>,... " ++
        "to set the log level for individual subsystems") .text with initial := some "info" },
   opt none "testnet" "Use the test network" .switch,
   opt none "regtest" "Use the regression test network" .switch,
   opt none "simnet" "Use the simulation test network" .switch,
   opt (some 'V') "version" "Display version information and exit" .switch]

/-- The `compose` command. -/
def composeCommand : CommandSpec :=
  { name := "compose", summary := "Compose branch scripts into one pay-to-script-hash script"
    description := "Compose branch scripts into one redeem script that can be spent through " ++
      "any single branch.  Branches are numbered in the order they are given."
    options :=
      [opt (some 'r') "branch" ("Branch to add, in order: script:<hex>, pkh:<address>, " ++
          "pk:<pubkey>, or multisig:<m>:<pk1>,<pk2>,...") .texts,
       opt none "nostore" "Print the composed set without storing it" .switch] }

/-- The `show` command. -/
def showCommand : CommandSpec :=
  { name := "show", summary := "Show a stored branch set by its pay-to-script-hash address"
    description := "", options := [] }

/-- The `list` command. -/
def listCommand : CommandSpec :=
  { name := "list", summary := "List all stored branch sets", description := "", options := [] }

/-- The `spend` command. -/
def spendCommand : CommandSpec :=
  { name := "spend", summary := "Spend an output paying to a stored branch set"
    description := "Build and sign a transaction spending one output paying to a stored " ++
      "branch set through the selected branch.  The signed transaction is validated with the " ++
      "script engine before it is printed."
    options :=
      [{ opt (some 'a') "address" "Pay-to-script-hash address of the stored branch set" .text with
          required := true },
       { opt (some 'o') "outpoint" "Output to spend as <txid>:<index>" .text with
          required := true },
       { opt none "amount" "Value of the spent output in BTC" .real with required := true },
       { opt none "to" "Address receiving the spent value less the fee" .text with
          required := true },
       { opt none "fee" "Transaction fee in BTC" .real with initial := some "0.0001" },
       opt (some 'i') "index" "Index of the branch to spend through" .integer,
       opt (some 'k') "wif" ("WIF encoded private key signing for the branch, repeat for " ++
         "every multisig signer") .texts,
       opt none "locktime" "Lock time of the spending transaction" .count32] }

/-- The command line of the tool. -/
def cli : Interface :=
  { name := "branchtool", globalTitle := "Global Options", globals := globals,
    commands := [composeCommand, showCommand, listCommand, spendCommand] }

/-- The global options of a reading. -/
def globalOptions (r : Reading) : GlobalOptions :=
  { dataDir := r.text "datadir", logDir := r.text "logdir", dbType := r.text "dbtype",
    debugLevel := r.text "debuglevel", testnet := r.switch "testnet",
    regtest := r.switch "regtest", simnet := r.switch "simnet", showVersion := r.switch "version" }

/-- The name of the log file. -/
def logFileName : Bytes := Utf8.encode "branchtool.log"

/-- What a command did: its output and, if it failed, why. -/
structure Effect where
  /-- The output. -/
  stdout : String := ""
  /-- Why it failed. -/
  failure : Option ToolError := none
  deriving DecidableEq, Repr

/-- A step of a command: on the workspace, either a value or the end of the command with what
it printed so far and why it stopped. -/
abbrev Step (α : Type) := Workspace → Workspace × Except ToolError α

/-- Checks the global options and opens the log file. -/
def setup (o : GlobalOptions) : Step Settings := fun w =>
  match o.settings with
  | .error e => (w, .error (.config e))
  | .ok st =>
    let logFile := Path.join [st.logDir, logFileName]
    match w.disk.mkdirAll (Path.split logFile).1 with
    | .error e => (w, .error (.logSetup (.directory e)))
    | .ok d =>
      let w := { w with disk := d }
      match w.disk.touch logFile with
      | .error e => (w, .error (.logSetup (.file e)))
      | .ok d => ({ w with disk := d }, .ok st)

/-- The directory of the sets database of the settings. -/
def databasePath (st : Settings) : Bytes :=
  Path.join [st.dataDir, Utf8.encode ("branchsets_" ++ st.backend.name)]

/-- Opens the sets database, creating it with its directory when it is missing. -/
def loadStore (st : Settings) : Step SetStore := fun w =>
  let path := databasePath st
  if w.disk.exists? path then
    match w.openStore st.backend.name path false with
    | (w, r) => (w, r.mapError .store)
  else
    match w.disk.mkdirAll st.dataDir with
    | .error e => (w, .error (.dataDir e))
    | .ok d =>
      match { w with disk := d }.openStore st.backend.name path true with
      | (w, r) => (w, r.mapError .store)

/-- Runs a use of the store and closes it, keeping what was stored. -/
def withStore {α : Type} (st : Settings) (use : SetStore → SetStore × Except ToolError α) :
    Step α := fun w =>
  match loadStore st w with
  | (w, .error e) => (w, .error e)
  | (w, .ok s) =>
    let (s, r) := use s
    (w.closeStore (databasePath st) s, r)

/-- The `compose` command. -/
def compose (r : Reading) (st : Settings) : Workspace → Workspace × Effect := fun w =>
  match composeSet (r.texts "branch") st.net with
  | .error e => (w, { failure := some (.compose e) })
  | .ok set =>
    let out := setReport set st.net
    if r.switch "nostore" then (w, { stdout := out })
    else
      let put := fun (s : SetStore) => match s.putSet set with
        | .ok s => (s, .ok ())
        | .error e => (s, .error (.store e))
      match withStore st put w with
      | (w, .ok ()) => (w, { stdout := out })
      | (w, .error e) => (w, { stdout := out, failure := some e })

/-- An address of the network. -/
def addressOf (text : Bytes) (net : Network) : Except ToolError Address :=
  (Address.decode text net).mapError .address

/-- The `show` command. -/
def showSet (r : Reading) (st : Settings) : Workspace → Workspace × Effect := fun w =>
  let found : Except ToolError Address := do
    let text ← match r.args with
      | a :: _ => pure (Utf8.encode a)
      | [] => throw .noAddress
    let a ← addressOf text st.net
    if !a.isForNet st.net then throw (.otherNetwork text st.net.name)
    return a
  match found with
  | .error e => (w, { failure := some e })
  | .ok a =>
    let fetch := fun (s : SetStore) =>
      let (s, r) := s.fetchByAddress a
      (s, r.mapError .store)
    match withStore st fetch w with
    | (w, .ok set) => (w, { stdout := setReport set st.net })
    | (w, .error e) => (w, { failure := some e })

/-- The `list` command. -/
def list (st : Settings) : Workspace → Workspace × Effect := fun w =>
  let visit := fun (lines : List String) (_ : Bytes) (set : BranchSet) =>
    (Except.ok (lines ++ [listLine set st.net]) : Except Empty (List String))
  let walk := fun (s : SetStore) =>
    match s.forEachSet visit [] with
    | (lines, none) => (s, Except.ok (lines, none))
    | (lines, some (.store e)) => (s, .ok (lines, some (ToolError.store e)))
    | (_, some (.visitor e)) => nomatch e
  match withStore st walk w with
  | (w, .ok (lines, failure)) => (w, { stdout := String.join lines, failure := failure })
  | (w, .error e) => (w, { failure := some e })

/-- The request a `spend` command line makes, short of the set. -/
def spendRequest (r : Reading) (net : Network) :
    Except ToolError (Address × (BranchSet → SpendRequest)) := do
  if (r.texts "wif").isEmpty then throw .noKeys
  let addr ← addressOf (r.text "address") net
  let payTo ← addressOf (r.text "to") net
  if !payTo.isForNet net then throw (.otherNetwork (r.text "to") net.name)
  let prevOut ← (parseOutPoint (r.text "outpoint")).mapError .outPoint
  let amount ← (Amount.ofBitcoin (r.real "amount")).mapError .amount
  let fee ← (Amount.ofBitcoin (r.real "fee")).mapError .amount
  let keys ← (decodeKeys (r.texts "wif") net).mapError .keys
  return (addr, fun set =>
    { set := set, prevOut := prevOut, amount := amount, fee := fee, payTo := payTo,
      branch := r.integer "index", keys := keys, lockTime := (r.integer "locktime").toNat })

/-- The `spend` command. -/
def spend (r : Reading) (st : Settings) : Workspace → Workspace × Effect := fun w =>
  match spendRequest r st.net with
  | .error e => (w, { failure := some e })
  | .ok (addr, request) =>
    let use := fun (s : SetStore) =>
      let (s, found) := s.fetchByAddress addr
      (s, do
        let set ← found.mapError .store
        (buildSpend Registry.standard (request set)).mapError .spend)
    match withStore st use w with
    | (w, .ok tx) => (w, { stdout := Hex.encode tx.serialize ++ "\n" })
    | (w, .error e) => (w, { failure := some e })

/-- Runs a command. -/
def execute (c : CommandSpec) (r : Reading) : Workspace → Workspace × Effect := fun w =>
  match setup (globalOptions r) w with
  | (w, .error e) => (w, { failure := some e })
  | (w, .ok st) =>
    if c.name = "compose" then compose r st w
    else if c.name = "show" then showSet r st w
    else if c.name = "list" then list st w
    else spend r st w

/-- The version line, with the description of the build environment. -/
def versionLine (runtime : String) : String :=
  cli.name ++ " version " ++ Version.text Version.defaultPreRelease "" ++ " (" ++ runtime ++ ")\n"

/-- Runs the tool on a command line in a workspace. -/
def run (runtime : String) (args : List String) (w : Workspace) : Workspace × Effect :=
  match Flags.read cli args with
  | .error e => (w, { failure := some (.flags e) })
  | .ok r =>
    let (w, effect) := match r.command with
      | some c => execute c r w
      | none => (w, {})
    if effect.failure.isSome then (w, effect)
    else if r.switch "version" then
      (w, { effect with stdout := effect.stdout ++ versionLine runtime })
    else if r.command.isNone then (w, { failure := some .noCommand })
    else (w, effect)

end Tool

end BranchLock

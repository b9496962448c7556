import TableCatalog.Client.Run
import TableCatalog.Daemon.Start
import TableCatalog.Identifier

/-! The program. With arguments it runs one command of the client on an empty catalog in memory; without,
it runs the commands that come on standard input, one to a line, on one catalog. `daemon` as the first
argument shows the settings that the daemon would run with. -/

namespace TableCatalog.Program

/-- The values that the environment has for the switches of a command. -/
def readEnvironment (grammar : CommandLine.Grammar) : IO CommandLine.Environment :=
  (grammar.switches.filterMap (·.environment)).filterMapM fun name => do
    return (← IO.getEnv ("METASTORE_" ++ name)).map (name, ·)

def readMoment : IO Moment := do return ⟨← IO.monoMsNow, ← IO.rand 0 (1 <<< 62)⟩

def usageText : CommandLine.UsageError → String
  | .argumentConflict => "an argument is given twice"
  | .displayHelp | .displayHelpOnMissing => "see the documentation for the commands there are"
  | .displayVersion => "metastore"
  | .invalidSubcommand => "there is no such command"
  | .invalidValue | .valueValidation => "a value is malformed"
  | .missingRequiredArgument => "an argument is missing"
  | .missingSubcommand => "a command is missing"
  | .tooManyValues => "a switch takes no value"
  | .unknownArgument => "an argument is unknown"

def errorText : Client.CommandError → String
  | .status status => status.message
  | .refused message => message

/-- Runs one command and prints what comes of it. -/
def runCommand (store : Region.Store) (generator : Generator) (arguments : List String) :
    IO (Region.Store × Generator × Bool) := do
  match Client.parse (← readEnvironment Client.grammar) arguments with
  | .error e =>
    IO.eprintln ("Error: " ++ usageText e)
    return (store, generator, false)
  | .ok invocation =>
    let (identifier, generator) := generator.draw (← readMoment) (← readMoment)
    let (result, store) := invocation.run {} identifier.text store
    match result with
    | .ok text => IO.println text
    | .error e => IO.eprintln ("Error: " ++ errorText e)
    return (store, generator, result.isOk)

/-- Runs commands from standard input until it ends. -/
partial def runLines (input : IO.FS.Stream) (store : Region.Store) (generator : Generator) : IO Unit := do
  let line ← input.getLine
  if line.isEmpty then return
  let words := ((Text.splitAll ' ' (line.toList.filter (· != '\n'))).map String.ofList).filter (· != "")
  if words.isEmpty then runLines input store generator
  else
    let (store, generator, _) ← runCommand store generator words
    runLines input store generator

/-- The file with the settings, if one is named and can be read. -/
def readSettings (arguments : Daemon.Arguments) : IO Daemon.Disk := do
  match arguments.config with
  | none => return {}
  | some path =>
    let place := (Daemon.Disk.place? {} path).getD []
    try return { files := [(place, ← IO.FS.readFile path)] } catch _ => return {}

def showSettings (arguments : List String) : IO UInt32 := do
  match Daemon.parse (← readEnvironment Daemon.grammar) arguments with
  | .error e =>
    IO.eprintln ("Error: " ++ usageText e)
    return 2
  | .ok arguments =>
    match (Daemon.load (← readSettings arguments) arguments).bind Daemon.Config.toToml with
    | some text =>
      IO.println text
      return 0
    | none =>
      IO.eprintln "Error: the settings cannot be read or written"
      return 1

def start (arguments : List String) : IO UInt32 := do
  match arguments with
  | [] =>
    runLines (← IO.getStdin) ∅ {}
    return 0
  | "daemon" :: rest => showSettings rest
  | _ =>
    let (_, _, good) ← runCommand ∅ {} arguments
    return if good then 0 else 1

end TableCatalog.Program

def main (arguments : List String) : IO UInt32 := TableCatalog.Program.start arguments

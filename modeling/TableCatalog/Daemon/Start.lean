import TableCatalog.CommandLine.Reader
import TableCatalog.Daemon.Config
import TableCatalog.Daemon.Disk
import TableCatalog.Network.Address

/-! The command line of the daemon, and its start up to the point where it would listen. What the command
line and the environment say goes over what the file of settings says. -/

namespace TableCatalog.Daemon

open CommandLine Network

structure Arguments where
  host : Option String := none
  port : Option UInt16 := none
  dbPath : Option String := none
  /-- The file with the settings. -/
  config : Option String := none
  memory : Bool := false
  copySdLocation : Bool := false
  streamBuffer : Option UInt64 := none
  verbose : Bool := false
  logLevel : String := "info"
  printConfig : Bool := false
deriving DecidableEq, Repr, Inhabited

def grammar : Grammar :=
  { name := "metastored"
    switches := [
      option "host" .text (some 'H') (some "HOST"),
      option "port" .port (some 'p') (some "PORT"),
      option "db-path" .path (some 'd') (some "DB_PATH"),
      option "config" .path (some 'c') (some "CONFIG"),
      marker "memory",
      marker "copy-sd-location",
      option "stream-buffer" .count none (some "STREAM_BUFFER"),
      marker "verbose" (some 'v'),
      option "log-level" .text none (some "LOG_LEVEL") (some "info"),
      marker "print-config", helpSwitch, versionSwitch] }

/-- The arguments that a command line stands for. -/
def parse (environment : Environment) (arguments : List String) : Except UsageError Arguments := do
  let found := (← read grammar environment arguments).headD default
  return {
    host := found.text? "host"
    port := (found.text? "port").bind readPort
    dbPath := found.text? "db-path"
    config := found.text? "config"
    memory := found.has "memory"
    copySdLocation := found.has "copy-sd-location"
    streamBuffer := (found.text? "stream-buffer").bind readCount
    verbose := found.has "verbose"
    logLevel := found.text "log-level"
    printConfig := found.has "print-config" }

/-- The settings that arguments make. -/
def Arguments.settings (arguments : Arguments) : List Setting :=
  (arguments.host.map .host).toList ++ (arguments.port.map .port).toList ++ (arguments.dbPath.map .dbPath).toList
    ++ (arguments.streamBuffer.map .streamBuffer).toList ++ (if arguments.memory then [.memoryMode true] else [])
    ++ if arguments.copySdLocation then [.copySdLocation true] else []

/-- The settings to run with; none if the file with the settings cannot be read. -/
def load (disk : Disk) (arguments : Arguments) : Option Config := do
  let config ← match arguments.config with
    | some path => (disk.read? path).bind Config.ofToml?
    | none => some {}
  return arguments.settings.foldl Config.set config

/-- What keeps the daemon from starting. -/
inductive StartError
  | directory
  | store
  | address
deriving DecidableEq, Repr

def StartError.text : StartError → String
  | directory => "Failed to create catalog directory"
  | store => "Failed to open catalog"
  | address => "Invalid server address"

/-- How far a start came: whether the file of the catalog was opened, and the address to listen at. -/
structure Startup where
  opened : Bool
  address : Except StartError SocketAddress

/-- The address to listen at. -/
def Config.listenAt (config : Config) : Except StartError SocketAddress :=
  match SocketAddress.parse? config.socketAddress with
  | some address => .ok address
  | none => .error .address

/-- Starts with a disk on which there is no catalog yet. The store is opened before the address is looked
at. -/
def start (disk : Disk) (config : Config) : Startup :=
  match config.storePath with
  | none => ⟨false, config.listenAt⟩
  | some path =>
    match disk.makeParent path with
    | none => ⟨false, .error .directory⟩
    | some disk => if disk.canCreate path then ⟨true, config.listenAt⟩ else ⟨false, .error .store⟩

end TableCatalog.Daemon

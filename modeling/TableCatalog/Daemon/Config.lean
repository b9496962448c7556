import TableCatalog.Catalog.Operation
import TableCatalog.Service.Status
import TableCatalog.Toml.Document

/-! Settings of the daemon: where it listens, where it keeps the catalog, and how. They are kept in a TOML
file, in which any of them may be left out. -/

namespace TableCatalog.Daemon

structure Config where
  host : String := "0.0.0.0"
  port : UInt16 := servicePort
  /-- The file that the catalog is kept in. -/
  dbPath : String := "hms2.db"
  /-- Keep the catalog in memory alone. -/
  memoryMode : Bool := false
  /-- How many records of a listing may wait to be taken. -/
  streamBuffer : UInt64 := 64
  copySdLocation : Bool := false
deriving DecidableEq, Repr, Inhabited

/-- A change of one setting. -/
inductive Setting
  | host (host : String)
  | port (port : UInt16)
  | dbPath (path : String)
  | memoryMode (enabled : Bool)
  | streamBuffer (size : UInt64)
  | copySdLocation (enabled : Bool)
deriving DecidableEq, Repr

namespace Config

def set (config : Config) : Setting → Config
  | .host host => { config with host }
  | .port port => { config with port }
  | .dbPath dbPath => { config with dbPath }
  | .memoryMode memoryMode => { config with memoryMode }
  | .streamBuffer streamBuffer => { config with streamBuffer }
  | .copySdLocation copySdLocation => { config with copySdLocation }

/-- The defaults with changes made in order. -/
def build (settings : List Setting) : Config := settings.foldl set {}

/-- The text of the address to listen at. -/
def socketAddress (config : Config) : String := config.host ++ ":" ++ Numeral.decimalText config.port.toNat

/-- The file that the store is kept in, if it is kept in one. -/
def storePath (config : Config) : Option String := if config.memoryMode then none else some config.dbPath

def storeOptions (config : Config) : StoreOptions := { fillLocation := config.copySdLocation }

/-- The line of a setting. -/
def line (key : String) (value : List Char) : List Char := key.toList ++ [' ', '=', ' '] ++ value ++ ['\n']

def boolChars (b : Bool) : List Char := if b then ['t', 'r', 'u', 'e'] else ['f', 'a', 'l', 's', 'e']

/-- The settings as a document, one to a line. A number must fit in 64 bits with a sign. -/
def toToml (config : Config) : Option String :=
  if (config.streamBuffer.toNat : Int) ≤ Int64.maxValue.toInt then
    some (String.ofList (
      line "host" (Toml.writeText config.host.toList)
        ++ line "port" (Numeral.decimal config.port.toNat)
        ++ line "db_path" (Toml.writeText config.dbPath.toList)
        ++ line "memory_mode" (boolChars config.memoryMode)
        ++ line "stream_buffer" (Numeral.decimal config.streamBuffer.toNat)
        ++ line "copy_sd_location" (boolChars config.copySdLocation)))
  else none

def readText : Toml.Value → Option String
  | .text s => some s
  | _ => none

def readBool : Toml.Value → Option Bool
  | .boolean b => some b
  | _ => none

/-- A number below a bound. -/
def readNat (bound : Nat) : Toml.Value → Option Nat
  | .integer n => if 0 ≤ n ∧ n < bound then some n.toNat else none
  | _ => none

/-- A setting of a document, or its default if it is left out. -/
def setting (entries : Toml.Entries) (key : String) (read : Toml.Value → Option α) (default : α) : Option α :=
  match entries.lookup key with
  | some value => read value
  | none => some default

/-- The settings in a document. What else it holds does not matter. -/
def ofEntries (entries : Toml.Entries) : Option Config := do
  let defaults : Config := {}
  let host ← setting entries "host" readText defaults.host
  let port ← setting entries "port" (readNat UInt16.size) defaults.port.toNat
  let dbPath ← setting entries "db_path" readText defaults.dbPath
  let memoryMode ← setting entries "memory_mode" readBool defaults.memoryMode
  let streamBuffer ← setting entries "stream_buffer" (readNat UInt64.size) defaults.streamBuffer.toNat
  let copySdLocation ← setting entries "copy_sd_location" readBool defaults.copySdLocation
  return {
    host, port := .ofNat port, dbPath, memoryMode, streamBuffer := .ofNat streamBuffer, copySdLocation }

def ofToml? (text : String) : Option Config := (Toml.parse? text).bind ofEntries

end Config
end TableCatalog.Daemon

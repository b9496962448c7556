import TableCatalog.Client.Display
import TableCatalog.CommandLine.Reader
import TableCatalog.Service.Status

/-! The command line of the client: which catalog to talk to, how to show what comes back, and one
command on databases, tables or partitions. -/

namespace TableCatalog.Client

open CommandLine

inductive DatabaseCommand
  | list (fields : List String) (excludeParams : Bool)
  | get (name : String)
  | create (name location : String) (params : List (String × String))
  | drop (name : String)
deriving DecidableEq, Repr

inductive TableCommand
  | list (db : String) (fields : List String)
  | get (db name : String)
  | create (db name location : String) (partitionKeys : List String) (type : TableType)
      (params : List (String × String))
  | drop (db name : String)
deriving DecidableEq, Repr

inductive PartitionCommand
  | list (db table : String) (filter fields exclude : List String)
  | get (db table : String) (values : List String)
  | add (db table : String) (values : List String) (location : String) (params : List (String × String))
  | drop (db table : String) (values : List String)
deriving DecidableEq, Repr

inductive Command
  | databases (command : DatabaseCommand)
  | tables (command : TableCommand)
  | partitions (command : PartitionCommand)
deriving DecidableEq, Repr

/-- A command with all that was said about where and how to run it. -/
structure Invocation where
  host : String
  port : UInt16
  catalog : String
  output : OutputFormat
  verbose : Bool
  command : Command
deriving DecidableEq, Repr

def typeWord : TableType → String
  | .managed => "managed"
  | .external => "external"
  | .index => "index"

def typeOfWord (word : String) : TableType := (TableType.all.find? (typeWord · == word)).getD .managed

def leaf (name : String) (places : List Slot) (switches : List Switch) : Grammar :=
  { name, places, switches := switches ++ [helpSwitch] }

def group (name : String) (inner : List Grammar) : Grammar := { name, inner, switches := [helpSwitch] }

def locationSwitch : Switch := option "location" .text none none (some "")

def paramSwitch : Switch := repeated "param" .pair

/-- One or more values, the last place of a command. -/
def valuesPlace : Slot := { name := "values", many := true }

def tablePlaces : List Slot := [{ name := "db" }, { name := "table" }]

def databasesGrammar : Grammar := group "databases" [
  leaf "list" [] [repeated "fields" .texts, marker "exclude-params"],
  leaf "get" [{ name := "name" }] [],
  leaf "create" [{ name := "name" }] [locationSwitch, paramSwitch],
  leaf "drop" [{ name := "name" }] []]

def tablesGrammar : Grammar := group "tables" [
  leaf "list" [{ name := "db" }] [repeated "fields" .texts],
  leaf "get" [{ name := "db" }, { name := "name" }] [],
  leaf "create" [{ name := "db" }, { name := "name" }]
    [locationSwitch, repeated "partition-key",
      option "type" (.oneOf (TableType.all.map typeWord)) none none (some (typeWord .managed)), paramSwitch],
  leaf "drop" [{ name := "db" }, { name := "name" }] []]

def partitionsGrammar : Grammar := group "partitions" [
  leaf "list" tablePlaces [repeated "filter", repeated "fields" .texts, repeated "exclude" .texts],
  leaf "get" (tablePlaces ++ [valuesPlace]) [],
  leaf "add" (tablePlaces ++ [valuesPlace]) [locationSwitch, paramSwitch],
  leaf "drop" (tablePlaces ++ [valuesPlace]) []]

def grammar : Grammar :=
  { name := "metastore"
    switches := [
      option "host" .text (some 'H') (some "HOST") (some "localhost"),
      option "port" .port (some 'p') (some "PORT") (some (Numeral.decimalText servicePort.toNat)),
      option "catalog" .text (some 'C') (some "CATALOG") (some "hive"),
      option "output" (.oneOf (OutputFormat.all.map OutputFormat.name)) (some 'o') none
        (some OutputFormat.table.name),
      marker "verbose" (some 'v'), helpSwitch, versionSwitch]
    inner := [databasesGrammar, tablesGrammar, partitionsGrammar] }

def databaseCommand (found : Match) : DatabaseCommand :=
  match found.command with
  | "list" => .list (found.texts "fields") (found.has "exclude-params")
  | "get" => .get (found.text "name")
  | "create" => .create (found.text "name") (found.text "location") (found.pairs "param")
  | _ => .drop (found.text "name")

def tableCommand (found : Match) : TableCommand :=
  match found.command with
  | "list" => .list (found.text "db") (found.texts "fields")
  | "get" => .get (found.text "db") (found.text "name")
  | "create" => .create (found.text "db") (found.text "name") (found.text "location")
      (found.texts "partition-key") (typeOfWord (found.text "type")) (found.pairs "param")
  | _ => .drop (found.text "db") (found.text "name")

def partitionCommand (found : Match) : PartitionCommand :=
  match found.command with
  | "list" => .list (found.text "db") (found.text "table") (found.texts "filter") (found.texts "fields")
      (found.texts "exclude")
  | "get" => .get (found.text "db") (found.text "table") (found.texts "values")
  | "add" => .add (found.text "db") (found.text "table") (found.texts "values") (found.text "location")
      (found.pairs "param")
  | _ => .drop (found.text "db") (found.text "table") (found.texts "values")

def command (group found : Match) : Command :=
  match group.command with
  | "databases" => .databases (databaseCommand found)
  | "tables" => .tables (tableCommand found)
  | _ => .partitions (partitionCommand found)

/-- The invocation that a command line stands for. -/
def parse (environment : Environment) (arguments : List String) : Except UsageError Invocation := do
  match ← read grammar environment arguments with
  | [top, group, found] =>
    return {
      host := top.text "host"
      port := (readPort (top.text "port")).getD servicePort
      catalog := top.text "catalog"
      output := .ofName (top.text "output")
      verbose := top.has "verbose"
      command := command group found }
  | _ => throw .missingSubcommand

end TableCatalog.Client

import TableCatalog.Client.Command
import TableCatalog.Service.Stream

/-! Running a command of the client: the call it makes, and what it prints of the answer. A reply whose
status is not good ends the command with the error it carries. -/

namespace TableCatalog.Client

/-- Why a command ends without output. -/
inductive CommandError
  /-- The call failed. -/
  | status (status : Status)
  /-- The service could not be reached, or its reply carries an error. -/
  | refused (message : String)
deriving DecidableEq, Repr

def endpoint (host : String) (port : UInt16) : String := "http://" ++ host ++ ":" ++ Numeral.decimalText port.toNat

def connectFailure (endpoint : String) : CommandError := .refused ("Failed to connect to " ++ endpoint)

/-- A reply must say that all went well. -/
def check (status : Option RequestStatus) : Except CommandError Unit :=
  match status with
  | none => .error (.refused "server returned no status")
  | some status =>
    if status.isOk then .ok () else .error (.refused (status.error ++ " (" ++ status.codeName ++ ")"))

/-- A partition key as `name[:type]`; without a type it is a string. -/
def readPartitionKey (text : String) : Column :=
  match Text.splitFirst ':' text.toList with
  | some (name, typeName) => { name := .ofList name, typeName := .ofList typeName }
  | none => { name := text, typeName := "string" }

/-- The values that a filter text stands for: what lies between its slashes. -/
def filterValues (text : String) : List String := (Text.splitAll '/' text.toList).map .ofList

/-- What a command asks of the service. -/
inductive ServiceRequest
  /-- A call, with what to print if its reply brings no record; an added partition brings its number. -/
  | call (call : Call) (done : UInt64 → String)
  | list (call : ListCall)

def named (name : String) : Option Ident := some (.named name)

def DatabaseCommand.request (catalog : String) : DatabaseCommand → ServiceRequest
  | list fields excludeParams => .list (.databases catalog { shown := fields, hideParams := excludeParams })
  | get name => .call (.getDatabase catalog (named name)) fun _ => ""
  | create name location params =>
    .call (.createDatabase catalog (some { ident := named name, location, params := .ofList params })) fun _ => ""
  | drop name => .call (.dropDatabase catalog (named name)) fun _ => "Dropped database " ++ name

/-- A new table, with the location in its storage descriptor too. -/
def newTable (name location : String) (partitionKeys : List String) (type : TableType)
    (params : List (String × String)) : Table :=
  { ident := named name
    location
    params := .ofList params
    partitionKeys := partitionKeys.map readPartitionKey
    storage := some { location }
    typeCode := type.code }

def TableCommand.request (catalog : String) : TableCommand → ServiceRequest
  | list db fields => .list (.tables catalog (named db) fields)
  | get db name => .call (.getTable catalog (named db) (named name)) fun _ => ""
  | create db name location partitionKeys type params =>
    .call (.createTable catalog (named db) (some (newTable name location partitionKeys type params))) fun _ => ""
  | drop db name => .call (.dropTable catalog (named db) (named name)) fun _ => "Dropped table " ++ db ++ "." ++ name

def PartitionCommand.request (catalog : String) : PartitionCommand → ServiceRequest
  | list db table filter fields exclude =>
    .list (.partitions catalog (named db) (named table)
      { filter := filter.map filterValues, shown := fields, hidden := exclude })
  | get db table values => .call (.getPartition catalog (named db) (named table) values []) fun _ => ""
  | add db table values location params =>
    .call
      (.addPartition {
        catalog, db := named db, table := named table
        partition := some { values, location, params := .ofList params } })
      fun sequence => "Added partition " ++ Request.joinValues values ++ " (seq " ++ numberText sequence ++ ")"
  | drop db table values =>
    .call (.dropPartition { catalog, db := named db, table := named table, values })
      fun _ => "Dropped partition " ++ Request.joinValues values

def Command.request (catalog : String) : Command → ServiceRequest
  | databases command => command.request catalog
  | tables command => command.request catalog
  | partitions command => command.request catalog

/-- What is printed of a reply. -/
def showReply (format : OutputFormat) (done : UInt64 → String) : Reply → Except CommandError String
  | .status status => do
    check (some status)
    return done 0
  | .database status record => do
    check (some status)
    return formatRecords format record.toList
  | .table status record => do
    check (some status)
    return formatRecords format record.toList
  | .partition status record => do
    check (some status)
    return formatRecords format record.toList
  | .added status _ assigned => do
    check (some status)
    return done assigned

/-- What is printed of a stream of records, read to its end. -/
def showListed (format : OutputFormat) : Listed → Except Status String
  | .databases items => formatRecords format <$> readStream none items
  | .tables items => formatRecords format <$> readStream none items
  | .partitions items => formatRecords format <$> readStream none items

def fromStatus (result : Except Status α) : Except CommandError α := result.mapError .status

/-- Makes a request: what is printed, and the store afterwards. -/
def ServiceRequest.run (options : StoreOptions) (fresh : String) (store : Region.Store) (format : OutputFormat) :
    ServiceRequest → Except CommandError String × Region.Store
  | .list asked => (fromStatus (do showListed format (← asked.handle store)), store)
  | .call asked done =>
    let (reply, after) := asked.handle options fresh store
    (do showReply format done (← fromStatus reply), after)

/-- Runs a command against a store. -/
def Invocation.run (options : StoreOptions) (fresh : String) (store : Region.Store) (invocation : Invocation) :
    Except CommandError String × Region.Store :=
  (invocation.command.request invocation.catalog).run options fresh store invocation.output

end TableCatalog.Client

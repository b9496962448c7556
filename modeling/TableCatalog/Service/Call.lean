import TableCatalog.Catalog.Operation
import TableCatalog.Service.Status

/-! Calls that are answered once. A call becomes an operation on the store; its reply carries a status
and, when all went well, what the call asked for. -/

namespace TableCatalog

open Region

/-- A request to add a partition. The caller's number for it comes back in the reply. -/
structure AddRequest where
  catalog : String := ""
  db : Option Ident := none
  table : Option Ident := none
  partition : Option Partition := none
  sequence : UInt64 := 0
deriving DecidableEq, Inhabited

/-- A request to drop the partition with some values. -/
structure DropRequest where
  catalog : String := ""
  db : Option Ident := none
  table : Option Ident := none
  values : List String := []
deriving DecidableEq, Inhabited

inductive Call
  | createDatabase (catalog : String) (database : Option Database)
  | getDatabase (catalog : String) (db : Option Ident)
  | alterDatabase (catalog : String) (db : Option Ident) (database : Option Database)
  | dropDatabase (catalog : String) (db : Option Ident)
  | createTable (catalog : String) (db : Option Ident) (table : Option Table)
  | getTable (catalog : String) (db table : Option Ident)
  | dropTable (catalog : String) (db table : Option Ident)
  | addPartition (request : AddRequest)
  | getPartition (catalog : String) (db table : Option Ident) (values shown : List String)
  | dropPartition (request : DropRequest)
  | dropPartitions (catalog : String) (db table : Option Ident) (tuples : List (List String))

inductive Reply
  | status (status : RequestStatus)
  | database (status : RequestStatus) (database : Option Database)
  | table (status : RequestStatus) (table : Option Table)
  | partition (status : RequestStatus) (partition : Option Partition)
  | added (status : RequestStatus) (sequence : UInt64) (assigned : UInt64)
deriving DecidableEq

/-- A record that a call must carry. -/
def requirePart (what : String) (part : Option α) : Except Fault α :=
  match part with
  | some record => .ok record
  | none => .error (.missing what)

/-- The operation that a request to add a partition asks for. -/
def AddRequest.operation (request : AddRequest) (fresh : String) : Except Fault Operation := do
  let record ← requirePart "partition" request.partition
  return .addPartition request.catalog (request.db.getD {}) (request.table.getD {}) record fresh

namespace Call

/-- The operation that a call asks for. An identity left out is the empty one. -/
def operation (fresh : String) : Call → Except Fault Operation
  | createDatabase catalog database => do return .createDatabase catalog (← requirePart "database" database) fresh
  | getDatabase catalog db => return .getDatabase catalog (db.getD {})
  | alterDatabase catalog db database => do
    return .alterDatabase catalog (db.getD {}) (← requirePart "database" database)
  | dropDatabase catalog db => return .dropDatabase catalog (db.getD {})
  | createTable catalog db table => do return .createTable catalog (db.getD {}) (← requirePart "table" table) fresh
  | getTable catalog db table => return .getTable catalog (db.getD {}) (table.getD {})
  | dropTable catalog db table => return .dropTable catalog (db.getD {}) (table.getD {})
  | addPartition request => request.operation fresh
  | getPartition catalog db table values shown =>
    return .getPartition catalog (db.getD {}) (table.getD {}) values shown
  | dropPartition request =>
    return .dropPartition request.catalog (request.db.getD {}) (request.table.getD {}) request.values
  | dropPartitions catalog db table tuples => return .dropPartitions catalog (db.getD {}) (table.getD {}) tuples

/-- The reply to a call, given how it went and, if it went well, what came of it. -/
def reply (status : RequestStatus) (outcome : Option Outcome) : Call → Reply
  | createDatabase .. | getDatabase .. | alterDatabase .. =>
    .database status (outcome.bind fun | .database record => some record | _ => none)
  | createTable .. | getTable .. => .table status (outcome.bind fun | .table record => some record | _ => none)
  | getPartition .. => .partition status (outcome.bind fun | .partition record => some record | _ => none)
  | addPartition request =>
    .added status request.sequence ((outcome.bind fun | .partition record => some record.sequence | _ => none).getD 0)
  | dropDatabase .. | dropTable .. | dropPartition .. | dropPartitions .. => .status status

/-- Answers a call: the reply or the status it fails with, and the store afterwards. -/
def handle (options : StoreOptions) (fresh : String) (store : Store) (call : Call) : Except Status Reply × Store :=
  match call.operation fresh with
  | .error fault => ((RequestStatus.ofFault fault).map (call.reply · none), store)
  | .ok operation =>
    match operation.run options store with
    | (.ok outcome, after) => (.ok (call.reply .ok (some outcome)), after)
    | (.error fault, after) => ((RequestStatus.ofFault fault).map (call.reply · none), after)

end Call
end TableCatalog

import TableCatalog.Numeral
import TableCatalog.Service.Call

/-! Calls with many requests or many answers. Partitions are added one by one until one fails; drops
are collected and made at once; a listing streams its records, and fails as a call if its very first
item is a fault. -/

namespace TableCatalog

open Region

/-- The status of a call that answers with nothing else. -/
def statusOf (result : Except Fault α) : Except Status RequestStatus :=
  match result with
  | .ok _ => .ok .ok
  | .error fault => RequestStatus.ofFault fault

/-- Adds one partition. -/
def AddRequest.run (options : StoreOptions) (store : Store) (request : AddRequest) (fresh : String) :
    Except Fault Outcome × Store :=
  match request.operation fresh with
  | .error fault => (.error fault, store)
  | .ok operation => operation.run options store

/-- Names the request that failed. -/
def RequestStatus.ofRequest (sequence : UInt64) (status : RequestStatus) : RequestStatus :=
  { status with error := "request " ++ Numeral.decimalText sequence.toNat ++ ": " ++ status.error }

/-- Adds partitions in order, each under the identifier beside it, until one fails. Those before it
stay. -/
def addMany (options : StoreOptions) (store : Store) :
    List (AddRequest × String) → Except Status RequestStatus × Store
  | [] => (.ok .ok, store)
  | (request, fresh) :: rest =>
    match request.run options store fresh with
    | (.ok _, after) => addMany options after rest
    | (.error fault, after) => ((RequestStatus.ofFault fault).map (·.ofRequest request.sequence), after)

/-- Drops the partitions that a stream of requests lists. The first request says of which table. -/
def dropMany (store : Store) : List DropRequest → Except Status RequestStatus × Store
  | [] => (.ok .ok, store)
  | first :: rest =>
    let tuples := first.values :: rest.map (·.values)
    let (result, after) := store.update (dropPartitions first.catalog (first.db.getD {}) (first.table.getD {}) tuples)
    (statusOf result, after)

/-- Puts a record into the stream of an answer. -/
def Sink.stream : Sink (List (Except Status α)) α := fun record => modify (· ++ [.ok record])

/-- The items that a listing puts into its stream; a fault comes last. -/
def streamItems (listing : Emission (List (Except Status α)) Unit) : List (Except Status α) :=
  match Emission.run listing [] with
  | (.ok (), items) => items
  | (.error fault, items) => items ++ [.error fault.toStatus]

/-- The answer to a listing call: a stream of items, or failure if the first item is one. -/
def answerListing (listing : Emission (List (Except Status α)) Unit) : Except Status (List (Except Status α)) :=
  match streamItems listing with
  | .error status :: _ => .error status
  | items => .ok items

/-- What a client gets that reads a stream up to its end or, with a limit, up to so many items. -/
def readStream (limit : Option Nat) (items : List (Except Status α)) : Except Status (List α) :=
  (match limit with
    | some n => items.take n
    | none => items).mapM id

/-- Calls that list records. -/
inductive ListCall
  | databases (catalog : String) (listing : DatabaseListing)
  | tables (catalog : String) (db : Option Ident) (shown : List String)
  | partitions (catalog : String) (db table : Option Ident) (listing : PartitionListing)

/-- The streams that list calls answer with. -/
inductive Listed
  | databases (items : List (Except Status Database))
  | tables (items : List (Except Status Table))
  | partitions (items : List (Except Status Partition))

def ListCall.handle (store : Store) : ListCall → Except Status Listed
  | databases catalog listing => .databases <$> answerListing (listDatabases store catalog listing Sink.stream)
  | tables catalog db shown => .tables <$> answerListing (listTables store catalog (db.getD {}) shown Sink.stream)
  | partitions catalog db table listing =>
    .partitions <$> answerListing (listPartitions store catalog (db.getD {}) (table.getD {}) listing Sink.stream)

end TableCatalog

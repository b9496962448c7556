import TableCatalog.Catalog.Database
import TableCatalog.Catalog.Partition
import TableCatalog.Catalog.Table

/-! The operations on a store as values, so that runs of them can be spoken of. An operation that
creates something is given the identifier to create it under; a listing keeps all it is sent. -/

namespace TableCatalog

open Region

/-- How a store is kept. -/
structure StoreOptions where
  /-- Fill in an empty partition location from the storage descriptor when a partition is added. -/
  fillLocation : Bool := false
deriving DecidableEq, Inhabited

inductive Operation
  | createDatabase (catalog : String) (record : Database) (fresh : String)
  | getDatabase (catalog : String) (db : Ident)
  | listDatabases (catalog : String) (listing : DatabaseListing)
  | alterDatabase (catalog : String) (db : Ident) (changes : Database)
  | dropDatabase (catalog : String) (db : Ident)
  | createTable (catalog : String) (db : Ident) (record : Table) (fresh : String)
  | getTable (catalog : String) (db table : Ident)
  | listTables (catalog : String) (db : Ident) (shown : List String)
  | dropTable (catalog : String) (db table : Ident)
  | addPartition (catalog : String) (db table : Ident) (record : Partition) (fresh : String)
  | getPartition (catalog : String) (db table : Ident) (values shown : List String)
  | listPartitions (catalog : String) (db table : Ident) (listing : PartitionListing)
  | dropPartition (catalog : String) (db table : Ident) (values : List String)
  | dropPartitions (catalog : String) (db table : Ident) (tuples : List (List String))

/-- What an operation that succeeds gives back. -/
inductive Outcome
  | done
  | count (n : Nat)
  | database (record : Database)
  | table (record : Table)
  | partition (record : Partition)
  | databases (records : List Database)
  | tables (records : List Table)
  | partitions (records : List Partition)
deriving DecidableEq

namespace Operation

/-- Runs an update and wraps its result. -/
def change (store : Store) (wrap : α → Outcome) (work : Update α) : Except Fault Outcome × Store :=
  let (result, after) := store.update work
  (result.map wrap, after)

/-- Answers a question, which leaves the store as it is. -/
def ask (store : Store) (wrap : α → Outcome) (result : Except Fault α) : Except Fault Outcome × Store :=
  (result.map wrap, store)

/-- Runs an operation: its result and the store afterwards. -/
def run (options : StoreOptions) (store : Store) : Operation → Except Fault Outcome × Store
  | createDatabase catalog record fresh =>
    change store .database (TableCatalog.createDatabase catalog record fresh)
  | getDatabase catalog db => ask store .database (TableCatalog.getDatabase store catalog db)
  | listDatabases catalog listing => ask store .databases (findDatabases store catalog listing)
  | alterDatabase catalog db changes => change store .database (TableCatalog.alterDatabase catalog db changes)
  | dropDatabase catalog db => change store (fun _ => .done) (TableCatalog.dropDatabase catalog db)
  | createTable catalog db record fresh => change store .table (TableCatalog.createTable catalog db record fresh)
  | getTable catalog db table => ask store .table (TableCatalog.getTable store catalog db table)
  | listTables catalog db shown => ask store .tables (findTables store catalog db shown)
  | dropTable catalog db table => change store (fun _ => .done) (TableCatalog.dropTable catalog db table)
  | addPartition catalog db table record fresh =>
    change store .partition (TableCatalog.addPartition options.fillLocation catalog db table record fresh)
  | getPartition catalog db table values shown =>
    ask store .partition (TableCatalog.getPartition store catalog db table values shown)
  | listPartitions catalog db table listing => ask store .partitions (findPartitions store catalog db table listing)
  | dropPartition catalog db table values =>
    change store (fun _ => .done) (TableCatalog.dropPartition catalog db table values)
  | dropPartitions catalog db table tuples => change store .count (TableCatalog.dropPartitions catalog db table tuples)

/-- Runs operations one after another. -/
def runAll (options : StoreOptions) (store : Store) (operations : List Operation) : Store :=
  operations.foldl (fun store operation => (operation.run options store).2) store

end Operation
end TableCatalog

import TableCatalog.Catalog.Operation

/-! What a store is about: catalogs of databases, databases of tables, tables of partitions, as
records and not as rows. The operations are given once more over these contents, where nothing can
be malformed or missing half, so that what a store answers can be told without its encoding. -/

namespace TableCatalog

/-- The identifier that an operation draws. -/
def Operation.fresh? : Operation → Option String
  | createDatabase _ _ fresh | createTable _ _ _ fresh | addPartition _ _ _ _ fresh => some fresh
  | _ => none

/-- Entities under their identifiers, with an index of their
names and the number given to the last one. -/
structure Index (ε : Type) where
  count : UInt64 := 0
  names : SortedMap Bytes String := ∅
  entries : SortedMap Bytes ε := ∅

/-- The partitions of a table under their keys, and the number given to the last one. -/
structure Shelf where
  count : UInt64 := 0
  rows : SortedMap Bytes Partition := ∅

/-- A table. It has a shelf from its first partition on. -/
structure TableNode where
  record : Table
  shelf : Option Shelf := none

structure DatabaseNode where
  record : Database
  tables : Index TableNode := {}

abbrev Contents := SortedMap String (Index DatabaseNode)

namespace Index

variable {ε : Type}

def id? (index : Index ε) (name : String) : Option String := index.names.find? (Bytes.ofText name)

def node? (index : Index ε) (id : String) : Option ε := index.entries.find? (Bytes.ofText id)

/-- The identifier meant: the one that is given, or else the one that goes by the name. -/
def resolve (index : Index ε) (entity : Entity) (ident : Ident) : Except Fault String :=
  if !ident.id.isEmpty then .ok ident.id
  else
    match index.id? ident.name with
    | none => .error (.absent (entity.text ++ " " ++ ident.name))
    | some id => .ok id

def find (index : Index ε) (entity : Entity) (ident : Ident) (missing : Fault) :
    Except Fault (String × ε) := do
  let id ← index.resolve entity ident
  match index.node? id with
  | none => throw missing
  | some node => return (id, node)

/-- One more entity, under the next number. -/
def add (index : Index ε) (name id : String) (node : ε) : Index ε where
  count := index.count + 1
  names := index.names.insert (Bytes.ofText name) id
  entries := index.entries.insert (Bytes.ofText id) node

def put (index : Index ε) (id : String) (node : ε) : Index ε :=
  { index with entries := index.entries.insert (Bytes.ofText id) node }

/-- One entity less. The numbers go on where they were. -/
def remove (index : Index ε) (name id : String) : Index ε :=
  { index with
    names := index.names.erase (Bytes.ofText name),
    entries := index.entries.erase (Bytes.ofText id) }

end Index

namespace Contents

def catalog (contents : Contents) (catalog : String) : Except Fault (Index DatabaseNode) :=
  match contents.find? catalog with
  | none => .error (.absent ("catalog " ++ catalog))
  | some index => .ok index

def database? (contents : Contents) (catalog id : String) : Option DatabaseNode :=
  (contents.find? catalog).bind (·.node? id)

def table? (contents : Contents) (catalog db id : String) : Option TableNode :=
  (contents.database? catalog db).bind (·.tables.node? id)

structure FoundDatabase where
  index : Index DatabaseNode
  id : String
  node : DatabaseNode

structure FoundTable where
  db : FoundDatabase
  id : String
  node : TableNode

def database (contents : Contents) (catalog : String) (db : Ident) :
    Except Fault FoundDatabase := do
  let index ← contents.catalog catalog
  let (id, node) ← index.find .database db (.absent ("database " ++ db.text))
  return ⟨index, id, node⟩

def table (contents : Contents) (catalog : String) (db table : Ident) (missing : Fault) :
    Except Fault FoundTable := do
  let found ← contents.database catalog db
  let (id, node) ← found.node.tables.find .table table missing
  return ⟨found, id, node⟩

/-- A table as operations on partitions look for it. -/
def scope (contents : Contents) (catalog : String) (db table : Ident) : Except Fault FoundTable :=
  contents.table catalog db table
    (.notFound ("table " ++ catalog ++ ":" ++ db.text ++ "." ++ table.text ++ " does not exist"))

def setDatabase (contents : Contents) (catalog : String) (found : FoundDatabase)
    (node : DatabaseNode) : Contents :=
  contents.insert catalog (found.index.put found.id node)

def setTables (contents : Contents) (catalog : String) (found : FoundDatabase)
    (tables : Index TableNode) : Contents :=
  contents.setDatabase catalog found { found.node with tables }

def setShelf (contents : Contents) (catalog : String) (found : FoundTable)
    (shelf : Shelf) : Contents :=
  contents.setTables catalog found.db
    (found.db.node.tables.put found.id { found.node with shelf := some shelf })

def createDatabase (contents : Contents) (catalog : String) (record : Database) (fresh : String) :
    Except Fault (Database × Contents) := do
  Request.requireCatalog catalog
  let name ← Request.requireName .database record.ident
  let index := (contents.find? catalog).getD {}
  if (index.id? name).isSome then throw (.taken ("database " ++ name))
  let record := { record with ident := some ⟨name, fresh⟩, sequence := index.count + 1 }
  return (record, contents.insert catalog (index.add name fresh { record }))

def getDatabase (contents : Contents) (catalog : String) (db : Ident) : Except Fault Database := do
  Request.requireCatalog catalog
  Request.requireIdent .database db
  return (← contents.database catalog db).node.record

def findDatabases (contents : Contents) (catalog : String) (listing : DatabaseListing) :
    Except Fault (List Database) := do
  Request.requireCatalog catalog
  return ((contents.find? catalog).getD {}).entries.toList.map fun row => listing.apply row.2.record

def alterDatabase (contents : Contents) (catalog : String) (db : Ident) (changes : Database) :
    Except Fault (Database × Contents) := do
  Request.requireCatalog catalog
  Request.requireIdent .database db
  let found ← contents.database catalog db
  let record := found.node.record.alter changes
  return (record, contents.setDatabase catalog found { found.node with record })

def dropDatabase (contents : Contents) (catalog : String) (db : Ident) :
    Except Fault (Unit × Contents) := do
  Request.requireCatalog catalog
  Request.requireIdent .database db
  let found ← contents.database catalog db
  return ((), contents.insert catalog
    (found.index.remove (nameOf found.node.record.ident) found.id))

def createTable (contents : Contents) (catalog : String) (db : Ident)
    (record : Table) (fresh : String) :
    Except Fault (Table × Contents) := do
  Request.requireCatalog catalog
  Request.requireIdent .database db
  let name ← Request.requireName .table record.ident
  let found ← contents.database catalog db
  let tables := found.node.tables
  if (tables.id? name).isSome
    then throw (.taken ("table " ++ catalog ++ ":" ++ db.text ++ "." ++ name))
  let record := { record with ident := some ⟨name, fresh⟩, sequence := tables.count + 1 }
  return (record, contents.setTables catalog found (tables.add name fresh { record }))

def getTable (contents : Contents) (catalog : String) (db table : Ident) : Except Fault Table := do
  Request.requireTable catalog db table
  return (← contents.table catalog db table (.absent ("table " ++ table.text))).node.record

def findTables (contents : Contents) (catalog : String) (db : Ident) (shown : List String) :
    Except Fault (List Table) := do
  Request.requireCatalog catalog
  Request.requireIdent .database db
  let found ← contents.database catalog db
  return found.node.tables.entries.toList.map fun row => Projectable.project row.2.record shown []

def dropTable (contents : Contents) (catalog : String) (db table : Ident) :
    Except Fault (Unit × Contents) := do
  Request.requireTable catalog db table
  let found ← contents.table catalog db table (.absent ("table " ++ table.text))
  return ((), contents.setTables catalog found.db
    (found.db.node.tables.remove (nameOf found.node.record.ident) found.id))

def addPartition (contents : Contents) (fill : Bool) (catalog : String) (db table : Ident)
    (record : Partition) (fresh : String) : Except Fault (Partition × Contents) := do
  Request.requireTable catalog db table
  let key ← Request.partitionKey record.values
  let found ← contents.scope catalog db table
  let shelf := found.node.shelf.getD {}
  if (shelf.rows.find? (Bytes.ofText key)).isSome then throw (.taken (partitionText db table key))
  let record := { record with table := none, id := fresh }
  let record := { if fill then record.fillLocation else record with sequence := shelf.count + 1 }
  return (record, contents.setShelf catalog found ⟨shelf.count + 1,
    shelf.rows.insert (Bytes.ofText key) record⟩)

def getPartition (contents : Contents) (catalog : String) (db table : Ident)
    (values shown : List String) :
    Except Fault Partition := do
  Request.requireTable catalog db table
  let key ← Request.partitionKey values
  let found ← contents.scope catalog db table
  match (found.node.shelf.getD {}).rows.find? (Bytes.ofText key) with
  | none => throw (.absent (partitionText db table key))
  | some record =>
    let record := Projectable.project record.fillLocation shown []
    return if admits shown [] tablePath
      then { record with table := some found.node.record } else record

def findPartitions (contents : Contents) (catalog : String) (db table : Ident)
    (listing : PartitionListing) :
    Except Fault (List Partition) := do
  Request.requireTable catalog db table
  let keys ← Request.partitionKeys listing.filter
  let found ← contents.scope catalog db table
  let rows := (found.node.shelf.getD {}).rows
  let records :=
    if keys.isEmpty then rows.toList.map (·.2) else keys.filterMap fun key =>
      rows.find? (Bytes.ofText key)
  let attached := if admits listing.shown listing.hidden tablePath
    then some found.node.record else none
  return attachToFirst attached (records.map fun record =>
    Projectable.project record.fillLocation listing.shown listing.hidden)

/-- All the keys are there, or nothing is dropped. -/
def dropPartitions (contents : Contents) (catalog : String) (db table : Ident)
    (tuples : List (List String)) :
    Except Fault (Nat × Contents) := do
  Request.requireTable catalog db table
  let keys ← Request.partitionKeys tuples
  if keys.isEmpty then return (0, contents)
  let found ← contents.scope catalog db table
  let shelf := found.node.shelf.getD {}
  match keys.find? fun key => (shelf.rows.find? (Bytes.ofText key)).isNone with
  | some key => throw (.absent (partitionText db table key))
  | none =>
    let left := shelf.rows.removeWhere fun row => (keys.map Bytes.ofText).contains row
    return (keys.length, contents.setShelf catalog found ⟨shelf.count, left⟩)

/-- The outcome of a change and the contents afterwards; a change that fails is none. -/
def change (contents : Contents) (wrap : α → Outcome) :
    Except Fault (α × Contents) → Except Fault Outcome × Contents
  | .ok (result, after) => (.ok (wrap result), after)
  | .error fault => (.error fault, contents)

def run (options : StoreOptions) (contents : Contents) : Operation → Except Fault Outcome × Contents
  | .createDatabase catalog record fresh =>
    contents.change .database (contents.createDatabase catalog record fresh)
  | .getDatabase catalog db => ((contents.getDatabase catalog db).map .database, contents)
  | .listDatabases catalog listing =>
    ((contents.findDatabases catalog listing).map .databases, contents)
  | .alterDatabase catalog db changes =>
    contents.change .database (contents.alterDatabase catalog db changes)
  | .dropDatabase catalog db => contents.change (fun _ => .done) (contents.dropDatabase catalog db)
  | .createTable catalog db record fresh =>
    contents.change .table (contents.createTable catalog db record fresh)
  | .getTable catalog db table => ((contents.getTable catalog db table).map .table, contents)
  | .listTables catalog db shown => ((contents.findTables catalog db shown).map .tables, contents)
  | .dropTable catalog db table =>
    contents.change (fun _ => .done) (contents.dropTable catalog db table)
  | .addPartition catalog db table record fresh =>
    contents.change .partition
      (contents.addPartition options.fillLocation catalog db table record fresh)
  | .getPartition catalog db table values shown =>
    ((contents.getPartition catalog db table values shown).map .partition, contents)
  | .listPartitions catalog db table listing =>
    ((contents.findPartitions catalog db table listing).map .partitions, contents)
  | .dropPartition catalog db table values =>
    contents.change (fun _ => .done) (contents.dropPartitions catalog db table [values])
  | .dropPartitions catalog db table tuples =>
    contents.change .count (contents.dropPartitions catalog db table tuples)

end Contents
end TableCatalog

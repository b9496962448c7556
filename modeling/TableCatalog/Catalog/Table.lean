import TableCatalog.Catalog.Level
import TableCatalog.Catalog.Sink
import TableCatalog.Projection

/-! Tables of a database: create, look up, list, drop. -/

namespace TableCatalog

open Region

/-- Creates a table in an existing database under a fresh identifier. The identity and the sequence
number that the record came with are replaced. -/
def createTable (catalog : String) (db : Ident) (record : Table) (fresh : String) : Update Table := do
  Request.requireCatalog catalog
  Request.requireIdent .database db
  let name ← Request.requireName .table record.ident
  let level ← Update.read fun store => openDatabase store catalog db
  if ((← get).get? level.byName (Bytes.ofText name)).isSome then
    throw (.taken ("table " ++ catalog ++ ":" ++ db.text ++ "." ++ name))
  Update.put level.byName (Bytes.ofText name) (Bytes.ofText fresh)
  let sequence ← Update.nextSequence level.root
  let record := { record with ident := some ⟨name, fresh⟩, sequence }
  Update.put level.byId (Bytes.ofText fresh) (Wire.Message.encode record)
  return record

def getTable (store : Store) (catalog : String) (db table : Ident) : Except Fault Table := do
  Request.requireTable catalog db table
  return (← readEntity store (← openDatabase store catalog db) .table table).2

/-- The tables of a database in the order of their identifiers. -/
def findTables (store : Store) (catalog : String) (db : Ident) (shown : List String) :
    Except Fault (List Table) := do
  Request.requireCatalog catalog
  Request.requireIdent .database db
  let level ← openDatabase store catalog db
  return (recordsIn store level.byId).map fun record => Projectable.project record shown []

/-- Hands those tables out while it goes through the index. -/
def listTables (store : Store) (catalog : String) (db : Ident) (shown : List String) (sink : Sink σ Table) :
    Emission σ Unit := do
  Request.requireCatalog catalog
  Request.requireIdent .database db
  let level ← openDatabase store catalog db
  forEachRecord store level.byId fun record => sink (Projectable.project record shown [])

/-- Drops a table with its partitions. -/
def dropTable (catalog : String) (db table : Ident) : Update Unit := do
  Request.requireTable catalog db table
  let level ← Update.read fun store => openDatabase store catalog db
  let (id, record) ← Update.read fun store => readEntity (α := Table) store level .table table
  let _ ← Update.delete level.byName (Bytes.ofText (nameOf record.ident))
  let _ ← Update.delete level.byId (Bytes.ofText id)
  let _ ← Update.deleteRegion (level.child id)

end TableCatalog

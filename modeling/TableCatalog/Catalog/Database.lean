import TableCatalog.Catalog.Level
import TableCatalog.Catalog.Sink
import TableCatalog.Projection

/-! Databases of a catalog: create, look up, list, alter, drop. -/

namespace TableCatalog

open Region

def writeDatabase (level : Level) (id : String) (record : Database) : Update Unit :=
  Update.put level.byId (Bytes.ofText id) (Wire.Message.encode record)

/-- Creates a database under a fresh identifier, and the catalog with its first database. The identity
and the sequence number that the record came with are replaced. -/
def createDatabase (catalog : String) (record : Database) (fresh : String) : Update Database := do
  Request.requireCatalog catalog
  let name ← Request.requireName .database record.ident
  let level := Level.catalog catalog
  level.create
  if ((← get).get? level.byName (Bytes.ofText name)).isSome then throw (.taken ("database " ++ name))
  (Level.database catalog fresh).create
  Update.put level.byName (Bytes.ofText name) (Bytes.ofText fresh)
  let sequence ← Update.nextSequence level.root
  let record := { record with ident := some ⟨name, fresh⟩, sequence }
  writeDatabase level fresh record
  return record

def getDatabase (store : Store) (catalog : String) (db : Ident) : Except Fault Database := do
  Request.requireCatalog catalog
  Request.requireIdent .database db
  return (← readEntity store (← openCatalog store catalog) .database db).2

/-- What a listing of databases shows. -/
structure DatabaseListing where
  shown : List String := []
  hideParams : Bool := false
deriving DecidableEq, Inhabited

def DatabaseListing.apply (listing : DatabaseListing) (record : Database) : Database :=
  let record := Projectable.project record listing.shown []
  if listing.hideParams then { record with params := ∅, systemParams := ∅ } else record

/-- The databases of a catalog in the order of their identifiers. A catalog that was never created has
none. -/
def findDatabases (store : Store) (catalog : String) (listing : DatabaseListing) :
    Except Fault (List Database) := do
  Request.requireCatalog catalog
  match openCatalog store catalog with
  | .ok level => return (recordsIn store level.byId).map listing.apply
  | .error fault => if fault.kind = .notFound then return [] else throw fault

/-- Hands those databases out while it goes through the index. -/
def listDatabases (store : Store) (catalog : String) (listing : DatabaseListing) (sink : Sink σ Database) :
    Emission σ Unit := do
  Request.requireCatalog catalog
  match openCatalog store catalog with
  | .ok level => forEachRecord store level.byId fun record => sink (listing.apply record)
  | .error fault => if fault.kind = .notFound then return () else throw fault

/-- The record with what `changes` says: its parameters as they are, its system parameters and location
only if there are any. -/
def Database.alter (record changes : Database) : Database :=
  { record with
    params := changes.params
    systemParams := if changes.systemParams.isEmpty then record.systemParams else changes.systemParams
    location := if changes.location.isEmpty then record.location else changes.location }

def alterDatabase (catalog : String) (db : Ident) (changes : Database) : Update Database := do
  Request.requireCatalog catalog
  Request.requireIdent .database db
  let level ← Update.read fun store => openCatalog store catalog
  let (id, record) ← Update.read fun store => readEntity (α := Database) store level .database db
  let record := record.alter changes
  writeDatabase level id record
  return record

/-- Drops a database with its tables and their partitions. -/
def dropDatabase (catalog : String) (db : Ident) : Update Unit := do
  Request.requireCatalog catalog
  Request.requireIdent .database db
  let level ← Update.read fun store => openCatalog store catalog
  let (id, record) ← Update.read fun store => readEntity (α := Database) store level .database db
  let _ ← Update.delete level.byName (Bytes.ofText (nameOf record.ident))
  let _ ← Update.delete level.byId (Bytes.ofText id)
  let _ ← Update.deleteRegion (level.child id)

end TableCatalog

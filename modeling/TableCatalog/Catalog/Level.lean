import TableCatalog.Catalog.Request
import TableCatalog.Region.Transaction
import TableCatalog.Wire.Message

/-! The shape of a catalog in the tree of regions. A catalog indexes its databases and each database
its tables in the same way: a name index, an index of records by identifier, and a region with one
region inside for each entity. The region of a level counts its entities; the region of a table counts
and holds its partitions.

```
catalog        BYNAME  BYID  DB
  database       BYNAME  BYID  TBLS
    table          partitions
```
-/

namespace TableCatalog

open Region

/-- A region that indexes entities: all databases of a catalog, or all tables of a database. -/
structure Level where
  root : Path
  /-- The segment of the region that holds the regions of the entities. -/
  inside : String
deriving DecidableEq, Repr

namespace Level

def catalog (catalog : String) : Level := ⟨⟨catalog, []⟩, "DB"⟩

/-- From names to identifiers. -/
def byName (level : Level) : Path := level.root.child "BYNAME"

/-- From identifiers to records. -/
def byId (level : Level) : Path := level.root.child "BYID"

def children (level : Level) : Path := level.root.child level.inside

/-- The region of the entity with an identifier. -/
def child (level : Level) (id : String) : Path := level.children.child id

/-- The tables of the database with an identifier. -/
def database (catalog id : String) : Level := ⟨(Level.catalog catalog).child id, "TBLS"⟩

/-- The regions that exist with the level. -/
def regions (level : Level) : List Path := [level.root, level.byName, level.byId, level.children]

/-- Creates those regions of the level that are missing. -/
def create (level : Level) : Update Unit := level.regions.forM Update.createRegion

/-- A level whose root exists has its other regions too. -/
def check (store : Store) (level : Level) : Except Fault Unit :=
  [level.byName, level.byId, level.children].forM fun region =>
    if store.hasRegion region then .ok () else .error (.lost ("region " ++ region.text))

end Level

/-- Finds a catalog that was created before. -/
def openCatalog (store : Store) (catalog : String) : Except Fault Level := do
  let level := Level.catalog catalog
  if !store.hasRegion level.root then throw (.absent ("catalog " ++ catalog))
  level.check store
  return level

/-- The identifier of an entity. One that is given counts as it stands; a name is looked up. -/
def resolve (store : Store) (level : Level) (entity : Entity) (ident : Ident) : Except Fault String :=
  if !ident.id.isEmpty then .ok ident.id
  else
    match store.get? level.byName (Bytes.ofText ident.name) with
    | none => .error (.absent (entity.text ++ " " ++ ident.name))
    | some bytes =>
      match Bytes.text? bytes with
      | some id => .ok id
      | none => .error (.corruption (entity.text ++ " " ++ ident.name ++ ": malformed id in name index"))

/-- The stored bytes of an entity. That an identifier is missing is the caller's mistake if the caller
gave it, and corruption if the name index did. -/
def storedBytes (store : Store) (level : Level) (entity : Entity) (ident : Ident) (id : String) :
    Except Fault Bytes :=
  match store.get? level.byId (Bytes.ofText id) with
  | some bytes => .ok bytes
  | none =>
    if ident.id.isEmpty then .error (.lost (entity.text ++ " " ++ id))
    else .error (.absent (entity.text ++ " " ++ ident.text))

/-- The identifier and the record of an entity. -/
def readEntity [Wire.Message α] (store : Store) (level : Level) (entity : Entity) (ident : Ident) :
    Except Fault (String × α) := do
  let id ← resolve store level entity ident
  let bytes ← storedBytes store level entity ident id
  return (id, ← Wire.decode (entity.text ++ " " ++ id) bytes)

/-- Finds a database in an existing catalog. -/
def openDatabase (store : Store) (catalog : String) (db : Ident) : Except Fault Level := do
  let id ← resolve store (← openCatalog store catalog) .database db
  let level := Level.database catalog id
  if !store.hasRegion level.root then throw (.absent ("database " ++ db.text))
  level.check store
  return level

/-- A table found in a database. -/
structure TableRef where
  level : Level
  id : String
deriving DecidableEq, Repr

/-- The region of the table's partitions. It appears with the first partition. -/
def TableRef.partitions (table : TableRef) : Path := table.level.child table.id

/-- Finds a table in an existing database. -/
def openTable (store : Store) (catalog : String) (db table : Ident) : Except Fault TableRef := do
  let level ← openDatabase store catalog db
  let id ← resolve store level .table table
  if (store.get? level.byId (Bytes.ofText id)).isSome then return ⟨level, id⟩
  if table.id.isEmpty then throw (.lost ("table " ++ id))
  throw (.notFound ("table " ++ catalog ++ ":" ++ db.text ++ "." ++ table.text ++ " does not exist"))

/-- The record of a table found before. -/
def TableRef.read (store : Store) (table : TableRef) : Except Fault Table :=
  match store.get? table.level.byId (Bytes.ofText table.id) with
  | none => .error (.lost ("table " ++ table.id))
  | some bytes => Wire.decode ("table " ++ table.id) bytes

/-- Visits the records kept in a region, in key order. Bytes that are no record are passed over. -/
def forEachRecord [Monad m] [Wire.Message α] (store : Store) (region : Path) (visit : α → m Unit) : m Unit :=
  (store.scan region).forM fun row =>
    match Wire.read row.2 with
    | .ok record => visit record
    | .error _ => pure ()

/-- The records that such a visit meets. -/
def recordsIn [Wire.Message α] (store : Store) (region : Path) : List α :=
  (store.scan region).filterMap fun row => Wire.read? row.2

end TableCatalog

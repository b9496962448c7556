import TableCatalog.Fault
import TableCatalog.Record

/-! What a request must carry before the catalog is looked at, and the key under which a partition is
kept. -/

namespace TableCatalog

/-- What has an identity in the catalog. -/
inductive Entity
  | database
  | table
deriving DecidableEq, Repr

def Entity.text : Entity → String
  | database => "database"
  | table => "table"

namespace Request

def requireCatalog (catalog : String) : Except Fault Unit :=
  if catalog.isEmpty then .error (.missing "catalog") else .ok ()

/-- An identity names something if it has a name or an identifier. -/
def requireIdent (entity : Entity) (ident : Ident) : Except Fault Unit :=
  if ident.isEmpty then .error (.missing (entity.text ++ " identity")) else .ok ()

/-- The name that a new entity is to have. -/
def requireName (entity : Entity) (ident : Option Ident) : Except Fault String :=
  let name := nameOf ident
  if name.isEmpty then .error (.missing (entity.text ++ " name")) else .ok name

/-- What joins the values of a partition. -/
def separator : String := "/"

def joinValues (values : List String) : String := separator.intercalate values

/-- The key of the partition with these values. -/
def partitionKey (values : List String) : Except Fault String :=
  let key := joinValues values
  if key.isEmpty then .error (.missing "partition values") else .ok key

/-- The keys of several value tuples in the order of their first mention, each once. -/
def partitionKeys (tuples : List (List String)) : Except Fault (List String) := do
  let keys ← tuples.mapM partitionKey
  return keys.foldl (fun seen key => if seen.contains key then seen else seen ++ [key]) []

/-- A request about a table names a catalog, a database and a table. -/
def requireTable (catalog : String) (db table : Ident) : Except Fault Unit := do
  requireCatalog catalog
  requireIdent .database db
  requireIdent .table table

end Request
end TableCatalog

import TableCatalog.Catalog.Level
import TableCatalog.Catalog.Sink
import TableCatalog.Projection

/-! Partitions of a table: add, look up, list, drop. A partition goes by its values, joined into one
key; there is no index by its identifier. -/

namespace TableCatalog

open Region

/-- An empty location is filled in from the storage descriptor. -/
def Partition.fillLocation (partition : Partition) : Partition :=
  if partition.location.isEmpty then
    match partition.storage with
    | some storage => { partition with location := storage.location }
    | none => partition
  else partition

/-- How a message refers to a partition. -/
def partitionText (db table : Ident) (key : String) : String :=
  "partition " ++ db.text ++ "." ++ table.text ++ "/" ++ key

/-- The stored bytes of a partition. -/
def TableRef.partition? (store : Store) (table : TableRef) (key : String) : Option Bytes :=
  if store.hasRegion table.partitions then store.get? table.partitions (Bytes.ofText key) else none

/-- Adds a partition under a fresh identifier. The identifier, the sequence number and the table that
the record came with are replaced; with `fill`, so is an empty location. -/
def addPartition (fill : Bool) (catalog : String) (db table : Ident) (record : Partition) (fresh : String) :
    Update Partition := do
  Request.requireTable catalog db table
  let key ← Request.partitionKey record.values
  let record := { record with table := none, id := fresh }
  let record := if fill then record.fillLocation else record
  let found ← Update.read fun store => openTable store catalog db table
  Update.createRegion found.partitions
  if ((← get).get? found.partitions (Bytes.ofText key)).isSome then throw (.taken (partitionText db table key))
  let sequence ← Update.nextSequence found.partitions
  let record := { record with sequence }
  Update.put found.partitions (Bytes.ofText key) (Wire.Message.encode record)
  return record

/-- The path that stands for the table attached to a partition. -/
def tablePath : String := "table"

/-- One partition, with its table if that is shown. -/
def getPartition (store : Store) (catalog : String) (db table : Ident) (values shown : List String) :
    Except Fault Partition := do
  Request.requireTable catalog db table
  let key ← Request.partitionKey values
  let found ← openTable store catalog db table
  match found.partition? store key with
  | none => throw (.absent (partitionText db table key))
  | some bytes =>
    let record : Partition ← Wire.decode ("partition " ++ key) bytes
    let record := Projectable.project record.fillLocation shown []
    if admits shown [] tablePath then return { record with table := some (← found.read store) }
    return record

/-- What a listing of partitions shows. An empty filter asks for all of them. -/
structure PartitionListing where
  filter : List (List String) := []
  shown : List String := []
  hidden : List String := []
deriving DecidableEq, Inhabited

/-- Attaches the table to the first record and detaches whatever the others hold. -/
def attachToFirst (table : Option Table) : List Partition → List Partition
  | [] => []
  | first :: rest => { first with table } :: rest.map fun record => { record with table := none }

/-- The partitions of a table: all in key order, or those asked for in the order of their first mention.
What is missing or cannot be read is passed over. -/
def findPartitions (store : Store) (catalog : String) (db table : Ident) (listing : PartitionListing) :
    Except Fault (List Partition) := do
  Request.requireTable catalog db table
  let keys ← Request.partitionKeys listing.filter
  let found ← openTable store catalog db table
  let attached ← if admits listing.shown listing.hidden tablePath then some <$> found.read store else pure none
  let records : List Partition :=
    if keys.isEmpty then
      if store.hasRegion found.partitions then recordsIn store found.partitions else []
    else keys.filterMap fun key => (found.partition? store key).bind Wire.read?
  return attachToFirst attached (records.map fun record =>
    Projectable.project record.fillLocation listing.shown listing.hidden)

/-- The partition under a key, if there is one. -/
def TableRef.readPartition (store : Store) (table : TableRef) (key : String) : Except Fault (Option Partition) :=
  match table.partition? store key with
  | none => .ok none
  | some bytes => some <$> Wire.decode ("partition " ++ key) bytes

/-- Hands out one partition as it is shown. The table that is still to be attached goes with it and is then used up. -/
def emitPartition (listing : PartitionListing) (sink : Sink σ Partition) (record : Partition) :
    StateT (Option Table) (Emission σ) Unit := do
  let table ← getModify fun _ => none
  sink { Projectable.project record.fillLocation listing.shown listing.hidden with table }

/-- Hands out the partition under a key, unless it is missing or its bytes are no record. -/
def emitKey (store : Store) (found : TableRef) (listing : PartitionListing) (sink : Sink σ Partition) (key : String) :
    StateT (Option Table) (Emission σ) Unit :=
  match found.readPartition store key with
  | .ok (some record) => emitPartition listing sink record
  | .ok none => return ()
  | .error fault => if fault.kind = .corruption then return () else throw fault

/-- Hands those partitions out while it goes through the region or looks up the keys. -/
def listPartitions (store : Store) (catalog : String) (db table : Ident) (listing : PartitionListing)
    (sink : Sink σ Partition) : Emission σ Unit := do
  Request.requireTable catalog db table
  let keys ← Request.partitionKeys listing.filter
  let found ← openTable store catalog db table
  let attached ← if admits listing.shown listing.hidden tablePath then some <$> found.read store else pure none
  let scan : StateT (Option Table) (Emission σ) Unit :=
    if keys.isEmpty then
      if store.hasRegion found.partitions then forEachRecord store found.partitions (emitPartition listing sink) else return ()
    else keys.forM (emitKey store found listing sink)
  scan.run' attached

/-- Drops the partitions with these values, all or none, and returns how many they were. -/
def dropPartitions (catalog : String) (db table : Ident) (tuples : List (List String)) : Update Nat := do
  Request.requireTable catalog db table
  let keys ← Request.partitionKeys tuples
  if keys.isEmpty then return 0
  let found ← Update.read fun store => openTable store catalog db table
  let present := (← get).hasRegion found.partitions
  keys.forM fun key => do
    let dropped ← if present then Update.delete found.partitions (Bytes.ofText key) else pure false
    if !dropped then throw (.absent (partitionText db table key))
  return keys.length

def dropPartition (catalog : String) (db table : Ident) (values : List String) : Update Unit := do
  let _ ← dropPartitions catalog db table [values]

end TableCatalog

import TableCatalog.Record

/-! Showing part of a record. Each kind of record has fields that go by a path; a list of paths picks
the fields to show, another the fields to hide. Showing builds a new record from the fields picked,
hiding puts fields of a record back to their defaults, and a path the kind does not have does
nothing. -/

namespace TableCatalog

/-- A kind of record of which parts can be shown. -/
class Projectable (α : Type) extends Inhabited α where
  Field : Type
  fields : List Field
  path : Field → String
  /-- Carries a field over from the first record into the second. -/
  copy : Field → α → α → α
  /-- Puts a field back to its default. -/
  clear : Field → α → α

namespace Projectable

variable {α : Type} [Projectable α]

/-- The field that goes by a path. -/
def field? (path : String) : Option (Field α) := (fields (α := α)).find? (Projectable.path · == path)

/-- The paths of all fields. -/
def paths (α : Type) [Projectable α] : List String := (fields (α := α)).map Projectable.path

/-- A record that holds only the listed fields. -/
def select (record : α) (shown : List String) : α :=
  shown.foldl (fun target path =>
    match field? path with
    | some field => copy field record target
    | none => target) default

/-- The record with the listed fields cleared. -/
def exclude (record : α) (hidden : List String) : α :=
  hidden.foldl (fun record path =>
    match field? path with
    | some field => clear field record
    | none => record) record

/-- What is left of a record: the fields shown, all of them if none is listed, less those hidden. -/
def project (record : α) (shown hidden : List String) : α :=
  exclude (if shown.isEmpty then record else select record shown) hidden

end Projectable

/-- A path is shown and not hidden. -/
def admits (shown hidden : List String) (path : String) : Bool :=
  (shown.isEmpty || shown.contains path) && !hidden.contains path

/-- Carries over the name alone; the identity appears even if there is no name to carry. -/
def copyName (source target : Option Ident) : Option Ident :=
  some { target.getD {} with name := nameOf source }

def clearName (ident : Option Ident) : Option Ident := ident.map fun ident => { ident with name := "" }

inductive Database.Field
  | ident
  | name
  | location
  | params

instance : Projectable Database where
  Field := Database.Field
  fields := [.ident, .name, .location, .params]
  path
    | .ident => "id"
    | .name => "id.name"
    | .location => "location"
    | .params => "parameters"
  copy field source target :=
    match field with
    | .ident => { target with ident := source.ident }
    | .name => { target with ident := copyName source.ident target.ident }
    | .location => { target with location := source.location }
    | .params => { target with params := source.params, systemParams := source.systemParams }
  clear field record :=
    match field with
    | .ident => { record with ident := none }
    | .name => { record with ident := clearName record.ident }
    | .location => { record with location := "" }
    | .params => { record with params := ∅, systemParams := ∅ }

inductive Table.Field
  | ident
  | name
  | location
  | params
  | partitionKeys
  | storage
  | type

instance : Projectable Table where
  Field := Table.Field
  fields := [.ident, .name, .location, .params, .partitionKeys, .storage, .type]
  path
    | .ident => "id"
    | .name => "id.name"
    | .location => "location"
    | .params => "parameters"
    | .partitionKeys => "partitionKeys"
    | .storage => "sd"
    | .type => "tableType"
  copy field source target :=
    match field with
    | .ident => { target with ident := source.ident }
    | .name => { target with ident := copyName source.ident target.ident }
    | .location => { target with location := source.location }
    | .params => { target with params := source.params, systemParams := source.systemParams }
    | .partitionKeys => { target with partitionKeys := source.partitionKeys }
    | .storage => { target with storage := source.storage }
    | .type => { target with typeCode := source.typeCode }
  clear field record :=
    match field with
    | .ident => { record with ident := none }
    | .name => { record with ident := clearName record.ident }
    | .location => { record with location := "" }
    | .params => { record with params := ∅, systemParams := ∅ }
    | .partitionKeys => { record with partitionKeys := [] }
    | .storage => { record with storage := none }
    | .type => { record with typeCode := 0 }

inductive Partition.Field
  | location
  | params
  | values
  | storage
  | storageParams
  | serialization
  | serializationParams
  | table

namespace Partition

/-- The serialization of a partition's data, if its storage descriptor has one. -/
def serialization (partition : Partition) : Option Serialization := partition.storage.bind (·.serialization)

/-- Changes the storage descriptor, which appears if there was none. -/
def withStorage (partition : Partition) (change : StorageDescriptor → StorageDescriptor) : Partition :=
  { partition with storage := some (change (partition.storage.getD {})) }

/-- Changes the storage descriptor if there is one. -/
def mapStorage (partition : Partition) (change : StorageDescriptor → StorageDescriptor) : Partition :=
  { partition with storage := partition.storage.map change }

end Partition

instance : Projectable Partition where
  Field := Partition.Field
  fields := [.location, .params, .values, .storage, .storageParams, .serialization, .serializationParams, .table]
  path
    | .location => "location"
    | .params => "parameters"
    | .values => "values"
    | .storage => "sd"
    | .storageParams => "sd.parameters"
    | .serialization => "sd.serdeinfo"
    | .serializationParams => "sd.serdeinfo.parameters"
    | .table => "table"
  copy field source target :=
    match field with
    | .location => { target with location := source.location }
    | .params => { target with params := source.params }
    | .values => { target with values := source.values }
    | .storage => { target with storage := source.storage }
    | .storageParams =>
      match source.storage with
      | none => target
      | some storage => target.withStorage fun s => { s with params := storage.params }
    | .serialization =>
      match source.storage with
      | none => target
      | some storage => target.withStorage fun s => { s with serialization := storage.serialization }
    | .serializationParams =>
      match source.serialization with
      | none => target
      | some serialization => target.withStorage fun s =>
          { s with serialization := some { s.serialization.getD {} with params := serialization.params } }
    | .table => { target with table := source.table }
  clear field record :=
    match field with
    | .location => { record with location := "" }
    | .params => { record with params := ∅ }
    | .values => { record with values := [] }
    | .storage => { record with storage := none }
    | .storageParams => record.mapStorage fun s => { s with params := ∅ }
    | .serialization => record.mapStorage fun s => { s with serialization := none }
    | .serializationParams => record.mapStorage fun s =>
        { s with serialization := s.serialization.map fun serialization => { serialization with params := ∅ } }
    | .table => { record with table := none }

end TableCatalog

import TableCatalog.Record

/-! What can be read off a record: its leaves. A leaf is a text, a number, a
list or a map, and it has a place, the names that lead to it from the record
inwards. A part that is not there reads as if all its leaves had their defaults,
so beside its leaves a record says only which of its parts are there. -/

namespace TableCatalog

/-- A kind of record that is read leaf by leaf. -/
class Leafy (α : Type) where
  Leaf : Type
  [decidableLeaf : DecidableEq Leaf]
  Value : Leaf → Type
  read : (leaf : Leaf) → α → Value leaf
  /-- The names that lead to a leaf, as field paths spell them. -/
  place : Leaf → List String
  /-- Which of the parts that may be absent are there. -/
  parts : α → List Bool
  /-- No leaf of a record is forgotten. -/
  eq_of_read : {first second : α} → parts first = parts second →
    (∀ leaf, read leaf first = read leaf second) → first = second

attribute [reducible, instance] Leafy.decidableLeaf

inductive Ident.Leaf
  | name
  | id
deriving DecidableEq

def Ident.Leaf.read : Ident.Leaf → Ident → String
  | name, ident => ident.name
  | id, ident => ident.id

def Ident.Leaf.place : Ident.Leaf → List String
  | name => ["name"]
  | id => ["id"]

theorem Ident.eq_of_read {first second : Ident}
    (alike : ∀ leaf : Ident.Leaf, leaf.read first = leaf.read second) : first = second := by
  cases first
  cases second
  exact (Ident.mk.injEq ..).mpr ⟨alike .name, alike .id⟩

inductive Serialization.Leaf
  | name
  | library
  | params
deriving DecidableEq

namespace Serialization.Leaf

abbrev Value : Serialization.Leaf → Type
  | name | library => String
  | params => Params

def read : (leaf : Serialization.Leaf) → Serialization → leaf.Value
  | name, serialization => serialization.name
  | library, serialization => serialization.library
  | params, serialization => serialization.params

def place : Serialization.Leaf → List String
  | name => ["name"]
  | library => ["serializationLib"]
  | params => ["parameters"]

end Serialization.Leaf

theorem Serialization.eq_of_read {first second : Serialization}
    (alike : ∀ leaf : Serialization.Leaf, leaf.read first = leaf.read second) : first = second := by
  cases first
  cases second
  exact (Serialization.mk.injEq ..).mpr ⟨alike .name, alike .library, alike .params⟩

inductive StorageDescriptor.Leaf
  | location
  | columns
  | inputFormat
  | outputFormat
  | serialization (leaf : Serialization.Leaf)
  | params
  | bucketCount
  | bucketColumns
  | sortColumns
deriving DecidableEq

namespace StorageDescriptor.Leaf

abbrev Value : StorageDescriptor.Leaf → Type
  | location | inputFormat | outputFormat => String
  | columns => List Column
  | serialization leaf => leaf.Value
  | params => Params
  | bucketCount => Int32
  | bucketColumns => List String
  | sortColumns => List SortColumn

def read : (leaf : StorageDescriptor.Leaf) → StorageDescriptor → leaf.Value
  | location, storage => storage.location
  | columns, storage => storage.columns
  | inputFormat, storage => storage.inputFormat
  | outputFormat, storage => storage.outputFormat
  | serialization leaf, storage => leaf.read (storage.serialization.getD {})
  | params, storage => storage.params
  | bucketCount, storage => storage.bucketCount
  | bucketColumns, storage => storage.bucketColumns
  | sortColumns, storage => storage.sortColumns

def place : StorageDescriptor.Leaf → List String
  | location => ["location"]
  | columns => ["cols"]
  | inputFormat => ["inputFormat"]
  | outputFormat => ["outputFormat"]
  | serialization leaf => "serdeinfo" :: leaf.place
  | params => ["parameters"]
  | bucketCount => ["numBuckets"]
  | bucketColumns => ["bucketCols"]
  | sortColumns => ["sortCols"]

end StorageDescriptor.Leaf

private theorem eq_of_getD {α : Type} {first second : Option α} {default : α}
    (present : first.isSome = second.isSome) (same : first.getD default = second.getD default) :
    first = second := by
  cases first <;> cases second
  case none.none => rfl
  case some.some => exact congrArg some same
  all_goals contradiction

theorem StorageDescriptor.eq_of_read {first second : StorageDescriptor}
    (present : first.serialization.isSome = second.serialization.isSome)
    (alike : ∀ leaf : StorageDescriptor.Leaf, leaf.read first = leaf.read second) :
    first = second := by
  have serialization : first.serialization = second.serialization :=
    eq_of_getD present (Serialization.eq_of_read fun leaf => alike (.serialization leaf))
  cases first
  cases second
  exact (StorageDescriptor.mk.injEq ..).mpr ⟨alike .location,
    alike .columns, alike .inputFormat, alike .outputFormat, serialization,
    alike .params, alike .bucketCount, alike .bucketColumns, alike .sortColumns⟩

/-- Which parts a storage descriptor has that may itself be absent. -/
def storageParts (storage : Option StorageDescriptor) : List Bool :=
  [storage.isSome, (storage.getD {}).serialization.isSome]

private theorem storage_eq_of_read {first second : Option StorageDescriptor}
    (present : storageParts first = storageParts second)
    (alike : ∀ leaf : StorageDescriptor.Leaf,
      leaf.read (first.getD {}) = leaf.read (second.getD {})) : first = second := by
  obtain ⟨storage, serialization⟩ : first.isSome = second.isSome ∧
      (first.getD {}).serialization.isSome = (second.getD {}).serialization.isSome := by
    simpa only [storageParts, List.cons.injEq, and_true] using present
  exact eq_of_getD storage (StorageDescriptor.eq_of_read serialization alike)

inductive Database.Leaf
  | ident (leaf : Ident.Leaf)
  | location
  | params
  | systemParams
  | sequence
deriving DecidableEq

/-- Both maps of parameters are at one place. -/
instance : Leafy Database where
  Leaf := Database.Leaf
  Value
    | .ident _ | .location => String
    | .params | .systemParams => Params
    | .sequence => UInt64
  read
    | .ident leaf, record => leaf.read (record.ident.getD {})
    | .location, record => record.location
    | .params, record => record.params
    | .systemParams, record => record.systemParams
    | .sequence, record => record.sequence
  place
    | .ident leaf => "id" :: leaf.place
    | .location => ["location"]
    | .params | .systemParams => ["parameters"]
    | .sequence => ["seqId"]
  parts record := [record.ident.isSome]
  eq_of_read {first second} present alike := by
    have ident := eq_of_getD (List.cons.inj present).left (Ident.eq_of_read fun leaf =>
      alike (.ident leaf))
    cases first
    cases second
    exact (Database.mk.injEq ..).mpr ⟨ident, alike .location,
      alike .params, alike .systemParams, alike .sequence⟩

inductive Table.Leaf
  | ident (leaf : Ident.Leaf)
  | location
  | params
  | systemParams
  | partitionKeys
  | storage (leaf : StorageDescriptor.Leaf)
  | type
  | sequence
deriving DecidableEq

instance : Leafy Table where
  Leaf := Table.Leaf
  Value
    | .ident _ | .location => String
    | .params | .systemParams => Params
    | .partitionKeys => List Column
    | .storage leaf => leaf.Value
    | .type => Int32
    | .sequence => UInt64
  read
    | .ident leaf, record => leaf.read (record.ident.getD {})
    | .location, record => record.location
    | .params, record => record.params
    | .systemParams, record => record.systemParams
    | .partitionKeys, record => record.partitionKeys
    | .storage leaf, record => leaf.read (record.storage.getD {})
    | .type, record => record.typeCode
    | .sequence, record => record.sequence
  place
    | .ident leaf => "id" :: leaf.place
    | .location => ["location"]
    | .params | .systemParams => ["parameters"]
    | .partitionKeys => ["partitionKeys"]
    | .storage leaf => "sd" :: leaf.place
    | .type => ["tableType"]
    | .sequence => ["seqId"]
  parts record := record.ident.isSome :: storageParts record.storage
  eq_of_read {first second} present alike := by
    have ident := eq_of_getD (List.cons.inj present).left (Ident.eq_of_read fun leaf =>
      alike (.ident leaf))
    have storage := storage_eq_of_read (List.cons.inj present).right fun leaf =>
      alike (.storage leaf)
    cases first
    cases second
    exact (Table.mk.injEq ..).mpr
      ⟨ident, alike .location, alike .params, alike .systemParams,
        alike .partitionKeys, storage, alike .type, alike .sequence⟩

/-- The table that is attached to a partition counts as one leaf. -/
inductive Partition.Leaf
  | values
  | location
  | params
  | storage (leaf : StorageDescriptor.Leaf)
  | sequence
  | id
  | table
deriving DecidableEq

instance : Leafy Partition where
  Leaf := Partition.Leaf
  Value
    | .values => List String
    | .location | .id => String
    | .params => Params
    | .storage leaf => leaf.Value
    | .sequence => UInt64
    | .table => Option Table
  read
    | .values, record => record.values
    | .location, record => record.location
    | .params, record => record.params
    | .storage leaf, record => leaf.read (record.storage.getD {})
    | .sequence, record => record.sequence
    | .id, record => record.id
    | .table, record => record.table
  place
    | .values => ["values"]
    | .location => ["location"]
    | .params => ["parameters"]
    | .storage leaf => "sd" :: leaf.place
    | .sequence => ["seqId"]
    | .id => ["id"]
    | .table => ["table"]
  parts record := storageParts record.storage
  eq_of_read {first second} present alike := by
    have storage := storage_eq_of_read present fun leaf => alike (.storage leaf)
    cases first
    cases second
    exact (Partition.mk.injEq ..).mpr
      ⟨alike .values, alike .location, alike .params, storage,
        alike .sequence, alike .id, alike .table⟩

end TableCatalog

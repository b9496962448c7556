import TableCatalog.Catalog.Operation
import TableCatalog.Proofs.WireRoundTrip

/-! Requests whose texts are short. Four bytes hold the length of such a text, and what is stored of
such a request reads back. Only a storage descriptor may still be too long: it is written with its
length in front, as a word of 64 bits. -/

namespace TableCatalog

open Wire (Message)

def Ident.Short (ident : Ident) : Prop := Bytes.Short ident.name ∧ Bytes.Short ident.id

instance (ident : Ident) : Decidable ident.Short := inferInstanceAs (Decidable (_ ∧ _))

def Params.Short (params : Params) : Prop :=
  ∀ entry ∈ params.toList, Bytes.Short entry.1 ∧ Bytes.Short entry.2

instance (params : Params) : Decidable (Params.Short params) :=
  inferInstanceAs (Decidable (∀ entry ∈ params.toList, Bytes.Short entry.1 ∧ Bytes.Short entry.2))

def Column.Short (column : Column) : Prop :=
  Bytes.Short column.name ∧ Bytes.Short column.typeName ∧ Bytes.Short column.comment

instance (column : Column) : Decidable column.Short := inferInstanceAs (Decidable (_ ∧ _ ∧ _))

/-- A length of 64 bits can be written in front of the descriptor. -/
def StorageDescriptor.Short (storage : StorageDescriptor) : Prop :=
  (Message.encode storage).length < UInt64.size

instance (storage : StorageDescriptor) : Decidable storage.Short :=
  inferInstanceAs (Decidable (_ < _))

def Database.Short (record : Database) : Prop :=
  (∀ ident ∈ record.ident, ident.Short) ∧ Bytes.Short record.location ∧
  Params.Short record.params ∧ Params.Short record.systemParams

instance (record : Database) : Decidable record.Short :=
  inferInstanceAs (Decidable ((∀ ident ∈ record.ident, Ident.Short ident) ∧ _ ∧ _ ∧ _))

def Table.Short (record : Table) : Prop :=
  (∀ ident ∈ record.ident, ident.Short) ∧ Bytes.Short record.location ∧
  Params.Short record.params ∧ Params.Short record.systemParams ∧
  (∀ column ∈ record.partitionKeys, column.Short) ∧ ∀ storage ∈ record.storage, storage.Short

instance (record : Table) : Decidable record.Short :=
  inferInstanceAs (Decidable ((∀ ident ∈ record.ident, Ident.Short ident) ∧
    _ ∧ _ ∧ _ ∧ (∀ column ∈ record.partitionKeys, Column.Short column) ∧
    ∀ storage ∈ record.storage, StorageDescriptor.Short storage))

def Partition.Short (record : Partition) : Prop :=
  (∀ value ∈ record.values, Bytes.Short value) ∧ Bytes.Short record.location ∧
  Params.Short record.params ∧
  ∀ storage ∈ record.storage, storage.Short

instance (record : Partition) : Decidable record.Short :=
  inferInstanceAs (Decidable ((∀ value ∈ record.values, Bytes.Short value) ∧ _ ∧ _ ∧
    ∀ storage ∈ record.storage, StorageDescriptor.Short storage))

/-- The texts of an operation that reach the store are short. -/
def Operation.Short : Operation → Prop
  | createDatabase catalog record fresh => Bytes.Short catalog ∧ record.Short ∧ Bytes.Short fresh
  | getDatabase catalog db | dropDatabase catalog db | listTables catalog db _ =>
    Bytes.Short catalog ∧ db.Short
  | listDatabases catalog _ => Bytes.Short catalog
  | alterDatabase catalog db changes => Bytes.Short catalog ∧ db.Short ∧ changes.Short
  | createTable catalog db record fresh =>
    Bytes.Short catalog ∧ db.Short ∧ record.Short ∧ Bytes.Short fresh
  | getTable catalog db table | dropTable catalog db table | getPartition catalog db table _ _
  | listPartitions catalog db table _
  | dropPartition catalog db table _ | dropPartitions catalog db table _ =>
    Bytes.Short catalog ∧ db.Short ∧ table.Short
  | addPartition catalog db table record fresh =>
    Bytes.Short catalog ∧ db.Short ∧ table.Short ∧ record.Short ∧ Bytes.Short fresh

instance : (operation : Operation) → Decidable operation.Short
  | .listDatabases .. => inferInstanceAs (Decidable (_ < _))
  | .getDatabase .. | .dropDatabase .. | .listTables .. =>
    inferInstanceAs (Decidable (Bytes.Short _ ∧ Ident.Short _))
  | .createDatabase .. =>
    inferInstanceAs (Decidable (Bytes.Short _ ∧ Database.Short _ ∧ Bytes.Short _))
  | .alterDatabase .. =>
    inferInstanceAs (Decidable (Bytes.Short _ ∧ Ident.Short _ ∧ Database.Short _))
  | .createTable .. =>
    inferInstanceAs (Decidable (Bytes.Short _ ∧ Ident.Short _ ∧ Table.Short _ ∧ Bytes.Short _))
  | .getTable .. | .dropTable .. | .getPartition .. | .listPartitions ..
  | .dropPartition .. | .dropPartitions .. =>
    inferInstanceAs (Decidable (Bytes.Short _ ∧ Ident.Short _ ∧ Ident.Short _))
  | .addPartition .. =>
    inferInstanceAs (Decidable (Bytes.Short _ ∧ Ident.Short _ ∧
      Ident.Short _ ∧ Partition.Short _ ∧ Bytes.Short _))

theorem length_writeNat_le (n : Nat) : (Wire.Varint.writeNat n).length ≤ n + 1 := by
  induction n using Nat.strongRecOn with
  | ind n ih =>
    rw [Wire.Varint.writeNat]
    split
    · simp
    · have := ih (n / 128) (by omega)
      simp only [List.length_cons]
      omega

/-- A crude bound, which is all that short texts need. -/
theorem length_writeText_le (number : Nat) (text : String) :
    (Wire.writeText number text).length ≤ 8 * number + 4 + 2 * text.utf8ByteSize := by
  unfold Wire.writeText
  split
  · exact Nat.zero_le _
  · have key := length_writeNat_le (number * 8 + 2)
    have size := length_writeNat_le (Bytes.ofText text).length
    simp only [Wire.writeTextItem, Wire.writeDelimited, Wire.writeKey,
      Wire.Form.code, List.length_append]
    rw [Bytes.length_ofText] at size ⊢
    omega

theorem Bytes.Short.fits {text : String} (short : Bytes.Short text) :
    text.utf8ByteSize < UInt64.size :=
  Nat.lt_trans short (by decide)

/-- Three short texts stay far below the length of 64 bits. -/
private theorem three_fit {first second third : String} (a : Bytes.Short first)
    (b : Bytes.Short second) (c : Bytes.Short third) :
    (Wire.writeText 1 first ++ Wire.writeText 2 second ++ Wire.writeText 3 third).length <
      UInt64.size := by
  have one := length_writeText_le 1 first
  have two := length_writeText_le 2 second
  have three := length_writeText_le 3 third
  simp only [Bytes.Short, UInt32.size] at a b c
  simp only [List.length_append, UInt64.size]
  omega

theorem Column.Short.fits {column : Column} (short : column.Short) :
    (Message.encode column).length < UInt64.size :=
  three_fit short.1 short.2.1 short.2.2

private theorem two_fit {first second : String} (a : Bytes.Short first) (b : Bytes.Short second) :
    (Wire.writeText 1 first ++ Wire.writeText 2 second).length < UInt64.size := by
  have := @three_fit _ _ "" a b (by decide)
  simpa [Wire.writeText] using this

theorem Ident.Short.fits {ident : Ident} (short : ident.Short) :
    (Message.encode ident).length < UInt64.size :=
  two_fit short.1 short.2

theorem Params.Short.fits {params : Params} (short : Params.Short params) :
    Wire.EntriesFit params := fun entry held =>
  two_fit (short entry held).1 (short entry held).2

theorem Database.Short.fits {record : Database} (short : record.Short) :
    Wire.FitsDatabase record where
  ident ident held := (short.1 ident held).fits
  location := short.2.1.fits
  params := short.2.2.1.fits
  systemParams := short.2.2.2.fits

theorem Table.Short.fits {record : Table} (short : record.Short) : Wire.FitsTable record where
  ident ident held := (short.1 ident held).fits
  location := short.2.1.fits
  params := short.2.2.1.fits
  systemParams := short.2.2.2.1.fits
  partitionKeys column held := (short.2.2.2.2.1 column held).fits
  storage storage held := short.2.2.2.2.2 storage held

private theorem short_nameOf {ident : Option Ident} (short : ∀ given ∈ ident, given.Short) :
    Bytes.Short (nameOf ident) := by
  cases ident with
  | none => decide
  | some given => exact (short given rfl).1

theorem Database.Short.named {record : Database} (short : record.Short)
    {fresh : String} (freshShort : Bytes.Short fresh) (sequence : UInt64) :
    ({ record with ident := some ⟨nameOf record.ident, fresh⟩, sequence } : Database).Short := by
  refine ⟨?_, short.2⟩
  intro ident held
  cases held
  exact ⟨short_nameOf short.1, freshShort⟩

theorem Table.Short.named {record : Table} (short : record.Short)
    {fresh : String} (freshShort : Bytes.Short fresh) (sequence : UInt64) :
    ({ record with ident := some ⟨nameOf record.ident, fresh⟩, sequence } : Table).Short := by
  refine ⟨?_, short.2⟩
  intro ident held
  cases held
  exact ⟨short_nameOf short.1, freshShort⟩

/-- Only its name and identifier, which are not altered, may have come from elsewhere. -/
theorem Database.Short.fits_alter {record changes : Database}
    (short : changes.Short) (fits : Wire.FitsDatabase record) :
    Wire.FitsDatabase (record.alter changes) := by
  refine ⟨fits.ident, ?_, short.2.2.1.fits, ?_⟩
  · simp only [Database.alter]
    split
    · exact fits.location
    · exact short.2.1.fits
  · simp only [Database.alter]
    split
    · exact fits.systemParams
    · exact short.2.2.2.fits

theorem storage_location_fits {storage : StorageDescriptor} (short : storage.Short) :
    storage.location.utf8ByteSize < UInt64.size := by
  have first := Wire.size_le_writeText 1 storage.location
  simp only [StorageDescriptor.Short, Message.encode, List.length_append] at short
  omega

theorem fits_fillLocation {record : Partition} (fits : Wire.FitsPartition record) :
    Wire.FitsPartition record.fillLocation := by
  unfold Partition.fillLocation
  split
  · split
    next storage held =>
      exact { fits with location := storage_location_fits (fits.storage storage held) }
    next => exact fits
  · exact fits

theorem Partition.Short.fits {record : Partition} (short : record.Short)
    {id : String} (idShort : Bytes.Short id) :
    Wire.FitsPartition { record with table := none, id } where
  values value held := (short.1 value held).fits
  location := short.2.1.fits
  params := short.2.2.1.fits
  storage storage held := short.2.2.2 storage held
  id := idShort.fits
  table _ impossible := by cases impossible

end TableCatalog

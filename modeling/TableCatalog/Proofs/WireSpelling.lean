import TableCatalog.Proofs.WireField

/-! What a record may be written as. The entries of a map have no order,
so a writer may put them down in any, in each map anew; all else has its
place. However it is written, a record takes the same number of bytes. -/

namespace TableCatalog.Wire

def SpellsParams (number : Nat) (bytes : Bytes) (params : Params) : Prop :=
  ∃ rows : List (String × String), rows.Perm params.toList ∧ bytes = rows.flatMap fun entry =>
    writeDelimited number (entryBody entry)

/-- A part that is absent is not written, one that is there is written even if it is empty. -/
def SpellsPart (spells : Bytes → α → Prop) (number : Nat) (bytes : Bytes) : Option α → Prop
  | none => bytes = []
  | some record => ∃ body, spells body record ∧ bytes = writeDelimited number body

def SpellsSerialization (bytes : Bytes) (r : Serialization) : Prop :=
  ∃ params, SpellsParams 3 params r.params ∧
  bytes = writeText 1 r.name ++ writeText 2 r.library ++ params

def SpellsStorage (bytes : Bytes) (r : StorageDescriptor) : Prop :=
  ∃ serialization params, SpellsPart SpellsSerialization 5 serialization r.serialization ∧
    SpellsParams 6 params r.params ∧
    bytes = writeText 1 r.location ++ writeItems 2 r.columns ++
      writeText 3 r.inputFormat ++ writeText 4 r.outputFormat ++ serialization ++ params
      ++ writeInt32 7 r.bucketCount ++ writeTextItems 8 r.bucketColumns ++
        writeItems 9 r.sortColumns

def SpellsDatabase (bytes : Bytes) (r : Database) : Prop :=
  ∃ params systemParams, SpellsParams 3 params r.params ∧
    SpellsParams 4 systemParams r.systemParams ∧
    bytes = writePart 1 r.ident ++ writeText 2 r.location ++
      params ++ systemParams ++ writeUInt64 5 r.sequence

def SpellsTable (bytes : Bytes) (r : Table) : Prop :=
  ∃ params systemParams storage, SpellsParams 3 params r.params ∧
    SpellsParams 4 systemParams r.systemParams ∧
    SpellsPart SpellsStorage 6 storage r.storage ∧
    bytes = writePart 1 r.ident ++ writeText 2 r.location ++
      params ++ systemParams ++ writeItems 5 r.partitionKeys ++ storage
      ++ writeInt32 7 r.typeCode ++ writeUInt64 8 r.sequence

def SpellsPartition (bytes : Bytes) (r : Partition) : Prop :=
  ∃ params storage table, SpellsParams 3 params r.params ∧
    SpellsPart SpellsStorage 4 storage r.storage ∧ SpellsPart SpellsTable 7 table r.table ∧
    bytes = writeTextItems 1 r.values ++ writeText 2 r.location ++
      params ++ storage ++ writeUInt64 5 r.sequence ++ writeText 6 r.id ++ table

theorem spells_writeParams (number : Nat) (params : Params) :
    SpellsParams number (writeParams number params) params :=
  ⟨params.toList, .refl _, rfl⟩

theorem spells_writePart [Message α] {spells : Bytes → α → Prop}
    (written : ∀ record, spells (Message.encode record) record) (number : Nat) (part : Option α) :
    SpellsPart spells number (writePart number part) part := by
  cases part with
  | none => rfl
  | some record => exact ⟨_, written record, rfl⟩

theorem spells_serialization (r : Serialization) : SpellsSerialization (Message.encode r) r :=
  ⟨_, spells_writeParams 3 r.params, rfl⟩

theorem spells_storage (r : StorageDescriptor) : SpellsStorage (Message.encode r) r :=
  ⟨_, _, spells_writePart spells_serialization 5 r.serialization,
    spells_writeParams 6 r.params, rfl⟩

theorem spells_database (r : Database) : SpellsDatabase (Message.encode r) r :=
  ⟨_, _, spells_writeParams 3 r.params, spells_writeParams 4 r.systemParams, rfl⟩

theorem spells_table (r : Table) : SpellsTable (Message.encode r) r :=
  ⟨_, _, _, spells_writeParams 3 r.params, spells_writeParams 4 r.systemParams,
    spells_writePart spells_storage 6 r.storage, rfl⟩

theorem spells_partition (r : Partition) : SpellsPartition (Message.encode r) r :=
  ⟨_, _, _, spells_writeParams 3 r.params, spells_writePart spells_storage 4 r.storage,
    spells_writePart spells_table 7 r.table, rfl⟩

theorem SpellsParams.length {number : Nat} {bytes : Bytes} {params : Params}
    (spells : SpellsParams number bytes params) :
    bytes.length = (writeParams number params).length := by
  obtain ⟨rows, shuffled, rfl⟩ := spells
  exact (shuffled.flatMap_right _).length_eq

theorem SpellsPart.length [Message α] {spells : Bytes → α → Prop}
    (same : ∀ body record, spells body record → body.length = (Message.encode record).length)
    {number : Nat} {bytes : Bytes} {part : Option α}
    (spelled : SpellsPart spells number bytes part) :
    bytes.length = (writePart number part).length := by
  cases part with
  | none => exact congrArg List.length spelled
  | some record =>
    obtain ⟨body, inner, rfl⟩ := spelled
    simp only [writePart, writeDelimited, List.length_append, same body record inner]

theorem SpellsSerialization.length (bytes : Bytes) (r : Serialization)
    (spells : SpellsSerialization bytes r) :
    bytes.length = (Message.encode r).length := by
  obtain ⟨params, spelled, rfl⟩ := spells
  simp only [Message.encode, List.length_append, spelled.length]

theorem SpellsStorage.length (bytes : Bytes) (r : StorageDescriptor)
    (spells : SpellsStorage bytes r) : bytes.length = (Message.encode r).length := by
  obtain ⟨serialization, params, part, spelled, rfl⟩ := spells
  simp only [Message.encode, List.length_append, part.length SpellsSerialization.length,
    spelled.length]

theorem SpellsDatabase.length (bytes : Bytes) (r : Database) (spells : SpellsDatabase bytes r) :
    bytes.length = (Message.encode r).length := by
  obtain ⟨params, systemParams, spelled, other, rfl⟩ := spells
  simp only [Message.encode, List.length_append, spelled.length, other.length]

theorem SpellsTable.length (bytes : Bytes) (r : Table) (spells : SpellsTable bytes r) :
    bytes.length = (Message.encode r).length := by
  obtain ⟨params, systemParams, storage, spelled, other, part, rfl⟩ := spells
  simp only [Message.encode, List.length_append, spelled.length,
    other.length, part.length SpellsStorage.length]

theorem SpellsPartition.length (bytes : Bytes) (r : Partition) (spells : SpellsPartition bytes r) :
    bytes.length = (Message.encode r).length := by
  obtain ⟨params, storage, table, spelled, part, owner, rfl⟩ := spells
  simp only [Message.encode, List.length_append, spelled.length,
    part.length SpellsStorage.length, owner.length SpellsTable.length]

section Reading

variable [Message β] {merge : Merge α} {number budget : Nat}

theorem SpellsParams.absorbs {bytes : Bytes} {params : Params}
    (spells : SpellsParams number bytes params) (set : Params → α)
    (valid : FieldNumber number) (fits : EntriesFit params)
    (takes : ∀ done, Takes merge (set done) ⟨number, .delimited⟩ (readParam budget done) set) :
    Absorbs merge bytes (set ∅) (set params) := by
  obtain ⟨rows, shuffled, rfl⟩ := spells
  exact absorbs_entries set valid shuffled fits takes

theorem SpellsPart.absorbs {spells : Bytes → β → Prop} {bytes : Bytes}
    {part : Option β} (spelled : SpellsPart spells number bytes part) (set : Option β → α)
    (valid : FieldNumber number)
    (readable : ∀ body record, part = some record → spells body record →
      Fills body record ∧ body.length < UInt64.size)
    (takes : Takes merge (set none) ⟨number, .delimited⟩
      (readPart budget none ⟨number, .delimited⟩) set) :
    Absorbs merge bytes (set none) (set part) := by
  cases part with
  | none =>
    cases spelled
    exact .nil
  | some record =>
    obtain ⟨body, inner, rfl⟩ := spelled
    obtain ⟨fills, fits⟩ := readable body record rfl inner
    exact absorbs_body set valid fills fits takes

end Reading
end TableCatalog.Wire

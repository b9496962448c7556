import TableCatalog.Proofs.WireSpelling

/-! What a record is written as reads back as that record. The fields are absorbed in the order in
which they are written, each on top of what the ones before have filled in: the last is absorbed by
the record whose other fields are in place, the one before it by that record without the last field,
and so on back to the record that holds nothing. A stored record has no length in front, so only its
texts and what lies inside it have to be short. -/

namespace TableCatalog.Wire

theorem Fills.read [Message α] {bytes : Bytes} {record : α} (fills : Fills bytes record) :
    read bytes = .ok record := by
  rw [Wire.read, (fills depthLimit).whole]
  rfl

theorem Fills.decode [Message α] {bytes : Bytes} {record : α}
    (fills : Fills bytes record) (what : String) : decode what bytes = .ok record := by
  rw [Wire.decode, fills.read]

theorem Readable.read? [Message α] {record : α} (readable : Readable record) :
    read? (Message.encode record) = some record := by
  rw [Wire.read?, Fills.read readable]
  rfl

theorem Readable.decode [Message α] {record : α} (readable : Readable record) (what : String) :
    decode what (Message.encode record) = .ok record :=
  Fills.decode readable what

/-- Each item of a message written in a list is no longer than the list. -/
theorem length_le_flatMap {write : β → Bytes} {items : List β} {item : β} (held : item ∈ items) :
    (write item).length ≤ (items.flatMap write).length := by
  induction items with
  | nil => cases held
  | cons head rest ih =>
    rw [List.flatMap_cons, List.length_append]
    rcases List.mem_cons.1 held with rfl | inside
    · exact Nat.le_add_right _ _
    · exact Nat.le_trans (ih inside) (Nat.le_add_left _ _)

theorem length_le_writeDelimited (number : Nat) (body : Bytes) :
    body.length ≤ (writeDelimited number body).length := by
  simp only [writeDelimited, List.length_append]
  omega

theorem length_item_le [Message β] (number : Nat) {items : List β}
    {item : β} (held : item ∈ items) :
    (Message.encode item).length ≤ (writeItems number items).length :=
  Nat.le_trans (length_le_writeDelimited number _)
    (@length_le_flatMap _ (fun item => writeDelimited number (Message.encode item)) _ _ held)

theorem length_textItem_le (number : Nat) {items : List String}
    {item : String} (held : item ∈ items) :
    item.utf8ByteSize ≤ (writeTextItems number items).length :=
  Nat.le_trans (length_le_writeDelimited number (Bytes.ofText item))
    (@length_le_flatMap _ (writeTextItem number) _ _ held)

theorem length_part_le [Message β] (number : Nat) {part : Option β}
    {record : β} (held : part = some record) :
    (Message.encode record).length ≤ (writePart number part).length := by
  subst held
  exact length_le_writeDelimited number _

theorem length_entry_le (number : Nat) {params : Params} {entry : String × String}
    (held : entry ∈ params.toList) :
    (entryBody entry).length ≤ (writeParams number params).length :=
  Nat.le_trans (length_le_writeDelimited number _)
    (@length_le_flatMap _ (fun entry => writeDelimited number (entryBody entry)) _ _ held)

theorem readable_ident {r : Ident} (fits : (Message.encode r).length < UInt64.size) :
    Readable r := by
  intro budget
  have name := size_le_writeText 1 r.name
  have id := size_le_writeText 2 r.id
  simp only [Message.encode, List.length_append] at fits
  apply Absorbs.append
  case tail =>
    exact absorbs_text (fun v => ({ r with id := v } : Ident))
      (by decide) (by omega) (.into fun _ => rfl)
  exact absorbs_text (fun v => ({ r with name := v, id := "" } : Ident))
    (by decide) (by omega) (.into fun _ => rfl)

theorem readable_column {r : Column} (fits : (Message.encode r).length < UInt64.size) :
    Readable r := by
  intro budget
  have name := size_le_writeText 1 r.name
  have typeName := size_le_writeText 2 r.typeName
  have comment := size_le_writeText 3 r.comment
  simp only [Message.encode, List.length_append] at fits
  apply Absorbs.append
  case tail =>
    exact absorbs_text (fun v => ({ r with comment := v } : Column))
      (by decide) (by omega) (.into fun _ => rfl)
  apply Absorbs.append
  case tail =>
    exact absorbs_text (fun v => ({ r with typeName := v, comment := "" } : Column))
      (by decide) (by omega) (.into fun _ => rfl)
  exact absorbs_text (fun v => ({ name := v } : Column)) (by decide) (by omega) (.into fun _ => rfl)

theorem readable_sortColumn {r : SortColumn} (fits : (Message.encode r).length < UInt64.size) :
    Readable r := by
  intro budget
  have column := size_le_writeText 1 r.column
  simp only [Message.encode, List.length_append] at fits
  apply Absorbs.append
  case tail =>
    exact absorbs_bool (fun v => ({ r with ascending := v } : SortColumn))
      (by decide) r.ascending (.into fun _ => rfl)
  exact absorbs_text (fun v => ({ column := v } : SortColumn))
    (by decide) (by omega) (.into fun _ => rfl)

theorem fills_serialization {bytes : Bytes} {r : Serialization}
    (spells : SpellsSerialization bytes r) (fits : (Message.encode r).length < UInt64.size) :
    Fills bytes r := by
  intro budget
  obtain ⟨spelled, entries, rfl⟩ := spells
  have name := size_le_writeText 1 r.name
  have library := size_le_writeText 2 r.library
  simp only [Message.encode, List.length_append] at fits
  have params : EntriesFit r.params := fun entry held => by
    have := length_entry_le 3 held
    omega
  apply Absorbs.append
  case tail =>
    exact entries.absorbs (fun v => ({ r with params := v } : Serialization))
      (by decide) params fun _ => .into fun _ => rfl
  apply Absorbs.append
  case tail =>
    exact absorbs_text (fun v => ({ name := r.name, library := v } : Serialization))
      (by decide) (by omega) (.into fun _ => rfl)
  exact absorbs_text (fun v => ({ name := v } : Serialization))
    (by decide) (by omega) (.into fun _ => rfl)

/-- The parts of the record have lengths that can be written. -/
structure FitsStorage (r : StorageDescriptor) : Prop where
  location : r.location.utf8ByteSize < UInt64.size
  columns : ∀ item ∈ r.columns, (Message.encode item).length < UInt64.size
  inputFormat : r.inputFormat.utf8ByteSize < UInt64.size
  outputFormat : r.outputFormat.utf8ByteSize < UInt64.size
  serialization : ∀ part, r.serialization = some part → (Message.encode part).length < UInt64.size
  params : EntriesFit r.params
  bucketColumns : ∀ item ∈ r.bucketColumns, item.utf8ByteSize < UInt64.size
  sortColumns : ∀ item ∈ r.sortColumns, (Message.encode item).length < UInt64.size

theorem FitsStorage.of_length {r : StorageDescriptor}
    (fits : (Message.encode r).length < UInt64.size) : FitsStorage r := by
  have location := size_le_writeText 1 r.location
  have inputFormat := size_le_writeText 3 r.inputFormat
  have outputFormat := size_le_writeText 4 r.outputFormat
  simp only [Message.encode, List.length_append] at fits
  refine ⟨by omega, fun item held => ?_, by omega, by omega, fun part held => ?_,
    fun entry held => ?_, fun item held => ?_, fun item held => ?_⟩
  · have := length_item_le 2 held
    omega
  · have := length_part_le 5 held
    omega
  · have := length_entry_le 6 held
    omega
  · have := length_textItem_le 8 held
    omega
  · have := length_item_le 9 held
    omega

theorem FitsStorage.fills {bytes : Bytes} {r : StorageDescriptor} (fits : FitsStorage r)
    (spells : SpellsStorage bytes r) : Fills bytes r := by
  intro budget
  obtain ⟨_, _, part, entries, rfl⟩ := spells
  apply Absorbs.append
  case tail =>
    exact absorbs_items (fun v => ({ r with sortColumns := v } : StorageDescriptor)) (by decide)
      (fun item held => readable_sortColumn (fits.sortColumns item held)) fits.sortColumns fun _ =>
        .into fun _ => rfl
  apply Absorbs.append
  case tail =>
    exact absorbs_textItems
      (fun v => ({ r with bucketColumns := v, sortColumns := [] } : StorageDescriptor))
      (by decide) fits.bucketColumns fun _ => .into fun _ => rfl
  let plain : StorageDescriptor := { r with bucketColumns := [], sortColumns := [] }
  apply Absorbs.append
  case tail =>
    exact absorbs_int32 (fun v => ({ plain with bucketCount := v } : StorageDescriptor))
      (by decide) r.bucketCount (.into fun _ => rfl)
  apply Absorbs.append
  case tail =>
    exact entries.absorbs
      (fun v => ({ plain with params := v, bucketCount := 0 } : StorageDescriptor))
      (by decide) fits.params fun _ => .into fun _ => rfl
  let start : StorageDescriptor :=
    { location := r.location, columns := r.columns, inputFormat := r.inputFormat }
  apply Absorbs.append
  case tail =>
    exact part.absorbs (fun v => ({ start with
      outputFormat := r.outputFormat, serialization := v } : StorageDescriptor)) (by decide)
      (fun body record held inner => ⟨fills_serialization inner (fits.serialization record held),
        inner.length ▸ fits.serialization record held⟩) (.into fun _ => rfl)
  apply Absorbs.append
  case tail =>
    exact absorbs_text (fun v => ({ start with outputFormat := v } : StorageDescriptor))
      (by decide) fits.outputFormat (.into fun _ => rfl)
  apply Absorbs.append
  case tail =>
    exact absorbs_text (fun v => ({ start with inputFormat := v } : StorageDescriptor))
      (by decide) fits.inputFormat (.into fun _ => rfl)
  apply Absorbs.append
  case tail =>
    exact absorbs_items (fun v => ({ location := r.location, columns := v } : StorageDescriptor))
      (by decide) (fun item held => readable_column (fits.columns item held)) fits.columns fun _ =>
        .into fun _ => rfl
  exact absorbs_text (fun v => ({ location := v } : StorageDescriptor))
    (by decide) fits.location (.into fun _ => rfl)

structure FitsDatabase (r : Database) : Prop where
  ident : ∀ part, r.ident = some part → (Message.encode part).length < UInt64.size
  location : r.location.utf8ByteSize < UInt64.size
  params : EntriesFit r.params
  systemParams : EntriesFit r.systemParams

theorem FitsDatabase.of_length {r : Database} (fits : (Message.encode r).length < UInt64.size) :
    FitsDatabase r := by
  have location := size_le_writeText 2 r.location
  simp only [Message.encode, List.length_append] at fits
  refine ⟨fun part held => ?_, by omega, fun entry held => ?_, fun entry held => ?_⟩
  · have := length_part_le 1 held
    omega
  · have := length_entry_le 3 held
    omega
  · have := length_entry_le 4 held
    omega

theorem FitsDatabase.fills {bytes : Bytes} {r : Database} (fits : FitsDatabase r)
    (spells : SpellsDatabase bytes r) : Fills bytes r := by
  intro budget
  obtain ⟨_, _, params, systemParams, rfl⟩ := spells
  apply Absorbs.append
  case tail =>
    exact absorbs_uint64 (fun v => ({ r with sequence := v } : Database))
      (by decide) r.sequence (.into fun _ => rfl)
  apply Absorbs.append
  case tail =>
    exact systemParams.absorbs (fun v => ({ r with systemParams := v, sequence := 0 } : Database))
      (by decide) fits.systemParams
      fun _ => .into fun _ => rfl
  apply Absorbs.append
  case tail =>
    exact params.absorbs
      (fun v => ({ ident := r.ident, location := r.location, params := v } : Database))
      (by decide) fits.params
      fun _ => .into fun _ => rfl
  apply Absorbs.append
  case tail =>
    exact absorbs_text (fun v => ({ ident := r.ident, location := v } : Database))
      (by decide) fits.location (.into fun _ => rfl)
  exact absorbs_part (fun v => ({ ident := v } : Database)) (by decide)
    (fun part held => readable_ident (fits.ident part held)) fits.ident
    (.into fun _ => rfl)

theorem FitsDatabase.readable {r : Database} (fits : FitsDatabase r) : Readable r :=
  fits.fills (spells_database r)

structure FitsTable (r : Table) : Prop where
  ident : ∀ part, r.ident = some part → (Message.encode part).length < UInt64.size
  location : r.location.utf8ByteSize < UInt64.size
  params : EntriesFit r.params
  systemParams : EntriesFit r.systemParams
  partitionKeys : ∀ item ∈ r.partitionKeys, (Message.encode item).length < UInt64.size
  storage : ∀ part, r.storage = some part → (Message.encode part).length < UInt64.size

theorem FitsTable.of_length {r : Table} (fits : (Message.encode r).length < UInt64.size) :
    FitsTable r := by
  have location := size_le_writeText 2 r.location
  simp only [Message.encode, List.length_append] at fits
  refine ⟨fun part held => ?_, by omega, fun entry held => ?_,
    fun entry held => ?_, fun item held => ?_, fun part held => ?_⟩
  · have := length_part_le 1 held
    omega
  · have := length_entry_le 3 held
    omega
  · have := length_entry_le 4 held
    omega
  · have := length_item_le 5 held
    omega
  · have := length_part_le 6 held
    omega

theorem FitsTable.fills {bytes : Bytes} {r : Table} (fits : FitsTable r)
    (spells : SpellsTable bytes r) : Fills bytes r := by
  intro budget
  obtain ⟨_, _, _, params, systemParams, part, rfl⟩ := spells
  apply Absorbs.append
  case tail =>
    exact absorbs_uint64 (fun v => ({ r with sequence := v } : Table))
      (by decide) r.sequence (.into fun _ => rfl)
  apply Absorbs.append
  case tail =>
    exact absorbs_int32 (fun v => ({ r with typeCode := v, sequence := 0 } : Table))
      (by decide) r.typeCode (.into fun _ => rfl)
  apply Absorbs.append
  case tail =>
    exact part.absorbs (fun v => ({ r with storage := v, typeCode := 0, sequence := 0 } : Table))
      (by decide) (fun body record held inner =>
        ⟨(FitsStorage.of_length (fits.storage record held)).fills inner,
          inner.length ▸ fits.storage record held⟩) (.into fun _ => rfl)
  let start : Table := { ident := r.ident, location := r.location }
  apply Absorbs.append
  case tail =>
    exact absorbs_items (fun v => ({ start with
      params := r.params, systemParams := r.systemParams, partitionKeys := v } : Table)) (by decide)
      (fun item held => readable_column (fits.partitionKeys item held)) fits.partitionKeys fun _ =>
        .into fun _ => rfl
  apply Absorbs.append
  case tail =>
    exact systemParams.absorbs (fun v =>
      ({ start with params := r.params, systemParams := v } : Table)) (by decide) fits.systemParams
      fun _ => .into fun _ => rfl
  apply Absorbs.append
  case tail =>
    exact params.absorbs (fun v => ({ start with params := v } : Table))
      (by decide) fits.params fun _ => .into fun _ => rfl
  apply Absorbs.append
  case tail =>
    exact absorbs_text (fun v => ({ start with location := v } : Table))
      (by decide) fits.location (.into fun _ => rfl)
  exact absorbs_part (fun v => ({ ident := v } : Table)) (by decide)
    (fun part held => readable_ident (fits.ident part held)) fits.ident
    (.into fun _ => rfl)

theorem FitsTable.readable {r : Table} (fits : FitsTable r) : Readable r :=
  fits.fills (spells_table r)

structure FitsPartition (r : Partition) : Prop where
  values : ∀ item ∈ r.values, item.utf8ByteSize < UInt64.size
  location : r.location.utf8ByteSize < UInt64.size
  params : EntriesFit r.params
  storage : ∀ part, r.storage = some part → (Message.encode part).length < UInt64.size
  id : r.id.utf8ByteSize < UInt64.size
  table : ∀ part, r.table = some part → FitsTable part ∧ (Message.encode part).length < UInt64.size

theorem FitsPartition.of_length {r : Partition} (fits : (Message.encode r).length < UInt64.size) :
    FitsPartition r := by
  have location := size_le_writeText 2 r.location
  have id := size_le_writeText 6 r.id
  simp only [Message.encode, List.length_append] at fits
  refine ⟨fun item held => ?_, by omega, fun entry held => ?_,
    fun part held => ?_, by omega, fun part held => ?_⟩
  · have := length_textItem_le 1 held
    omega
  · have := length_entry_le 3 held
    omega
  · have := length_part_le 4 held
    omega
  · have short : (Message.encode part).length < UInt64.size := by
      have := length_part_le 7 held
      omega
    exact ⟨.of_length short, short⟩

theorem FitsPartition.fills {bytes : Bytes} {r : Partition} (fits : FitsPartition r)
    (spells : SpellsPartition bytes r) : Fills bytes r := by
  intro budget
  obtain ⟨_, _, _, params, part, owner, rfl⟩ := spells
  apply Absorbs.append
  case tail =>
    exact owner.absorbs (fun v => ({ r with table := v } : Partition)) (by decide)
      (fun body record held inner => ⟨(fits.table record held).1.fills inner,
        inner.length ▸ (fits.table record held).2⟩) (.into fun _ => rfl)
  apply Absorbs.append
  case tail =>
    exact absorbs_text (fun v => ({ r with id := v, table := none } : Partition))
      (by decide) fits.id (.into fun _ => rfl)
  apply Absorbs.append
  case tail =>
    exact absorbs_uint64 (fun v => ({ r with sequence := v, id := "", table := none } : Partition))
      (by decide) r.sequence (.into fun _ => rfl)
  let start : Partition := { values := r.values, location := r.location }
  apply Absorbs.append
  case tail =>
    exact part.absorbs (fun v => ({ start with params := r.params, storage := v } : Partition))
      (by decide) (fun body record held inner =>
        ⟨(FitsStorage.of_length (fits.storage record held)).fills inner,
          inner.length ▸ fits.storage record held⟩) (.into fun _ => rfl)
  apply Absorbs.append
  case tail =>
    exact params.absorbs (fun v => ({ start with params := v } : Partition))
      (by decide) fits.params fun _ => .into fun _ => rfl
  apply Absorbs.append
  case tail =>
    exact absorbs_text (fun v => ({ start with location := v } : Partition))
      (by decide) fits.location (.into fun _ => rfl)
  exact absorbs_textItems (fun v => ({ values := v } : Partition)) (by decide) fits.values fun _ =>
    .into fun _ => rfl

theorem FitsPartition.readable {r : Partition} (fits : FitsPartition r) : Readable r :=
  fits.fills (spells_partition r)

/-- What a record is written as reads back as that record. Lengths
are words of 64 bits, so no more than those can be written. -/
structure Lossless (α : Type) [Message α] (spells : Bytes → α → Prop) : Prop where
  written : ∀ record : α, spells (Message.encode record) record
  readBack : ∀ (bytes : Bytes) (record : α) (what : String), spells bytes record →
    bytes.length < UInt64.size → decode what bytes = .ok record

theorem lossless_database : Lossless Database SpellsDatabase where
  written := spells_database
  readBack bytes record what spells fits := by
    rw [spells.length] at fits
    exact ((FitsDatabase.of_length fits).fills spells).decode what

theorem lossless_table : Lossless Table SpellsTable where
  written := spells_table
  readBack bytes record what spells fits := by
    rw [spells.length] at fits
    exact ((FitsTable.of_length fits).fills spells).decode what

theorem lossless_partition : Lossless Partition SpellsPartition where
  written := spells_partition
  readBack bytes record what spells fits := by
    rw [spells.length] at fits
    exact ((FitsPartition.of_length fits).fills spells).decode what

theorem records_read_back :
    Lossless Database SpellsDatabase ∧ Lossless Table SpellsTable ∧
    Lossless Partition SpellsPartition :=
  ⟨lossless_database, lossless_table, lossless_partition⟩

/-- A partition with a little of everything: empty texts in lists and maps, parts that are there and
empty, numbers at the ends of their ranges. -/
def assorted : Partition where
  values := ["", "ä/ö"]
  params := .ofList [("", "root"), ("owner", ""), ("日", "本")]
  storage := some { columns := [{}], serialization := some {}, bucketCount := -2147483648,
                    bucketColumns := ["", ""], sortColumns := [{ ascending := true }] }
  sequence := 18446744073709551615
  table := some { ident := some {}, storage := some {}, typeCode := -7 }

/-- Its map written backwards. -/
theorem records_read_back_assorted :
    let rows := [("日", "本"), ("owner", ""), ("", "root")]
    let bytes := writeTextItems 1 assorted.values ++ writeText 2 assorted.location ++
      (rows.flatMap fun entry => writeDelimited 3 (entryBody entry))
      ++ writePart 4 assorted.storage ++ writeUInt64 5 assorted.sequence ++
        writeText 6 assorted.id ++ writePart 7 assorted.table
    bytes ≠ Message.encode assorted ∧ decode "partition" bytes = .ok assorted := by
  intro rows bytes
  have shuffled : rows.Perm assorted.params.toList := by decide +kernel
  have spells : SpellsPartition bytes assorted :=
    ⟨_, _, _, ⟨rows, shuffled, rfl⟩, spells_writePart spells_storage 4 assorted.storage,
      spells_writePart spells_table 7 assorted.table, rfl⟩
  exact ⟨by decide +kernel,
    records_read_back.2.2.readBack bytes assorted "partition" spells (by decide +kernel)⟩

end TableCatalog.Wire

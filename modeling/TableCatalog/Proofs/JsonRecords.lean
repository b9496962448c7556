import Mathlib.Data.List.Nodup
import TableCatalog.Client.Display
import TableCatalog.Proofs.JsonText
import TableCatalog.Proofs.MapContents

/-! Records shown as JSON read back. The entries of a map have no
order, so they may be shown in any, in each map anew; all else has
its place. However it is shown, a record is read back as itself. -/

namespace TableCatalog.Json
open JsonRecord

def ShowsParams (value : Json) (params : Params) : Prop :=
  ∃ rows : List (String × String), rows.Perm params.toList ∧
  value = ofMembers (rows.map fun (name, value) => (name, ofText value))

def ShowsPart (shows : Json → α → Prop) (value : Json) : Option α → Prop
  | none => value = .null
  | some record => shows value record

def ShowsSerialization (value : Json) (r : Serialization) : Prop :=
  ∃ params, ShowsParams params r.params ∧ value = ofMembers [("name", ofText r.name),
    ("serializationLib", ofText r.library), ("parameters", params)]

def ShowsStorage (value : Json) (r : StorageDescriptor) : Prop :=
  ∃ serialization params, ShowsPart ShowsSerialization serialization r.serialization ∧
    ShowsParams params r.params ∧
    value = ofMembers [("location", ofText r.location), ("cols", itemsToJson r.columns),
      ("inputFormat", ofText r.inputFormat),
      ("outputFormat", ofText r.outputFormat), ("serdeInfo", serialization),
      ("parameters", params), ("numBuckets", ofInt r.bucketCount.toInt),
      ("bucketCols", ofTexts r.bucketColumns), ("sortCols", itemsToJson r.sortColumns)]

def ShowsDatabase (value : Json) (r : Database) : Prop :=
  ∃ params systemParams, ShowsParams params r.params ∧ ShowsParams systemParams r.systemParams ∧
    value = ofMembers [("id", partToJson r.ident), ("location", ofText r.location),
      ("parameters", params), ("systemParameters", systemParams),
      ("seqId", ofInt r.sequence.toNat)]

def ShowsTable (value : Json) (r : Table) : Prop :=
  ∃ params systemParams storage, ShowsParams params r.params ∧
    ShowsParams systemParams r.systemParams ∧ ShowsPart ShowsStorage storage r.storage ∧
    value = ofMembers [("id", partToJson r.ident), ("location", ofText r.location),
      ("parameters", params), ("systemParameters", systemParams),
      ("partitionKeys", itemsToJson r.partitionKeys), ("sd", storage),
      ("tableType", ofInt r.typeCode.toInt), ("seqId", ofInt r.sequence.toNat)]

def ShowsPartition (value : Json) (r : Partition) : Prop :=
  ∃ params storage table, ShowsParams params r.params ∧ ShowsPart ShowsStorage storage r.storage ∧
    ShowsPart ShowsTable table r.table ∧
    value = ofMembers [("values", ofTexts r.values), ("location", ofText r.location),
      ("parameters", params), ("sd", storage),
      ("seqId", ofInt r.sequence.toNat), ("id", ofText r.id), ("table", table)]

theorem toText?_ofText (s : String) : (ofText s).toText? = some s := rfl

theorem toUInt64?_ofInt (n : UInt64) : (ofInt n.toNat).toUInt64? = some n := by
  have small : n.toNat < UInt64.size := n.toNat_lt
  simp [ofInt, toUInt64?, small]

theorem toInt32?_ofInt (n : Int32) : (ofInt n.toInt).toInt32? = some n := by
  have inside : Int32.minValue.toInt ≤ n.toInt ∧ n.toInt ≤ Int32.maxValue.toInt :=
    ⟨n.minValue_le_toInt, n.toInt_le⟩
  rw [ofInt, toInt32?, if_pos inside, Int32.ofInt_toInt]

theorem toList?_map {shown : α → Json} {read : Json → Option α}
    (readBack : ∀ item, read (shown item) = some item) (items : List α) :
    (Json.list (items.map shown)).toList? read = some items := by
  show (items.map shown).mapM read = some items
  induction items with
  | nil => rfl
  | cons item items ih => rw [List.map_cons, List.mapM_cons, readBack, ih]; rfl

theorem toTexts?_ofTexts (texts : List String) : (ofTexts texts).toList? toText? = some texts :=
  toList?_map toText?_ofText texts

theorem readsBack_map {shown : α → Json} (readBack : ∀ item, ReadsBack (shown item))
    (items : List α) : ReadsBack (.list (items.map shown)) := by
  apply readsBack_list
  intro value held
  obtain ⟨item, _, rfl⟩ := List.mem_map.1 held
  exact readBack item

theorem readsBack_texts (texts : List String) : ReadsBack (ofTexts texts) :=
  readsBack_map readsBack_text texts

namespace ShowsParams

variable {value : Json} {params : Params}

theorem shown (params : Params) : ShowsParams (ofParams params) params :=
  ⟨params.toList, .refl _, rfl⟩

theorem readsBack (shown : ShowsParams value params) : ReadsBack value := by
  obtain ⟨rows, _, rfl⟩ := shown
  apply readsBack_members
  intro member held
  obtain ⟨row, _, rfl⟩ := List.mem_map.1 held
  exact readsBack_text row.2

theorem mapM_entries (rows : List (String × String)) :
    (rows.map fun (name, value) => (some name, ofText value)).mapM
        (fun (name, value) => do return (← name, ← value.toText?) :
          Option String × Json → Option (String × String)) =
      some rows := by
  induction rows with
  | nil => rfl
  | cons row rows ih =>
    rw [List.map_cons, List.mapM_cons, ih]
    rfl

theorem read (shown : ShowsParams value params) : value.toParams? = some params := by
  obtain ⟨rows, shuffled, rfl⟩ := shown
  rw [ofMembers, List.map_map, toParams?]
  refine (congrArg (· >>= _) (mapM_entries rows)).trans ?_
  exact congrArg some (SortedMap.foldl_insert_perm shuffled)

end ShowsParams

theorem mapM_members (members : List (String × Json)) :
    (members.map fun (name, value) => (some name, value)).mapM (fun (name, value) =>
      name.map (·, value) : Option String × Json → Option (String × Json)) = some members := by
  induction members with
  | nil => rfl
  | cons member members ih =>
    rw [List.map_cons, List.mapM_cons, ih]
    rfl

theorem fields?_ofMembers {names : List String} {members : List (String × Json)}
    (once : (members.map (·.1)).Nodup) :
    (ofMembers members).fields? names = some members := by
  have few : names.all (fun name => (members.filter (·.1 == name)).length ≤ 1) = true := by
    rw [List.all_eq_true]
    intro name _
    have count := List.nodup_iff_count_le_one.1 once name
    rw [List.count, List.countP_map, List.countP_eq_length_filter] at count
    exact decide_eq_true count
  rw [ofMembers, fields?]
  refine (congrArg (· >>= _) (mapM_members members)).trans ?_
  exact if_pos few

/-- What a record of a kind may be shown as is read back as the record. -/
structure Faithful [JsonRecord α] (shows : Json → α → Prop) : Prop where
  shown (record : α) : shows (toJson record) record
  readsBack {value : Json} {record : α} (shown : shows value record) : ReadsBack value
  read {value : Json} {record : α} (shown : shows value record) : ofJson? value = some record

theorem Faithful.of_members [JsonRecord α] {shows : Json → α → Prop}
    (shown : ∀ record, shows (toJson record) record)
    (spelled : ∀ value record, shows value record →
      ∃ members, value = ofMembers members ∧ (members.map (·.1)).Nodup ∧
        (∀ member ∈ members, ReadsBack member.2) ∧ ofFields members = some record) :
    Faithful shows where
  shown := shown
  readsBack shown := by
    obtain ⟨members, rfl, -, parts, -⟩ := spelled _ _ shown
    exact readsBack_members parts
  read shown := by
    obtain ⟨members, rfl, once, -, read⟩ := spelled _ _ shown
    rw [ofJson?, fields?_ofMembers once]
    exact read

section Parts

variable [JsonRecord α] {shows : Json → α → Prop} (faithful : Faithful shows)
  {value : Json} {given : Option α}
include faithful

theorem Faithful.partShown (part : Option α) : ShowsPart shows (partToJson part) part := by
  cases part with
  | none => rfl
  | some record => exact faithful.shown record

theorem Faithful.part (shown : ShowsPart shows value given) :
    ReadsBack value ∧ value.toNullable? ofJson? = some given := by
  cases given with
  | none =>
    cases shown
    exact ⟨readsBack_null, rfl⟩
  | some record =>
    refine ⟨faithful.readsBack shown, ?_⟩
    have read := faithful.read shown
    cases value with
    | null => cases read
    | _ => exact congrArg (Option.map some) read

end Parts

/-- A record without maps is shown in one way. -/
abbrev Plain (α : Type) [JsonRecord α] : Prop :=
  Faithful fun value (record : α) => value = toJson record

theorem Faithful.items [JsonRecord α] (plain : Plain α) (items : List α) :
    ReadsBack (itemsToJson items) ∧ (itemsToJson items).toList? ofJson? = some items :=
  ⟨readsBack_map (fun _ => plain.readsBack rfl) items, toList?_map (fun _ => plain.read rfl) items⟩

theorem plain_ident : Plain Ident := by
  refine .of_members (fun _ => rfl) ?_
  rintro _ r rfl
  refine ⟨_, rfl, ?_, ?_, ?_⟩
  · simp [fieldNames, fieldValues]
  · simp [fieldNames, fieldValues, readsBack_text]
  · simp [fieldNames, fieldValues, ofFields, required, List.lookup_cons, toText?_ofText]

theorem plain_column : Plain Column := by
  refine .of_members (fun _ => rfl) ?_
  rintro _ r rfl
  refine ⟨_, rfl, ?_, ?_, ?_⟩
  · simp [fieldNames, fieldValues]
  · simp [fieldNames, fieldValues, readsBack_text]
  · simp [fieldNames, fieldValues, ofFields, required, List.lookup_cons, toText?_ofText]

theorem plain_sortColumn : Plain SortColumn := by
  refine .of_members (fun _ => rfl) ?_
  rintro _ r rfl
  refine ⟨_, rfl, ?_, ?_, ?_⟩
  · simp [fieldNames, fieldValues]
  · simp [fieldNames, fieldValues, readsBack_text, readsBack_bool]
  · simp [fieldNames, fieldValues, ofFields, required, List.lookup_cons, toText?_ofText, toBool?]

theorem faithful_serialization : Faithful ShowsSerialization := by
  refine .of_members (fun r => ⟨_, .shown r.params, rfl⟩) ?_
  rintro _ r ⟨params, shown, rfl⟩
  refine ⟨_, rfl, by simp, ?_, ?_⟩
  · simp [readsBack_text, shown.readsBack]
  · simp [ofFields, required, List.lookup_cons, toText?_ofText, shown.read]

theorem faithful_storage : Faithful ShowsStorage := by
  refine .of_members
    (fun r => ⟨_, _, faithful_serialization.partShown r.serialization, .shown r.params, rfl⟩) ?_
  rintro _ r ⟨serialization, params, part, shown, rfl⟩
  have columns := plain_column.items r.columns
  have sortColumns := plain_sortColumn.items r.sortColumns
  have serialization := faithful_serialization.part part
  refine ⟨_, rfl, by simp, ?_, ?_⟩
  · simp [readsBack_text, readsBack_int, readsBack_texts, columns,
      sortColumns, shown.readsBack, serialization]
  · simp [ofFields, required, optional, List.lookup_cons, toText?_ofText,
      toInt32?_ofInt, toTexts?_ofTexts, columns, sortColumns, shown.read, serialization]

theorem faithful_database : Faithful ShowsDatabase := by
  refine .of_members (fun r => ⟨_, _, .shown r.params, .shown r.systemParams, rfl⟩) ?_
  rintro _ r ⟨params, systemParams, shown, others, rfl⟩
  have ident := plain_ident.part (plain_ident.partShown r.ident)
  refine ⟨_, rfl, by simp, ?_, ?_⟩
  · simp [readsBack_text, readsBack_int, ident, shown.readsBack, others.readsBack]
  · simp [ofFields, required, optional, List.lookup_cons, toText?_ofText,
      toUInt64?_ofInt, ident, shown.read, others.read]

theorem faithful_table : Faithful ShowsTable := by
  refine .of_members (fun r =>
    ⟨_, _, _, .shown r.params, .shown r.systemParams, faithful_storage.partShown r.storage, rfl⟩) ?_
  rintro _ r ⟨params, systemParams, storage, shown, others, part, rfl⟩
  have ident := plain_ident.part (plain_ident.partShown r.ident)
  have keys := plain_column.items r.partitionKeys
  have storage := faithful_storage.part part
  refine ⟨_, rfl, by simp, ?_, ?_⟩
  · simp [readsBack_text, readsBack_int, ident, keys, shown.readsBack, others.readsBack, storage]
  · simp [ofFields, required, optional, List.lookup_cons, toText?_ofText,
      toUInt64?_ofInt, toInt32?_ofInt, ident, keys, shown.read, others.read, storage]

theorem faithful_partition : Faithful ShowsPartition := by
  refine .of_members (fun r => ⟨_, _, _, .shown r.params, faithful_storage.partShown r.storage,
    faithful_table.partShown r.table, rfl⟩) ?_
  rintro _ r ⟨params, storage, table, shown, part, owner, rfl⟩
  have storage := faithful_storage.part part
  have table := faithful_table.part owner
  refine ⟨_, rfl, by simp, ?_, ?_⟩
  · simp [readsBack_text, readsBack_int, readsBack_texts, shown.readsBack, storage, table]
  · simp [ofFields, required, optional, List.lookup_cons, toText?_ofText,
      toUInt64?_ofInt, toTexts?_ofTexts, shown.read, storage, table]

section Lists

variable [JsonRecord α] {shows : Json → α → Prop} (faithful : Faithful shows)
  {values : List Json} {records : List α}
include faithful

theorem Faithful.listShown (records : List α) :
    List.Forall₂ shows (records.map toJson) records := by
  induction records with
  | nil => exact .nil
  | cons record records ih => exact .cons (faithful.shown record) ih

theorem Faithful.listReadsBack (shown : List.Forall₂ shows values records) :
    ReadsBack (.list values) := by
  apply readsBack_list
  induction shown with
  | nil => exact fun _ held => nomatch held
  | cons first _ ih => exact List.forall_mem_cons.2 ⟨faithful.readsBack first, ih⟩

theorem Faithful.listRead (shown : List.Forall₂ shows values records) :
    values.map ofJson? = records.map some := by
  induction shown with
  | nil => rfl
  | cons first _ ih => rw [List.map_cons, List.map_cons, faithful.read first, ih]

end Lists
end TableCatalog.Json

namespace TableCatalog.Client

/-- Records of a kind are shown as a list with one item for each, in their order, and however they
are shown, the text is read as the list of these items and each item as its record. -/
structure ReadsBackAsShown (α : Type) [Tabular α] [JsonRecord α]
    (shows : Json → α → Prop) : Prop where
  shown (records : List α) : ∃ values, formatRecords .json records = Json.print (.list values) ∧
    List.Forall₂ shows values records
  readBack {values : List Json} {records : List α} (shown : List.Forall₂ shows values records) :
    Json.parse? (Json.print (.list values)) = some (.list values) ∧
    values.map JsonRecord.ofJson? = records.map some

theorem readsBackAsShown_of_faithful [Tabular α] [JsonRecord α]
    {shows : Json → α → Prop} (faithful : Json.Faithful shows) :
    ReadsBackAsShown α shows where
  shown records := ⟨records.map JsonRecord.toJson, rfl, faithful.listShown records⟩
  readBack shown := ⟨Json.parse?_print (faithful.listReadsBack shown), faithful.listRead shown⟩

theorem shown_records_read_back :
    ReadsBackAsShown Database Json.ShowsDatabase ∧ ReadsBackAsShown Table Json.ShowsTable ∧
    ReadsBackAsShown Partition Json.ShowsPartition := by
  refine ⟨?_, ?_, ?_⟩
  · exact readsBackAsShown_of_faithful Json.faithful_database
  · exact readsBackAsShown_of_faithful Json.faithful_table
  · exact readsBackAsShown_of_faithful Json.faithful_partition

def quoted : Database where
  ident := some { name := "a\"b" }
  location := "\u0001"
  params := .ofList [("a", ""), ("b", "\\")]
  sequence := -1

/-- The database with its later setting first. -/
def quotedShown : Json :=
  .ofMembers [("id", JsonRecord.toJson ({ name := "a\"b" } : Ident)),
    ("location", .ofText "\u0001"),
    ("parameters", .ofMembers [("b", .ofText "\\"), ("a", .ofText "")]),
    ("systemParameters", .ofMembers []), ("seqId", .ofInt 18446744073709551615)]

theorem shown_records_read_back_quoted : List.Forall₂ Json.ShowsDatabase [quotedShown] [quoted] ∧
    Json.parse? (Json.print (.list [quotedShown])) = some (.list [quotedShown]) := by
  have shown : List.Forall₂ Json.ShowsDatabase [quotedShown] [quoted] :=
    .cons ⟨_, _, ⟨[("b", "\\"), ("a", "")], by decide, rfl⟩, ⟨[], .nil, rfl⟩, rfl⟩ .nil
  exact ⟨shown, (shown_records_read_back.1.readBack shown).1⟩

end TableCatalog.Client

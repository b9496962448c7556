import TableCatalog.Client.Run
import TableCatalog.Proofs.AddStreams
import TableCatalog.Proofs.JsonRecords
import TableCatalog.Proofs.PartitionListings
import TableCatalog.Proofs.PartitionTuples
import TableCatalog.Proofs.WholeListings

/-! The client addresses partitions by the keys they are stored under. It splits a filter text at
its slashes and the service joins the pieces again, so each text is the key of what it asks for,
whatever tuple of values that was added as. -/

namespace TableCatalog

open Region

namespace Text

variable {sep : Char} {text part : List Char}

theorem not_mem_of_mem_splitAll (held : part ∈ splitAll sep text) : sep ∉ part := by
  induction text generalizing part with
  | nil =>
    rw [List.mem_singleton.1 held]
    exact List.not_mem_nil
  | cons c rest ih =>
    unfold splitAll at held
    split at held
    next =>
      rcases List.mem_cons.1 held with rfl | later
      · exact List.not_mem_nil
      · exact ih later
    next other =>
      split at held
      next first parts split =>
        rw [split] at ih
        rcases List.mem_cons.1 held with rfl | later
        · exact List.not_mem_cons_of_ne_of_not_mem (Ne.symm other) (ih List.mem_cons_self)
        · exact ih (List.mem_cons_of_mem _ later)
      next split => exact absurd split (splitAll_ne_nil sep rest)

theorem splitAll_eq_splitOn (sep : Char) (text : List Char) :
    splitAll sep text = text.splitOn sep := by
  have split := List.splitOn_intercalate sep (fun _ => not_mem_of_mem_splitAll)
    (splitAll_ne_nil sep text)
  rwa [intercalate_splitAll, eq_comm] at split

end Text

namespace Client

theorem joinValues_filterValues (text : String) :
    Request.joinValues (filterValues text) = text := by
  rw [← String.toList_inj, Request.joinValues, String.toList_intercalate,
    filterValues, List.map_map]
  have plain : (String.toList ∘ String.ofList) = id := funext fun _ => String.toList_ofList
  rw [plain, List.map_id]
  exact Text.intercalate_splitAll '/' text.toList

theorem filterValues_joinValues {values : List String} (given : values ≠ []) :
    filterValues (Request.joinValues values) = (Request.pieces values).map String.ofList := by
  rw [filterValues, Text.splitAll_eq_splitOn, Request.splitOn_joinValues given]

/-- A tuple is given back by its key if and only if it has values and none of them has a slash. -/
theorem filterValues_joinValues_iff (values : List String) :
    filterValues (Request.joinValues values) = values ↔
    values ≠ [] ∧ ∀ value ∈ values, '/' ∉ value.toList := by
  constructor
  · intro same
    refine ⟨?_, fun value held => ?_⟩
    · rintro rfl
      cases same
    · rw [← same] at held
      obtain ⟨part, among, rfl⟩ := List.mem_map.1 held
      rw [String.toList_ofList]
      exact Text.not_mem_of_mem_splitAll among
  · intro ⟨given, plain⟩
    rw [filterValues_joinValues given, Request.pieces_of_plain plain, List.map_map]
    exact (List.map_congr_left fun value _ => String.ofList_toList).trans (List.map_id values)

theorem keysOf_filterValues (texts : List String) : keysOf (texts.map filterValues) = texts := by
  rw [keysOf, List.map_map]
  exact (List.map_congr_left fun text _ => joinValues_filterValues text).trans (List.map_id texts)

/-- The text is read as a list of these partitions. -/
def ReadsAs (text : String) (records : List Partition) : Prop :=
  ∃ values, Json.parse? text = some (.list values) ∧
    values.map JsonRecord.ofJson? = records.map some

/-- Under these filter texts, the client prints these partitions, as the listing shows them and in
their order, which is what the service sends. The table is with the first and no other. What is
printed as JSON reads back as what was shown. -/
def Prints (store : Store) (catalog db table : String) (texts fields exclude : List String)
    (records : List Partition) : Prop :=
  let listing : PartitionListing :=
    { filter := texts.map filterValues, shown := fields, hidden := exclude }
  ∃ owner shown, getTable store catalog (.named db) (.named table) = .ok owner ∧
    Emits listing owner records (.ok (), shown) ∧
    partitionsListed store catalog (.named db) (.named table) listing = (.ok (), shown) ∧
    ReadsAs (formatRecords .json shown) shown ∧
    ∀ options fresh format,
      ((PartitionCommand.list db table texts fields exclude).request catalog).run
        options fresh store format = (.ok (formatRecords format shown), store)

/-- The empty text is the key of nothing, and a listing with it among its filters fails. -/
def EmptyRefused : Prop :=
  (∃ fault, Request.partitionKey (filterValues "") = .error fault ∧ fault.kind = .invalidArgument) ∧
  ∀ store catalog db table texts fields exclude options fresh format, "" ∈ texts → ∃ message,
    ((PartitionCommand.list db table texts fields exclude).request catalog).run
        options fresh store format =
      (.error (.status ⟨.invalidArgument, message⟩), store)

/-- A table of a run is listed by keys. -/
structure ListsByKey (options : StoreOptions) (before : List Operation)
    (catalog db table : String) : Prop where
  -- The partitions stored under the texts come in the order
  -- in which the texts are first mentioned, each once.
  listed : Admissible (before ++ [.listPartitions catalog (.named db) (.named table) {}]) →
    (∃ owner id, LiveTable (Operation.runAll options ∅ before) catalog
      (.named db) (.named table) owner id) →
    ∃ stored : String → Option Partition,
      (∀ text record, stored text = some record ↔
        Stored (Operation.runAll options ∅ before) catalog (.named db) (.named table) record ∧
        Request.joinValues record.values = text) ∧
      ∀ texts fields exclude, texts ≠ [] → "" ∉ texts →
        Prints (Operation.runAll options ∅ before) catalog db table texts fields exclude
          (texts.eraseDups.filterMap stored)
  -- What an add of the client has stored is what a listing under its joined values prints next.
  added : ∀ values location params fresh format text,
    let add := (PartitionCommand.add db table values location params).request catalog
    let operation := Operation.addPartition catalog (.named db)
      (.named table) { values, location, params := .ofList params } fresh
    let after := (add.run options fresh (Operation.runAll options ∅ before) format).2
    Admissible (before ++ [operation]) →
      (add.run options fresh (Operation.runAll options ∅ before) format).1 = .ok text →
    ∃ made, operation.run options (Operation.runAll options ∅ before) =
        (.ok (.partition made), after) ∧ made.values = values ∧
      Stored after catalog (.named db) (.named table) made ∧
      ∀ fields exclude, Prints after catalog db table
        [Request.joinValues values] fields exclude [made]

variable {store : Store} {catalog db table : String} {texts fields exclude : List String}
  {options : StoreOptions} {fresh : String} {format : OutputFormat}

/-- What a listing sends is what the client prints of it,
and what it fails with is what the client is told. -/
theorem list_run {ended : Except Fault Unit} {shown : List Partition}
    (listed : partitionsListed store catalog (.named db) (.named table)
        { filter := texts.map filterValues, shown := fields, hidden := exclude } = (ended, shown)) :
    ((PartitionCommand.list db table texts fields exclude).request catalog).run
        options fresh store format =
      (match ended with
        | .ok () => .ok (formatRecords format shown)
        | .error fault => .error (.status fault.toStatus), store) := by
  have whole := partitions_whole store catalog (named db) (named table)
    { filter := texts.map filterValues, shown := fields, hidden := exclude }
  cases ended with
  | ok done =>
    obtain ⟨answer, read⟩ := whole.answered shown listed
    simp only [PartitionCommand.request, ServiceRequest.run,
      answer, bind, Except.bind, showListed, read]
    rfl
  | error fault =>
    obtain ⟨-, -, answer, -⟩ := whole.refused fault shown listed
    simp only [PartitionCommand.request, ServiceRequest.run, answer]
    rfl

theorem readsAs_formatRecords (records : List Partition) :
    ReadsAs (formatRecords .json records) records := by
  have reads := readsBackAsShown_of_faithful Json.faithful_partition
  obtain ⟨values, printed, shown⟩ := reads.shown records
  obtain ⟨parsed, same⟩ := reads.readBack shown
  exact ⟨values, printed ▸ parsed, same⟩

theorem list_refused (store : Store) (catalog db table : String) (fields exclude : List String)
    (empty : "" ∈ texts) (options : StoreOptions) (fresh : String) (format : OutputFormat) :
    ∃ message, ((PartitionCommand.list db table texts fields exclude).request catalog).run
        options fresh store format =
      (.error (.status ⟨.invalidArgument, message⟩), store) := by
  have refused : ∃ fault, findPartitions store catalog (.named db)
        (.named table) { filter := texts.map filterValues, shown := fields, hidden := exclude } =
      .error fault ∧ fault.kind = .invalidArgument := by
    unfold findPartitions
    cases formed : Request.requireTable catalog (.named db) (.named table) with
    | error fault => exact ⟨fault, rfl, (Request.requireTable_error formed).1⟩
    | ok =>
      cases joined : Request.partitionKeys (texts.map filterValues) with
      | error fault => exact ⟨fault, rfl, (Request.partitionKeys_error joined).1⟩
      | ok keys =>
        have keyed := (Request.partitionKeys_ok joined).1 (filterValues "")
          (List.mem_map_of_mem empty)
        exact absurd (joinValues_filterValues "") keyed
  obtain ⟨fault, looked, kind⟩ := refused
  have listed : partitionsListed store catalog (.named db)
        (.named table) { filter := texts.map filterValues, shown := fields, hidden := exclude } =
      (.error fault, []) := by
    rw [partitionsListed, listPartitions_eq, looked]
    rfl
  refine ⟨fault.detail, (list_run listed).trans ?_⟩
  simp only [Fault.toStatus, kind]

theorem isOk_of_showReply {done : UInt64 → String} {reply : Reply} {text : String}
    (printed : showReply format done reply = .ok text) : reply.envelope.isOk = true := by
  cases fine : reply.envelope.isOk with
  | true => rfl
  | false =>
    have refused : ∃ fault, check (some reply.envelope) = .error fault :=
      ⟨_, if_neg (Bool.eq_false_iff.1 fine)⟩
    obtain ⟨fault, refused⟩ := refused
    cases reply <;> simp only [Reply.envelope] at refused <;>
      simp only [showReply, refused] at printed <;> cases printed

/-- A call that the client prints something of has been made. -/
theorem call_run {call : Call} {operation : Operation}
    (asked : call.operation fresh = .ok operation) {done : UInt64 → String} {text : String}
    (printed : ((ServiceRequest.call call done).run options fresh store format).1 = .ok text) :
    ((ServiceRequest.call call done).run options fresh store format).2 =
        (operation.run options store).2 ∧
      ∃ outcome, (operation.run options store).1 = .ok outcome := by
  simp only [ServiceRequest.run, Call.handle_asked asked] at printed ⊢
  have succeeded : Succeeded (call.told (operation.run options store).1) := by
    cases told : call.told (operation.run options store).1 with
    | ok reply =>
      rw [told] at printed
      exact ⟨reply, rfl, isOk_of_showReply printed⟩
    | error status =>
      rw [told] at printed
      cases printed
  exact ⟨trivial, Call.succeeded_told.1 succeeded⟩

section Runs

variable {owner id text : String} {record : Partition} {contents : Contents}
  {drawn : List String} {dbIdent tableIdent : Ident}

theorem live_of_stored (stored : Stored store catalog dbIdent tableIdent record) :
    ∃ owner id, LiveTable store catalog dbIdent tableIdent owner id := by
  obtain ⟨owner, id, -, -, live, -⟩ := stored
  exact ⟨owner, id, live⟩

theorem stored_iff_readable (reached : Reached store contents drawn) (short : Bytes.Short catalog)
    (tableShort : tableIdent.Short) (live : LiveTable store catalog dbIdent tableIdent owner id) :
    ((tableRef catalog owner id).readable store).find? (Bytes.ofText text) = some record ↔
      Stored store catalog dbIdent tableIdent record ∧ Request.joinValues record.values = text := by
  rw [TableRef.find?_readable]
  constructor
  · intro read
    split at read
    next =>
      obtain ⟨bytes, held, read⟩ := Option.bind_eq_some_iff.1 read
      obtain ⟨-, kept, same, address⟩ := reached.stored_readable short tableShort live held
      obtain rfl := Option.some.inj (same.symm.trans read)
      exact ⟨⟨owner, id, _, bytes, live, held, read⟩, (Bytes.ofText_injective address).symm⟩
    next => cases read
  · rintro ⟨⟨otherOwner, otherId, key, bytes, otherLive, held, read⟩, rfl⟩
    obtain ⟨found, here, rfl, rfl⟩ := reached.liveTable_scope short live
    obtain ⟨other, there, rfl, rfl⟩ := reached.liveTable_scope short otherLive
    obtain rfl := Except.ok.inj (here.symm.trans there)
    obtain ⟨region, kept, same, address⟩ := reached.stored_readable short tableShort live held
    obtain rfl := Option.some.inj (same.symm.trans read)
    rw [if_pos region, ← address]
    exact Option.bind_eq_some_iff.2 ⟨bytes, held, read⟩

theorem prints_stored {before : List Operation} (admissible : Admissible before)
    (short : Bytes.Short catalog) (dbShort : (Ident.named db).Short)
    (tableShort : (Ident.named table).Short)
    (live : ∃ owner id,
      LiveTable (Operation.runAll options ∅ before) catalog (.named db) (.named table) owner id) :
    ∃ stored : String → Option Partition,
      (∀ text record, stored text = some record ↔
        Stored (Operation.runAll options ∅ before) catalog (.named db) (.named table) record ∧
        Request.joinValues record.values = text) ∧
      ∀ texts fields exclude, texts ≠ [] → "" ∉ texts →
        Prints (Operation.runAll options ∅ before) catalog db table texts fields exclude
          (texts.eraseDups.filterMap stored) := by
  have reached := admissible.reached options
  obtain ⟨owner, id, live⟩ := live
  obtain ⟨record, looked, opens⟩ := admissible.opens options short dbShort live
  refine ⟨fun text => ((tableRef catalog owner id).readable
    (Operation.runAll options ∅ before)).find? (Bytes.ofText text),
    fun text record => stored_iff_readable reached short tableShort live,
    fun texts fields exclude given keyed => ?_⟩
  have keys := keysOf_filterValues texts
  have filters : texts.map filterValues ≠ [] := mt List.map_eq_nil_iff.1 given
  have emits := opens.partitionReads.filtered
    { filter := texts.map filterValues, shown := fields, hidden := exclude } filters (by rwa [keys])
  rw [keys] at emits
  generalize listed : partitionsListed (Operation.runAll options ∅ before) catalog (.named db)
    (.named table) { filter := texts.map filterValues, shown := fields, hidden := exclude } =
    ran at emits
  obtain ⟨ended, shown⟩ := ran
  obtain rfl : ended = .ok () := emits.ended
  exact ⟨record, shown, looked, emits, listed, readsAs_formatRecords shown,
    fun _ _ _ => list_run listed⟩

/-- An add that succeeds has stored a partition with the values it was given. -/
theorem stored_of_add {outcome : Outcome} (reached : Reached store contents drawn)
    (short : (Operation.addPartition catalog dbIdent tableIdent record fresh).Short)
    (unused : ∀ id,
      (Operation.addPartition catalog dbIdent tableIdent record fresh).fresh? = some id →
        id ∉ drawn)
    (added : (Operation.run options store
      (.addPartition catalog dbIdent tableIdent record fresh)).1 = .ok outcome) :
    Request.joinValues record.values ≠ "" ∧ ∃ made,
      (Operation.run options store (.addPartition catalog dbIdent tableIdent record fresh)).1 =
        .ok (.partition made) ∧
      made.values = record.values ∧
      Stored (Operation.run options store (.addPartition catalog dbIdent tableIdent record fresh)).2
        catalog dbIdent tableIdent made := by
  obtain ⟨formed, there, free⟩ := (reached.judged short unused options).ok_iff.1 ⟨outcome, added⟩
  obtain ⟨owner, id, live⟩ := not_not.1 there
  obtain ⟨named, keyed⟩ := not_or.1 formed
  obtain ⟨found, here, -⟩ := reached.liveTable_scope short.1 live
  have shelves : Contents.Shelves _ catalog dbIdent tableIdent found.node.record
      (found.node.shelf.getD {}).rows :=
    ⟨by simpa only [not_or] using named, found, here, rfl, rfl⟩
  obtain ⟨made, grown, done, same, next, -, stands, there, -, rows⟩ :=
    reached.adds shelves short unused options keyed
      ((reached.free_iff_not_live shelves short.1 short.2.2.1).2 free)
  refine ⟨keyed, made, done, same,
    (next.holds.stored_iff next.sound short.1 short.2.2.1).2 ⟨stands, there, ?_⟩⟩
  rw [TableNode.row?, rows, same, SortedMap.find?_insert, if_pos rfl]

end Runs

theorem listsByKey (options : StoreOptions) (before : List Operation) (catalog db table : String) :
    ListsByKey options before catalog db table where
  listed := by
    intro admissible live
    obtain ⟨begun, ⟨short, dbShort, tableShort⟩, -⟩ := admissible.before
    exact prints_stored begun short dbShort tableShort live
  added := by
    intro values location params fresh format text add operation after admissible printed
    obtain ⟨begun, short, unused⟩ := admissible.before
    have asked : (Call.addPartition
      { catalog, db := named db, table := named table, partition := some
          { values, location, params := .ofList params } }).operation fresh = .ok operation := rfl
    obtain ⟨left, outcome, ran⟩ := call_run asked printed
    obtain ⟨keyed, made, done, same, stored⟩ :=
      stored_of_add (begun.reached options) short unused ran
    have store : after = (operation.run options (Operation.runAll options ∅ before)).2 := left
    have stands : (operation.run options (Operation.runAll options ∅ before)).2 =
        Operation.runAll options ∅ (before ++ [operation]) :=
      (Operation.runAll_append options ∅ before [operation]).symm
    rw [store]
    refine ⟨made, Prod.ext done rfl, same, stored, fun fields exclude => ?_⟩
    rw [stands] at stored ⊢
    obtain ⟨kept, under, prints⟩ :=
      prints_stored admissible short.1 short.2.1 short.2.2.1 (live_of_stored stored)
    have only : [Request.joinValues values].eraseDups.filterMap kept = [made] := by
      have row : kept (Request.joinValues values) = some made :=
        (under _ made).2 ⟨stored, congrArg Request.joinValues same⟩
      show [Request.joinValues values].filterMap kept = _
      rw [List.filterMap_cons, row, List.filterMap_nil]
    rw [← only]
    exact prints _ fields exclude (List.cons_ne_nil _ _) (by simpa using Ne.symm keyed)

theorem filters_address_keys :
    (∀ text, text ≠ "" → Request.partitionKey (filterValues text) = .ok text) ∧ EmptyRefused ∧
    (∀ values, filterValues (Request.joinValues values) = values ↔
      values ≠ [] ∧ ∀ value ∈ values, '/' ∉ value.toList) ∧
    ∀ options before catalog db table, ListsByKey options before catalog db table := by
  refine ⟨fun text given => ?_, ⟨?_, ?_⟩, filterValues_joinValues_iff, listsByKey⟩
  · have joined := joinValues_filterValues text
    exact Request.partitionKey_eq_ok.2 ⟨joined, joined ▸ given⟩
  · exact ⟨_, rfl, rfl⟩
  · intro store catalog db table texts fields exclude options fresh format empty
    exact list_refused store catalog db table fields exclude empty options fresh format

/-- A slash inside a value and an empty value are part of the text. -/
theorem filters_address_keys_slash :
    let add := (PartitionCommand.add "sales" "orders" ["a/b", ""] "" []).request "main"
    let after := (add.run {} "P1" (Operation.runAll {} ∅ unfilled) .json).2
    (add.run {} "P1" (Operation.runAll {} ∅ unfilled) .json).1.isOk = true ∧
    ∃ made, made.values = ["a/b", ""] ∧
    Prints after "main" "sales" "orders" ["a/b/"] [] [] [made] := by
  intro add after
  have printed : (add.run {} "P1" (Operation.runAll {} ∅ unfilled) .json).1.isOk = true := by
    decide +kernel
  refine ⟨printed, ?_⟩
  cases ran : (add.run {} "P1" (Operation.runAll {} ∅ unfilled) .json).1 with
  | error refused =>
    rw [ran] at printed
    cases printed
  | ok text =>
    have lists := filters_address_keys.2.2.2 {} unfilled "main" "sales" "orders"
    obtain ⟨made, -, values, -, prints⟩ :=
      lists.added ["a/b", ""] "" [] "P1" .json text (by decide +kernel) ran
    exact ⟨made, values, prints [] []⟩

end Client
end TableCatalog

import TableCatalog.Proofs.ContentsFilled
import TableCatalog.Proofs.ContentsRefinement
import TableCatalog.Proofs.ListingLoops
import TableCatalog.Proofs.RemoteCalls

/-! Whether a store fills in the locations of new partitions is not seen by those who read from it.
Two stores that differ in nothing else are twins: one holds the contents of the other with all
locations filled in, and every operation keeps them so. -/

namespace TableCatalog

open Region

variable {plain filled : Store} {contents : Contents} {drawn : List String}

theorem Reached.mono {store : Store} {more : List String} (reached : Reached store contents drawn)
    (grown : drawn ⊆ more) : Reached store contents more :=
  ⟨reached.holds, reached.sound, fun id used => grown (reached.drawn id used)⟩

/-- One store holds what the other holds, with every location filled in. -/
def Twins (plain filled : Store) (drawn : List String) : Prop :=
  ∃ contents : Contents, Reached plain contents drawn ∧ Reached filled contents.filled drawn

namespace Twins

theorem empty : Twins ∅ ∅ [] := ⟨∅, .empty, .empty⟩

section Operations

variable (twins : Twins plain filled drawn) {operation : Operation}
  (short : operation.Short) (fresh : ∀ id, operation.fresh? = some id → id ∉ drawn)
include twins short fresh

theorem answer : (operation.run { fillLocation := true } filled).1 =
      operation.answerFilled (operation.run { fillLocation := false } plain).1 := by
  obtain ⟨contents, reached, other⟩ := twins
  rw [(reached.answer short fresh).1, (other.answer short fresh).1, contents.run_filled]

theorem run : Twins (operation.run { fillLocation := false } plain).2
      (operation.run { fillLocation := true } filled).2 (drawn ++ operation.fresh?.toList) := by
  obtain ⟨contents, reached, other⟩ := twins
  exact ⟨(contents.run { fillLocation := false } operation).2,
    reached.run short fresh, (other.follow _ short fresh (contents.run_filled operation)).2⟩

end Operations

theorem runAll (twins : Twins plain filled drawn) {operations : List Operation}
    (short : ∀ operation ∈ operations, operation.Short)
    (fresh : (drawn ++ operations.filterMap Operation.fresh?).Nodup) :
    Twins (Operation.runAll { fillLocation := false } plain operations)
      (Operation.runAll { fillLocation := true } filled operations)
      (drawn ++ operations.filterMap Operation.fresh?) := by
  induction operations generalizing plain filled drawn with
  | nil => simpa [Operation.runAll] using twins
  | cons operation rest ih =>
    rw [drawn_cons] at fresh ⊢
    exact ih (twins.run (short operation List.mem_cons_self) (unused_of_nodup fresh))
      (fun other held => short other (List.mem_cons_of_mem _ held)) fresh

end Twins

theorem Partition.fillLocation_sequence (record : Partition) :
    record.fillLocation.sequence = record.sequence := by
  unfold fillLocation
  cases record.storage <;> split <;> rfl

/-- Of a partition that was added a caller is told the number
alone, and that is the same with the location filled in. -/
theorem Call.told_filled {call : Call} {fresh : String} {operation : Operation}
    (asked : call.operation fresh = .ok operation) (result : Except Fault Outcome) :
    call.told (operation.answerFilled result) = call.told result := by
  cases call with
  | addPartition request =>
    simp only [Call.operation, AddRequest.operation, bind_eq_ok,
      pure, Except.pure, Except.ok.injEq] at asked
    obtain ⟨record, -, rfl⟩ := asked
    cases result with
    | error fault => rfl
    | ok outcome =>
      cases outcome with
      | partition added =>
        simp only [Operation.answerFilled, Except.map, Outcome.filled,
          told, reply, Option.bind_some, Partition.fillLocation_sequence]
      | _ => rfl
  | createDatabase | alterDatabase | createTable =>
    simp only [Call.operation, bind_eq_ok, pure, Except.pure, Except.ok.injEq] at asked
    obtain ⟨record, -, rfl⟩ := asked
    rfl
  | _ =>
    cases asked
    rfl

namespace Twins

/-- The same call to both twins is answered the same and leaves twins. -/
structure Replies (plain filled : Store) (drawn : List String) (call : RemoteCall) : Prop where
  answer : (call.handle { fillLocation := true } filled).1 =
    (call.handle { fillLocation := false } plain).1
  twins : Twins (call.handle { fillLocation := false } plain).2 (call.handle
    { fillLocation := true } filled).2 (drawn ++ call.operations.filterMap Operation.fresh?)

variable (twins : Twins plain filled drawn)
include twins

theorem mono {more : List String} (grown : drawn ⊆ more) : Twins plain filled more := by
  obtain ⟨contents, reached, other⟩ := twins
  exact ⟨contents, reached.mono grown, other.mono grown⟩

private theorem unary {call : Call} {id : String}
    (short : ∀ operation ∈ (RemoteCall.unary call id).operations, operation.Short)
    (fresh : (drawn ++ (RemoteCall.unary call id).operations.filterMap Operation.fresh?).Nodup) :
    Replies plain filled drawn (.unary call id) := by
  cases asked : call.operation id with
  | error fault =>
    have none : (RemoteCall.unary call id).operations = [] := by
      rw [RemoteCall.operations, asked]; rfl
    constructor
    · simp only [RemoteCall.handle, Call.handle_refused asked]
      rfl
    · simp only [RemoteCall.handle, Call.handle_refused asked, none]
      simpa using twins
  | ok operation =>
    have one : (RemoteCall.unary call id).operations = [operation] := by
      rw [RemoteCall.operations, asked]; rfl
    rw [one] at short
    rw [one, drawn_cons] at fresh
    have unused := unused_of_nodup fresh
    have first := short operation List.mem_cons_self
    constructor
    · simp only [RemoteCall.handle, Call.handle_asked asked, twins.answer first unused]
      exact congrArg RemoteAnswer.reply (Call.told_filled asked _)
    · simp only [RemoteCall.handle, Call.handle_asked asked, one]
      rw [drawn_cons]
      exact (twins.run first unused).mono (List.subset_append_left _ _)

private theorem list {call : ListCall} (short : call.operation.Short) :
    Replies plain filled drawn (.list call) := by
  constructor
  · obtain ⟨contents, reached, other⟩ := twins
    apply congrArg RemoteAnswer.listed
    cases call with
    | databases catalog listing =>
      simp only [ListCall.handle, listDatabases_eq, other.holds.findDatabases other.sound short,
        reached.holds.findDatabases reached.sound short,
        Contents.findDatabases_filled]
    | tables catalog db shown =>
      simp only [ListCall.handle, listTables_eq, other.holds.findTables other.sound short.1 short.2,
        reached.holds.findTables reached.sound short.1 short.2,
        Contents.findTables_filled]
    | partitions catalog db table listing =>
      simp only [ListCall.handle, listPartitions_eq,
        other.holds.findPartitions other.sound short.1 short.2.1 short.2.2,
        reached.holds.findPartitions reached.sound short.1 short.2.1 short.2.2,
        Contents.findPartitions_filled]
  · exact twins.mono (List.subset_append_left _ _)

/-- The requests before the first that fails are made in both, and that one fails alike. -/
private theorem addStream {requests : List (AddRequest × String)}
    (short : ∀ operation ∈ (RemoteCall.addStream requests).operations, operation.Short) (fresh :
        (drawn ++ (RemoteCall.addStream requests).operations.filterMap Operation.fresh?).Nodup) :
    Replies plain filled drawn (.addStream requests) := by
  induction requests generalizing plain filled drawn with
  | nil => exact ⟨rfl, twins.mono (List.subset_append_left _ _)⟩
  | cons request rest ih =>
    obtain ⟨request, id⟩ := request
    cases asked : request.operation id with
    | error fault =>
      constructor
      · simp only [RemoteCall.handle, addMany_refused asked]
        rfl
      · simp only [RemoteCall.handle, addMany_refused asked]
        exact twins.mono (List.subset_append_left _ _)
    | ok operation =>
      have operations : (RemoteCall.addStream ((request, id) :: rest)).operations =
          operation :: (RemoteCall.addStream rest).operations := by
        simp only [RemoteCall.operations, List.flatMap_cons, asked]
        rfl
      rw [operations] at short
      rw [operations, drawn_cons] at fresh
      have unused := unused_of_nodup fresh
      have first := short operation List.mem_cons_self
      have answered := twins.answer first unused
      have next := twins.run first unused
      cases made : (operation.run { fillLocation := false } plain).1 with
      | error fault =>
        rw [made, Operation.answerFilled_error] at answered
        constructor
        · simp only [RemoteCall.handle, addMany_asked asked, made, answered]
          rfl
        · simp only [RemoteCall.handle, addMany_asked asked, made, answered, operations]
          rw [drawn_cons]
          exact next.mono (List.subset_append_left _ _)
      | ok outcome =>
        obtain ⟨told, succeeded⟩ := operation.answerFilled_ok outcome
        rw [made, succeeded] at answered
        obtain ⟨replied, later⟩ :=
          ih next (fun other held => short other (List.mem_cons_of_mem _ held)) fresh
        constructor
        · simp only [RemoteCall.handle, addMany_asked asked, made, answered]
          exact replied
        · simp only [RemoteCall.handle, addMany_asked asked, made, answered, operations]
          rw [drawn_cons]
          exact later

private theorem dropStream {requests : List DropRequest}
    (short : ∀ operation ∈ (RemoteCall.dropStream requests).operations, operation.Short) :
    Replies plain filled drawn (.dropStream requests) := by
  cases requests with
  | nil => exact ⟨rfl, twins.mono (List.subset_append_left _ _)⟩
  | cons first rest =>
    have asked := short _ List.mem_cons_self
    have answered := twins.answer asked nofun
    have one := dropMany_cons { fillLocation := false } plain first rest
    have other := dropMany_cons { fillLocation := true } filled first rest
    constructor
    · rw [RemoteCall.handle, RemoteCall.handle, one, other]
      exact congrArg (fun result => RemoteAnswer.status (statusOf result)) answered
    · rw [RemoteCall.handle, RemoteCall.handle, one, other]
      exact twins.run asked nofun

theorem replies {call : RemoteCall} (short : ∀ operation ∈ call.operations, operation.Short)
    (fresh : (drawn ++ call.operations.filterMap Operation.fresh?).Nodup) :
    Replies plain filled drawn call := by
  cases call with
  | unary => exact twins.unary short fresh
  | list => exact twins.list (short _ List.mem_cons_self)
  | addStream => exact twins.addStream short fresh
  | dropStream => exact twins.dropStream short

theorem answers {calls : List RemoteCall}
    (short : ∀ operation ∈ calls.flatMap RemoteCall.operations, operation.Short)
    (fresh : (drawn ++ (calls.flatMap RemoteCall.operations).filterMap Operation.fresh?).Nodup) :
    RemoteCall.answers { fillLocation := true } filled calls =
      RemoteCall.answers { fillLocation := false } plain calls := by
  induction calls generalizing plain filled drawn with
  | nil => rfl
  | cons call rest ih =>
    rw [List.flatMap_cons] at short
    rw [List.flatMap_cons, List.filterMap_append, ← List.append_assoc] at fresh
    have first : Replies plain filled drawn call :=
      twins.replies (fun operation held => short operation (List.mem_append_left _ held))
        (List.nodup_append.1 fresh).1
    rw [RemoteCall.answers, RemoteCall.answers, first.answer]
    exact congrArg _ (ih first.twins
      (fun operation held => short operation (List.mem_append_right _ held)) fresh)

end Twins

/-- A partition without its location has other bytes than with it. -/
theorem Reached.entries_ne {catalog : String} {db table : Ident} {found : Contents.FoundTable}
    {key : Bytes} {record : Partition} (reached : Reached plain contents drawn)
    (other : Reached filled contents.filled drawn) (short : Bytes.Short catalog)
    (tableShort : table.Short) (here : contents.scope catalog db table = .ok found)
    (row : (found.node.shelf.getD {}).rows.find? key = some record)
    (unfilled : record.fillLocation ≠ record) : filled.entries ≠ plain.entries := by
  intro same
  have there : contents.filled.scope catalog db table = .ok found.filled := by
    rw [Contents.scope_filled, here]; rfl
  have otherRow : (found.filled.node.shelf.getD {}).rows.find? key = some record.fillLocation := by
    rw [Contents.FoundTable.filled, TableNode.filled_shelf, Shelf.row_filled, row]
    rfl
  obtain ⟨shows, region⟩ := reached.holds.found_shelf reached.sound short tableShort here
  obtain ⟨otherShows, -⟩ := other.holds.found_shelf other.sound short tableShort there
  have bytes := shows.shelf_row region key
  have otherBytes := otherShows.shelf_row region key
  rw [row, Option.map_some] at bytes
  rw [otherRow, Option.map_some, Store.get?, same] at otherBytes
  have encoded : Wire.Message.encode record.fillLocation = Wire.Message.encode record :=
    Option.some.inj (otherBytes.symm.trans bytes)
  have read := ((reached.sound.table here).2.2.shelf.rows key record row).2.2.readable.read?
  have otherRead := ((other.sound.table there).2.2.shelf.rows key _ otherRow).2.2.readable.read?
  rw [encoded] at otherRead
  exact unfilled (Option.some.inj (otherRead.symm.trans read))

/-- What a run of operations answers, and what remote calls are answered after it, when locations
are filled in and when they are not. The one difference is the record with which an added partition
is answered, and what is stored of it. -/
structure FillingUnseen (operations : List Operation) (calls : List RemoteCall) : Prop where
  answers : ∀ before operation after, operations = before ++ operation :: after →
    (operation.run { fillLocation := true }
      (Operation.runAll { fillLocation := true } ∅ before)).1 =
      operation.answerFilled (operation.run { fillLocation := false }
        (Operation.runAll { fillLocation := false } ∅ before)).1
  replies : RemoteCall.answers { fillLocation := true }
      (Operation.runAll { fillLocation := true } ∅ operations) calls =
    RemoteCall.answers { fillLocation := false }
      (Operation.runAll { fillLocation := false } ∅ operations) calls
  stored : ∀ before catalog db table record fresh after added,
    operations = before ++ .addPartition catalog db table record fresh :: after →
    ((Operation.addPartition catalog db table record fresh).run { fillLocation := false }
      (Operation.runAll { fillLocation := false } ∅ before)).1 =
      .ok (.partition added) → added.fillLocation ≠ added →
    (Operation.runAll { fillLocation := true } ∅
      (before ++ [.addPartition catalog db table record fresh])).entries ≠
      (Operation.runAll { fillLocation := false } ∅
        (before ++ [.addPartition catalog db table record fresh])).entries

theorem filling_unseen (operations : List Operation) (calls : List RemoteCall)
    (admissible : Admissible (operations ++ calls.flatMap RemoteCall.operations)) :
    FillingUnseen operations calls := by
  have started (before after : List Operation) (operation : Operation)
    (here : operations = before ++ operation :: after) :
      (∃ drawn, Twins (Operation.runAll { fillLocation := false } ∅ before)
          (Operation.runAll { fillLocation := true } ∅ before) drawn ∧
        ∀ id, operation.fresh? = some id → id ∉ drawn) ∧ operation.Short := by
    rw [here, List.append_assoc, List.cons_append] at admissible
    obtain ⟨begun, short, unused⟩ := admissible.before
    exact ⟨⟨_, Twins.empty.runAll begun.short (by simpa using begun.fresh), by simpa using unused⟩,
      short⟩
  constructor
  · intro before operation after here
    obtain ⟨⟨drawn, twins, unused⟩, short⟩ := started before after operation here
    exact twins.answer short unused
  · have fresh := admissible.fresh
    rw [List.filterMap_append] at fresh
    have twins := Twins.empty.runAll (fun operation held => admissible.short operation
      (List.mem_append_left _ held)) (by simpa using (List.nodup_append.1 fresh).1)
    exact twins.answers (fun operation held =>
      admissible.short operation (List.mem_append_right _ held)) (by simpa using fresh)
  · intro before catalog db table record fresh after added here made unfilled
    obtain ⟨⟨drawn, ⟨contents, reached, other⟩, unused⟩, short⟩ := started before after _ here
    obtain ⟨left, ran, next⟩ := reached.retrace short unused made
    obtain ⟨-, otherNext⟩ :=
      other.follow { fillLocation := true } short unused (contents.run_filled _)
    rw [ran] at otherNext
    obtain ⟨result, done, same⟩ := Contents.change_eq_ok.1 ran
    cases same
    obtain ⟨-, -, found, placed, -, -, rfl⟩ := Contents.addPartition_eq_ok.1 done
    obtain ⟨later, there, node⟩ :=
      Contents.table_setShelf placed ⟨(found.node.shelf.getD {}).count + 1,
      (found.node.shelf.getD {}).rows.insert
        (Bytes.ofText (Request.joinValues record.values)) added⟩
    have row : (later.node.shelf.getD {}).rows.find?
        (Bytes.ofText (Request.joinValues record.values)) = some added := by
      rw [node]
      exact (SortedMap.find?_insert ..).trans (if_pos rfl)
    simp only [Operation.runAll, List.foldl_append]
    exact next.entries_ne otherNext short.1 short.2.2.1 there row unfilled

/-- A table with a partition that has a location in its storage descriptor alone. -/
def described : List Operation :=
  let sales : Ident := { name := "sales" }
  let orders : Ident := { name := "orders" }
  let year (text location : String) : Partition :=
    { values := [text], storage := some { location } }
  [.createDatabase "main" { ident := some sales } "1",
    .createTable "main" sales { ident := some orders } "2",
    .addPartition "main" sales orders (year "2023" "/cold") "3",
    .addPartition "main" sales orders (year "2024" "/hot") "4",
    .dropPartition "main" sales orders ["2023"]]

/-- The location alone is asked for, once with the storage descriptor hidden. -/
def describedReads : List RemoteCall :=
  let sales : Option Ident := some { name := "sales" }
  let orders : Option Ident := some { id := "2" }
  [.unary (.getPartition "main" sales orders ["2024"] ["location"]) "",
    .list (.partitions "main" sales orders { shown := ["location"], hidden := ["sd"] }),
    .unary (.addPartition { catalog := "main", db := sales, table := orders,
                            partition := some { values := ["2025"] }, sequence := 7 }) "5"]

theorem filling_unseen_described :
    FillingUnseen described describedReads ∧
    (Operation.runAll { fillLocation := true } ∅ described).entries ≠
      (Operation.runAll { fillLocation := false } ∅ described).entries ∧
    ∀ fill, (Operation.run { fillLocation := fill }
      (Operation.runAll { fillLocation := fill } ∅ described) (.listPartitions "main"
        { name := "sales" } { name := "orders" } { shown := ["location"], hidden := ["sd"] })).1 =
        .ok (.partitions [{ location := "/hot" }]) :=
  ⟨filling_unseen described describedReads (by decide +kernel), by
      decide +kernel, by decide +kernel⟩

end TableCatalog

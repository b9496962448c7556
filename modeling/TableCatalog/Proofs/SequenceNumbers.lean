import Mathlib.Data.List.Nodup
import TableCatalog.Proofs.ContentsLedgers
import TableCatalog.Proofs.ContentsRefinement

/-! Numbers without gaps. In every catalog, database and table the
records that are made get one, two, three and so on, in the order of
time, whatever fails, is dropped or happens elsewhere in between. -/

namespace TableCatalog

open Region

/-- The number that the record under a key of a scope carries. -/
def Scope.number? (store : Store) (key : Bytes) : Scope → Option UInt64
  | catalog name =>
    ((store.get? (Level.catalog name).byId key).bind (Wire.read? (α := Database))).map (·.sequence)
  | database name db =>
    ((store.get? (Level.database name db).byId key).bind (Wire.read? (α := Table))).map (·.sequence)
  | table name db id =>
    ((store.get? ((Level.database name db).child id) key).bind (Wire.read? (α := Partition))).map
      (·.sequence)

def Scope.Short : Scope → Prop
  | catalog name => Bytes.Short name
  | database name db => Bytes.Short name ∧ Bytes.Short db
  | table name db id => Bytes.Short name ∧ Bytes.Short db ∧ Bytes.Short id

/-- The scope that an operation gives a number in, by the identifiers that it resolves to, and the
key of the record that gets it. -/
def Operation.place? (store : Store) : Operation → Option (Scope × Bytes)
  | createDatabase catalog _ fresh => some (.catalog catalog, Bytes.ofText fresh)
  | createTable catalog db _ fresh => do
    let id ← (resolve store (Level.catalog catalog) .database db).toOption
    return (.database catalog id, Bytes.ofText fresh)
  | addPartition catalog db table record _ => do
    let id ← (resolve store (Level.catalog catalog) .database db).toOption
    let tableId ← (resolve store (Level.database catalog id) .table table).toOption
    return (.table catalog id tableId, Bytes.ofText (Request.joinValues record.values))
  | _ => none

/-- What an operation issues: the number of the record it
gives back, at the place of that record. -/
def Operation.issue? (options : StoreOptions) (store : Store) (operation : Operation) :
    Option Issue :=
  issued? (operation.place? store) (operation.run options store).1

/-- All that a run issues, in the order of time. -/
def issues (options : StoreOptions) (store : Store) : List Operation → List Issue
  | [] => []
  | operation :: rest =>
    (operation.issue? options store).toList ++ issues options (operation.run options store).2 rest

def numbersIn (scope : Scope) (log : List Issue) : List Nat :=
  (log.filter (·.scope = scope)).map (·.number.toNat)

/-- Every create and add that succeeds gives back and stores the next number of its scope, and the
records of a scope carry different numbers out of those that it gave. -/
structure Numbered (options : StoreOptions) (operations : List Operation) : Prop where
  next : ∀ before operation after fresh outcome, operations = before ++ operation :: after →
    operation.fresh? = some fresh →
    (operation.run options (Operation.runAll options ∅ before)).1 = .ok outcome →
    ∃ issue, operation.issue? options (Operation.runAll options ∅ before) = some issue ∧
      outcome.sequence? = some issue.number ∧
      issue.number.toNat = (numbersIn issue.scope (issues options ∅ before)).length + 1 ∧
      issue.scope.number? (operation.run options (Operation.runAll options ∅ before)).2 issue.key =
        some issue.number
  inOrder : ∀ scope, (numbersIn scope (issues options ∅ operations)).Pairwise (· < ·)
  given : ∀ (scope : Scope) key number, scope.Short →
    scope.number? (Operation.runAll options ∅ operations) key = some number →
    ⟨scope, key, number⟩ ∈ issues options ∅ operations
  different : ∀ (scope : Scope) key other number, scope.Short →
    scope.number? (Operation.runAll options ∅ operations) key = some number →
    scope.number? (Operation.runAll options ∅ operations) other = some number → key = other

section Contents

variable {store : Store} {contents after : Contents} {drawn : List String}
  {operation : Operation} {options : StoreOptions} {outcome : Outcome}

private theorem read_stored {α : Type} [Wire.Message α] {stored : Option Bytes}
    {record : Option α} (same : stored = record.map Wire.Message.encode)
    (readable : ∀ kept, record = some kept → Wire.Readable kept) :
    stored.bind Wire.read? = record := by
  subst same
  cases record with
  | none => rfl
  | some kept => exact (readable kept rfl).read?

/-- What stands under an identifier reads back as the record of its node. -/
private theorem Index.Sound.read_byId {ε ρ : Type} [Wire.Message ρ] [Node ε ρ] {index : Index ε}
    {valid : ε → Prop} {level : Level} (sound : index.Sound valid)
    (readable : ∀ node, valid node → Wire.Readable (Node.record node))
    (shows : Shows store level.root (index.layout level.inside)) (short : level.Short)
    (key : Bytes) :
    (store.get? level.byId key).bind Wire.read? = (index.entries.find? key).map Node.record := by
  apply read_stored
  · rw [Option.map_map]
    exact shows.byId short key
  · intro kept held
    obtain ⟨node, found, rfl⟩ := Option.map_eq_some_iff.1 held
    exact readable node (sound.nodes _ _ found)

theorem Holds.number? (holds : Holds store contents) (sound : contents.Sound)
    {scope : Scope} (short : scope.Short) (key : Bytes) :
    scope.number? store key = (contents.ledger scope).bind (·.number? key) := by
  cases scope with
  | catalog name =>
    have level := Level.catalog_short short
    have row : (store.get? (Level.catalog name).byId key).bind Wire.read? =
        (((contents.find? name).getD {}).entries.find? key).map Node.record := by
      cases found : contents.find? name with
      | none =>
        have shows := holds.shows name
        rw [Contents.layout, found] at shows
        have absent : store.get? (Level.catalog name).byId key = none := shows.entry level.byId key
        rw [absent]
        rfl
      | some index =>
        exact (sound.indices _ _ found).read_byId (fun _ valid => valid.record.readable)
          (holds.catalog found) level key
    rw [Scope.number?, row, Option.map_map]
    rfl
  | database name db =>
    have level := Level.database_short short.1 short.2
    have shows := holds.underDatabase name db
    rw [Contents.ledger_database]
    cases found : contents.database? name db with
    | none =>
      rw [found] at shows
      have absent : store.get? (Level.database name db).byId key = none :=
        shows.entry level.byId key
      rw [Scope.number?, absent]
      rfl
    | some node =>
      rw [found] at shows
      have row := (sound.database? found).tables.read_byId
        (fun _ valid => valid.record.readable) shows level key
      rw [Scope.number?, row, Option.map_map]
      rfl
  | table name db id =>
    have region := (Level.database_short short.1 short.2.1).child short.2.2
    have shows := holds.underTable name db id
    rw [Contents.ledger_table]
    cases found : contents.table? name db id with
    | none =>
      rw [found] at shows
      rw [Scope.number?, (shows.here region).2 key]
      rfl
    | some node =>
      rw [found] at shows
      have row := read_stored (Shows.shelf_row shows region key) fun kept held =>
        ((sound.table? found).shelf.rows _ _ held).2.2.readable
      rw [Scope.number?, row]
      rfl

/-- A scope that is there came into being under an identifier in use. -/
theorem Contents.uses_of_ledger {scope : Scope} {ledger : Ledger}
    (held : contents.ledger scope = some ledger) {id : String} (owner : scope.owner? = some id) :
    contents.Uses id := by
  cases scope with
  | catalog => cases owner
  | database catalog db =>
    cases owner
    rw [ledger_database, Option.map_eq_some_iff] at held
    obtain ⟨node, found, -⟩ := held
    obtain ⟨index, there, row⟩ := Option.bind_eq_some_iff.1 found
    exact ⟨catalog, index, there, .inl ⟨node, row⟩⟩
  | table catalog db table =>
    cases owner
    rw [ledger_table, Option.map_eq_some_iff] at held
    obtain ⟨node, found, -⟩ := held
    obtain ⟨inside, owned, row⟩ := Option.bind_eq_some_iff.1 found
    obtain ⟨index, there, stood⟩ := Option.bind_eq_some_iff.1 owned
    exact ⟨catalog, index, there, .inr ⟨_, inside, stood, node, row⟩⟩

theorem Holds.place? (holds : Holds store contents) (sound : contents.Sound)
    (short : operation.Short) (step : Contents.Step options contents operation outcome after) :
    operation.place? store = contents.place? operation := by
  cases step with
  | same quiet | dropPartitions quiet =>
    rw [Contents.place?_quiet quiet]
    cases operation with
    | createDatabase | createTable | addPartition => cases quiet
    | _ => rfl
  | @createTable catalog db fresh found record result here =>
    obtain ⟨there, resolved, -⟩ := Contents.database_eq_ok.1 here
    simp only [Operation.place?, resolve_eq (holds.catalog there) (Level.catalog_short short.1),
      resolved, Contents.place?, here, Except.toOption]
    rfl
  | @addPartition catalog db table fresh found shelf record result here =>
    obtain ⟨inside, found', -⟩ := Contents.table_eq_ok.1 here
    obtain ⟨there, resolved, stood⟩ := Contents.database_eq_ok.1 inside
    obtain ⟨-, index, -, -⟩ := sound.database inside
    have level := Level.database_short short.1 (index.name_of_node stood).1
    simp only [Operation.place?,
      resolve_eq (holds.catalog there) (Level.catalog_short short.1), resolved,
      Contents.place?, here, Except.toOption, Option.bind_eq_bind,
      Option.bind_some, resolve_eq (holds.database there stood) level, found']
    rfl
  | _ => rfl

/-- An operation issues the same, seen from the store or from its contents. -/
theorem Reached.issue? (reached : Reached store contents drawn)
    (short : operation.Short) (fresh : ∀ id, operation.fresh? = some id → id ∉ drawn) :
    operation.issue? options store =
      issued? (contents.place? operation) (contents.run options operation).1 := by
  rw [Operation.issue?, (reached.answer short fresh).1]
  cases ran : contents.run options operation with
  | mk result after =>
    cases result with
    | error fault => cases operation.place? store <;> cases contents.place? operation <;> rfl
    | ok outcome => rw [reached.holds.place? reached.sound short (Contents.step_of_run ran)]

/-- An operation counts on in the ledgers of the contents. -/
theorem Reached.numbering (reached : Reached store contents drawn)
    (short : operation.Short) (fresh : ∀ id, operation.fresh? = some id → id ∉ drawn) :
    Contents.Numbering contents (contents.run options operation).2 operation.fresh?
      (operation.issue? options store) := by
  rw [reached.issue? short fresh]
  cases ran : contents.run options operation with
  | mk result after =>
    cases result with
    | ok outcome => exact (Contents.step_of_run ran).numbering
    | error fault =>
      have none : issued? (contents.place? operation) (.error fault) = none := by
        cases contents.place? operation <;> rfl
      rw [none, Contents.run_error ran]
      exact .refl contents

end Contents

theorem numbersIn_append (scope : Scope) (log more : List Issue) :
    numbersIn scope (log ++ more) = numbersIn scope log ++ numbersIn scope more := by
  simp only [numbersIn, List.filter_append, List.map_append]

theorem numbersIn_concat (scope : Scope) (log : List Issue) (issue : Issue) :
    numbersIn scope (log ++ [issue]) =
      if issue.scope = scope then numbersIn scope log ++ [issue.number.toNat]
      else numbersIn scope log := by
  rw [numbersIn_append]
  by_cases same : issue.scope = scope <;> simp [numbersIn, same]

theorem length_numbersIn_le (scope : Scope) (log : List Issue) :
    (numbersIn scope log).length ≤ log.length := by
  rw [numbersIn, List.length_map]
  exact List.length_filter_le _ log

private theorem toNat_succ {count : UInt64} (room : count.toNat + 1 < UInt64.size) :
    (count + 1).toNat = count.toNat + 1 := by
  rw [UInt64.toNat_add]
  exact Nat.mod_eq_of_lt room

/-- What was issued on the way to the contents. The count of
a scope is the length of its history. -/
structure Recorded (contents : Contents) (drawn : List String) (log : List Issue) : Prop where
  numbers : ∀ scope, numbersIn scope log = List.range' 1 (numbersIn scope log).length
  counts : ∀ scope ledger, contents.ledger scope = some ledger →
    ledger.count.toNat = (numbersIn scope log).length
  given : ∀ scope ledger key number, contents.ledger scope = some ledger →
    ledger.number? key = some number → ⟨scope, key, number⟩ ∈ log
  owners : ∀ issue ∈ log, ∀ id, issue.scope.owner? = some id → id ∈ drawn
  few : log.length ≤ drawn.length

namespace Recorded

variable {contents after : Contents} {drawn : List String} {log : List Issue}
  {fresh : Option String} {issue : Option Issue} {scope : Scope}

theorem empty : Recorded ∅ [] [] where
  numbers _ := rfl
  counts scope ledger held := by
    cases scope with
    | catalog =>
      cases held
      rfl
    | _ => cases held
  given scope ledger key number held kept := by
    cases scope with
    | catalog =>
      cases held
      cases kept
    | _ => cases held
  owners _ impossible := by cases impossible
  few := Nat.le_refl 0

/-- The number that a scope gives next, if there is room for it. -/
private theorem count_succ (recorded : Recorded contents drawn log) {ledger : Ledger}
    (stood : contents.ledger scope = some ledger) (room : drawn.length + 1 < UInt64.size) :
    (ledger.count + 1).toNat = (numbersIn scope log).length + 1 := by
  have total := recorded.counts scope ledger stood
  have fewer := length_numbersIn_le scope log
  have few := recorded.few
  rw [← total]
  exact toNat_succ (by omega)

/-- A scope under an identifier that was not drawn has no history. -/
theorem numbersIn_undrawn (recorded : Recorded contents drawn log)
    {id : String} (owner : scope.owner? = some id) (unused : id ∉ drawn) :
    numbersIn scope log = [] := by
  have none : log.filter (·.scope = scope) = [] :=
    List.filter_eq_nil_iff.2 fun issue held same => by
    have equal : issue.scope = scope := by simpa using same
    exact unused (recorded.owners issue held id (equal ▸ owner))
  rw [numbersIn, none]
  rfl

private theorem goesOn (recorded : Recorded contents drawn log)
    (unused : ∀ id, fresh = some id → id ∉ drawn) {later : Ledger}
    (goes : Contents.GoesOn fresh scope (contents.ledger scope) later) :
    later.count.toNat = (numbersIn scope log).length ∧
    ∀ key number, later.number? key = some number → ⟨scope, key, number⟩ ∈ log := by
  cases goes with
  | kept held keeps =>
    refine ⟨?_, fun key number kept =>
      recorded.given scope _ key number held (keeps.numbers key number kept)⟩
    rw [keeps.count]
    exact recorded.counts scope _ held
  | opened owner drawn blank =>
    rw [recorded.numbersIn_undrawn owner (unused _ drawn), blank]
    exact ⟨rfl, fun _ _ impossible => nomatch impossible⟩

/-- Without an issue no scope goes on but one that begins. -/
private theorem quiet (recorded : Recorded contents drawn log)
    (unused : ∀ id, fresh = some id → id ∉ drawn)
    (numbering : Contents.Numbering contents after fresh none) :
    Recorded after (drawn ++ fresh.toList) log := by
  have apart (scope : Scope) (given : Issue) (impossible : none = some given) :
      given.scope ≠ scope := nomatch impossible
  refine { numbers := recorded.numbers, counts := ?_, given := ?_, owners := ?_, few := ?_ }
  · intro scope ledger held
    exact (recorded.goesOn unused (numbering.others scope ledger held (apart scope))).1
  · intro scope ledger key number held
    exact (recorded.goesOn unused (numbering.others scope ledger held (apart scope))).2 key number
  · intro issue held id owner
    exact List.mem_append_left _ (recorded.owners issue held id owner)
  · have few := recorded.few
    rw [List.length_append]
    omega

private theorem issued (recorded : Recorded contents drawn log)
    (owned : ∀ id, contents.Uses id → id ∈ drawn) {id : String} (unused : id ∉ drawn)
    {given : Issue} (numbering : Contents.Numbering contents after (some id) (some given))
    (room : drawn.length + 1 < UInt64.size) :
    Recorded after (drawn ++ [id]) (log ++ [given]) := by
  obtain ⟨earlier, stood, counted, grown⟩ := numbering.given given rfl
  have next := recorded.count_succ stood room
  have elsewhere {scope : Scope} (different : ¬ given.scope = scope) {ledger : Ledger}
    (held : after.ledger scope = some ledger) :
      ledger.count.toNat = (numbersIn scope log).length ∧
      ∀ key number, ledger.number? key = some number → ⟨scope, key, number⟩ ∈ log := by
    apply recorded.goesOn (fun other same => Option.some.inj same ▸ unused)
      (numbering.others scope ledger held _)
    intro one same
    cases same
    exact different
  refine { numbers := ?_, counts := ?_, given := ?_, owners := ?_, few := ?_ }
  · intro scope
    rw [numbersIn_concat]
    split
    next same =>
      subst same
      rw [List.length_append, List.length_singleton, List.range'_1_concat,
        ← recorded.numbers, counted, next, Nat.add_comm]
    next => exact recorded.numbers scope
  · intro scope ledger held
    rw [numbersIn_concat]
    split
    next same =>
      subst same
      rw [grown] at held
      cases held
      rw [List.length_append, List.length_singleton]
      exact next
    next different => exact (elsewhere different held).1
  · intro scope ledger key number held kept
    by_cases same : given.scope = scope
    · subst same
      rw [grown] at held
      cases held
      simp only [Ledger.add] at kept
      split at kept
      next equal =>
        cases kept
        apply List.mem_append_right
        simp [equal, ← counted]
      next => exact List.mem_append_left _ (recorded.given _ _ key number stood kept)
    · exact List.mem_append_left _ ((elsewhere same held).2 key number kept)
  · intro issue held owner same
    apply List.mem_append_left
    rcases List.mem_append.1 held with held | held
    · exact recorded.owners issue held owner same
    · obtain rfl := List.mem_singleton.1 held
      exact owned owner (Contents.uses_of_ledger stood same)
  · rw [List.length_append, List.length_append]
    exact Nat.add_le_add_right recorded.few 1

theorem step (recorded : Recorded contents drawn log) (owned : ∀ id, contents.Uses id → id ∈ drawn)
    (unused : ∀ id, fresh = some id → id ∉ drawn)
    (numbering : Contents.Numbering contents after fresh issue)
    (drew : ∀ given, issue = some given → ∃ id, fresh = some id)
    (room : (drawn ++ fresh.toList).length < UInt64.size) :
    Recorded after (drawn ++ fresh.toList) (log ++ issue.toList) := by
  cases issue with
  | none =>
    rw [Option.toList_none, List.append_nil]
    exact recorded.quiet unused numbering
  | some given =>
    obtain ⟨id, rfl⟩ := drew given rfl
    rw [Option.toList_some, List.length_append] at room
    exact recorded.issued owned (unused id rfl) numbering room

end Recorded

private theorem issue?_fresh {options : StoreOptions} {store : Store}
    {operation : Operation} {issue : Issue} (issued : operation.issue? options store = some issue) :
    ∃ id, operation.fresh? = some id := by
  cases operation with
  | createDatabase | createTable | addPartition => exact ⟨_, rfl⟩
  | _ => cases issued

theorem Reached.recorded {store : Store} {contents : Contents}
    {drawn : List String} {log : List Issue} {options : StoreOptions}
    (reached : Reached store contents drawn) (recorded : Recorded contents drawn log)
    {operations : List Operation} (short : ∀ operation ∈ operations, operation.Short)
    (fresh : (drawn ++ operations.filterMap Operation.fresh?).Nodup)
    (room : (drawn ++ operations.filterMap Operation.fresh?).length < UInt64.size) :
    Recorded (contents.runAll options operations) (drawn ++ operations.filterMap Operation.fresh?)
      (log ++ issues options store operations) := by
  induction operations generalizing store contents drawn log with
  | nil => simpa [issues, Contents.runAll] using recorded
  | cons operation rest ih =>
    rw [drawn_cons] at fresh room ⊢
    have unused := unused_of_nodup fresh
    have first := short operation List.mem_cons_self
    have now : (drawn ++ operation.fresh?.toList).length < UInt64.size := by
      rw [List.length_append] at room
      omega
    rw [issues, ← List.append_assoc]
    refine ih (reached.run first unused) ?_
      (fun other held => short other (List.mem_cons_of_mem _ held)) fresh room
    exact recorded.step reached.drawn unused (reached.numbering first unused)
      (fun _ issued => issue?_fresh issued) now

namespace Contents

variable {contents after : Contents} {operation : Operation}
  {options : StoreOptions} {outcome : Outcome}

private theorem Step.issued (step : Step options contents operation outcome after)
    {fresh : String} (drew : operation.fresh? = some fresh) :
    ∃ issue, issued? (contents.place? operation) (.ok outcome) = some issue ∧
    outcome.sequence? = some issue.number := by
  cases step with
  | same quiet | dropPartitions quiet =>
    rw [quiet] at drew
    cases drew
  | createDatabase => exact ⟨_, rfl, rfl⟩
  | createTable here | addPartition here =>
    simp only [place?, here, Except.toOption, Option.map_some]
    exact ⟨_, rfl, rfl⟩
  | _ => cases drew

private theorem of_toOption {α : Type} {result : Except Fault α}
    {value : α} (found : result.toOption = some value) : result = .ok value := by
  cases result with
  | error fault => cases found
  | ok kept => exact congrArg Except.ok (Option.some.inj found)

private theorem place?_short (sound : contents.Sound) (short : operation.Short)
    {place : Scope × Bytes} (placed : contents.place? operation = some place) :
    place.1.Short := by
  cases operation with
  | createDatabase =>
    cases placed
    exact short.1
  | createTable catalog db record fresh =>
    obtain ⟨found, here, rfl⟩ := Option.map_eq_some_iff.1 placed
    obtain ⟨-, index, stood, -⟩ := sound.database (of_toOption here)
    exact ⟨short.1, (index.name_of_node stood).1⟩
  | addPartition catalog db table record fresh =>
    obtain ⟨found, here, rfl⟩ := Option.map_eq_some_iff.1 placed
    obtain ⟨inside, held, -⟩ := sound.table (of_toOption here)
    obtain ⟨-, index, stood, node⟩ := sound.database inside
    exact ⟨short.1, (index.name_of_node stood).1, (node.tables.name_of_node held).1⟩
  | _ => cases placed

private theorem issued?_short (sound : contents.Sound)
    (short : operation.Short) {result : Except Fault Outcome} {issue : Issue}
    (issued : issued? (contents.place? operation) result = some issue) : issue.scope.Short := by
  cases placed : contents.place? operation with
  | none =>
    rw [placed] at issued
    cases issued
  | some place =>
    rw [placed] at issued
    cases result with
    | error fault => cases issued
    | ok outcome =>
      obtain ⟨number, -, rfl⟩ := Option.map_eq_some_iff.1 issued
      exact place?_short sound short placed

end Contents

/-- A create or add that succeeds gives back and stores the number after those of its scope. -/
theorem Reached.next {store : Store} {contents : Contents} {drawn : List String} {log : List Issue}
    {options : StoreOptions} {operation : Operation} {outcome : Outcome} {fresh : String}
    (reached : Reached store contents drawn) (recorded : Recorded contents drawn log)
    (short : operation.Short) (unused : ∀ id, operation.fresh? = some id → id ∉ drawn)
    (drew : operation.fresh? = some fresh) (room : drawn.length + 1 < UInt64.size)
    (succeeded : (operation.run options store).1 = .ok outcome) :
    ∃ issue, operation.issue? options store = some issue ∧ outcome.sequence? = some issue.number ∧
      issue.number.toNat = (numbersIn issue.scope log).length + 1 ∧
      issue.scope.number? (operation.run options store).2 issue.key = some issue.number := by
  have ran : contents.run options operation = (.ok outcome, (contents.run options operation).2) :=
    Prod.ext ((reached.answer short unused).1.symm.trans succeeded) rfl
  obtain ⟨issue, issued, returned⟩ := (Contents.step_of_run ran).issued drew
  have seen : operation.issue? options store = some issue := by
    rw [reached.issue? short unused, ran, issued]
  obtain ⟨ledger, stood, counted, grown⟩ := (reached.numbering short unused).given issue seen
  have later : Reached (operation.run options store).2 (contents.run options operation).2 _ :=
    reached.run short unused
  refine ⟨issue, seen, returned, ?_, ?_⟩
  · rw [counted]
    exact recorded.count_succ stood room
  · rw [later.holds.number? later.sound (Contents.issued?_short reached.sound short issued),
      grown, counted]
    simp [Ledger.add]

theorem Admissible.recorded {operations : List Operation} (admissible : Admissible operations)
    (few : (operations.filterMap Operation.fresh?).length < UInt64.size) (options : StoreOptions) :
    Recorded (Contents.runAll options ∅ operations) (operations.filterMap Operation.fresh?)
      (issues options ∅ operations) :=
  Reached.empty.recorded .empty admissible.short (by simpa using admissible.fresh)
    (by simpa using few)

theorem Admissible.issued {operations : List Operation} (admissible : Admissible operations)
    (few : (operations.filterMap Operation.fresh?).length < UInt64.size)
    {options : StoreOptions} {scope : Scope} (short : scope.Short)
    {key : Bytes} {number : UInt64}
    (held : scope.number? (Operation.runAll options ∅ operations) key = some number) :
    ⟨scope, key, number⟩ ∈ issues options ∅ operations := by
  have reached := admissible.reached options
  rw [reached.holds.number? reached.sound short] at held
  obtain ⟨ledger, stood, kept⟩ := Option.bind_eq_some_iff.1 held
  exact (admissible.recorded few options).given scope ledger key number stood kept

theorem numbers_without_gaps (options : StoreOptions)
    (operations : List Operation) (admissible : Admissible operations)
    (few : (operations.filterMap Operation.fresh?).length < UInt64.size) :
    Numbered options operations where
  next before operation after fresh outcome same drew succeeded := by
    subst same
    obtain ⟨begun, short, unused⟩ := admissible.before
    rw [List.filterMap_append, List.filterMap_cons, drew, List.length_append,
      List.length_cons] at few
    exact (begun.reached options).next (begun.recorded (by omega) options) short unused drew
      (by omega) succeeded
  inOrder scope := by
    rw [(admissible.recorded few options).numbers scope]
    exact List.pairwise_lt_range'
  given scope key number short held := admissible.issued few short held
  different scope key other number short held also := by
    have distinct : (numbersIn scope (issues options ∅ operations)).Nodup := by
      rw [(admissible.recorded few options).numbers scope]
      exact List.nodup_range'
    have inside (key : Bytes)
      (held : scope.number? (Operation.runAll options ∅ operations) key = some number) :
        ⟨scope, key, number⟩ ∈ (issues options ∅ operations).filter (·.scope = scope) :=
      List.mem_filter.2 ⟨admissible.issued few short held, decide_eq_true rfl⟩
    exact (Issue.mk.inj
      (List.inj_on_of_nodup_map distinct (inside key held) (inside other also) rfl)).2.1

/-- A table is dropped and made again, between creates that fail. -/
def renumbered : List Operation :=
  let sales : Ident := { name := "sales" }
  let orders : Ident := { name := "orders" }
  [.createDatabase "main" { ident := some sales, sequence := 7 } "D1",
    .createTable "main" sales { ident := some orders } "T1",
    .addPartition "main" { id := "D1" } orders { values := ["2024", "01"] } "P1",
    .createTable "main" sales { ident := some orders } "T2",
    .dropTable "main" sales { id := "T1" },
    .createTable "main" sales { ident := some orders, sequence := 9 } "T3",
    .addPartition "main" sales orders { values := ["2024", "01"] } "P2"]

theorem numbers_without_gaps_renumbered :
    Numbered {} renumbered ∧
    issues {} ∅ renumbered =
      [⟨.catalog "main", Bytes.ofText "D1", 1⟩, ⟨.database "main" "D1", Bytes.ofText "T1", 1⟩,
        ⟨.table "main" "D1" "T1", Bytes.ofText "2024/01", 1⟩,
        ⟨.database "main" "D1", Bytes.ofText "T3", 2⟩,
        ⟨.table "main" "D1" "T3", Bytes.ofText "2024/01", 1⟩] :=
  ⟨numbers_without_gaps {} renumbered (by decide +kernel) (by decide +kernel), by decide +kernel⟩

end TableCatalog

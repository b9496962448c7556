import TableCatalog.Proofs.ContentsSteps

/-! The numbers given to databases, tables and partitions. Each catalog counts its databases, each
database its tables, and each table its partitions; a step gives at most one number, the next one
where it is given, and takes no record's number away but with the record. -/

namespace TableCatalog

/-- Where numbers are given. Databases and tables count by
their identifiers, and not by names that may come again. -/
inductive Scope
  | catalog (catalog : String)
  | database (catalog db : String)
  | table (catalog db table : String)
deriving DecidableEq

def Scope.root : Scope → String
  | catalog name | database name _ | table name _ _ => name

/-- The identifier under which the scope came into being. -/
def Scope.owner? : Scope → Option String
  | catalog _ => none
  | database _ id | table _ _ id => some id

structure Issue where
  scope : Scope
  key : Bytes
  number : UInt64
deriving DecidableEq

def Outcome.sequence? : Outcome → Option UInt64
  | database record => some record.sequence
  | table record => some record.sequence
  | partition record => some record.sequence
  | _ => none

/-- What is issued by an operation that makes a record at a place, unless it fails. -/
def issued? : Option (Scope × Bytes) → Except Fault Outcome → Option Issue
  | some (scope, key), .ok outcome => outcome.sequence?.map fun number => ⟨scope, key, number⟩
  | _, _ => none

/-- The count of a scope, and the numbers that its records carry. -/
structure Ledger where
  count : UInt64
  number? : Bytes → Option UInt64

namespace Ledger

def empty : Ledger := ⟨0, fun _ => none⟩

def add (ledger : Ledger) (key : Bytes) : Ledger where
  count := ledger.count + 1
  number? other := if other = key then some (ledger.count + 1) else ledger.number? other

/-- Records may have gone, and nothing else changed. -/
structure Keeps (earlier later : Ledger) : Prop where
  count : later.count = earlier.count
  numbers : ∀ key number, later.number? key = some number → earlier.number? key = some number

theorem Keeps.refl (ledger : Ledger) : ledger.Keeps ledger := ⟨rfl, fun _ _ held => held⟩

end Ledger

namespace Index

variable {ε : Type} {index : Index ε} {name id : String} {node : ε}

def ledger (number : ε → UInt64) (index : Index ε) : Ledger :=
  ⟨index.count, fun key => (index.entries.find? key).map number⟩

variable {number : ε → UInt64}

theorem ledger_add (counted : number node = index.count + 1) :
    (index.add name id node).ledger number = (index.ledger number).add (Bytes.ofText id) := by
  refine congrArg (Ledger.mk (index.count + 1)) (funext fun key => ?_)
  simp only [add, SortedMap.find?_insert, ledger]
  split
  · exact congrArg some counted
  · rfl

theorem ledger_put {before : ε} (found : index.node? id = some before)
    (same : number node = number before) :
    (index.ledger number).Keeps ((index.put id node).ledger number) := by
  refine ⟨rfl, ?_⟩
  intro key given held
  simp only [ledger, put, SortedMap.find?_insert] at held ⊢
  split at held
  next equal =>
    have row : index.entries.find? (Bytes.ofText id) = some before := found
    rw [equal, row]
    exact (congrArg some same.symm).trans held
  next => exact held

theorem ledger_remove : (index.ledger number).Keeps ((index.remove name id).ledger number) := by
  refine ⟨rfl, ?_⟩
  intro key given held
  simp only [ledger, remove, SortedMap.find?_erase] at held ⊢
  split at held
  · cases held
  · exact held

end Index

namespace Shelf

def ledger (shelf : Shelf) : Ledger :=
  ⟨shelf.count, fun key => (shelf.rows.find? key).map (·.sequence)⟩

theorem ledger_insert {shelf : Shelf} {key : Bytes} {record : Partition}
    (counted : record.sequence = shelf.count + 1) :
    ledger ⟨shelf.count + 1, shelf.rows.insert key record⟩ = shelf.ledger.add key := by
  refine congrArg (Ledger.mk (shelf.count + 1)) (funext fun other => ?_)
  simp only [SortedMap.find?_insert, ledger]
  split
  · exact congrArg some counted
  · rfl

theorem ledger_removeWhere (shelf : Shelf) (drop : Bytes → Bool) :
    shelf.ledger.Keeps (ledger ⟨shelf.count, shelf.rows.removeWhere drop⟩) := by
  refine ⟨rfl, ?_⟩
  intro key given held
  simp only [ledger, SortedMap.find?_removeWhere] at held ⊢
  split at held
  · cases held
  · exact held

end Shelf

namespace Contents

def databaseNumber (node : DatabaseNode) : UInt64 := node.record.sequence

def tableNumber (node : TableNode) : UInt64 := node.record.sequence

def ledgerIn (index : Index DatabaseNode) : Scope → Option Ledger
  | .catalog _ => some (index.ledger databaseNumber)
  | .database _ db => (index.node? db).map (·.tables.ledger tableNumber)
  | .table _ db table =>
    ((index.node? db).bind (·.tables.node? table)).map fun node => (node.shelf.getD {}).ledger

/-- A catalog has a ledger before it is created, and counts from nothing. -/
def ledger (contents : Contents) (scope : Scope) : Option Ledger :=
  ledgerIn ((contents.find? scope.root).getD {}) scope

/-- The scope that an operation gives a number in, and the key of the record that gets it. -/
def place? (contents : Contents) : Operation → Option (Scope × Bytes)
  | .createDatabase catalog _ fresh => some (.catalog catalog, Bytes.ofText fresh)
  | .createTable catalog db _ fresh =>
    (contents.database catalog db).toOption.map fun found =>
      (.database catalog found.id, Bytes.ofText fresh)
  | .addPartition catalog db table record _ =>
    (contents.scope catalog db table).toOption.map fun found =>
      (.table catalog found.db.id found.id, Bytes.ofText (Request.joinValues record.values))
  | _ => none

theorem place?_quiet {contents : Contents} {operation : Operation}
    (quiet : operation.fresh? = none) : contents.place? operation = none := by
  cases operation with
  | createDatabase | createTable | addPartition => cases quiet
  | _ => rfl

/-- How the ledger of a scope goes on without an issue: as
it was, or from nothing under a fresh identifier. -/
inductive GoesOn (fresh : Option String) (scope : Scope) (earlier : Option Ledger)
    (later : Ledger) : Prop
  | kept {before : Ledger} (held : earlier = some before) (keeps : before.Keeps later)
  | opened {id : String} (owner : scope.owner? = some id) (drawn : fresh = some id)
      (blank : later = .empty)

/-- The scope of the issue, if there is one, goes on by its
next number, and all others go on without. -/
structure Numbering (contents after : Contents) (fresh : Option String)
    (issue : Option Issue) : Prop where
  given : ∀ given, issue = some given →
    ∃ ledger, contents.ledger given.scope = some ledger ∧ given.number = ledger.count + 1 ∧
    after.ledger given.scope = some (ledger.add given.key)
  others : ∀ scope later, after.ledger scope = some later →
    (∀ given, issue = some given → given.scope ≠ scope) →
    GoesOn fresh scope (contents.ledger scope) later

variable {contents after : Contents} {catalog : String} {db table : Ident}
  {fresh : Option String} {issue : Option Issue} {index before : Index DatabaseNode}

theorem ledger_insert (scope : Scope) :
    Contents.ledger (contents.insert catalog index) scope = if scope.root = catalog
      then ledgerIn index scope else contents.ledger scope := by
  rw [ledger, SortedMap.find?_insert]
  split <;> rfl

theorem ledger_database (contents : Contents) (catalog id : String) :
    contents.ledger (.database catalog id) =
      (contents.database? catalog id).map (·.tables.ledger tableNumber) := by
  rw [database?, ledger, Scope.root]
  cases contents.find? catalog <;> rfl

theorem ledger_table (contents : Contents) (catalog db id : String) :
    contents.ledger (.table catalog db id) = (contents.table? catalog db id).map fun node =>
      (node.shelf.getD {}).ledger := by
  rw [table?, database?, ledger, Scope.root]
  cases contents.find? catalog <;> rfl

theorem GoesOn.refl {scope : Scope} {earlier : Option Ledger}
    {later : Ledger} (held : earlier = some later) : GoesOn fresh scope earlier later :=
  .kept held (.refl later)

namespace Numbering

theorem refl (contents : Contents) : Numbering contents contents fresh none where
  given _ impossible := by cases impossible
  others _ _ held _ := .refl held

/-- A change inside one catalog is told scope by scope of that catalog. -/
theorem insert (opened : (contents.find? catalog).getD {} = before)
    (given : ∀ given, issue = some given →
      given.scope.root = catalog ∧ ∃ ledger, ledgerIn before given.scope = some ledger ∧
      given.number = ledger.count + 1 ∧ ledgerIn index given.scope = some (ledger.add given.key))
    (others : ∀ scope later, scope.root = catalog → ledgerIn index scope = some later →
      (∀ given, issue = some given → given.scope ≠ scope) →
      GoesOn fresh scope (ledgerIn before scope) later) :
    Numbering contents (contents.insert catalog index) fresh issue where
  given one same := by
    obtain ⟨inside, ledger, held, counted, kept⟩ := given one same
    refine ⟨ledger, ?_, counted, ?_⟩
    · rw [Contents.ledger, inside, opened, held]
    · rw [ledger_insert, if_pos inside, kept]
  others scope later held apart := by
    rw [ledger_insert] at held
    split at held
    next inside =>
      rw [Contents.ledger, inside, opened]
      exact others scope later inside held apart
    next => exact .refl held

theorem setDatabase {found : FoundDatabase} (here : contents.database catalog db = .ok found)
    {node : DatabaseNode} (same : databaseNumber node = databaseNumber found.node)
    (given : ∀ given, issue = some given →
      given.scope.root = catalog ∧ ∃ ledger, ledgerIn found.index given.scope = some ledger ∧
      given.number = ledger.count + 1 ∧ ledgerIn (found.index.put found.id node) given.scope = some
      (ledger.add given.key))
    (counted : (∀ given, issue = some given → given.scope ≠ .database catalog found.id) →
      (found.node.tables.ledger tableNumber).Keeps (node.tables.ledger tableNumber))
    (inside : ∀ id inner, node.tables.node? id = some inner →
      (∀ given, issue = some given → given.scope ≠ .table catalog found.id id) →
      GoesOn fresh (.table catalog found.id id)
      ((found.node.tables.node? id).map fun node => (node.shelf.getD {}).ledger)
      (inner.shelf.getD {}).ledger) :
    Numbering contents (contents.setDatabase catalog found node) fresh issue := by
  obtain ⟨there, -, held⟩ := database_eq_ok.1 here
  have opened : (contents.find? catalog).getD {} = found.index := by rw [there]; rfl
  refine .insert opened given fun scope later root row apart => ?_
  cases scope with
  | catalog =>
    cases row
    exact .kept rfl (Index.ledger_put held same)
  | database other id =>
    obtain rfl : other = catalog := root
    simp only [ledgerIn, Index.node?_put] at row ⊢
    split at row
    next equal =>
      subst equal
      cases row
      rw [held]
      exact .kept rfl (counted apart)
    next => exact .refl row
  | table other owner id =>
    obtain rfl : other = catalog := root
    simp only [ledgerIn, Index.node?_put] at row ⊢
    split at row
    next equal =>
      subst equal
      obtain ⟨inner, stood, rfl⟩ := Option.map_eq_some_iff.1 row
      rw [held]
      exact inside id inner stood apart
    next => exact .refl row

theorem createDatabase {name id : String} {record : Database}
    (opened : (contents.find? catalog).getD {} = before)
    (counted : record.sequence = before.count + 1) :
    Numbering contents (contents.insert catalog (before.add name id { record })) (some id)
      (some ⟨.catalog catalog, Bytes.ofText id, record.sequence⟩) := by
  refine .insert opened (fun given same => ?_) fun scope later root row apart => ?_
  · cases same
    exact ⟨rfl, _, rfl, counted, congrArg some (Index.ledger_add counted)⟩
  · cases scope with
    | catalog other =>
      obtain rfl : other = catalog := root
      exact absurd rfl (apart _ rfl)
    | database other owner =>
      simp only [ledgerIn, Index.node?_add] at row ⊢
      split at row
      next equal =>
        cases row
        exact .opened (congrArg some equal) rfl rfl
      next => exact .refl row
    | table other owner inner =>
      simp only [ledgerIn, Index.node?_add] at row ⊢
      split at row
      next => cases row
      next => exact .refl row

theorem dropDatabase {name id : String} (there : contents.find? catalog = some before) :
    Numbering contents (contents.insert catalog (before.remove name id)) fresh none := by
  have opened : (contents.find? catalog).getD {} = before := by rw [there]; rfl
  refine .insert opened (fun _ impossible => by cases impossible) fun scope later root row apart =>
    ?_
  cases scope with
  | catalog =>
    cases row
    exact .kept rfl Index.ledger_remove
  | database other owner =>
    simp only [ledgerIn, Index.node?_remove] at row ⊢
    split at row
    · cases row
    · exact .refl row
  | table other owner inner =>
    simp only [ledgerIn, Index.node?_remove] at row ⊢
    split at row
    · cases row
    · exact .refl row

theorem createTable {found : FoundDatabase} (here : contents.database catalog db = .ok found)
    {name id : String} {record : Table} (counted : record.sequence = found.node.tables.count + 1) :
    Numbering contents (contents.setTables catalog found (found.node.tables.add name id { record }))
      (some id) (some ⟨.database catalog found.id, Bytes.ofText id, record.sequence⟩) := by
  obtain ⟨-, -, held⟩ := database_eq_ok.1 here
  refine .setDatabase here rfl (fun given same => ?_) (fun apart =>
    absurd rfl (apart _ rfl)) fun table inner row apart => ?_
  · cases same
    refine ⟨rfl, found.node.tables.ledger tableNumber, by
        simp only [ledgerIn, held, Option.map_some], counted, ?_⟩
    simp only [ledgerIn, Index.node?_put, if_true, Option.map_some]
    exact congrArg some (Index.ledger_add counted)
  · rw [Index.node?_add] at row
    split at row
    next equal =>
      cases row
      exact .opened (congrArg some equal) rfl rfl
    next => exact .refl (by rw [row]; rfl)

theorem dropTable {found : FoundDatabase} (here : contents.database catalog db = .ok found)
    {name id : String} :
    Numbering contents
      (contents.setTables catalog found (found.node.tables.remove name id)) fresh none := by
  refine .setDatabase here rfl (fun _ impossible => by cases impossible) (fun _ =>
    Index.ledger_remove) fun table inner row apart => ?_
  rw [Index.node?_remove] at row
  split at row
  · cases row
  · exact .refl (by rw [row]; rfl)

theorem setShelf {found : FoundTable} {missing : Fault}
    (here : contents.table catalog db table missing = .ok found) {shelf : Shelf}
    (given : ∀ given, issue = some given → given.scope = .table catalog found.db.id found.id ∧
      given.number = (found.node.shelf.getD {}).count + 1 ∧ shelf.ledger =
      (found.node.shelf.getD {}).ledger.add given.key)
    (kept : issue = none → (found.node.shelf.getD {}).ledger.Keeps shelf.ledger) :
    Numbering contents (contents.setShelf catalog found shelf) fresh issue := by
  obtain ⟨here, -, stood⟩ := table_eq_ok.1 here
  obtain ⟨-, -, held⟩ := database_eq_ok.1 here
  refine .setDatabase here rfl (fun one issued => ?_) (fun _ =>
    Index.ledger_put stood rfl) fun id inner row apart => ?_
  · obtain ⟨same, counted, grown⟩ := given one issued
    rw [same]
    refine ⟨rfl, (found.node.shelf.getD {}).ledger, ?_, counted, ?_⟩
    · simp only [ledgerIn, held, stood, Option.bind_some, Option.map_some]
    · simp only [ledgerIn, Index.node?_put, if_true, Option.bind_some, Option.map_some]
      exact congrArg some grown
  · rw [Index.node?_put] at row
    split at row
    next equal =>
      subst equal
      cases row
      rw [stood]
      cases issue with
      | none => exact .kept rfl (kept rfl)
      | some one => exact absurd (given one rfl).1 (apart one rfl)
    next => exact .refl (by rw [row]; rfl)

end Numbering

/-- A step gives the next number where it makes a record, and none elsewhere. -/
theorem Step.numbering {options : StoreOptions} {operation : Operation}
    {outcome : Outcome} (step : Step options contents operation outcome after) :
    Numbering contents after operation.fresh?
      (issued? (contents.place? operation) (.ok outcome)) := by
  cases step with
  | same quiet =>
    rw [place?_quiet quiet]
    exact .refl contents
  | createDatabase opened free named => exact .createDatabase opened (named ▸ rfl)
  | alterDatabase here =>
    exact .setDatabase here rfl (fun _ impossible => by cases impossible) (fun _ =>
      .refl _) fun id inner row apart => .refl (by rw [row]; rfl)
  | dropDatabase here => exact .dropDatabase (database_eq_ok.1 here).1
  | createTable here free named =>
    simp only [place?, here, Except.toOption, Option.map_some]
    exact .createTable here (named ▸ rfl)
  | dropTable here => exact .dropTable (table_eq_ok.1 here).1
  | addPartition here opened free kept =>
    simp only [place?, here, Except.toOption, Option.map_some]
    subst opened
    refine .setShelf here (fun given same => ?_) fun impossible => by cases impossible
    cases same
    exact ⟨rfl, kept ▸ rfl, Shelf.ledger_insert (kept ▸ rfl)⟩
  | dropPartitions quiet here opened =>
    rw [place?_quiet quiet]
    refine .setShelf here (fun _ impossible => by cases impossible) fun _ => ?_
    rw [opened]
    exact Shelf.ledger_removeWhere _ _

end Contents
end TableCatalog

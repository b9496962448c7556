import Mathlib.Algebra.Group.Nat.Defs
import Mathlib.Control.Monad.Basic
import TableCatalog.Proofs.RegionFrame
import TableCatalog.Proofs.RemoteCalls

/-! What a unary call answers, in whatever store it is made. A request that lacks something fails
the call; all else comes back in a reply, whose status tells how the operation went and which brings
what the operation gave. Only a call that is answered well has changed anything. -/

namespace TableCatalog

open Region

/-- The operation that a call stands for. Identities left out are empty ones. -/
inductive Call.Asks (fresh : String) : Call → Operation → Prop
  | createDatabase (catalog : String) (record : Database) :
      Asks fresh (.createDatabase catalog (some record)) (.createDatabase catalog record fresh)
  | getDatabase (catalog : String) (db : Option Ident) :
      Asks fresh (.getDatabase catalog db) (.getDatabase catalog (db.getD {}))
  | alterDatabase (catalog : String) (db : Option Ident) (changes : Database) :
      Asks fresh (.alterDatabase catalog db (some changes))
        (.alterDatabase catalog (db.getD {}) changes)
  | dropDatabase (catalog : String) (db : Option Ident) :
      Asks fresh (.dropDatabase catalog db) (.dropDatabase catalog (db.getD {}))
  | createTable (catalog : String) (db : Option Ident) (record : Table) :
      Asks fresh (.createTable catalog db (some record))
        (.createTable catalog (db.getD {}) record fresh)
  | getTable (catalog : String) (db table : Option Ident) :
      Asks fresh (.getTable catalog db table) (.getTable catalog (db.getD {}) (table.getD {}))
  | dropTable (catalog : String) (db table : Option Ident) :
      Asks fresh (.dropTable catalog db table) (.dropTable catalog (db.getD {}) (table.getD {}))
  | addPartition (catalog : String) (db table : Option Ident)
      (record : Partition) (sequence : UInt64) :
      Asks fresh (.addPartition ⟨catalog, db, table, some record, sequence⟩)
        (.addPartition catalog (db.getD {}) (table.getD {}) record fresh)
  | getPartition (catalog : String) (db table : Option Ident) (values shown : List String) :
      Asks fresh (.getPartition catalog db table values shown)
        (.getPartition catalog (db.getD {}) (table.getD {}) values shown)
  | dropPartition (catalog : String) (db table : Option Ident) (values : List String) :
      Asks fresh (.dropPartition ⟨catalog, db, table, values⟩)
        (.dropPartition catalog (db.getD {}) (table.getD {}) values)
  | dropPartitions (catalog : String) (db table : Option Ident) (tuples : List (List String)) :
      Asks fresh (.dropPartitions catalog db table tuples)
        (.dropPartitions catalog (db.getD {}) (table.getD {}) tuples)

/-- The record that a call must carry and does not. -/
inductive Call.Lacks : Call → String → Prop
  | createDatabase (catalog : String) : Lacks (.createDatabase catalog none) "database"
  | alterDatabase (catalog : String) (db : Option Ident) :
      Lacks (.alterDatabase catalog db none) "database"
  | createTable (catalog : String) (db : Option Ident) :
      Lacks (.createTable catalog db none) "table"
  | addPartition (catalog : String) (db table : Option Ident) (sequence : UInt64) :
      Lacks (.addPartition ⟨catalog, db, table, none, sequence⟩) "partition"

/-- The part of a reply that tells how the call went. -/
def Reply.envelope : Reply → RequestStatus
  | status envelope | database envelope _ | table envelope _
  | partition envelope _ | added envelope _ _ => envelope

/-- The call was answered, and well. -/
def Succeeded (answer : Except Status Reply) : Prop :=
  ∃ reply, answer = .ok reply ∧ reply.envelope.isOk

instance (answer : Except Status Reply) : Decidable (Succeeded answer) :=
  match answer with
  | .ok reply => decidable_of_iff (reply.envelope.isOk = true) (by simp [Succeeded])
  | .error _ => isFalse (by simp [Succeeded])

/-- What a reply brings besides its envelope: the record that the operation gave, if it gave one, or
the number of the partition that it added. No partition has the number zero. -/
def Reply.Brings (reply : Reply) (result : Except Fault Outcome) : Call → Prop
  | .createDatabase .. | .getDatabase .. | .alterDatabase .. =>
    ∃ record, reply = .database reply.envelope record ∧ record.map .database = result.toOption
  | .createTable .. | .getTable .. =>
    ∃ record, reply = .table reply.envelope record ∧ record.map .table = result.toOption
  | .getPartition .. =>
    ∃ record, reply = .partition reply.envelope record ∧ record.map .partition = result.toOption
  | .addPartition request => ∃ assigned, reply = .added reply.envelope request.sequence assigned ∧
      (assigned ≠ 0 ↔ reply.envelope.isOk) ∧ ∀ outcome, result = .ok outcome → ∃ record,
      outcome = .partition record ∧ assigned = record.sequence
  | .dropDatabase .. | .dropTable .. | .dropPartition .. | .dropPartitions .. =>
    reply = .status reply.envelope

/-- What holds of the answer to a call and of the store after it. -/
structure Call.Contract (call : Call) (options : StoreOptions)
    (fresh : String) (store after : Store) (answer : Except Status Reply) : Prop where
  fails : ∀ status, answer = .error status ↔
    (∃ what, call.Lacks what ∧ status = ⟨.invalidArgument, "missing " ++ what⟩) ∨
    ∃ operation detail, call.Asks fresh operation ∧ (operation.run options store).1 =
      .error ⟨.invalidArgument, detail⟩ ∧ status = ⟨.invalidArgument, detail⟩
  replies : ∀ reply, answer = .ok reply →
    ∃ operation, call.Asks fresh operation ∧ reply.Brings (operation.run options store).1 call ∧
    (reply.envelope.isOk ↔ ∃ outcome, (operation.run options store).1 = .ok outcome) ∧
    (∀ outcome, (operation.run options store).1 = .ok outcome → reply.envelope = .ok) ∧
    ∀ fault, (operation.run options store).1 = .error fault →
      reply.envelope.error = fault.text ∧
      ∀ kind : Fault.Kind, reply.envelope.code = kind.wireCode ↔ kind = fault.kind
  unchanged : ¬ Succeeded answer → after = store
  changed : Succeeded answer →
    ∃ operation, call.Asks fresh operation ∧ after = (operation.run options store).2

/-- No counter is at its end. -/
def Countable (store : Store) : Prop :=
  ∀ key count, store.regions.find? key = some count → count.toNat < 2 ^ 64 - 1

instance (store : Store) : Decidable (Countable store) :=
  decidable_of_iff (∀ row ∈ store.regions.toList, row.2.toNat < 2 ^ 64 - 1)
    ⟨fun all key count held => all (key, count) (SortedMap.find?_eq_some_iff.1 held),
      fun all row held => all row.1 row.2 (SortedMap.find?_eq_some_iff.2 held)⟩

theorem Fault.Kind.wireCode_inj {kind other : Fault.Kind} :
    kind.wireCode = other.wireCode ↔ kind = other := by
  cases kind <;> cases other <;> decide

section Updates

variable {α β : Type} {store after : Store} {result : β}

theorem Region.Update.bind_eq_ok {work : Update α} {next : α → Update β} :
    (work >>= next) store = .ok (result, after) ↔
    ∃ value middle, work store = .ok (value, middle) ∧ next value middle = .ok (result, after) := by
  simp only [bind, StateT.bind, Except.bind]
  cases work store with
  | error fault => exact iff_of_false nofun nofun
  | ok done =>
    constructor
    · exact fun finished => ⟨done.1, done.2, rfl, finished⟩
    · intro ⟨value, middle, same, finished⟩
      cases same
      exact finished

theorem Region.Update.check_eq_ok {check : Except Fault β} :
    (liftM check : Update β) store = .ok (result, after) ↔ check = .ok result ∧ after = store := by
  cases check with
  | error fault => exact iff_of_false nofun nofun
  | ok value =>
    constructor
    · intro done
      cases done
      exact ⟨rfl, rfl⟩
    · intro ⟨passed, same⟩
      cases passed
      cases same
      rfl

theorem Region.Update.read_eq_ok {lookup : Store → Except Fault β} :
    Update.read lookup store = .ok (result, after) ↔ lookup store = .ok result ∧ after = store := by
  have seen : Update.read lookup store = (liftM (lookup store) : Update β) store := rfl
  rw [seen, check_eq_ok]

theorem Region.Update.free_eq_ok {present : Store → Bool} {fault : Fault} {work : Update β} :
    (do
      if present (← get) then throw fault
      work : Update β) store = .ok (result, after) ↔
        present store = false ∧ work store = .ok (result, after) := by
  have seen :
      (do
        if present (← get) then throw fault
        work : Update β) store = if present store then .error fault else work store := by
    simp only [bind, StateT.bind, get, getThe, MonadStateOf.get,
      StateT.get, pure, Except.pure, Except.bind]
    cases present store <;> rfl
  rw [seen]
  cases present store with
  | true => exact iff_of_false nofun nofun
  | false => exact ⟨fun done => ⟨rfl, done⟩, And.right⟩

end Updates

namespace Operation

variable {options : StoreOptions} {store : Store} {operation : Operation} {fault : Fault}

private theorem change_fault {α : Type} {wrap : α → Outcome}
    {work : Update α} (failed : (change store wrap work).1 = .error fault) :
    (change store wrap work).2 = store := by
  simp only [change, Store.update] at failed ⊢
  cases worked : work store with
  | error fault => rfl
  | ok done =>
    rw [worked] at failed
    cases failed

/-- What an operation that fails has done is undone, wherever it failed. -/
theorem run_fault (failed : (operation.run options store).1 = .error fault) :
    (operation.run options store).2 = store := by
  cases operation with
  | getDatabase | listDatabases | getTable | listTables | getPartition | listPartitions => rfl
  | _ => exact change_fault failed

end Operation

theorem Countable.createRegion {store : Store} (counted : Countable store) (path : Path) :
    Countable (store.createRegion path) := by
  rw [Store.createRegion_eq]
  split
  next => exact counted
  next =>
    intro key count held
    rw [Store.setCounter, SortedMap.find?_insert] at held
    split at held
    · cases held
      decide
    · exact counted key count held

theorem Countable.nextSequence {store after : Store} {number : UInt64} (counted : Countable store)
    {path : Path} (numbered : store.nextSequence path = .ok (number, after)) :
    number ≠ 0 := by
  rw [Store.nextSequence_eq] at numbered
  cases held : store.counter? path with
  | none =>
    rw [held] at numbered
    cases numbered
  | some count =>
    rw [held] at numbered
    cases numbered
    have below := counted _ _ held
    intro zero
    have wrapped := congrArg UInt64.toNat zero
    rw [UInt64.toNat_add, UInt64.toNat_one, UInt64.toNat_zero] at wrapped
    omega

/-- A partition is added under the number after the last one, which is none that overflows. -/
theorem addPartition_number {store after : Store} {fill : Bool} {catalog fresh : String}
    {db table : Ident} {record result : Partition} (counted : Countable store)
    (added : addPartition fill catalog db table record fresh store = .ok (result, after)) :
    result.sequence ≠ 0 := by
  unfold addPartition at added
  obtain ⟨_, _, checked, keyed⟩ := Update.bind_eq_ok.1 added
  obtain ⟨-, rfl⟩ := Update.check_eq_ok.1 checked
  obtain ⟨key, _, formed, looked⟩ := Update.bind_eq_ok.1 keyed
  obtain ⟨-, rfl⟩ := Update.check_eq_ok.1 formed
  obtain ⟨found, _, opened, begun⟩ := Update.bind_eq_ok.1 looked
  obtain ⟨-, rfl⟩ := Update.read_eq_ok.1 opened
  obtain ⟨_, created, makes, rest⟩ := Update.bind_eq_ok.1 begun
  obtain ⟨-, free⟩ := Update.free_eq_ok.1 rest
  obtain ⟨sequence, numbered, next, last⟩ := Update.bind_eq_ok.1 free
  obtain ⟨_, _, stored, done⟩ := Update.bind_eq_ok.1 last
  cases makes
  cases done
  exact (counted.createRegion found.partitions).nextSequence next

namespace Call

variable {options : StoreOptions} {fresh : String} {store : Store}
  {call : Call} {operation : Operation} {fault : Fault}

theorem asks_iff : call.Asks fresh operation ↔ call.operation fresh = .ok operation := by
  constructor
  · intro asks
    cases asks <;> rfl
  · intro asked
    cases call with
    | createDatabase catalog record =>
      cases record with
      | none => cases asked
      | some record => cases asked; exact .createDatabase catalog record
    | alterDatabase catalog db changes =>
      cases changes with
      | none => cases asked
      | some changes => cases asked; exact .alterDatabase catalog db changes
    | createTable catalog db record =>
      cases record with
      | none => cases asked
      | some record => cases asked; exact .createTable catalog db record
    | addPartition request =>
      obtain ⟨catalog, db, table, record, sequence⟩ := request
      cases record with
      | none => cases asked
      | some record => cases asked; exact .addPartition catalog db table record sequence
    | _ => cases asked; constructor

/-- A call that stands for no operation lacks its record. -/
theorem operation_error_iff :
    call.operation fresh = .error fault ↔ ∃ what, call.Lacks what ∧ fault = .missing what := by
  constructor
  · intro refused
    cases call with
    | createDatabase catalog record =>
      cases record with
      | none => cases refused; exact ⟨_, .createDatabase catalog, rfl⟩
      | some record => cases refused
    | alterDatabase catalog db changes =>
      cases changes with
      | none => cases refused; exact ⟨_, .alterDatabase catalog db, rfl⟩
      | some changes => cases refused
    | createTable catalog db record =>
      cases record with
      | none => cases refused; exact ⟨_, .createTable catalog db, rfl⟩
      | some record => cases refused
    | addPartition request =>
      obtain ⟨catalog, db, table, record, sequence⟩ := request
      cases record with
      | none => cases refused; exact ⟨_, .addPartition catalog db table sequence, rfl⟩
      | some record => cases refused
    | _ => cases refused
  · intro ⟨what, lacks, same⟩
    subst same
    cases lacks <;> rfl

theorem envelope_reply (call : Call) (status : RequestStatus) (outcome : Option Outcome) :
    (call.reply status outcome).envelope = status := by
  cases call <;> rfl

/-- What is picked out of an outcome is what was wrapped into it. -/
private theorem picked_wrapped {α : Type} (wrap : α → Outcome) {pick : Outcome → Option α}
    (picks : ∀ value, pick (wrap value) = some value) (result : Except Fault α) :
    ((result.map wrap).toOption.bind pick).map wrap = (result.map wrap).toOption := by
  cases result with
  | error fault => rfl
  | ok value => exact congrArg (Option.map wrap) (picks value)

/-- The number that is picked out of the outcome of adding a partition, or zero. -/
private theorem number_replied (counted : Countable store) {catalog : String}
    {db table : Ident} {record : Partition} :
    let result := ((Operation.addPartition catalog db table record fresh).run options store).1
    let assigned :=
      (result.toOption.bind fun | .partition added => some added.sequence | _ => none).getD 0
    (assigned ≠ 0 ↔ ∃ outcome, result = .ok outcome) ∧ ∀ outcome, result = .ok outcome → ∃ added,
      outcome = .partition added ∧ assigned = added.sequence := by
  simp only [Operation.run, Operation.change, Store.update]
  cases added : TableCatalog.addPartition options.fillLocation
    catalog db table record fresh store with
  | error fault =>
    constructor
    · refine iff_of_false (fun given => given rfl) ?_
      rintro ⟨outcome, same⟩
      cases same
    · intro outcome same
      cases same
  | ok done =>
    constructor
    · exact iff_of_true (addPartition_number counted added) ⟨_, rfl⟩
    · intro outcome same
      cases same
      exact ⟨done.1, rfl, rfl⟩

/-- The reply to a call brings what its operation gave. -/
theorem reply_brings (counted : Countable store)
    (asks : call.Asks fresh operation) {status : RequestStatus}
    (well : status.isOk ↔ ∃ outcome, (operation.run options store).1 = .ok outcome) :
    (call.reply status (operation.run options store).1.toOption).Brings
      (operation.run options store).1 call := by
  cases asks with
  | createDatabase catalog record =>
    exact ⟨_, rfl, picked_wrapped .database (fun _ => rfl)
        (store.update (TableCatalog.createDatabase catalog record fresh)).1⟩
  | getDatabase catalog db =>
    exact ⟨_, rfl, picked_wrapped .database (fun _ => rfl)
        (TableCatalog.getDatabase store catalog (db.getD {}))⟩
  | alterDatabase catalog db changes =>
    exact ⟨_, rfl, picked_wrapped .database (fun _ => rfl)
        (store.update (TableCatalog.alterDatabase catalog (db.getD {}) changes)).1⟩
  | createTable catalog db record =>
    exact ⟨_, rfl, picked_wrapped .table (fun _ => rfl)
        (store.update (TableCatalog.createTable catalog (db.getD {}) record fresh)).1⟩
  | getTable catalog db table =>
    exact ⟨_, rfl, picked_wrapped .table (fun _ => rfl)
        (TableCatalog.getTable store catalog (db.getD {}) (table.getD {}))⟩
  | getPartition catalog db table values shown =>
    exact ⟨_, rfl, picked_wrapped .partition (fun _ => rfl)
        (TableCatalog.getPartition store catalog (db.getD {}) (table.getD {}) values shown)⟩
  | addPartition catalog db table record sequence =>
    exact ⟨_, rfl, (number_replied counted).1.trans well.symm, (number_replied counted).2⟩
  | dropDatabase | dropTable | dropPartition | dropPartitions => rfl

theorem Asks.unique {other : Operation} (asks : call.Asks fresh operation)
    (asksOther : call.Asks fresh other) : other = operation :=
  Except.ok.inj ((asks_iff.1 asksOther).symm.trans (asks_iff.1 asks))

theorem Asks.not_lacks (asks : call.Asks fresh operation) (what : String) : ¬ call.Lacks what := by
  intro lacks
  cases (asks_iff.1 asks).symm.trans (operation_error_iff.2 ⟨what, lacks, rfl⟩)

theorem Lacks.unique {what other : String} (lacks : call.Lacks what)
    (lacksOther : call.Lacks other) : other = what := by
  cases lacks <;> cases lacksOther <;> rfl

theorem not_succeeded (status : Status) : ¬ Succeeded (.error status) := by
  intro ⟨reply, same, _⟩
  cases same

/-- A call without its record fails before anything is done. -/
private theorem contract_lacks {what : String} (lacks : call.Lacks what) :
    call.Contract options fresh store store (.error ⟨.invalidArgument, "missing " ++ what⟩) where
  fails status := by
    constructor
    · intro same
      cases same
      exact .inl ⟨what, lacks, rfl⟩
    · intro reason
      obtain ⟨other, lacksOther, rfl⟩ | ⟨operation, -, asks, -⟩ := reason
      · rw [lacks.unique lacksOther]
      · exact absurd lacks (asks.not_lacks what)
  replies _ same := by cases same
  unchanged _ := rfl
  changed succeeded := absurd succeeded (not_succeeded _)

/-- A call fails with its operation if that finds the request malformed. -/
private theorem contract_malformed (asks : call.Asks fresh operation) {detail : String}
    (failed : (operation.run options store).1 = .error ⟨.invalidArgument, detail⟩) :
    call.Contract options fresh store (operation.run options store).2
      (.error ⟨.invalidArgument, detail⟩) where
  fails status := by
    constructor
    · intro same
      cases same
      exact .inr ⟨operation, detail, asks, failed, rfl⟩
    · intro reason
      obtain ⟨what, lacks, -⟩ | ⟨other, otherDetail, asksOther, failedOther, same⟩ := reason
      · exact absurd lacks (asks.not_lacks what)
      · rw [asks.unique asksOther, failed] at failedOther
        cases failedOther
        rw [same]
  replies _ same := by cases same
  unchanged _ := Operation.run_fault failed
  changed succeeded := absurd succeeded (not_succeeded _)

/-- The status of a reply is good if it is told of a good result, and bad if of a fault. -/
private theorem isOk_iff {status : RequestStatus} {result : Except Fault Outcome}
    (fine : ∀ outcome, result = .ok outcome → status = .ok)
    (told : ∀ fault, result = .error fault → fault.kind ≠ .invalidArgument ∧
      status = .failed fault) : status.isOk ↔ ∃ outcome, result = .ok outcome := by
  cases result with
  | ok outcome =>
    rw [fine outcome rfl]
    exact iff_of_true rfl ⟨outcome, rfl⟩
  | error fault =>
    rw [(told fault rfl).2]
    refine iff_of_false nofun ?_
    intro ⟨outcome, same⟩
    cases same

/-- Every other call is replied to. -/
private theorem contract_replied (counted : Countable store)
    (asks : call.Asks fresh operation) (status : RequestStatus)
    (fine : ∀ outcome, (operation.run options store).1 = .ok outcome → status = .ok)
    (told : ∀ fault, (operation.run options store).1 = .error fault →
      fault.kind ≠ .invalidArgument ∧ status = .failed fault) :
    call.Contract options fresh store (operation.run options store).2
      (.ok (call.reply status (operation.run options store).1.toOption)) := by
  have well := isOk_iff fine told
  constructor
  case fails =>
    intro other
    refine iff_of_false nofun ?_
    intro reason
    obtain ⟨what, lacks, -⟩ | ⟨operation, detail, asksOther, failed, -⟩ := reason
    · exact asks.not_lacks what lacks
    · rw [asks.unique asksOther] at failed
      exact (told _ failed).1 rfl
  case replies =>
    intro reply same
    cases same
    refine ⟨operation, asks, reply_brings counted asks well, ?_⟩
    rw [envelope_reply]
    refine ⟨well, fine, ?_⟩
    intro fault failed
    rw [(told fault failed).2]
    exact ⟨rfl, fun kind => Fault.Kind.wireCode_inj.trans eq_comm⟩
  case unchanged =>
    intro failed
    cases ran : (operation.run options store).1 with
    | error fault => exact Operation.run_fault ran
    | ok outcome =>
      refine absurd ⟨_, rfl, ?_⟩ failed
      rw [envelope_reply]
      exact well.2 ⟨outcome, ran⟩
  case changed => exact fun _ => ⟨operation, asks, rfl⟩

end Call

/-- The contract of a unary call, in whatever store it is
made: only the counters must not be at their end. -/
theorem unary_contract (options : StoreOptions) (fresh : String)
    (store : Store) (counted : Countable store) (call : Call) :
    call.Contract options fresh store (call.handle options fresh store).2
      (call.handle options fresh store).1 := by
  cases asked : call.operation fresh with
  | error fault =>
    obtain ⟨what, lacks, rfl⟩ := Call.operation_error_iff.1 asked
    rw [Call.handle_refused asked]
    exact Call.contract_lacks lacks
  | ok operation =>
    have asks := Call.asks_iff.2 asked
    rw [Call.handle_asked asked]
    cases ran : (operation.run options store).1 with
    | ok outcome =>
      have contract := Call.contract_replied counted asks .ok (fun _ _ => rfl) fun fault failed =>
        nomatch ran.symm.trans failed
      rwa [ran] at contract
    | error fault =>
      by_cases malformed : fault.kind = .invalidArgument
      · obtain ⟨kind, detail⟩ := fault
        cases malformed
        exact Call.contract_malformed asks ran
      · have contract := Call.contract_replied counted asks (.failed fault) (fun _ well =>
          nomatch ran.symm.trans well) fun other failed => by
          cases ran.symm.trans failed
          exact ⟨malformed, rfl⟩
        have told : call.told (.error fault) = .ok (call.reply (.failed fault) none) := by
          rw [Call.told, RequestStatus.ofFault, if_neg malformed]; rfl
        rw [told]
        rwa [ran] at contract

/-- A catalog that has lost the region of its records. -/
def damaged : Store :=
  (Operation.runAll {} ∅ [.createDatabase "main" { ident := some { name := "sales" } }
      "1"]).deleteRegion (Level.catalog "main").byId

/-- The first call makes the lost region anew before it finds the name taken, and its work is
undone. The one for another name goes through. -/
theorem unary_contract_damaged :
    let create (name : String) : Call := .createDatabase "main" (some { ident := some { name } })
    let add : Call := .addPartition { catalog := "main", db := some { name := "sales" },
                                      partition := some { values := ["2024"] }, sequence := 7 }
    Countable damaged ∧
    (∀ call ∈ [create "sales", create "hr", .createTable "main" none none,
      .getDatabase "main" (some { name := "sales" }), add],
      call.Contract {} "3" damaged (call.handle {} "3" damaged).2 (call.handle {} "3" damaged).1) ∧
    (create "sales").handle {} "3" damaged =
      (.ok (.database ⟨1, "database sales already exists", 3⟩ none), damaged) ∧
    Succeeded ((create "hr").handle {} "3" damaged).1 ∧
    (Call.getDatabase "main" (some { name := "sales" })).handle {} "3" damaged =
      (.ok (.database ⟨1, "corrupt catalog: missing region main/BYID", 4⟩ none), damaged) ∧
    add.handle {} "3" damaged = (.error ⟨.invalidArgument, "missing table identity"⟩, damaged) := by
  intro create add
  have counted : Countable damaged := by decide +kernel
  exact ⟨counted, fun call _ => unary_contract {} "3" damaged counted call, by decide +kernel,
    ⟨_, rfl, by decide +kernel⟩, by decide +kernel,
    by decide +kernel⟩

end TableCatalog

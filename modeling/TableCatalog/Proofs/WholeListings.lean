import TableCatalog.Proofs.ListingLoops
import TableCatalog.Proofs.Listings
import TableCatalog.Service.Stream

/-! A call that lists records is answered with all of them or fails. Whatever a store has come to,
nothing can go wrong with a listing once its first record is out: a caller never has to make do with
a part, nor takes a failure for an empty list. -/

namespace TableCatalog

open Region

/-- Questions fail in three ways: the request lacks something,
what it names is not there, or what is stored is damaged. -/
def Questioned {α : Type} (result : Except Fault α) : Prop :=
  ∀ fault, result = .error fault →
  fault.kind = .invalidArgument ∨ fault.kind = .notFound ∨ fault.kind = .corruption

namespace Questioned

variable {α β : Type}

theorem ok (answer : α) : Questioned (.ok answer) := nofun

theorem error {fault : Fault}
    (kind : fault.kind = .invalidArgument ∨ fault.kind = .notFound ∨ fault.kind = .corruption) :
    Questioned (.error fault : Except Fault α) := by
  intro other same
  cases same
  exact kind

theorem malformed (detail : String) :
    Questioned (.error (.invalidArgument detail) : Except Fault α) := error (.inl rfl)

theorem absent (detail : String) : Questioned (.error (.notFound detail) : Except Fault α) :=
  error (.inr (.inl rfl))

theorem damaged (detail : String) : Questioned (.error (.corruption detail) : Except Fault α) :=
  error (.inr (.inr rfl))

theorem bind {first : Except Fault β} {next : β → Except Fault α}
    (asked : Questioned first) (later : ∀ answer, Questioned (next answer)) :
    Questioned (first >>= next) := by
  cases first with
  | error fault => exact error (asked fault rfl)
  | ok answer => exact later answer

theorem ite {condition : Prop} [Decidable condition] {yes no : Except Fault α}
    (first : Questioned yes) (second : Questioned no) :
    Questioned (if condition then yes else no) := by
  split
  · exact first
  · exact second

theorem forM {items : List β} {visit : β → Except Fault Unit}
    (each : ∀ item, Questioned (visit item)) : Questioned (items.forM visit) := by
  induction items with
  | nil => exact ok ()
  | cons item rest ih => exact (each item).bind fun _ => ih

theorem mapM {items : List β} {visit : β → Except Fault α}
    (each : ∀ item, Questioned (visit item)) : Questioned (items.mapM visit) := by
  induction items with
  | nil => exact ok []
  | cons item rest ih =>
    rw [List.mapM_cons]
    exact (each item).bind fun _ => ih.bind fun _ => ok _

variable (store : Store) (catalog : String) (db table : Ident)

theorem requireCatalog : Questioned (Request.requireCatalog catalog) := ite (malformed _) (ok ())

theorem requireIdent (entity : Entity) (ident : Ident) :
    Questioned (Request.requireIdent entity ident) := ite (malformed _) (ok ())

theorem requireTable : Questioned (Request.requireTable catalog db table) :=
  (requireCatalog catalog).bind fun _ => (requireIdent .database db).bind fun _ =>
    requireIdent .table table

theorem partitionKeys (tuples : List (List String)) : Questioned (Request.partitionKeys tuples) :=
  (mapM fun _ => ite (malformed _) (ok _)).bind fun _ => ok _

theorem check (level : Level) : Questioned (level.check store) :=
  forM fun _ => ite (ok ()) (damaged _)

theorem checked (level : Level) : Questioned (level.check store >>= fun _ => .ok level) :=
  (check store level).bind fun _ => ok level

theorem openCatalog : Questioned (TableCatalog.openCatalog store catalog) :=
  ite ((absent _).bind fun _ => checked store _) (checked store _)

theorem resolve (level : Level) (entity : Entity) (ident : Ident) :
    Questioned (TableCatalog.resolve store level entity ident) := by
  unfold TableCatalog.resolve
  split
  · exact ok _
  · split
    · exact absent _
    · split
      · exact ok _
      · exact damaged _

theorem openDatabase : Questioned (TableCatalog.openDatabase store catalog db) :=
  (openCatalog store catalog).bind fun level => (resolve store level .database db).bind fun _ =>
    ite ((absent _).bind fun _ => checked store _) (checked store _)

theorem openTable : Questioned (TableCatalog.openTable store catalog db table) :=
  (openDatabase store catalog db).bind fun level => (resolve store level .table table).bind fun _ =>
    ite (ok _) (ite (damaged _) (absent _))

theorem decode [Wire.Message α] (what : String) (bytes : Bytes) :
    Questioned (Wire.decode what bytes : Except Fault α) := by
  unfold Wire.decode
  split
  · exact ok _
  · exact damaged _

theorem read (found : TableRef) : Questioned (found.read store) := by
  unfold TableRef.read
  split
  · exact damaged _
  · exact decode _ _

theorem findDatabases (listing : DatabaseListing) :
    Questioned (TableCatalog.findDatabases store catalog listing) := by
  apply (requireCatalog catalog).bind
  intro
  cases opened : TableCatalog.openCatalog store catalog with
  | ok level => exact ok _
  | error fault =>
    have questioned := openCatalog store catalog
    rw [opened] at questioned
    exact ite (ok _) (error (questioned fault rfl))

theorem findTables (shown : List String) :
    Questioned (TableCatalog.findTables store catalog db shown) :=
  (requireCatalog catalog).bind fun _ => (requireIdent .database db).bind fun _ =>
    (openDatabase store catalog db).bind fun _ => ok _

theorem findPartitions (listing : PartitionListing) :
    Questioned (TableCatalog.findPartitions store catalog db table listing) := by
  apply (requireTable catalog db table).bind
  intro
  apply (partitionKeys listing.filter).bind
  intro keys
  apply (openTable store catalog db table).bind
  intro found
  have attached (table : Except Fault (Option Table)) (asked : Questioned table)
    (shown : Option Table → List Partition) :
      Questioned (table >>= fun attached => .ok (shown attached)) := asked.bind fun _ => ok _
  exact ite (attached _ ((read store found).bind fun _ => ok _) _) (attached _ (ok none) _)

end Questioned

/-- How a call that asks ends with a fault. What a caller can act on comes as it is, and damage
under a heading of its own. -/
inductive Fault.EndsWith : Fault → Status → Prop
  | malformed (detail : String) : EndsWith ⟨.invalidArgument, detail⟩ ⟨.invalidArgument, detail⟩
  | absent (detail : String) : EndsWith ⟨.notFound, detail⟩ ⟨.notFound, detail⟩
  | damaged (detail : String) :
    EndsWith ⟨.corruption, detail⟩ ⟨.dataLoss, "corrupt catalog: " ++ detail⟩

/-- What becomes of a listing that goes out as a stream. If it fails, no sink has been sent anything
and the call fails with the status of the fault. Otherwise the stream holds the records that are
sent, in their order and nothing else. -/
structure Whole {α : Type} (listing : (σ : Type) → Sink σ α → Emission σ Unit)
    (stream : List (Except Status α) → Listed) (answer : Except Status Listed) : Prop where
  refused : ∀ fault sent, collected (listing _ Sink.collect) = (.error fault, sent) → sent = [] ∧
    (∀ (σ : Type) (sink : Sink σ α) (state : σ),
      Emission.run (listing σ sink) state = (.error fault, state)) ∧
    answer = .error fault.toStatus ∧ fault.EndsWith fault.toStatus
  answered : ∀ sent, collected (listing _ Sink.collect) = (.ok (), sent) →
    answer = .ok (stream (sent.map .ok)) ∧ readStream none (sent.map .ok) = .ok sent

def ListCall.Whole (store : Store) : ListCall → Prop
  | databases catalog listing =>
    TableCatalog.Whole (fun _ => listDatabases store catalog listing) .databases
      ((databases catalog listing).handle store)
  | tables catalog db shown =>
    TableCatalog.Whole (fun _ => listTables store catalog (db.getD {}) shown) .tables
      ((tables catalog db shown).handle store)
  | partitions catalog db table listing =>
    TableCatalog.Whole (fun _ => listPartitions store catalog (db.getD {}) (table.getD {}) listing)
      .partitions ((partitions catalog db table listing).handle store)

theorem streamed {α : Type} (records : List α) (items : List (Except Status α)) :
    Emission.run (records.forM Sink.stream) items = (.ok (), items ++ records.map .ok) := by
  induction records generalizing items with
  | nil => rw [List.map_nil, List.append_nil]; rfl
  | cons record rest ih =>
    have next : Emission.run ((record :: rest).forM Sink.stream) items =
      Emission.run (rest.forM Sink.stream) (items ++ [.ok record]) := rfl
    rw [next, ih, List.append_assoc]
    rfl

theorem answerListing_send {α : Type} (found : Except Fault (List α)) :
    answerListing (Sink.stream.send found) = (found.map (·.map .ok)).mapError Fault.toStatus := by
  cases found with
  | error fault => rfl
  | ok records =>
    have items : streamItems (Sink.stream.send (.ok records)) = records.map .ok := by
      unfold streamItems
      have sent : Emission.run (Sink.stream.send (.ok records)) [] = (.ok (), records.map .ok) :=
        streamed records []
      rw [sent]
    unfold answerListing
    rw [items]
    cases records <;> rfl

theorem readStream_records {α : Type} (records : List α) :
    readStream none (records.map .ok) = .ok records := by
  show (records.map Except.ok).mapM id = _
  induction records with
  | nil => rfl
  | cons record rest ih => rw [List.map_cons, List.mapM_cons, ih]; rfl

theorem endsWith_questioned {fault : Fault}
    (kind : fault.kind = .invalidArgument ∨ fault.kind = .notFound ∨ fault.kind = .corruption) :
    fault.EndsWith fault.toStatus := by
  obtain ⟨_, detail⟩ := fault
  obtain rfl | rfl | rfl := kind
  · exact .malformed detail
  · exact .absent detail
  · exact .damaged detail

/-- What is found at once and then sent is sent whole. -/
theorem Questioned.whole {α : Type} {found : Except Fault (List α)} (questioned : Questioned found)
    {stream : List (Except Status α) → Listed} {listing : (σ : Type) → Sink σ α → Emission σ Unit}
    (sends : ∀ (σ : Type) (sink : Sink σ α), listing σ sink = sink.send found) :
    Whole listing stream (stream <$> answerListing (listing _ Sink.stream)) := by
  rw [sends, answerListing_send]
  cases found with
  | error fault =>
    constructor
    · intro other sent ran
      rw [sends] at ran
      cases ran
      refine ⟨rfl, fun σ sink state => ?_, rfl, endsWith_questioned (questioned fault rfl)⟩
      rw [sends]
      rfl
    · intro sent ran
      rw [sends] at ran
      cases ran
  | ok records =>
    constructor
    · intro fault sent ran
      rw [sends, collected_send] at ran
      cases ran
    · intro sent ran
      rw [sends, collected_send] at ran
      cases ran
      exact ⟨rfl, readStream_records records⟩

theorem partitions_whole (store : Store) (catalog : String) (db table : Option Ident)
    (listing : PartitionListing) : ListCall.Whole store (.partitions catalog db table listing) :=
  (Questioned.findPartitions store catalog (db.getD {}) (table.getD {}) listing).whole
    fun _ => listPartitions_eq store catalog (db.getD {}) (table.getD {}) listing

theorem list_call_whole (store : Store) (call : ListCall) : call.Whole store := by
  cases call with
  | databases catalog listing =>
    exact (Questioned.findDatabases store catalog listing).whole
      fun _ => listDatabases_eq store catalog listing
  | tables catalog db shown =>
    exact (Questioned.findTables store catalog (db.getD {}) shown).whole
      fun _ => listTables_eq store catalog (db.getD {}) shown
  | partitions catalog db table listing => exact partitions_whole store catalog db table listing

/-- A table with two partitions. -/
def twoDays : Store :=
  let sales : Ident := { name := "sales" }
  let orders : Ident := { name := "orders" }
  Operation.runAll {} ∅ [.createDatabase "main" { ident := some sales } "1",
    .createTable "main" sales { ident := some orders } "2",
    .addPartition "main" sales orders { values := ["a"] } "3",
    .addPartition "main" sales orders { values := ["b"] } "4"]

/-- Both partitions come, and none does once the record of
the table is lost, though a name still leads to it. -/
theorem list_call_whole_lost_table :
    let sales : Ident := { name := "sales" }
    let orders : Ident := { name := "orders" }
    let call : ListCall := .partitions "main" (some sales) (some orders) { shown := ["values"] }
    let lost := twoDays.delete (Level.database "main" "1").byId (Bytes.ofText "2")
    call.handle twoDays = .ok (.partitions [.ok { values := ["a"] }, .ok { values := ["b"] }]) ∧
    call.handle lost = .error ⟨.dataLoss, "corrupt catalog: missing table 2"⟩ := by
  intro sales orders call lost
  have whole : call.Whole twoDays := list_call_whole twoDays call
  have damaged : call.Whole lost := list_call_whole lost call
  constructor
  · exact (whole.answered [{ values := ["a"] }, { values := ["b"] }] (by decide +kernel)).1
  · exact (damaged.refused (.lost "table 2") [] (by decide +kernel)).2.2.1

end TableCatalog

import TableCatalog.Proofs.ContentsRefinement
import TableCatalog.Proofs.PartitionDrops
import TableCatalog.Proofs.RemoteCalls

/-! Drops that come as a stream of requests. The first names the table, and each of them names a
partition of that table by its values; which table a later one names is not looked at. The stream is
one drop: it takes all that it asks for, or nothing. -/

namespace TableCatalog

open Region

variable {store after : Store} {requests : List DropRequest}

/-- The table that a request names. -/
def DropRequest.opened (store : Store) (request : DropRequest) : Except Fault TableRef :=
  openTable store request.catalog (request.db.getD {}) (request.table.getD {})

/-- What the table that a request names gives for some values. -/
def DropRequest.get (store : Store) (request : DropRequest) (values shown : List String) :
    Except Fault Partition :=
  getPartition store request.catalog (request.db.getD {}) (request.table.getD {}) values shown

def DropRequest.key (request : DropRequest) : String := Request.joinValues request.values

/-- The answer is a status that is no failure. -/
def Accepted (answer : Except Status RequestStatus) : Prop :=
  ∃ status, answer = .ok status ∧ status.isOk = true

/-- A stream that is accepted takes, from the table that its first request names, the partitions
with the values of all of its requests, which were there, and nothing else from anywhere. -/
structure TakenByStream (requests : List DropRequest) (answer : Except Status RequestStatus)
    (store after : Store) : Prop where
  accepted : Accepted answer → ∀ first ∈ requests.head?, ∃ found,
    first.opened store = .ok found ∧ first.opened after = .ok found ∧
    found.Loses (requests.map DropRequest.key) store after ∧
    ∀ request ∈ requests, ∀ shown, ∃ what,
    first.get after request.values shown = .error (.absent what)
  refused : ¬ Accepted answer → after = store
  empty : requests = [] → answer = .ok .ok ∧ after = store

theorem accepted_statusOf {α : Type} {result : Except Fault α} :
    Accepted (statusOf result) ↔ ∃ value, result = .ok value := by
  cases result with
  | ok value => exact iff_of_true ⟨_, rfl, rfl⟩ ⟨value, rfl⟩
  | error fault =>
    constructor
    · rintro ⟨status, answered, succeeded⟩
      have replied : RequestStatus.ofFault fault = .ok status := answered
      unfold RequestStatus.ofFault at replied
      split at replied
      · cases replied
      · cases replied
        exact Bool.noConfusion succeeded
    · rintro ⟨value, same⟩
      cases same

/-- A partition that is missing from a table that is there is not found. -/
theorem getPartition_missing {catalog : String} {db table : Ident} {values : List String}
    {found : TableRef} (formed : Request.requireTable catalog db table = .ok ())
    (keyed : Request.joinValues values ≠ "") (opened : openTable store catalog db table = .ok found)
    (missing : found.partition? store (Request.joinValues values) = none) (shown : List String) :
    getPartition store catalog db table values shown =
      .error (.absent (partitionText db table (Request.joinValues values))) := by
  have key : Request.partitionKey values = .ok (Request.joinValues values) :=
    Request.partitionKey_eq_ok.2 ⟨rfl, keyed⟩
  simp only [getPartition, formed, key, opened, bind, Except.bind, missing]
  rfl

theorem stream_takes (store : Store) (requests : List DropRequest) :
    TakenByStream requests (dropMany store requests).1 store (dropMany store requests).2 := by
  cases requests with
  | nil =>
    refine ⟨fun _ first head => ?_, fun _ => rfl, fun _ => ⟨rfl, rfl⟩⟩
    cases head
  | cons first rest =>
    cases ran : dropPartitions first.catalog (first.db.getD {})
      (first.table.getD {}) (first.values :: rest.map (·.values)) store with
    | error fault =>
      have failed : dropMany store (first :: rest) =
          (statusOf (.error fault : Except Fault Nat), store) := by
        simp only [dropMany, Store.update, ran]
      rw [failed]
      refine ⟨fun accepted => ?_, fun _ => rfl,
        fun none => absurd none (List.cons_ne_nil first rest)⟩
      obtain ⟨count, same⟩ : ∃ count, (.error fault : Except Fault Nat) = .ok count :=
        accepted_statusOf.1 accepted
      cases same
    | ok done =>
      obtain ⟨count, after⟩ := done
      have dropped : dropMany store (first :: rest) = (statusOf (.ok count), after) := by
        simp only [dropMany, Store.update, ran]
      rw [dropped]
      refine ⟨fun _ => ?_, fun refused => absurd (accepted_statusOf.2 ⟨count, rfl⟩) refused,
        fun none => absurd none (List.cons_ne_nil first rest)⟩
      intro named head
      obtain rfl : first = named := Option.some.inj head
      obtain ⟨formed, keys, joined, -, taken⟩ := dropPartitions_done.1 ran
      obtain ⟨keyed, members⟩ := Request.partitionKeys_ok joined
      have same (key : String) : key ∈ (first :: rest).map DropRequest.key ↔ key ∈ keys := by
        rw [members]
        simp [DropRequest.key, eq_comm]
      obtain ⟨rfl, -⟩ | ⟨-, found, opened, loses⟩ := taken
      · cases (same first.key).1 List.mem_cons_self
      · refine ⟨found, opened, loses.alters.openTable opened, loses.congr same, ?_⟩
        intro request held shown
        have mentioned : request.values ∈ first.values :: rest.map (·.values) :=
          List.mem_map_of_mem (f := DropRequest.values) held
        have gone : found.partition? after request.key = none := by
          rw [loses.partition?, if_pos ((same _).1 (List.mem_map_of_mem held))]
        exact ⟨_, getPartition_missing formed (keyed _ mentioned)
            (loses.alters.openTable opened) gone shown⟩

/-- Two tables, each with a partition for the second day. -/
def orderedAndBilled : List Operation :=
  let sales : Ident := { name := "sales" }
  let orders : Ident := { name := "orders" }
  let bills : Ident := { name := "bills" }
  [.createDatabase "main" { ident := some sales } "1", .createTable "main"
      sales { ident := some orders } "2", .createTable "main" sales { ident := some bills } "3",
    .addPartition "main" sales orders { values := ["1"] } "4",
    .addPartition "main" sales orders { values := ["2"] } "5",
    .addPartition "main" sales bills { values := ["2"] } "6"]

def ordersDrop (day : String) : DropRequest :=
  { catalog := "main", db := some { name := "sales" }, table := some { name := "orders" },
    values := [day] }

def billsDrop (day : String) : DropRequest :=
  { ordersDrop day with table := some { name := "bills" } }

/-- A later request that names another table leaves the partition that it names, and one of the same
values is taken that nobody names. -/
theorem stray_request_spares_its_table :
    let store := Operation.runAll {} ∅ orderedAndBilled
    let ran := dropMany store [ordersDrop "1", billsDrop "2"]
    Admissible orderedAndBilled ∧ Accepted ran.1 ∧
      (billsDrop "2").get ran.2 ["2"] ["values"] = .ok { values := ["2"] } ∧
    (ordersDrop "2").get store ["2"] ["values"] = .ok { values := ["2"] } ∧
    (ordersDrop "2").get ran.2 ["2"] ["values"] = .error (.absent "partition sales.orders/2") :=
  ⟨by decide +kernel, ⟨.ok, by decide +kernel, rfl⟩, by decide +kernel, by decide +kernel,
    by decide +kernel⟩

end TableCatalog

import Mathlib.Data.Finset.Card
import TableCatalog.Proofs.LiveTables
import TableCatalog.Proofs.PartitionDrops

/-! Partitions dropped together and one by one. A drop of several is a drop
of their keys: it comes to the same in whatever order and however often they
are given, and if they are all there, to the same as a drop of each. -/

namespace TableCatalog

open Region

variable {store after : Store} {catalog owner id : String} {db table : Ident}
  {found : TableRef} {record : Table} {tuples order : List (List String)} {values : List String}

/-- The request to drop each of the partitions by itself. -/
def dropEach (catalog : String) (db table : Ident) (order : List (List String)) : List Operation :=
  order.map (.dropPartition catalog db table)

/-- Either the drop is answered with the number of keys and takes their partitions, or it tells
which one it misses and takes none. Tuples with the same keys are dropped alike, and if they are all
there, one drop for each key does the same. -/
structure DropsTogether (options : StoreOptions) (store : Store) (catalog : String)
    (db table : Ident) (found : TableRef) (tuples : List (List String)) : Prop where
  taken : (∀ values ∈ tuples, LivePartition store catalog db table values) →
    ((Operation.dropPartitions catalog db table tuples).run options store).1 =
      .ok (.count (keysOf tuples).toFinset.card) ∧
    found.Loses (keysOf tuples) store
      ((Operation.dropPartitions catalog db table tuples).run options store).2
  refused : ∀ values ∈ tuples, ¬ LivePartition store catalog db table values →
    ∃ missing ∈ tuples, ¬ LivePartition store catalog db table missing ∧
      (Operation.dropPartitions catalog db table tuples).run options store =
        (.error (.absent (partitionText db table (Request.joinValues missing))), store)
  unordered : ∀ others, (∀ key, key ∈ keysOf others ↔ key ∈ keysOf tuples) →
    ((Operation.dropPartitions catalog db table others).run options store).1.mapError Fault.kind =
      ((Operation.dropPartitions catalog db table tuples).run options store).1.mapError Fault.kind ∧
    ((Operation.dropPartitions catalog db table others).run options store).2 =
      ((Operation.dropPartitions catalog db table tuples).run options store).2
  oneByOne : (∀ values ∈ tuples, LivePartition store catalog db table values) →
    ∀ order, (keysOf order).Nodup → (∀ key, key ∈ keysOf order ↔ key ∈ keysOf tuples) →
    (∀ before values rest, order = before ++ values :: rest →
      ((Operation.dropPartition catalog db table values).run options
        (Operation.runAll options store (dropEach catalog db table before))).1 = .ok .done) ∧
    Operation.runAll options store (dropEach catalog db table order) =
      ((Operation.dropPartitions catalog db table tuples).run options store).2

theorem length_eraseDups_keysOf (accepted : "" ∉ keysOf tuples) :
    (keysOf tuples).eraseDups.length = (keysOf tuples).toFinset.card := by
  rw [← List.toFinset_card_of_nodup
      (Request.nodup_partitionKeys (Request.partitionKeys_eq accepted))]
  congr 1
  ext key
  rw [List.mem_toFinset, List.mem_toFinset, List.mem_eraseDups]

namespace Opens

variable (opens : Opens store catalog db table found record)
include opens

theorem drops (accepted : "" ∉ keysOf tuples)
    (present : ∀ key ∈ keysOf tuples, (found.partition? store key).isSome = true) :
    ∃ after, TableCatalog.dropPartitions catalog db table tuples store =
      .ok ((keysOf tuples).toFinset.card, after) ∧ found.Loses (keysOf tuples) store after := by
  have loses := TableRef.Loses.deleteAll fun key held => present key (List.mem_eraseDups.1 held)
  refine ⟨_, dropPartitions_done.2 ⟨opens.formed, _, Request.partitionKeys_eq accepted,
    (length_eraseDups_keysOf accepted).symm, ?_⟩,
    loses.congr fun key => List.mem_eraseDups.symm⟩
  cases keys : (keysOf tuples).eraseDups with
  | nil => exact .inl ⟨rfl, rfl⟩
  | cons key rest => exact .inr ⟨nofun, found, opens.opened, keys ▸ loses⟩

theorem dropPartitions (accepted : "" ∉ keysOf tuples)
    (present : ∀ key ∈ keysOf tuples, (found.partition? store key).isSome = true)
    (options : StoreOptions) :
    ∃ after, (Operation.dropPartitions catalog db table tuples).run options store =
        (.ok (.count (keysOf tuples).toFinset.card), after) ∧
      found.Loses (keysOf tuples) store after := by
  obtain ⟨after, ran, loses⟩ := opens.drops accepted present
  exact ⟨after, Operation.change_ok ran, loses⟩

theorem dropPartition (keyed : Request.joinValues values ≠ "")
    (present : (found.partition? store (Request.joinValues values)).isSome = true)
    (options : StoreOptions) :
    ∃ after, (Operation.dropPartition catalog db table values).run options store =
      (.ok .done, after) ∧ found.Loses [Request.joinValues values] store after := by
  have accepted : "" ∉ keysOf [values] := by simpa [keysOf] using keyed.symm
  have there : ∀ key ∈ keysOf [values], (found.partition? store key).isSome = true := by
    simpa [keysOf] using present
  obtain ⟨after, ran, loses⟩ := opens.drops accepted there
  have dropped : TableCatalog.dropPartition catalog db table values store = .ok ((), after) := by
    simp only [TableCatalog.dropPartition, bind, StateT.bind, ran]
    rfl
  exact ⟨after, Operation.change_ok dropped, loses⟩

/-- If one is not, the drop tells of one that is not. -/
theorem dropPartitions_missing (accepted : "" ∉ keysOf tuples)
    {key : String} (held : key ∈ keysOf tuples) (absent : found.partition? store key = none)
    (options : StoreOptions) :
    ∃ missing ∈ tuples, found.partition? store (Request.joinValues missing) = none ∧
      (Operation.dropPartitions catalog db table tuples).run options store =
        (.error (.absent (partitionText db table (Request.joinValues missing))), store) := by
  have asked : (keysOf tuples).eraseDups.isEmpty = false :=
    List.isEmpty_eq_false_iff_exists_mem.2 ⟨key, List.mem_eraseDups.2 held⟩
  obtain ⟨missing, lost⟩ : ∃ missing, ((keysOf tuples).eraseDups.find? fun key =>
    (found.partition? store key).isNone) = some missing := by
    rw [← Option.isSome_iff_exists, List.find?_isSome]
    exact ⟨key, List.mem_eraseDups.2 held, by rw [absent]; rfl⟩
  obtain ⟨values, given, rfl⟩ :=
    List.mem_map.1 (List.mem_eraseDups.1 (List.mem_of_find?_eq_some lost))
  have ran : TableCatalog.dropPartitions catalog db table tuples store =
      .error (.absent (partitionText db table (Request.joinValues values))) := by
    rw [dropPartitions_eq]
    simp only [opens.formed, Request.partitionKeys_eq accepted,
      opens.opened, asked, lost, bind, Except.bind]
    rfl
  exact ⟨values, given, by simpa using List.find?_some lost, Operation.change_error ran⟩

/-- One drop after another takes what one drop of all takes. -/
theorem dropEach (accepted : "" ∉ keysOf order) (distinct : (keysOf order).Nodup)
    (present : ∀ key ∈ keysOf order, (found.partition? store key).isSome = true)
    (options : StoreOptions) : found.Loses (keysOf order) store
      (Operation.runAll options store (dropEach catalog db table order)) := by
  -- The table is opened anew for each drop, in the store that the drops before it have left.
  induction order generalizing store with
  | nil => exact ⟨present, rfl, fun _ => rfl⟩
  | cons values rest ih =>
    obtain ⟨apart, distinct⟩ := List.nodup_cons.1 distinct
    obtain ⟨first, others⟩ := List.forall_mem_cons.1 present
    obtain ⟨middle, ran, loses⟩ :=
      opens.dropPartition (fun empty => accepted (empty ▸ List.mem_cons_self)) first options
    have kept : ∀ key ∈ keysOf rest, (found.partition? middle key).isSome = true := by
      intro key held
      have other : key ∉ [Request.joinValues values] :=
        fun same => apart (List.mem_singleton.1 same ▸ held)
      rw [loses.partition?, if_neg other]
      exact others key held
    have rested := ih (opens.altered loses.alters)
      (fun held => accepted (List.mem_cons_of_mem _ held)) distinct kept
    have next : Operation.runAll options store
          (TableCatalog.dropEach catalog db table (values :: rest)) =
        Operation.runAll options middle (TableCatalog.dropEach catalog db table rest) := by
      show Operation.runAll options
        ((Operation.dropPartition catalog db table values).run options store).2 _ = _
      rw [ran]
      rfl
    rw [next]
    exact loses.cons rested

theorem dropPartitions_congr {others : List (List String)} (accepted : "" ∉ keysOf tuples)
    (same : ∀ key, key ∈ keysOf others ↔ key ∈ keysOf tuples) (options : StoreOptions) :
    ((Operation.dropPartitions catalog db table others).run options store).1.mapError Fault.kind =
      ((Operation.dropPartitions catalog db table tuples).run options store).1.mapError Fault.kind ∧
    ((Operation.dropPartitions catalog db table others).run options store).2 =
      ((Operation.dropPartitions catalog db table tuples).run options store).2 := by
  have othersAccepted : "" ∉ keysOf others := fun held => accepted ((same "").1 held)
  by_cases there : ∀ key ∈ keysOf tuples, (found.partition? store key).isSome = true
  · obtain ⟨after, ran, loses⟩ := opens.dropPartitions accepted there options
    obtain ⟨otherAfter, otherRan, otherLoses⟩ :=
      opens.dropPartitions othersAccepted (fun key held => there key ((same key).1 held)) options
    have counted : (keysOf others).toFinset = (keysOf tuples).toFinset := by
      ext key
      rw [List.mem_toFinset, List.mem_toFinset, same]
    rw [ran, otherRan, counted, otherLoses.unique (loses.congr same)]
    exact ⟨rfl, rfl⟩
  · obtain ⟨key, lost⟩ := not_forall.1 there
    obtain ⟨held, absent⟩ := Classical.not_imp.1 lost
    rw [Option.not_isSome_iff_eq_none] at absent
    obtain ⟨_, -, -, ran⟩ := opens.dropPartitions_missing accepted held absent options
    obtain ⟨_, -, -, otherRan⟩ :=
      opens.dropPartitions_missing othersAccepted ((same key).2 held) absent options
    rw [ran, otherRan]
    exact ⟨rfl, rfl⟩

/-- Each of the drops goes through: those before it have not touched what it takes. -/
theorem dropEach_step {before rest : List (List String)}
    (accepted : "" ∉ keysOf (before ++ values :: rest))
    (distinct : (keysOf (before ++ values :: rest)).Nodup)
    (present : ∀ key ∈ keysOf (before ++ values :: rest),
      (found.partition? store key).isSome = true) (options : StoreOptions) :
    ((Operation.dropPartition catalog db table values).run options (Operation.runAll options store
      (TableCatalog.dropEach catalog db table before))).1 = .ok .done := by
  have parts : keysOf (before ++ values :: rest) =
    keysOf before ++ Request.joinValues values :: keysOf rest := List.map_append
  rw [parts] at accepted distinct present
  obtain ⟨sooner, -, apart⟩ := List.nodup_append.1 distinct
  have begun := opens.dropEach (fun held => accepted (List.mem_append_left _ held)) sooner
    (fun key held => present key (List.mem_append_left _ held)) options
  have still : (found.partition?
    (Operation.runAll options store (TableCatalog.dropEach catalog db table before))
    (Request.joinValues values)).isSome = true := by
    rw [begun.partition?, if_neg fun held => apart _ held _ List.mem_cons_self rfl]
    exact present _ (List.mem_append_right _ List.mem_cons_self)
  obtain ⟨after, ran, -⟩ := (opens.altered begun.alters).dropPartition
    (fun empty => accepted (List.mem_append_right _ (empty ▸ List.mem_cons_self))) still options
  rw [ran]

theorem dropsTogether (live : ∀ values, LivePartition store catalog db table values ↔
    (found.partition? store (Request.joinValues values)).isSome = true)
    (accepted : "" ∉ keysOf tuples) (options : StoreOptions) :
    DropsTogether options store catalog db table found tuples := by
  have all : (∀ values ∈ tuples, LivePartition store catalog db table values) ↔
      ∀ key ∈ keysOf tuples, (found.partition? store key).isSome = true := by
    simp only [keysOf, List.forall_mem_map, live]
  constructor
  case taken =>
    intro there
    obtain ⟨after, ran, loses⟩ := opens.dropPartitions accepted (all.1 there) options
    rw [ran]
    exact ⟨rfl, loses⟩
  case refused =>
    intro values held dead
    rw [live, Option.not_isSome_iff_eq_none] at dead
    obtain ⟨missing, given, absent, ran⟩ :=
      opens.dropPartitions_missing accepted (List.mem_map_of_mem held) dead options
    refine ⟨missing, given, ?_, ran⟩
    rw [live, absent]
    exact Bool.false_ne_true
  case unordered =>
    intro others same
    exact opens.dropPartitions_congr accepted same options
  case oneByOne =>
    intro there order distinct same
    have orderAccepted : "" ∉ keysOf order := fun held => accepted ((same "").1 held)
    have present : ∀ key ∈ keysOf order, (found.partition? store key).isSome = true :=
      fun key held => all.1 there key ((same key).1 held)
    obtain ⟨after, ran, loses⟩ := opens.dropPartitions accepted (all.1 there) options
    rw [ran]
    refine ⟨?_, (opens.dropEach orderAccepted distinct present options).unique (loses.congr same)⟩
    rintro before values rest rfl
    exact opens.dropEach_step orderAccepted distinct present options

end Opens

theorem drops_together (options : StoreOptions) (operations : List Operation)
    (admissible : Admissible operations) (short : Bytes.Short catalog)
    (dbShort : db.Short) (tableShort : table.Short)
    (live : LiveTable (Operation.runAll options ∅ operations) catalog db table owner id)
    (accepted : "" ∉ keysOf tuples) :
    DropsTogether options (Operation.runAll options ∅ operations) catalog db table
      (tableRef catalog owner id) tuples := by
  obtain ⟨record, -, opens⟩ := admissible.opens options short dbShort live
  exact opens.dropsTogether
    ((admissible.reached options).livePartition_iff short tableShort live) accepted options

theorem drops_together_three_days :
    let store := Operation.runAll {} ∅ threeDays
    let sales : Ident := { name := "sales" }
    let orders : Ident := { id := "2" }
    DropsTogether {} store "main" sales orders (tableRef "main" "1" "2") [["3"], ["1"], ["3"]] ∧
    ((Operation.dropPartitions "main" sales orders [["3"], ["1"], ["3"]]).run {} store).1 =
      .ok (.count 2) ∧
    (Operation.dropPartitions "main" sales orders [["3"], ["1"], ["4"]]).run {} store =
      (.error (.absent "partition sales.2/4"), store) :=
  ⟨drops_together {} threeDays (by decide +kernel) (by decide +kernel)
      (by decide +kernel) (by decide +kernel) (by decide +kernel) (by decide +kernel),
    by decide +kernel, by decide +kernel⟩

end TableCatalog

import TableCatalog.Proofs.ByteRange
import TableCatalog.Proofs.Contents
import TableCatalog.Proofs.MapContents

/-! When an operation over the contents succeeds, and with what: each is taken apart once into the
checks that its request passes, what it finds, its result and the contents it leaves. -/

namespace TableCatalog

theorem bind_eq_ok {α β : Type} {first : Except Fault α} {next : α → Except Fault β} {result : β} :
    (first >>= next) = .ok result ↔ ∃ value, first = .ok value ∧ next value = .ok result := by
  cases first with
  | ok value =>
    exact ⟨fun done => ⟨value, rfl, done⟩, fun ⟨_, same, done⟩ => by cases same; exact done⟩
  | error fault =>
    constructor
    · intro impossible
      cases impossible
    · intro ⟨_, same, _⟩
      cases same

/-- An entry that must not be there yet is not, and the work goes on. -/
theorem free_eq_ok {α : Type} {taken : Bool} {fault : Fault} {next : Except Fault α} {result : α} :
    (do
      if taken then throw fault
      next) = .ok result ↔ taken = false ∧ next = .ok result := by
  cases taken with
  | true => exact iff_of_false nofun fun free => Bool.noConfusion free.1
  | false => exact ⟨fun done => ⟨rfl, done⟩, And.right⟩

def Ident.Blank (ident : Ident) : Prop := ident.name = "" ∧ ident.id = ""

namespace Request

theorem requireCatalog_eq_ok {catalog : String} {done : Unit} :
    requireCatalog catalog = .ok done ↔ catalog ≠ "" := by
  simp [requireCatalog, String.isEmpty_iff]

theorem requireIdent_eq_ok {entity : Entity} {ident : Ident} {done : Unit} :
    requireIdent entity ident = .ok done ↔ ¬ ident.Blank := by
  simp [requireIdent, Ident.isEmpty, Ident.Blank, String.isEmpty_iff]

theorem requireName_eq_ok {entity : Entity} {ident : Option Ident} {name : String} :
    requireName entity ident = .ok name ↔ nameOf ident = name ∧ name ≠ "" := by
  unfold requireName
  simp only [String.isEmpty_iff]
  split
  next empty => simp [empty]
  next some => simp; rintro rfl; exact some

theorem partitionKey_eq_ok {values : List String} {key : String} :
    partitionKey values = .ok key ↔ joinValues values = key ∧ key ≠ "" := by
  unfold partitionKey
  simp only [String.isEmpty_iff]
  split
  next empty => simp [empty]
  next some => simp; rintro rfl; exact some

theorem requireTable_eq_ok {catalog : String} {db table : Ident} {done : Unit} :
    requireTable catalog db table = .ok done ↔
      catalog ≠ "" ∧ ¬ db.Blank ∧ ¬ table.Blank := by
  simp only [requireTable, bind_eq_ok, requireCatalog_eq_ok, requireIdent_eq_ok]
  simp

theorem nodup_partitionKeys {tuples : List (List String)} {keys : List String}
    (joined : partitionKeys tuples = .ok keys) : keys.Nodup := by
  simp only [partitionKeys, bind_eq_ok, pure, Except.pure, Except.ok.injEq] at joined
  obtain ⟨all, -, rfl⟩ := joined
  have grown (seen : List String) (distinct : seen.Nodup) :
      (all.foldl
        (fun seen key => if seen.contains key then seen else seen ++ [key]) seen).Nodup := by
    induction all generalizing seen with
    | nil => exact distinct
    | cons key rest ih =>
      refine ih _ ?_
      show (if seen.contains key then seen else seen ++ [key]).Nodup
      split
      next => exact distinct
      next new =>
        refine List.nodup_append.2 ⟨distinct, by simp, fun other held last inside same => ?_⟩
        obtain rfl := List.mem_singleton.1 inside
        exact new (by simpa [← same] using held)
  exact grown [] .nil

theorem mapM_cons (values : List String) (tuples : List (List String)) :
    (values :: tuples).mapM partitionKey =
      (do return (← partitionKey values) :: (← tuples.mapM partitionKey)) := List.mapM_cons

private theorem mem_foldl_keys (all seen : List String) (key : String) :
    key ∈ all.foldl (fun seen key => if seen.contains key then seen else seen ++ [key]) seen ↔
    key ∈ seen ∨ key ∈ all := by
  induction all generalizing seen with
  | nil => simp
  | cons first rest ih =>
    rw [List.foldl_cons, ih]
    split
    next known =>
      have held : first ∈ seen := by simpa using known
      constructor
      · exact fun inside => inside.imp_right (List.mem_cons_of_mem _)
      · rintro (inside | inside)
        · exact .inl inside
        · rcases List.mem_cons.1 inside with rfl | inside
          · exact .inl held
          · exact .inr inside
    next => simp [or_assoc]

theorem partitionKeys_ok {tuples : List (List String)} {keys : List String}
    (joined : partitionKeys tuples = .ok keys) :
    (∀ values ∈ tuples, joinValues values ≠ "") ∧
    ∀ key, key ∈ keys ↔ ∃ values ∈ tuples, joinValues values = key := by
  simp only [partitionKeys, bind_eq_ok, pure, Except.pure, Except.ok.injEq] at joined
  obtain ⟨all, mapped, rfl⟩ := joined
  simp only [mem_foldl_keys, List.not_mem_nil, false_or]
  induction tuples generalizing all with
  | nil =>
    cases mapped
    simp
  | cons values rest ih =>
    rw [mapM_cons] at mapped
    simp only [bind_eq_ok, pure, Except.pure, Except.ok.injEq] at mapped
    obtain ⟨key, first, keys, mapped, rfl⟩ := mapped
    obtain ⟨same, some⟩ := partitionKey_eq_ok.1 first
    obtain ⟨formed, members⟩ := ih keys mapped
    constructor
    · intro tuple held
      rcases List.mem_cons.1 held with rfl | held
      · rwa [same]
      · exact formed tuple held
    · intro other
      rw [List.mem_cons, members]
      constructor
      · rintro (rfl | ⟨tuple, held, called⟩)
        · exact ⟨values, List.mem_cons_self, same⟩
        · exact ⟨tuple, List.mem_cons_of_mem _ held, called⟩
      · rintro ⟨tuple, held, called⟩
        rcases List.mem_cons.1 held with rfl | held
        · exact .inl (called.symm.trans same)
        · exact .inr ⟨tuple, held, called⟩

end Request

namespace Index

variable {ε : Type} {index : Index ε} {entity : Entity} {ident : Ident}
  {missing : Fault} {id : String} {node : ε}

theorem find_eq_ok : index.find entity ident missing = .ok (id, node) ↔
    index.resolve entity ident = .ok id ∧ index.node? id = some node := by
  simp only [find, bind_eq_ok]
  constructor
  · rintro ⟨other, resolved, done⟩
    cases found : index.node? other with
    | none => simp [found, throw, throwThe, MonadExceptOf.throw] at done
    | some held =>
      simp only [found, pure, Except.pure, Except.ok.injEq, Prod.mk.injEq] at done
      obtain ⟨rfl, rfl⟩ := done
      exact ⟨resolved, found⟩
  · rintro ⟨resolved, found⟩
    exact ⟨id, resolved, by rw [found]; rfl⟩

variable {name other : String}

theorem node?_add :
    (index.add name id node).node? other = if other = id then some node else index.node? other := by
  simp only [node?, add, SortedMap.find?_insert, Bytes.ofText_inj]

theorem node?_put :
    (index.put id node).node? other = if other = id then some node else index.node? other := by
  simp only [node?, put, SortedMap.find?_insert, Bytes.ofText_inj]

theorem node?_remove :
    (index.remove name id).node? other = if other = id then none else index.node? other := by
  simp only [node?, remove, SortedMap.find?_erase, Bytes.ofText_inj]

end Index

namespace Contents

variable {contents after : Contents} {catalog : String} {db table : Ident} {fresh : String}

theorem catalog_eq_ok {index : Index DatabaseNode} :
    contents.catalog catalog = .ok index ↔ contents.find? catalog = some index := by
  unfold Contents.catalog
  cases contents.find? catalog <;> simp

theorem database_eq_ok {found : FoundDatabase} :
    contents.database catalog db = .ok found ↔
      contents.find? catalog = some found.index ∧ found.index.resolve .database db = .ok found.id ∧
      found.index.node? found.id = some found.node := by
  simp only [Contents.database, bind_eq_ok, catalog_eq_ok, Prod.exists,
    Index.find_eq_ok, pure, Except.pure, Except.ok.injEq]
  constructor
  · rintro ⟨index, here, id, node, located, rfl⟩
    exact ⟨here, located⟩
  · rintro ⟨here, located⟩
    exact ⟨_, here, _, _, located, rfl⟩

theorem table_eq_ok {found : FoundTable} {missing : Fault} :
    contents.table catalog db table missing = .ok found ↔
      contents.database catalog db = .ok found.db ∧
      found.db.node.tables.resolve .table table = .ok found.id ∧
      found.db.node.tables.node? found.id = some found.node := by
  simp only [Contents.table, bind_eq_ok, Prod.exists, Index.find_eq_ok,
    pure, Except.pure, Except.ok.injEq]
  constructor
  · rintro ⟨db, here, id, node, located, rfl⟩
    exact ⟨here, located⟩
  · rintro ⟨here, located⟩
    exact ⟨_, here, _, _, located, rfl⟩

theorem getDatabase_eq_ok {record : Database} :
    contents.getDatabase catalog db = .ok record ↔
      catalog ≠ "" ∧ ¬ db.Blank ∧ ∃ found, contents.database catalog db = .ok found ∧
      found.node.record = record := by
  simp only [getDatabase, bind_eq_ok, Request.requireCatalog_eq_ok,
    Request.requireIdent_eq_ok, exists_const, pure, Except.pure, Except.ok.injEq]

theorem getTable_eq_ok {record : Table} :
    contents.getTable catalog db table = .ok record ↔
      (catalog ≠ "" ∧ ¬ db.Blank ∧ ¬ table.Blank) ∧
      ∃ found, contents.table catalog db table (.absent ("table " ++ table.text)) = .ok found ∧
      found.node.record = record := by
  simp only [getTable, bind_eq_ok, Request.requireTable_eq_ok,
    exists_const, pure, Except.pure, Except.ok.injEq]

theorem findTables_eq_ok {shown : List String} {records : List Table} :
    contents.findTables catalog db shown = .ok records ↔
      catalog ≠ "" ∧ ¬ db.Blank ∧ ∃ found, contents.database catalog db = .ok found ∧
      (found.node.tables.entries.toList.map fun row =>
        Projectable.project row.2.record shown []) = records := by
  simp only [findTables, bind_eq_ok, Request.requireCatalog_eq_ok,
    Request.requireIdent_eq_ok, exists_const, pure, Except.pure, Except.ok.injEq]

/-- A partition as readers see it. -/
def shownPartition (record : Partition) (owner : Table) (shown : List String) : Partition :=
  let record := Projectable.project record.fillLocation shown []
  if admits shown [] tablePath then { record with table := some owner } else record

theorem getPartition_eq_ok {values shown : List String} {record : Partition} :
    contents.getPartition catalog db table values shown = .ok record ↔
      (catalog ≠ "" ∧ ¬ db.Blank ∧ ¬ table.Blank) ∧ Request.joinValues values ≠ "" ∧
      ∃ found, contents.scope catalog db table = .ok found ∧
      ∃ kept, (found.node.shelf.getD {}).rows.find?
          (Bytes.ofText (Request.joinValues values)) = some kept ∧
        shownPartition kept found.node.record shown = record := by
  simp only [getPartition, bind_eq_ok, Request.requireTable_eq_ok,
    Request.partitionKey_eq_ok, exists_const]
  constructor
  · rintro ⟨formed, _, ⟨rfl, some⟩, found, here, done⟩
    refine ⟨formed, some, found, here, ?_⟩
    split at done
    next => cases done
    next kept row => exact ⟨kept, row, Except.ok.inj done⟩
  · rintro ⟨formed, some, found, here, kept, row, rfl⟩
    refine ⟨formed, _, ⟨rfl, some⟩, found, here, ?_⟩
    rw [row]
    rfl

/-- The records of a table that a filter of keys picks, all of them if it is empty. -/
def picked (rows : SortedMap Bytes Partition) (keys : List String) : List Partition :=
  if keys.isEmpty then rows.toList.map (·.2) else keys.filterMap fun key =>
    rows.find? (Bytes.ofText key)

theorem findPartitions_eq_ok {listing : PartitionListing} {records : List Partition} :
    contents.findPartitions catalog db table listing = .ok records ↔
      (catalog ≠ "" ∧ ¬ db.Blank ∧ ¬ table.Blank) ∧
      ∃ keys, Request.partitionKeys listing.filter = .ok keys ∧
      ∃ found, contents.scope catalog db table = .ok found ∧
      attachToFirst (if admits listing.shown listing.hidden tablePath then some found.node.record
        else none) ((picked (found.node.shelf.getD {}).rows keys).map fun record =>
          Projectable.project record.fillLocation listing.shown listing.hidden) = records := by
  simp only [findPartitions, picked, bind_eq_ok, Request.requireTable_eq_ok,
    exists_const, pure, Except.pure, Except.ok.injEq]

theorem createDatabase_eq_ok {record result : Database} :
    contents.createDatabase catalog record fresh = .ok (result, after) ↔
      catalog ≠ "" ∧ nameOf record.ident ≠ "" ∧
      ((contents.find? catalog).getD {}).id? (nameOf record.ident) = none ∧
      result = { record with
        ident := some ⟨nameOf record.ident, fresh⟩,
        sequence := ((contents.find? catalog).getD {}).count + 1 } ∧
      after = contents.insert catalog (((contents.find? catalog).getD {}).add
        (nameOf record.ident) fresh { record := result }) := by
  simp only [createDatabase, bind_eq_ok, Request.requireCatalog_eq_ok,
    Request.requireName_eq_ok, exists_const]
  constructor
  · rintro ⟨some, _, ⟨rfl, named⟩, done⟩
    obtain ⟨free, done⟩ := free_eq_ok.1 done
    cases done
    exact ⟨some, named, by simpa using free, rfl, rfl⟩
  · rintro ⟨some, named, free, rfl, rfl⟩
    exact ⟨some, _, ⟨rfl, named⟩, free_eq_ok.2 ⟨by rw [free]; rfl, rfl⟩⟩

theorem alterDatabase_eq_ok {changes result : Database} :
    contents.alterDatabase catalog db changes = .ok (result, after) ↔
      catalog ≠ "" ∧ ¬ db.Blank ∧ ∃ found, contents.database catalog db = .ok found ∧
      result = found.node.record.alter changes ∧
      after = contents.setDatabase catalog found { found.node with record := result } := by
  simp only [alterDatabase, bind_eq_ok, Request.requireCatalog_eq_ok,
    Request.requireIdent_eq_ok, exists_const]
  constructor
  · rintro ⟨some, formed, found, here, done⟩
    cases done
    exact ⟨some, formed, found, here, rfl, rfl⟩
  · rintro ⟨some, formed, found, here, rfl, rfl⟩
    exact ⟨some, formed, found, here, rfl⟩

theorem dropDatabase_eq_ok {result : Unit} :
    contents.dropDatabase catalog db = .ok (result, after) ↔
      catalog ≠ "" ∧ ¬ db.Blank ∧ ∃ found, contents.database catalog db = .ok found ∧
      after = contents.insert catalog
        (found.index.remove (nameOf found.node.record.ident) found.id) := by
  simp only [dropDatabase, bind_eq_ok, Request.requireCatalog_eq_ok,
    Request.requireIdent_eq_ok, exists_const]
  constructor
  · rintro ⟨some, formed, found, here, done⟩
    cases done
    exact ⟨some, formed, found, here, rfl⟩
  · rintro ⟨some, formed, found, here, rfl⟩
    exact ⟨some, formed, found, here, rfl⟩

theorem createTable_eq_ok {record result : Table} :
    contents.createTable catalog db record fresh = .ok (result, after) ↔
      (catalog ≠ "" ∧ ¬ db.Blank) ∧ nameOf record.ident ≠ "" ∧
      ∃ found, contents.database catalog db = .ok found ∧
      found.node.tables.id? (nameOf record.ident) = none ∧
      result = { record with
        ident := some ⟨nameOf record.ident, fresh⟩, sequence := found.node.tables.count + 1 } ∧
      after = contents.setTables catalog found
        (found.node.tables.add (nameOf record.ident) fresh { record := result }) := by
  simp only [createTable, bind_eq_ok, Request.requireCatalog_eq_ok,
    Request.requireIdent_eq_ok, Request.requireName_eq_ok, exists_const]
  constructor
  · rintro ⟨some, formed, _, ⟨rfl, named⟩, found, here, done⟩
    obtain ⟨free, done⟩ := free_eq_ok.1 done
    cases done
    exact ⟨⟨some, formed⟩, named, found, here, by simpa using free, rfl, rfl⟩
  · rintro ⟨⟨some, formed⟩, named, found, here, free, rfl, rfl⟩
    exact ⟨some, formed, _, ⟨rfl, named⟩, found, here, free_eq_ok.2 ⟨by rw [free]; rfl, rfl⟩⟩

theorem dropTable_eq_ok {result : Unit} :
    contents.dropTable catalog db table = .ok (result, after) ↔
      (catalog ≠ "" ∧ ¬ db.Blank ∧ ¬ table.Blank) ∧
      ∃ found, contents.table catalog db table (.absent ("table " ++ table.text)) = .ok found ∧
      after = contents.setTables catalog found.db
        (found.db.node.tables.remove (nameOf found.node.record.ident) found.id) := by
  simp only [dropTable, bind_eq_ok, Request.requireTable_eq_ok, exists_const]
  constructor
  · rintro ⟨formed, found, here, done⟩
    cases done
    exact ⟨formed, found, here, rfl⟩
  · rintro ⟨formed, found, here, rfl⟩
    exact ⟨formed, found, here, rfl⟩

/-- What is stored of a partition that a caller gives. -/
def kept (fill : Bool) (record : Partition) (fresh : String) (sequence : UInt64) : Partition :=
  let record := { record with table := none, id := fresh }
  { if fill then record.fillLocation else record with sequence }

theorem addPartition_eq_ok {fill : Bool} {record result : Partition} :
    contents.addPartition fill catalog db table record fresh = .ok (result, after) ↔
      (catalog ≠ "" ∧ ¬ db.Blank ∧ ¬ table.Blank) ∧ Request.joinValues record.values ≠ "" ∧
      ∃ found, contents.scope catalog db table = .ok found ∧
      (found.node.shelf.getD {}).rows.find?
        (Bytes.ofText (Request.joinValues record.values)) = none ∧
      result = kept fill record fresh ((found.node.shelf.getD {}).count + 1) ∧
      after = contents.setShelf catalog found ⟨(found.node.shelf.getD {}).count + 1,
        (found.node.shelf.getD {}).rows.insert
          (Bytes.ofText (Request.joinValues record.values)) result⟩ := by
  simp only [addPartition, bind_eq_ok, Request.requireTable_eq_ok,
    Request.partitionKey_eq_ok, exists_const]
  constructor
  · rintro ⟨formed, _, ⟨rfl, some⟩, found, here, done⟩
    obtain ⟨free, done⟩ := free_eq_ok.1 done
    cases done
    exact ⟨formed, some, found, here, by simpa using free, rfl, rfl⟩
  · rintro ⟨formed, some, found, here, free, rfl, rfl⟩
    exact ⟨formed, _, ⟨rfl, some⟩, found, here, free_eq_ok.2 ⟨by rw [free]; rfl, rfl⟩⟩

/-- A drop of no partitions looks for no table. -/
theorem dropPartitions_eq_ok {tuples : List (List String)} {count : Nat} :
    contents.dropPartitions catalog db table tuples = .ok (count, after) ↔
      (catalog ≠ "" ∧ ¬ db.Blank ∧ ¬ table.Blank) ∧
      ∃ keys, Request.partitionKeys tuples = .ok keys ∧ count = keys.length ∧
      ((keys = [] ∧ after = contents) ∨ keys ≠ [] ∧
        ∃ found shelf, contents.scope catalog db table = .ok found ∧ found.node.shelf = some shelf ∧
        (∀ key ∈ keys, (shelf.rows.find? (Bytes.ofText key)).isSome) ∧
        after = contents.setShelf catalog found ⟨shelf.count,
          shelf.rows.removeWhere fun row => (keys.map Bytes.ofText).contains row⟩) := by
  simp only [dropPartitions, bind_eq_ok, Request.requireTable_eq_ok, exists_const]
  refine and_congr_right fun _ => exists_congr fun keys => and_congr_right fun _ => ?_
  cases keys with
  | nil =>
    constructor
    · intro done
      cases done
      exact ⟨rfl, .inl ⟨rfl, rfl⟩⟩
    · rintro ⟨rfl, ⟨-, rfl⟩ | ⟨impossible, -⟩⟩
      · rfl
      · exact absurd rfl impossible
  | cons first rest =>
    simp only [List.isEmpty_cons, Bool.false_eq_true, if_false,
      bind_eq_ok, reduceCtorEq, false_and, false_or, ne_eq, not_false_eq_true, true_and]
    constructor
    · rintro ⟨found, here, done⟩
      split at done
      next => cases done
      next present =>
        cases done
        have held (key : String) (asked : key ∈ first :: rest) :
            ((found.node.shelf.getD {}).rows.find? (Bytes.ofText key)).isSome := by
          simpa [Option.isSome_iff_ne_none] using List.find?_eq_none.1 present key asked
        cases opened : found.node.shelf with
        | none =>
          rw [opened] at held
          exact absurd (held first List.mem_cons_self) Bool.false_ne_true
        | some shelf =>
          rw [opened] at held
          exact ⟨rfl, found, shelf, here, opened, held, rfl⟩
    · rintro ⟨rfl, found, shelf, here, opened, held, rfl⟩
      refine ⟨found, here, ?_⟩
      have present : (first :: rest).find? (fun key =>
        ((found.node.shelf.getD {}).rows.find? (Bytes.ofText key)).isNone) = none :=
        List.find?_eq_none.2 fun key asked => by
          have there := held key asked
          rw [opened]
          simpa [Option.isSome_iff_ne_none] using there
      rw [present, opened]
      rfl

end Contents
end TableCatalog

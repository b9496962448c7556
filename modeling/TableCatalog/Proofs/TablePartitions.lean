import TableCatalog.Proofs.ContentsSuccess
import TableCatalog.Proofs.RegionFrame

/-! The partitions of a table in a store, and what leads to them. Whatever becomes of the
partitions, their table is found and read as before: their rows are apart from those of every index.
All of this holds in every store. -/

namespace TableCatalog

open Region

variable {store after : Store} {found : TableRef} {catalog owner : String} {db table : Ident}

/-- The keys of value tuples, each as often as it is given. -/
def keysOf (tuples : List (List String)) : List String := tuples.map Request.joinValues

private theorem foldl_keys (keys seen : List String) :
    keys.foldl (fun seen key => if seen.contains key then seen else seen ++ [key]) seen =
      seen ++ (keys.filter fun key => !seen.contains key).eraseDups := by
  induction keys generalizing seen with
  | nil => exact (List.append_nil seen).symm
  | cons first rest ih =>
    rw [List.foldl_cons, ih]
    cases known : seen.contains first with
    | true =>
      simp only [if_true, List.filter_cons, known, Bool.not_true, Bool.false_eq_true, if_false]
    | false =>
      have later (key : String) :
          (!(seen ++ [first]).contains key) = (!(key == first) && !seen.contains key) := by
        rw [List.contains_append, Bool.not_or, Bool.and_comm,
          List.contains_cons, List.contains_nil, Bool.or_false]
      simp only [known, Bool.false_eq_true, if_false, List.filter_cons,
        Bool.not_false, if_true, List.eraseDups_cons, List.filter_filter, later,
        List.append_assoc, List.singleton_append]

/-- The keys of tuples that are all accepted, in the order of their first mention. -/
theorem Request.partitionKeys_eq {tuples : List (List String)} (accepted : "" ∉ keysOf tuples) :
    Request.partitionKeys tuples = .ok (keysOf tuples).eraseDups := by
  have joined : tuples.mapM Request.partitionKey = .ok (keysOf tuples) := by
    induction tuples with
    | nil => rfl
    | cons values rest ih =>
      obtain ⟨keyed, others⟩ := not_or.1 (mt List.mem_cons.2 accepted)
      have key : Request.partitionKey values = .ok (Request.joinValues values) :=
        Request.partitionKey_eq_ok.2 ⟨rfl, fun empty => keyed empty.symm⟩
      rw [Request.mapM_cons, key, ih others]
      rfl
  have fresh : (keysOf tuples).filter (fun key => !([] : List String).contains key) =
    keysOf tuples := List.filter_eq_self.2 fun _ _ => rfl
  simp only [Request.partitionKeys, joined, bind, Except.bind, foldl_keys, fresh, List.nil_append]
  rfl

/-- The storage key of a partition. -/
def TableRef.row (found : TableRef) (key : String) : Bytes :=
  found.partitions.entryKey (Bytes.ofText key)

theorem Region.Path.entryKey_injective (path : Path) : Function.Injective path.entryKey :=
  fun _ _ same => List.append_cancel_left same

theorem TableRef.row_injective (found : TableRef) : Function.Injective found.row :=
  found.partitions.entryKey_injective.comp fun _ _ same => Bytes.ofText_injective same

theorem TableRef.partition?_eq (found : TableRef) (store : Store) (key : String) :
    found.partition? store key = if store.hasRegion found.partitions
      then store.entries.find? (found.row key) else none := rfl

theorem openCatalog_found {level : Level} : openCatalog store catalog = .ok level ↔
    store.hasRegion (Level.catalog catalog).root = true ∧
    (Level.catalog catalog).check store = .ok () ∧ level = Level.catalog catalog := by
  unfold openCatalog
  rw [free_eq_ok, bind_eq_ok, Bool.not_eq_false']
  constructor
  · intro ⟨there, _, checked, same⟩
    exact ⟨there, checked, (Except.ok.inj same).symm⟩
  · intro ⟨there, checked, same⟩
    exact ⟨there, _, checked, same ▸ rfl⟩

theorem openDatabase_found {level : Level} : openDatabase store catalog db = .ok level ↔
    openCatalog store catalog = .ok (Level.catalog catalog) ∧
      ∃ owner, resolve store (Level.catalog catalog) .database db = .ok owner ∧
      store.hasRegion (Level.database catalog owner).root = true ∧
      (Level.database catalog owner).check store = .ok () ∧
      level = Level.database catalog owner := by
  unfold openDatabase
  simp only [bind_eq_ok, free_eq_ok, Bool.not_eq_false']
  constructor
  · intro ⟨_, opened, owner, resolved, there, _, checked, same⟩
    obtain ⟨-, -, rfl⟩ := openCatalog_found.1 opened
    exact ⟨opened, owner, resolved, there, checked, (Except.ok.inj same).symm⟩
  · intro ⟨opened, owner, resolved, there, checked, same⟩
    exact ⟨_, opened, owner, resolved, there, _, checked, same ▸ rfl⟩

/-- What leads to a table that is found. -/
theorem openTable_found : openTable store catalog db table = .ok found ↔
    openDatabase store catalog db = .ok found.level ∧
      resolve store found.level .table table = .ok found.id ∧
      (store.get? found.level.byId (Bytes.ofText found.id)).isSome = true := by
  unfold openTable
  simp only [bind_eq_ok]
  constructor
  · intro ⟨level, opened, id, resolved, ran⟩
    by_cases listed : (store.get? level.byId (Bytes.ofText id)).isSome = true
    · rw [if_pos listed] at ran
      cases ran
      exact ⟨opened, resolved, listed⟩
    · rw [if_neg listed] at ran
      split at ran <;> cases ran
  · intro ⟨opened, resolved, listed⟩
    exact ⟨_, opened, _, resolved, if_pos listed⟩

/-- The stores differ in nothing but the partitions of the table. -/
structure TableRef.Alters (found : TableRef) (store after : Store) : Prop where
  regions : after.regions = store.regions
  entries : ∀ row, (∀ key, row ≠ found.partitions.entryKey key) →
    after.entries.find? row = store.entries.find? row

namespace TableRef.Alters

theorem put (found : TableRef) (store : Store) (key value : Bytes) :
    found.Alters store (store.put found.partitions key value) where
  regions := rfl
  entries row apart := by rw [Store.put, SortedMap.find?_insert, if_neg (apart key)]

variable (alters : found.Alters store after)
include alters

theorem hasRegion (path : Path) : after.hasRegion path = store.hasRegion path := by
  rw [Store.hasRegion, alters.regions]
  rfl

/-- No index has a row of a partition. -/
theorem get?_index (here : found.level = Level.database catalog owner) {path : Path}
    (index : path = (Level.catalog catalog).byName ∨ path = found.level.byName ∨
      path = found.level.byId) (key : Bytes) :
    after.get? path key = store.get? path key := by
  refine alters.entries _ fun other same => ?_
  rw [TableRef.partitions, here] at same
  rw [here] at index
  obtain rfl | rfl | rfl := index
  · exact Path.entryKey_ne_of_parting catalog [] (s := "BYNAME")
      (t := "DB") (by decide) (by decide) (by decide) _ _ _ _ same
  · exact Path.entryKey_ne_of_parting catalog ["DB", owner] (s := "BYNAME")
      (t := "TBLS") (by decide) (by decide) (by decide) _ _ _ _ same
  · exact Path.entryKey_ne_of_parting catalog ["DB", owner] (s := "BYID")
      (t := "TBLS") (by decide) (by decide) (by decide) _ _ _ _ same

theorem openTable (opened : openTable store catalog db table = .ok found) :
    openTable after catalog db table = .ok found := by
  obtain ⟨inside, resolved, listed⟩ := openTable_found.1 opened
  obtain ⟨begun, owner, placed, there, checked, here⟩ := openDatabase_found.1 inside
  obtain ⟨root, whole, -⟩ := openCatalog_found.1 begun
  have checks (level : Level) : level.check after = level.check store := by
    simp only [Level.check, alters.hasRegion]
  have resolves {level : Level} (entity : Entity) (ident : Ident)
    (same : ∀ key, after.get? level.byName key = store.get? level.byName key) :
      resolve after level entity ident = resolve store level entity ident := by
        simp only [resolve, same]
  apply openTable_found.2
  refine ⟨openDatabase_found.2 ⟨openCatalog_found.2 ⟨?_, ?_, rfl⟩, owner, ?_, ?_, ?_, here⟩, ?_, ?_⟩
  · rwa [alters.hasRegion]
  · rwa [checks]
  · rwa [resolves _ _ (alters.get?_index here (.inl rfl))]
  · rwa [alters.hasRegion]
  · rwa [checks]
  · rwa [resolves _ _ (alters.get?_index here (.inr (.inl rfl)))]
  · rwa [alters.get?_index here (.inr (.inr rfl))]

theorem read (opened : TableCatalog.openTable store catalog db table = .ok found) :
    found.read after = found.read store := by
  obtain ⟨inside, -, -⟩ := openTable_found.1 opened
  obtain ⟨-, owner, -, -, -, here⟩ := openDatabase_found.1 inside
  unfold TableRef.read
  rw [alters.get?_index here (.inr (.inr rfl))]

end TableRef.Alters
end TableCatalog

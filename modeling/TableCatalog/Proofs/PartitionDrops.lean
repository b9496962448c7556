import Mathlib.Data.List.Find
import TableCatalog.Proofs.ContentsChanges
import TableCatalog.Proofs.TablePartitions

/-! Partitions that are dropped together. They are deleted one after
another, and the first that is missing undoes what was deleted before it:
a drop takes all of them or none. All of this holds in every store. -/

namespace TableCatalog

open Region

variable {store after middle : Store} {path : Path} {found : TableRef}
  {key : String} {keys others : List String}

theorem regions_deleteAll (store : Store) (path : Path) (keys : List Bytes) :
    (deleteAll store path keys).regions = store.regions := by
  unfold deleteAll
  induction keys generalizing store with
  | nil => rfl
  | cons key rest ih => exact ih _

theorem find?_deleteAll (store : Store) (path : Path) (keys : List Bytes) (row : Bytes) :
    (deleteAll store path keys).entries.find? row = if row ∈ keys.map path.entryKey
      then none else store.entries.find? row := by
  unfold deleteAll
  induction keys generalizing store with
  | nil => rfl
  | cons key rest ih =>
    rw [List.foldl_cons, ih, Store.delete, SortedMap.find?_erase, List.map_cons]
    by_cases here : row = path.entryKey key <;> simp [here]

/-- The partitions under these keys were all in the table, and they alone are gone. -/
structure TableRef.Loses (found : TableRef) (keys : List String) (store after : Store) : Prop where
  present : ∀ key ∈ keys, (found.partition? store key).isSome = true
  regions : after.regions = store.regions
  entries : ∀ row, after.entries.find? row = if row ∈ keys.map found.row
    then none else store.entries.find? row

namespace TableRef.Loses

theorem deleteAll (present : ∀ key ∈ keys, (found.partition? store key).isSome = true) :
    found.Loses keys store
      (TableCatalog.deleteAll store found.partitions (keys.map Bytes.ofText)) where
  present := present
  regions := regions_deleteAll store _ _
  entries row := by
    rw [find?_deleteAll, List.map_map]
    rfl

theorem alters (loses : found.Loses keys store after) : found.Alters store after where
  regions := loses.regions
  entries row apart := by
    have kept : row ∉ keys.map found.row := by
      intro held
      obtain ⟨key, -, rfl⟩ := List.mem_map.1 held
      exact apart _ rfl
    rw [loses.entries, if_neg kept]

theorem partition? (loses : found.Loses keys store after) (key : String) :
    found.partition? after key = if key ∈ keys then none else found.partition? store key := by
  have inside : found.row key ∈ keys.map found.row ↔ key ∈ keys := by
    simp [found.row_injective.eq_iff]
  simp only [partition?_eq, loses.alters.hasRegion, loses.entries, inside]
  split <;> split <;> rfl

/-- Neither the order of the keys matters nor how often each is given. -/
theorem congr (loses : found.Loses keys store after) (same : ∀ key, key ∈ others ↔ key ∈ keys) :
    found.Loses others store after where
  present key held := loses.present key ((same key).1 held)
  regions := loses.regions
  entries row := by
    have rows : row ∈ others.map found.row ↔ row ∈ keys.map found.row := by
      simp only [List.mem_map, same]
    simp only [loses.entries, rows]

theorem unique {other : Store} (loses : found.Loses keys store after)
    (also : found.Loses keys store other) : after = other := by
  obtain ⟨regions, entries⟩ := after
  obtain ⟨otherRegions, otherEntries⟩ := other
  congr 1
  · exact loses.regions.trans also.regions.symm
  · apply SortedMap.ext_find?
    intro row
    exact (loses.entries row).trans (also.entries row).symm

/-- Partitions may be lost in two goes. -/
theorem cons (first : found.Loses [key] store middle) (rest : found.Loses keys middle after) :
    found.Loses (key :: keys) store after where
  present other held := by
    obtain rfl | later := List.mem_cons.1 held
    · exact first.present _ List.mem_cons_self
    · have there := rest.present other later
      rw [first.partition?] at there
      split at there
      · cases there
      · exact there
  regions := rest.regions.trans first.regions
  entries row := by
    rw [rest.entries, first.entries]
    by_cases here : row = found.row key <;> simp [here]

end TableRef.Loses

/-- Drops the partition under one key. -/
def dropKey (present : Bool) (path : Path) (fault : String → Fault) (key : String) :
    Update Unit := do
  let dropped ← if present then Update.delete path (Bytes.ofText key) else pure false
  if !dropped then throw (fault key)

theorem dropKey_eq (present : Bool) (path : Path) (fault : String → Fault)
    (key : String) (store : Store) :
    dropKey present path fault key store =
      if present && (store.get? path (Bytes.ofText key)).isSome
        then .ok ((), store.delete path (Bytes.ofText key)) else .error (fault key) := by
  cases present with
  | false => rfl
  | true =>
    have ran : dropKey true path fault key store =
        (if !(store.get? path (Bytes.ofText key)).isSome then throw (fault key)
            else pure () : Update Unit) (store.delete path (Bytes.ofText key)) := rfl
    rw [ran]
    cases (store.get? path (Bytes.ofText key)).isSome <;> rfl

/-- Different keys are removed one after another, up to the first that is missing. -/
theorem dropKeys_eq (present : Bool) (path : Path) (fault : String → Fault)
    {keys : List String} (distinct : keys.Nodup) (store : Store) :
    (keys.forM (dropKey present path fault)) store =
      match keys.find? fun key => !(present && (store.get? path (Bytes.ofText key)).isSome) with
      | some key => .error (fault key)
      | none => .ok ((), deleteAll store path (keys.map Bytes.ofText)) := by
  rw [List.forM_eq_forM]
  induction keys generalizing store with
  | nil => rfl
  | cons key rest ih =>
    obtain ⟨apart, distinct⟩ := List.nodup_cons.1 distinct
    -- A delete hides no other key, so what is missing later was missing from the start.
    have later : rest.find? (fun other => !(present && ((store.delete path (Bytes.ofText key)).get?
      path (Bytes.ofText other)).isSome)) =
        rest.find? fun other => !(present && (store.get? path (Bytes.ofText other)).isSome) := by
      refine List.find?_congr fun other held => ?_
      have different : path.entryKey (Bytes.ofText other) ≠ path.entryKey (Bytes.ofText key) :=
        fun same =>
        apart (Bytes.ofText_injective (path.entryKey_injective same) ▸ held)
      rw [Store.get?, Store.delete, SortedMap.find?_erase, if_neg different]
      rfl
    simp only [List.forM_cons, bind, StateT.bind, Except.bind, dropKey_eq, List.find?_cons]
    cases present && (store.get? path (Bytes.ofText key)).isSome with
    | false => rfl
    | true =>
      simp only [if_true, ih distinct, later, Bool.not_true]
      rfl

theorem Region.Update.check_bind {α β : Type} (check : Except Fault α)
    (next : α → Update β) (store : Store) :
    (liftM check >>= next : Update β) store = check >>= fun value => next value store := by
  cases check <;> rfl

theorem Region.Update.read_bind {α β : Type} (lookup : Store → Except Fault α)
    (next : α → Update β) (store : Store) :
    (Update.read lookup >>= next : Update β) store = lookup store >>= fun value =>
      next value store :=
  check_bind (lookup store) next store

theorem TableRef.none_missing : (keys.find? fun key => (found.partition? store key).isNone) = none ↔
    ∀ key ∈ keys, (found.partition? store key).isSome = true := by
  simp only [List.find?_eq_none, Bool.not_eq_true, Option.isNone_eq_false_iff]

/-- All partitions are looked for in the store as it was. -/
theorem dropPartitions_eq (catalog : String) (db table : Ident)
    (tuples : List (List String)) (store : Store) :
    dropPartitions catalog db table tuples store = (do
      Request.requireTable catalog db table
      let keys ← Request.partitionKeys tuples
      if keys.isEmpty then return (0, store)
      let found ← openTable store catalog db table
      match keys.find? fun key => (found.partition? store key).isNone with
      | some key => throw (.absent (partitionText db table key))
      | none =>
        return (keys.length, deleteAll store found.partitions (keys.map Bytes.ofText))) := by
  unfold dropPartitions
  rw [Update.check_bind]
  refine bind_congr fun _ => ?_
  rw [Update.check_bind]
  cases joined : Request.partitionKeys tuples with
  | error fault => rfl
  | ok keys =>
    show (if keys.isEmpty then pure 0
        else Update.read (fun store => openTable store catalog db table) >>= _ : Update Nat) store =
      if keys.isEmpty then pure (0, store) else openTable store catalog db table >>= _
    cases keys.isEmpty with
    | true => rfl
    | false =>
      simp only [Bool.false_eq_true, if_false]
      rw [Update.read_bind]
      refine bind_congr fun found => ?_
      have dropped := dropKeys_eq (store.hasRegion found.partitions) found.partitions
        (fun key => .absent (partitionText db table key)) (Request.nodup_partitionKeys joined) store
      have missing (key : String) : (!(store.hasRegion
        found.partitions && (store.get? found.partitions (Bytes.ofText key)).isSome)) =
          (found.partition? store key).isNone := by
        unfold TableRef.partition?
        cases store.hasRegion found.partitions <;> simp
      simp only [missing] at dropped
      show (keys.forM (dropKey (store.hasRegion found.partitions) found.partitions _) >>= fun _ =>
        pure keys.length : Update Nat) store = _
      simp only [bind, StateT.bind, dropped]
      cases keys.find? fun key => (found.partition? store key).isNone <;> rfl

/-- A drop goes through if the request is well formed and all that it asks for is there. One that
asks for nothing looks nothing up. -/
theorem dropPartitions_done {catalog : String} {db table : Ident}
    {tuples : List (List String)} {count : Nat} :
    dropPartitions catalog db table tuples store = .ok (count, after) ↔
      Request.requireTable catalog db table = .ok () ∧
        ∃ keys, Request.partitionKeys tuples = .ok keys ∧ count = keys.length ∧
        (keys = [] ∧ after = store ∨ keys ≠ [] ∧ ∃ found,
          openTable store catalog db table = .ok found ∧ found.Loses keys store after) := by
  rw [dropPartitions_eq]
  simp only [bind_eq_ok]
  constructor
  · intro ⟨_, formed, keys, joined, ran⟩
    refine ⟨formed, keys, joined, ?_⟩
    cases keys with
    | nil =>
      cases ran
      exact ⟨rfl, .inl ⟨rfl, rfl⟩⟩
    | cons key rest =>
      obtain ⟨found, opened, ran⟩ := bind_eq_ok.1 ran
      cases lost : (key :: rest).find? fun key => (found.partition? store key).isNone with
      | some missing =>
        rw [lost] at ran
        cases ran
      | none =>
        rw [lost] at ran
        cases ran
        exact ⟨rfl, .inr ⟨List.cons_ne_nil key rest, found, opened,
          .deleteAll (TableRef.none_missing.1 lost)⟩⟩
  · intro ⟨formed, keys, joined, counted, taken⟩
    refine ⟨(), formed, keys, joined, ?_⟩
    obtain ⟨rfl, rfl⟩ | ⟨some, found, opened, loses⟩ := taken
    · subst counted
      rfl
    · rw [if_neg (by simpa using some), bind_eq_ok]
      refine ⟨found, opened, ?_⟩
      rw [TableRef.none_missing.2 loses.present, counted, loses.unique (.deleteAll loses.present)]
      rfl

end TableCatalog

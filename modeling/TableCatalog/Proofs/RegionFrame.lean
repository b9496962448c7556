import TableCatalog.Region.Store
import TableCatalog.Proofs.MapContents
import TableCatalog.Proofs.PathKey

/-! A store seen through paths: the counter of each region and the
value under each key. Every change is one equation about these two
views, so what a change leaves alone is read off its equation. -/

namespace TableCatalog.Region.Store

variable {store : Store} {p q : Path}

/-- The counter of a region, if it exists. -/
def counter? (store : Store) (path : Path) : Option UInt64 := store.regions.find? path.encode

theorem hasRegion_eq (store : Store) (path : Path) :
    store.hasRegion path = (store.counter? path).isSome := rfl

/-- Puts a region with this counter, in place of what was there. -/
def setCounter (store : Store) (path : Path) (count : UInt64) : Store :=
  { store with regions := store.regions.insert path.encode count }

theorem counter?_setCounter (first : p.Short) (second : q.Short) (count : UInt64) :
    (store.setCounter p count).counter? q = if q = p then some count else store.counter? q := by
  simp only [counter?, setCounter, SortedMap.find?_insert, Path.encode_inj second first]

/-- Creating a region gives it a counter only if it has none. -/
theorem createRegion_eq (store : Store) (path : Path) :
    store.createRegion path = if store.hasRegion path then store else store.setCounter path 0 := rfl

theorem counter?_createRegion (first : p.Short) (second : q.Short) :
    (store.createRegion p).counter? q = if q = p then some ((store.counter? p).getD 0)
      else store.counter? q := by
  rw [createRegion_eq, hasRegion_eq]
  cases held : store.counter? p with
  | none => simp [counter?_setCounter first second]
  | some count =>
    by_cases same : q = p
    · simp [same, held]
    · simp [same]

@[simp] theorem counter?_put (path : Path) (key value : Bytes) :
    (store.put path key value).counter? q = store.counter? q := rfl

@[simp] theorem counter?_delete (path : Path) (key : Bytes) :
    (store.delete path key).counter? q = store.counter? q := rfl

theorem counter?_deleteRegion (first : p.Short) (second : q.Short) :
    (store.deleteRegion p).counter? q = if q.Within p then none else store.counter? q := by
  simp only [counter?, deleteRegion, SortedMap.find?_removeWhere, Bytes.inPrefixRange_iff,
    Path.encode_start_encode_iff first second]

/-- Only the counter of a region that exists advances. -/
theorem nextSequence_eq (store : Store) (path : Path) :
    store.nextSequence path =
      match store.counter? path with
      | none => .error (.lost ("region " ++ path.text))
      | some count => .ok (count + 1, store.setCounter path (count + 1)) := rfl

@[simp] theorem get?_setCounter (path : Path) (count : UInt64) (key : Bytes) :
    (store.setCounter path count).get? q key = store.get? q key := rfl

@[simp] theorem get?_createRegion (path : Path) (key : Bytes) :
    (store.createRegion path).get? q key = store.get? q key := by
  rw [createRegion_eq]
  split <;> rfl

theorem get?_put (first : p.Short) (second : q.Short) (key value other : Bytes) :
    (store.put p key value).get? q other = if q = p ∧ other = key
      then some value else store.get? q other := by
  simp only [get?, put, SortedMap.find?_insert, Path.entryKey_inj second first]

theorem get?_delete (first : p.Short) (second : q.Short) (key other : Bytes) :
    (store.delete p key).get? q other = if q = p ∧ other = key
      then none else store.get? q other := by
  simp only [get?, delete, SortedMap.find?_erase, Path.entryKey_inj second first]

theorem get?_deleteRegion (first : p.Short) (second : q.Short) (key : Bytes) :
    (store.deleteRegion p).get? q key = if q.Within p then none else store.get? q key := by
  simp only [get?, deleteRegion, SortedMap.find?_removeWhere, Bytes.inPrefixRange_iff,
    Path.encode_start_entryKey_iff first second]

private theorem inPrefixRange_stem_iff (path : Path) (row : Bytes) :
    Bytes.inPrefixRange path.entryStem row = true ↔
    row = path.entryKey (row.drop path.entryStem.length) := by
  rw [Bytes.inPrefixRange_iff]
  constructor
  · rintro ⟨key, rfl⟩
    exact (congrArg path.entryKey (Path.drop_entryKey path key)).symm
  · intro same
    exact ⟨_, same.symm⟩

/-- A scan of a region yields the entries put under that very path. -/
theorem mem_scan (store : Store) (path : Path) (key value : Bytes) :
    (key, value) ∈ store.scan path ↔ store.get? path key = some value := by
  simp only [scan, List.mem_map, List.mem_filter, inPrefixRange_stem_iff,
    get?, SortedMap.find?_eq_some_iff]
  constructor
  · rintro ⟨⟨row, content⟩, ⟨held, address⟩, same⟩
    obtain ⟨rfl, rfl⟩ := Prod.mk.inj same
    exact address ▸ held
  · intro held
    exact ⟨_, ⟨held, by rw [Path.drop_entryKey]⟩, by rw [Path.drop_entryKey]⟩

theorem scan_sorted (store : Store) (path : Path) : (store.scan path).Pairwise (·.1 < ·.1) := by
  refine List.pairwise_map.2 (List.Pairwise.imp_of_mem (fun {row other} held otherHeld less => ?_)
    (store.entries.sorted.filter _))
  have address := (inPrefixRange_stem_iff path row.1).1 (List.mem_filter.1 held).2
  have otherAddress := (inPrefixRange_stem_iff path other.1).1 (List.mem_filter.1 otherHeld).2
  rw [address, otherAddress] at less
  exact (Path.entryKey_lt_iff path _ _).1 less

/-- Every row is the row of a path whose segments are short. -/
structure Keyed (store : Store) : Prop where
  regions : ∀ key count, store.regions.find? key = some count →
    ∃ path : Path, path.Short ∧ key = path.encode
  entries : ∀ key value, store.entries.find? key = some value →
    ∃ (path : Path) (entry : Bytes), path.Short ∧ key = path.entryKey entry

theorem Keyed.empty : Keyed ∅ where
  regions _ _ impossible := by cases impossible
  entries _ _ impossible := by cases impossible

theorem Keyed.setCounter (keyed : Keyed store) (short : p.Short) (count : UInt64) :
    Keyed (store.setCounter p count) := by
  refine ⟨?_, keyed.entries⟩
  intro key found held
  simp only [Store.setCounter, SortedMap.find?_insert] at held
  split at held
  next same => exact ⟨p, short, same⟩
  next => exact keyed.regions key found held

theorem Keyed.put (keyed : Keyed store) (short : p.Short) (key value : Bytes) :
    Keyed (store.put p key value) := by
  refine ⟨keyed.regions, ?_⟩
  intro row found held
  simp only [Store.put, SortedMap.find?_insert] at held
  split at held
  next same => exact ⟨p, key, short, same⟩
  next => exact keyed.entries row found held

theorem Keyed.delete (keyed : Keyed store) (path : Path) (key : Bytes) :
    Keyed (store.delete path key) := by
  refine ⟨keyed.regions, ?_⟩
  intro row found held
  simp only [Store.delete, SortedMap.find?_erase] at held
  split at held
  · cases held
  · exact keyed.entries row found held

theorem Keyed.deleteRegion (keyed : Keyed store) (path : Path) :
    Keyed (store.deleteRegion path) := by
  refine ⟨?_, ?_⟩
  all_goals
    intro key value held
    simp only [Store.deleteRegion, SortedMap.find?_removeWhere] at held
    split at held
    · cases held
  · exact keyed.regions key value held
  · exact keyed.entries key value held

end TableCatalog.Region.Store

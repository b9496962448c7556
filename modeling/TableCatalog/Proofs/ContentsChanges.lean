import TableCatalog.Proofs.LevelChanges

/-! Changes of single entities as changes of a whole store. Levels come
into being with all their regions, a shelf with its first row, and whatever
happens in one part of the tree leaves the rest of the contents. -/

namespace TableCatalog

open Region

variable {ε ρ : Type} [Wire.Message ρ] [Node ε ρ] {store after : Store}
  {level : Level} {index : Index ε} {path : Path}

def createAll (store : Store) (regions : List Path) : Store :=
  regions.foldl Store.createRegion store

theorem get?_createAll (store : Store) (regions : List Path) (key : Bytes) :
    (createAll store regions).get? path key = store.get? path key := by
  unfold createAll
  induction regions generalizing store with
  | nil => rfl
  | cons region rest ih => rw [List.foldl_cons, ih, Store.get?_createRegion]

theorem counter?_createAll (store : Store) {regions : List Path}
    (short : path.Short) (others : ∀ region ∈ regions, region.Short) :
    (createAll store regions).counter? path = if path ∈ regions
      then some ((store.counter? path).getD 0) else store.counter? path := by
  unfold createAll
  induction regions generalizing store with
  | nil => rfl
  | cons region rest ih =>
    rw [List.foldl_cons, ih _ fun other held => others other (List.mem_cons_of_mem _ held),
      Store.counter?_createRegion (others region List.mem_cons_self) short]
    by_cases same : path = region
    · simp [same]
    · simp [same]

theorem changesWithin_createAll {top : Path} (store : Store) {regions : List Path}
    (short : ∀ region ∈ regions, region.Short) (inside : ∀ region ∈ regions, region.Within top) :
    ChangesWithin top store (createAll store regions) := by
  unfold createAll
  induction regions generalizing store with
  | nil => exact .refl top store
  | cons region rest ih =>
    have rest := ih (store.createRegion region) (fun other held =>
      short other (List.mem_cons_of_mem _ held))
      fun other held => inside other (List.mem_cons_of_mem _ held)
    exact (ChangesWithin.createRegion (short region List.mem_cons_self)
      (inside region List.mem_cons_self)).trans rest

theorem createAll_of_exist {regions : List Path}
    (exist : ∀ region ∈ regions, store.hasRegion region = true) :
    createAll store regions = store := by
  unfold createAll
  induction regions with
  | nil => rfl
  | cons region rest ih =>
    rw [List.foldl_cons, Store.createRegion_eq, if_pos (exist region List.mem_cons_self)]
    exact ih fun other held => exist other (List.mem_cons_of_mem _ held)

theorem Level.create_eq (level : Level) (store : Store) :
    level.create store = .ok ((), createAll store level.regions) := rfl

theorem Level.Short.regions (short : level.Short) : ∀ region ∈ level.regions, region.Short := by
  simpa [Level.regions] using And.intro short.root ⟨short.byName, short.byId, short.children⟩

theorem Level.regions_within (level : Level) :
    ∀ region ∈ level.regions, region.Within level.root := by
  simp [Level.regions, Level.byName, Level.byId, Level.children,
    Path.Within, Path.child, Path.segments]

theorem Level.extend_mem_regions (level : Level) {below : List String} :
    level.root.extend below ∈ level.regions ↔
    below = [] ∨ below = ["BYNAME"] ∨ below = ["BYID"] ∨ below = [level.inside] := by
  have root : level.root = level.root.extend [] := level.root.extend_nil.symm
  have segment (text : String) : level.root.child text = level.root.extend [text] := rfl
  simp only [Level.regions, Level.byName, Level.byId, Level.children,
    segment, List.mem_cons, List.not_mem_nil, or_false, Path.extend_inj]
  rw [← level.root.extend_inj (x := below) (y := []), level.root.extend_nil]

namespace Shows

/-- Where nothing was, creating a level makes an index that holds nothing. -/
private theorem create_first (shows : Shows store level.root .nothing) (short : level.Short) :
    Shows (createAll store level.regions) level.root (({} : Index ε).layout level.inside) := by
  intro below shortBelow
  rw [counter?_createAll store shortBelow short.regions, shows.counter shortBelow]
  constructor
  · simp only [level.extend_mem_regions]
    rcases below with _ | ⟨segment, _ | ⟨id, rest⟩⟩ <;>
      simp [Index.layout, Layout.nothing, Index.below, Index.node?]
  · intro key
    rw [get?_createAll, shows.entry shortBelow]
    rcases below with _ | ⟨segment, _ | ⟨id, rest⟩⟩ <;>
      simp [Index.layout, Layout.nothing, Index.below, Index.node?]

theorem hasRegion (shows : Shows store level.root (index.layout level.inside))
    (short : level.Short) :
    ∀ region ∈ level.regions, store.hasRegion region = true := by
  have names : store.counter? level.byName = some 0 :=
    (shows.counter short.byName).trans (by simp [Index.layout])
  have ids : store.counter? level.byId = some 0 :=
    (shows.counter short.byId).trans (by simp [Index.layout])
  have inner : store.counter? level.children = some 0 :=
    (shows.counter short.children).trans (by simp [Index.layout])
  simp [Level.regions, Store.hasRegion_eq, shows.count short, names, ids, inner]

/-- A level that exists has all its regions, so creating it again changes nothing. -/
theorem create (found : Option (Index ε))
    (shows : Shows store level.root (found.elim .nothing (·.layout level.inside)))
    (short : level.Short) :
    Shows (createAll store level.regions) level.root ((found.getD {}).layout level.inside) := by
  cases found with
  | none => exact shows.create_first short
  | some index => exact (createAll_of_exist (shows.hasRegion short)).symm ▸ shows

theorem shelf_count {shelf : Option Shelf} (shows : Shows store path (Shelf.layout shelf))
    (short : path.Short) :
    store.counter? path = shelf.map (·.count) := (shows.here short).1

theorem shelf_row {shelf : Option Shelf} (shows : Shows store path (Shelf.layout shelf))
    (short : path.Short) (key : Bytes) :
    store.get? path key = ((shelf.getD {}).rows.find? key).map Wire.Message.encode := by
  rw [(shows.here short).2 key]
  cases shelf <;> rfl

/-- A row is added under the next number, and the shelf with its first row. -/
theorem shelf_add {shelf : Option Shelf} (shows : Shows store path (Shelf.layout shelf))
    (short : path.Short) (key : Bytes) (record : Partition) :
    Shows (((store.createRegion path).setCounter path ((shelf.getD {}).count + 1)).put path key
      (Wire.Message.encode record)) path (Shelf.layout
        (some ⟨(shelf.getD {}).count + 1, (shelf.getD {}).rows.insert key record⟩)) := by
  intro below shortBelow
  rw [Store.counter?_put, Store.counter?_setCounter short shortBelow,
    Store.counter?_createRegion short shortBelow]
  by_cases here : below = []
  · subst here
    simp only [Path.extend_nil, if_true]
    refine ⟨rfl, ?_⟩
    intro other
    rw [Store.get?_put short short, Store.get?_setCounter, Store.get?_createRegion,
      shows.shelf_row short]
    simp only [Shelf.layout, Option.bind_some, SortedMap.find?_insert, true_and]
    split <;> rfl
  · rw [if_neg (path.extend_ne here), if_neg (path.extend_ne here), shows.counter shortBelow]
    constructor
    · cases below <;> trivial
    · intro other
      rw [Store.get?_put short shortBelow, if_neg fun same => path.extend_ne here same.1,
        Store.get?_setCounter, Store.get?_createRegion,
        shows.entry shortBelow]
      cases below <;> trivial

end Shows

theorem changesWithin_shelf_add (store : Store) (short : path.Short)
    (count : UInt64) (key value : Bytes) :
    ChangesWithin path store
      (((store.createRegion path).setCounter path count).put path key value) :=
  ((ChangesWithin.createRegion short path.within_refl).trans
    (.setCounter short path.within_refl count)).trans (.put short path.within_refl key value)

def deleteAll (store : Store) (path : Path) (keys : List Bytes) : Store :=
  keys.foldl (fun store key => store.delete path key) store

theorem counter?_deleteAll (store : Store) (keys : List Bytes) (other : Path) :
    (deleteAll store path keys).counter? other = store.counter? other := by
  unfold deleteAll
  induction keys generalizing store with
  | nil => rfl
  | cons key rest ih => rw [List.foldl_cons, ih, Store.counter?_delete]

theorem get?_deleteAll (store : Store) (keys : List Bytes) {other : Path}
    (short : path.Short) (otherShort : other.Short) (key : Bytes) :
    (deleteAll store path keys).get? other key = if other = path ∧ key ∈ keys
      then none else store.get? other key := by
  unfold deleteAll
  induction keys generalizing store with
  | nil => simp
  | cons head rest ih =>
    rw [List.foldl_cons, ih, Store.get?_delete short otherShort]
    by_cases same : other = path <;> by_cases equal : key = head <;> simp [same, equal]

theorem changesWithin_deleteAll (store : Store) (keys : List Bytes) (short : path.Short) :
    ChangesWithin path store (deleteAll store path keys) := by
  unfold deleteAll
  induction keys generalizing store with
  | nil => exact .refl path store
  | cons key rest ih => exact (ChangesWithin.delete short path.within_refl key).trans (ih _)

theorem Shows.shelf_drop {shelf : Shelf} (shows : Shows store path (Shelf.layout (some shelf)))
    (short : path.Short) (keys : List Bytes) :
    Shows (deleteAll store path keys) path
      (Shelf.layout (some ⟨shelf.count, shelf.rows.removeWhere fun key => keys.contains key⟩)) := by
  intro below shortBelow
  rw [counter?_deleteAll, shows.counter shortBelow]
  refine ⟨by cases below <;> rfl, ?_⟩
  intro key
  rw [get?_deleteAll store keys short shortBelow, shows.entry shortBelow]
  cases below with
  | nil =>
    by_cases held : key ∈ keys <;>
      simp [Path.extend_nil, Shelf.layout, SortedMap.find?_removeWhere, held]
  | cons segment rest => simp [Shelf.layout]

namespace Holds

variable {contents : Contents} {catalog : String}

theorem empty : Holds ∅ ∅ where
  keyed := .empty
  shows _ _ _ := ⟨rfl, fun _ => rfl⟩

theorem insert {index : Index DatabaseNode} (holds : Holds store contents)
    (changed : ChangesWithin ⟨catalog, []⟩ store after)
    (shows : Shows after ⟨catalog, []⟩ (index.layout "DB")) :
    Holds after (contents.insert catalog index) where
  keyed := changed.keyed holds.keyed
  shows other := by
    by_cases same : other = catalog
    · subst same
      simpa [Contents.layout, SortedMap.find?_insert] using shows
    · have apart (below) : ¬ ((⟨other, []⟩ : Path).extend below).Within ⟨catalog, []⟩ := by
        intro inside
        obtain ⟨rest, equal⟩ := inside
        simp only [Path.segments, Region.Path.extend, List.cons_append,
          List.nil_append, List.cons.injEq] at equal
        exact same equal.1.symm
      have kept := (holds.shows other).unaffected changed apart
      simpa [Contents.layout, SortedMap.find?_insert, same] using kept

end Holds
end TableCatalog

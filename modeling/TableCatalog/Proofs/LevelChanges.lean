import TableCatalog.Proofs.ContentsLayout
import TableCatalog.Proofs.ContentsSteps

/-! What a level shows before and after each change. An entity's own region and the indices above it
lie apart, so a change of one leaves what the other shows. -/

namespace TableCatalog

open Region

variable {ε ρ : Type} [Wire.Message ρ] [Node ε ρ] {store middle after : Store} {root path : Path}
  {layout : Layout} {level : Level} {index : Index ε} {id : String} {node other : ε}

/-- The segments above the entities of a level are short. -/
structure Level.Short (level : Level) : Prop where
  root : level.root.Short
  inside : Bytes.Short level.inside

theorem Level.child_eq (level : Level) (id : String) :
    level.child id = level.root.extend [level.inside, id] := by
  simp [Level.child, Level.children, Path.child, Region.Path.extend]

theorem Region.Path.extend_nil (path : Path) : path.extend [] = path := by simp [Region.Path.extend]

theorem Region.Path.extend_ne (path : Path) {more : List String} (some : more ≠ []) :
    path.extend more ≠ path := fun same =>
  some (path.extend_inj.1 (same.trans path.extend_nil.symm))

namespace Level.Short

theorem byName (short : level.Short) : level.byName.Short :=
  short.root.extend ["BYNAME"] (by decide)

theorem byId (short : level.Short) : level.byId.Short := short.root.extend ["BYID"] (by decide)

theorem children (short : level.Short) : level.children.Short :=
  short.root.extend [level.inside] (by simpa using short.inside)

theorem child (short : level.Short) (idShort : Bytes.Short id) : (level.child id).Short := by
  rw [Level.child_eq]
  exact short.root.extend [level.inside, id] (by simpa using ⟨short.inside, idShort⟩)

end Level.Short

/-- A region below the root of a level that lies in the region of an entity. -/
theorem Level.extend_within_child (level : Level) {below : List String} :
    (level.root.extend below).Within (level.child id) ↔ [level.inside, id] <+: below := by
  rw [Level.child_eq, Path.extend_within_iff]

private theorem Level.few_not_within_child (level : Level) (id : String)
    (below : List String) (few : below.length < 2) :
    ¬ (level.root.extend below).Within (level.child id) := fun held =>
  absurd (level.extend_within_child.1 held).length_le (by simpa using few)

theorem Level.root_not_within_child (level : Level) (id : String) :
    ¬ level.root.Within (level.child id) := by
  simpa [Path.extend_nil] using level.few_not_within_child id [] (by simp)

theorem Level.byName_not_within_child (level : Level) (id : String) :
    ¬ level.byName.Within (level.child id) :=
  level.few_not_within_child id ["BYNAME"] (by simp)

theorem Level.byId_not_within_child (level : Level) (id : String) :
    ¬ level.byId.Within (level.child id) :=
  level.few_not_within_child id ["BYID"] (by simp)

/-- The regions of an entity lie too deep to be those of its level. -/
theorem Level.child_extend_ne (level : Level) (id : String) (more : List String) :
    (level.child id).extend more ≠ level.root ∧ (level.child id).extend more ≠ level.byName ∧
    (level.child id).extend more ≠ level.byId := by
  rw [Level.child_eq, Path.extend_extend]
  refine ⟨level.root.extend_ne (by simp), ?_, ?_⟩
  · intro same
    simpa using level.root.extend_inj.1
      (same.trans (rfl : level.byName = level.root.extend ["BYNAME"]))
  · intro same
    simpa using level.root.extend_inj.1 (same.trans (rfl : level.byId = level.root.extend ["BYID"]))

theorem Level.byName_ne_byId (level : Level) :
    level.byName ≠ level.byId := by simp [Level.byName, Level.byId, Path.child]

theorem Level.byName_within (level : Level) : level.byName.Within level.root :=
  level.root.extend_within ["BYNAME"]

theorem Level.byId_within (level : Level) : level.byId.Within level.root :=
  level.root.extend_within ["BYID"]

theorem Level.child_within (level : Level) (id : String) : (level.child id).Within level.root := by
  rw [Level.child_eq]
  exact level.root.extend_within _

namespace Shows

theorem counter (shows : Shows store root layout) {below : List String}
    (short : (root.extend below).Short) :
    store.counter? (root.extend below) = layout.counter? below := (shows below short).1

theorem entry (shows : Shows store root layout) {below : List String}
    (short : (root.extend below).Short) (key : Bytes) :
    store.get? (root.extend below) key = layout.get? below key := (shows below short).2 key

theorem here (shows : Shows store root layout) (short : root.Short) :
    store.counter? root = layout.counter? [] ∧ ∀ key, store.get? root key = layout.get? [] key := by
  have shown := shows []
  rw [Path.extend_nil] at shown
  exact shown short

theorem count (shows : Shows store level.root (index.layout level.inside)) (short : level.Short) :
    store.counter? level.root = some index.count := (shows.here short.root).1

theorem byName (shows : Shows store level.root (index.layout level.inside))
    (short : level.Short) (key : Bytes) :
    store.get? level.byName key = (index.names.find? key).map Bytes.ofText :=
  shows.entry short.byName key

theorem byId (shows : Shows store level.root (index.layout level.inside))
    (short : level.Short) (key : Bytes) :
    store.get? level.byId key = (index.entries.find? key).map fun node =>
      Wire.Message.encode (Node.record node) :=
  shows.entry short.byId key

theorem child (shows : Shows store level.root (index.layout level.inside)) (id : String) :
    Shows store (level.child id) (index.below id) := by
  intro below short
  rw [Level.child_eq, Path.extend_extend] at short ⊢
  have same := shows _ short
  simpa [Index.layout] using same

theorem child_nothing (shows : Shows store level.root (index.layout level.inside))
    (missing : index.node? id = none) :
    Shows store (level.child id) .nothing := by
  have := shows.child id
  rwa [Index.below, missing] at this

theorem unaffected (shows : Shows store root layout) {top : Path}
    (changed : ChangesWithin top store after) (apart : ∀ below, ¬ (root.extend below).Within top) :
    Shows after root layout := by
  intro below short
  constructor
  · rw [changed.counter _ short (apart below), shows.counter short]
  · intro key
    rw [changed.get _ key short (apart below), shows.entry short key]

theorem put_elsewhere (shows : Shows store root layout) (pathShort : path.Short)
    (apart : ∀ below, root.extend below ≠ path) (key value : Bytes) :
    Shows (store.put path key value) root layout := by
  intro below short
  refine ⟨shows.counter short, ?_⟩
  intro other
  rw [Store.get?_put pathShort short, if_neg fun same => apart below same.1, shows.entry short]

theorem setCounter_elsewhere (shows : Shows store root layout)
    (pathShort : path.Short) (apart : ∀ below, root.extend below ≠ path) (count : UInt64) :
    Shows (store.setCounter path count) root layout := by
  intro below short
  refine ⟨?_, fun other => shows.entry short other⟩
  rw [Store.counter?_setCounter pathShort short, if_neg (apart below), shows.counter short]

/-- What a level shows once one entity has changed, told by its counter, its two indices and the
region of that entity. Everything else has to be as it was. -/
theorem change {index changed : Index ε}
    (shows : Shows store level.root (index.layout level.inside))
    (id : String) (count : after.counter? level.root = some changed.count)
    (names : ∀ key, after.get? level.byName key = (changed.names.find? key).map Bytes.ofText)
    (ids : ∀ key, after.get? level.byId key = (changed.entries.find? key).map fun node =>
      Wire.Message.encode (Node.record node))
    (inner : Shows after (level.child id) (changed.below id))
    (others : ∀ other, other ≠ id → changed.below other = index.below other)
    (counters : ∀ path : Path, path.Short → path ≠ level.root → ¬ path.Within (level.child id) →
      after.counter? path = store.counter? path)
    (entries : ∀ (path : Path) key, path.Short → path ≠ level.byName →
      path ≠ level.byId → ¬ path.Within (level.child id) →
      after.get? path key = store.get? path key) :
      Shows after level.root (changed.layout level.inside) := by
  intro below short
  by_cases held : [level.inside, id] <+: below
  · obtain ⟨rest, rfl⟩ := held
    have shown := inner rest (by rwa [Level.child_eq, Path.extend_extend])
    rw [Level.child_eq, Path.extend_extend] at shown
    simpa [Index.layout] using shown
  · have apart : ¬ (level.root.extend below).Within (level.child id) :=
      mt (level.extend_within_child).1 held
    have kept (segment other : String) (rest : List String)
      (same : below = segment :: other :: rest) (inside : segment = level.inside) :
        changed.below other = index.below other := by
      refine others other fun equal => held ⟨rest, ?_⟩
      simp [same, inside, equal]
    constructor
    · rcases below with _ | ⟨segment, _ | ⟨other, rest⟩⟩
      · rw [Path.extend_nil, count]
        rfl
      · rw [counters _ short (level.root.extend_ne (by simp)) apart, shows.counter short]
        rfl
      · rw [counters _ short (level.root.extend_ne (by simp)) apart, shows.counter short]
        simp only [Index.layout]
        split
        next inside => rw [kept segment other rest rfl inside]
        next => rfl
    · intro key
      by_cases first : below = ["BYNAME"]
      · subst first
        exact names key
      by_cases second : below = ["BYID"]
      · subst second
        exact ids key
      have named : level.root.extend below ≠ level.byName :=
        fun same => first (level.root.extend_inj.1 same)
      have listed : level.root.extend below ≠ level.byId :=
        fun same => second (level.root.extend_inj.1 same)
      rw [entries _ key short named listed apart, shows.entry short]
      rcases below with _ | ⟨segment, _ | ⟨other, rest⟩⟩
      · rfl
      · have neither : segment ≠ "BYNAME" ∧ segment ≠ "BYID" := by
          simpa using And.intro first second
        simp [Index.layout, neither]
      · simp only [Index.layout]
        split
        next inside => rw [kept segment other rest rfl inside]
        next => rfl

/-- Something changes in the region of one entity, and its record stays. -/
theorem put_child (shows : Shows store level.root (index.layout level.inside)) (short : level.Short)
    (found : index.node? id = some node) (changed : ChangesWithin (level.child id) store after)
    (inner : Shows after (level.child id) (Node.below other))
    (same : Node.record other = Node.record node) :
    Shows after level.root ((index.put id other).layout level.inside) := by
  refine shows.change id ?count ?names ?ids ?inner ?others (fun path short _ =>
    changed.counter path short) (fun path key short _ _ => changed.get path key short)
  case count =>
    rw [changed.counter _ short.root (level.root_not_within_child id), shows.count short]
    rfl
  case names =>
    intro key
    rw [changed.get _ key short.byName (level.byName_not_within_child id), shows.byName short]
    rfl
  case ids =>
    intro key
    rw [changed.get _ key short.byId (level.byId_not_within_child id),
      shows.byId short, Index.put, SortedMap.find?_insert]
    split
    next equal =>
      rw [equal, Option.map_some, same]
      exact congrArg (Option.map _) found
    next => rfl
  case inner => simpa [Index.below, Index.node?_put] using inner
  case others =>
    intro other different
    simp [Index.below, Index.node?_put, different]

/-- The record of an entity gives way to another. -/
theorem put_record (shows : Shows store level.root (index.layout level.inside))
    (short : level.Short) (found : index.node? id = some node)
    (other : ε) (same : Node.below other = Node.below node) :
    Shows (store.put level.byId (Bytes.ofText id) (Wire.Message.encode (Node.record other)))
      level.root ((index.put id other).layout level.inside) := by
  have apart {path : Path} (short' : path.Short) (key : Bytes) (different : path ≠ level.byId) :
      (store.put level.byId (Bytes.ofText id) (Wire.Message.encode (Node.record other))).get?
        path key = store.get? path key := by
    rw [Store.get?_put short.byId short', if_neg fun same => different same.1]
  refine shows.change id (shows.count short) ?names ?ids ?inner ?others
    (fun _ _ _ _ => rfl) (fun _ key short' _ listed _ => apart short' key listed)
  case names =>
    intro key
    rw [apart short.byName key level.byName_ne_byId, shows.byName short]
    rfl
  case ids =>
    intro key
    rw [Store.get?_put short.byId short.byId, shows.byId short, Index.put, SortedMap.find?_insert]
    by_cases equal : key = Bytes.ofText id <;> simp [equal]
  case inner =>
    have inner := (shows.child id).put_elsewhere short.byId
      (fun below => (level.child_extend_ne id below).2.2) (Bytes.ofText id)
      (Wire.Message.encode (Node.record other))
    simp only [Index.below, found, Option.elim_some] at inner
    simpa [Index.below, Index.node?_put, same] using inner
  case others =>
    intro other different
    simp [Index.below, Index.node?_put, different]

/-- An entity is added whose region already shows what lies in it. -/
theorem add (shows : Shows store level.root (index.layout level.inside)) (short : level.Short)
    (name : String) (node : ε) (changed : ChangesWithin (level.child id) store middle)
    (inner : Shows middle (level.child id) (Node.below node)) :
    Shows (((middle.put level.byName (Bytes.ofText name) (Bytes.ofText id)).setCounter level.root
      (index.count + 1)).put level.byId (Bytes.ofText id) (Wire.Message.encode (Node.record node)))
      level.root ((index.add name id node).layout level.inside) := by
  refine shows.change id ?count ?names ?ids ?inner ?others ?counters ?entries
  case count =>
    rw [Store.counter?_put, Store.counter?_setCounter short.root short.root, if_pos rfl]
    rfl
  case names =>
    intro key
    rw [Store.get?_put short.byId short.byName, if_neg fun same => level.byName_ne_byId same.1,
      Store.get?_setCounter,
      Store.get?_put short.byName short.byName,
      changed.get _ key short.byName (level.byName_not_within_child id), shows.byName short,
      Index.add, SortedMap.find?_insert]
    by_cases equal : key = Bytes.ofText name <;> simp [equal]
  case ids =>
    intro key
    rw [Store.get?_put short.byId short.byId, Store.get?_setCounter,
      Store.get?_put short.byName short.byId,
      changed.get _ key short.byId (level.byId_not_within_child id),
      shows.byId short, Index.add, SortedMap.find?_insert]
    by_cases equal : key = Bytes.ofText id <;> simp [equal, level.byName_ne_byId.symm]
  case inner =>
    have apart := level.child_extend_ne id
    have kept := ((inner.put_elsewhere short.byName (fun below => (apart below).2.1)
      (Bytes.ofText name) (Bytes.ofText id)).setCounter_elsewhere short.root
      (fun below => (apart below).1) (index.count + 1)).put_elsewhere short.byId
      (fun below => (apart below).2.2) (Bytes.ofText id) (Wire.Message.encode (Node.record node))
    simpa [Index.below, Index.node?_add] using kept
  case others =>
    intro other different
    simp [Index.below, Index.node?_add, different]
  case counters =>
    intro path pathShort notRoot apart
    rw [Store.counter?_put, Store.counter?_setCounter short.root pathShort,
      if_neg notRoot, Store.counter?_put,
      changed.counter path pathShort apart]
  case entries =>
    intro path key pathShort notNames notIds apart
    rw [Store.get?_put short.byId pathShort, if_neg fun same => notIds same.1,
      Store.get?_setCounter,
      Store.get?_put short.byName pathShort, if_neg fun same => notNames same.1,
      changed.get path key pathShort apart]

/-- An entity is removed with all that lies in its region. -/
theorem remove (shows : Shows store level.root (index.layout level.inside))
    (short : level.Short) (name : String) (idShort : Bytes.Short id) :
    Shows (((store.delete level.byName (Bytes.ofText name)).delete level.byId
      (Bytes.ofText id)).deleteRegion (level.child id)) level.root
      ((index.remove name id).layout level.inside) := by
  have region := short.child idShort
  refine shows.change id ?count ?names ?ids ?inner ?others ?counters ?entries
  case count =>
    rw [Store.counter?_deleteRegion region short.root, if_neg (level.root_not_within_child id)]
    exact shows.count short
  case names =>
    intro key
    rw [Store.get?_deleteRegion region short.byName, if_neg (level.byName_not_within_child id),
      Store.get?_delete short.byId short.byName,
      if_neg fun same => level.byName_ne_byId same.1, Store.get?_delete short.byName short.byName,
      shows.byName short, Index.remove,
      SortedMap.find?_erase]
    by_cases equal : key = Bytes.ofText name <;> simp [equal]
  case ids =>
    intro key
    rw [Store.get?_deleteRegion region short.byId, if_neg (level.byId_not_within_child id),
      Store.get?_delete short.byId short.byId,
      Store.get?_delete short.byName short.byId, shows.byId short,
      Index.remove, SortedMap.find?_erase]
    by_cases equal : key = Bytes.ofText id <;> simp [equal, level.byName_ne_byId.symm]
  case inner =>
    intro below shortBelow
    have gone : ((level.child id).extend below).Within (level.child id) := Path.extend_within _ _
    rw [Store.counter?_deleteRegion region shortBelow, if_pos gone]
    constructor
    · simp [Index.below, Index.node?_remove, Layout.nothing]
    · intro key
      rw [Store.get?_deleteRegion region shortBelow, if_pos gone]
      simp [Index.below, Index.node?_remove, Layout.nothing]
  case others =>
    intro other different
    simp [Index.below, Index.node?_remove, different]
  case counters =>
    intro path pathShort _ apart
    rw [Store.counter?_deleteRegion region pathShort, if_neg apart,
      Store.counter?_delete, Store.counter?_delete]
  case entries =>
    intro path key pathShort notNames notIds apart
    rw [Store.get?_deleteRegion region pathShort, if_neg apart,
      Store.get?_delete short.byId pathShort, if_neg fun same => notIds same.1,
      Store.get?_delete short.byName pathShort, if_neg fun same => notNames same.1]

end Shows

namespace Level.Short

theorem changes_record (short : level.Short) (value : Bytes) :
    ChangesWithin level.root store (store.put level.byId (Bytes.ofText id) value) :=
  .put short.byId level.byId_within _ _

theorem changes_add (short : level.Short) (name : String)
    (changed : ChangesWithin (level.child id) store middle) (count : UInt64) (value : Bytes) :
    ChangesWithin level.root store (((middle.put level.byName (Bytes.ofText name)
      (Bytes.ofText id)).setCounter level.root count).put level.byId (Bytes.ofText id) value) :=
  (((changed.widen (level.child_within id)).trans (.put short.byName level.byName_within _ _)).trans
    (.setCounter short.root level.root.within_refl _)).trans (.put short.byId level.byId_within _ _)

theorem changes_remove (short : level.Short) (name : String) (idShort : Bytes.Short id) :
    ChangesWithin level.root store
      (((store.delete level.byName (Bytes.ofText name)).delete level.byId
        (Bytes.ofText id)).deleteRegion (level.child id)) :=
  ((ChangesWithin.delete short.byName level.byName_within _).trans (.delete short.byId
    level.byId_within _)).trans (.deleteRegion (short.child idShort) (level.child_within id))

end Level.Short
end TableCatalog

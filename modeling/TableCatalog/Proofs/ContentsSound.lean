import TableCatalog.Proofs.ContentsLayout
import TableCatalog.Proofs.ContentsSteps
import TableCatalog.Proofs.ShortRequests

/-! Contents that runs can reach. An index and its records name each other,
a partition stands under the key of its values, and all records read back
from what is written of them. Steps under fresh identifiers keep it so. -/

namespace TableCatalog

section Levels

variable {ε ρ : Type} [Wire.Message ρ] [Node ε ρ]

/-- Names and records agree: each name leads to a record of
that name, and each record is found by its name. -/
structure Index.Sound (valid : ε → Prop) (index : Index ε) : Prop where
  named : ∀ key id, index.names.find? key = some id →
    ∃ name node, key = Bytes.ofText name ∧ index.node? id = some node ∧
    Node.ident node = some ⟨name, id⟩
  listed : ∀ key node, index.entries.find? key = some node →
    ∃ name id, key = Bytes.ofText id ∧ Bytes.Short id ∧ Node.ident node = some ⟨name, id⟩ ∧
    index.id? name = some id
  nodes : ∀ key node, index.entries.find? key = some node → valid node

namespace Index.Sound

variable {valid : ε → Prop} {index : Index ε} {name id : String}
  {node other : ε} {entity : Entity} {ident : Ident}

theorem empty : Index.Sound valid ({} : Index ε) where
  named _ _ impossible := by cases impossible
  listed _ _ impossible := by cases impossible
  nodes _ _ impossible := by cases impossible

theorem node_of_name (sound : index.Sound valid) (found : index.id? name = some id) :
    ∃ node, index.node? id = some node ∧ Node.ident node = some ⟨name, id⟩ := by
  obtain ⟨other, node, same, held, named⟩ := sound.named _ _ found
  obtain rfl := Bytes.ofText_injective same
  exact ⟨node, held, named⟩

theorem name_of_node (sound : index.Sound valid) (found : index.node? id = some node) :
    Bytes.Short id ∧ ∃ name, Node.ident node = some ⟨name, id⟩ ∧ index.id? name = some id := by
  obtain ⟨name, other, same, short, named, listed⟩ := sound.listed _ _ found
  obtain rfl := Bytes.ofText_injective same
  exact ⟨short, name, named, listed⟩

theorem id?_iff (sound : index.Sound valid) (held : index.node? id = some node) (name : String) :
    index.id? name = some id ↔ nameOf (Node.ident node) = name := by
  obtain ⟨-, own, named, listed⟩ := sound.name_of_node held
  rw [named]
  constructor
  · intro other
    obtain ⟨kept, there, kindred⟩ := sound.node_of_name other
    obtain rfl := Option.some.inj (held.symm.trans there)
    rw [named] at kindred
    cases kindred
    rfl
  · rintro rfl
    exact listed

theorem short_of_resolve (sound : index.Sound valid) (short : ident.Short)
    (resolved : index.resolve entity ident = .ok id) : Bytes.Short id := by
  unfold Index.resolve at resolved
  split at resolved
  · cases resolved
    exact short.2
  · split at resolved
    · cases resolved
    next found =>
      cases resolved
      obtain ⟨node, held, -⟩ := sound.node_of_name found
      exact (sound.name_of_node held).1

/-- What is missing was asked for by an identifier: a name leads to what is there. -/
theorem given_of_missing (sound : index.Sound valid)
    (resolved : index.resolve entity ident = .ok id) (missing : index.node? id = none) :
    ident.id.isEmpty = false := by
  refine Bool.eq_false_iff.2 fun empty => ?_
  simp only [Index.resolve, empty, Bool.not_true, Bool.false_eq_true, if_false] at resolved
  split at resolved
  · cases resolved
  next found =>
    cases resolved
    obtain ⟨node, there, -⟩ := sound.node_of_name found
    rw [missing] at there
    cases there

theorem add (sound : index.Sound valid) (free : index.id? name = none)
    (fresh : index.node? id = none) (short : Bytes.Short id)
    (named : Node.ident node = some ⟨name, id⟩) (held : valid node) :
    (index.add name id node).Sound valid where
  named key other found := by
    simp only [Index.add, SortedMap.find?_insert, Index.node?] at found ⊢
    split at found
    next same =>
      cases found
      exact ⟨name, node, same, if_pos rfl, named⟩
    next =>
      obtain ⟨text, kept, same, here, called⟩ := sound.named key other found
      have different : other ≠ id := by
        rintro rfl
        rw [fresh] at here
        cases here
      exact ⟨text, kept, same, by rwa [if_neg (mt Bytes.ofText_injective different)], called⟩
  listed key kept found := by
    simp only [Index.add, SortedMap.find?_insert, Index.id?] at found ⊢
    split at found
    next same =>
      cases found
      exact ⟨name, id, same, short, named, if_pos rfl⟩
    next =>
      obtain ⟨text, other, same, otherShort, called, listed⟩ := sound.listed key kept found
      have different : text ≠ name := by
        rintro rfl
        rw [free] at listed
        cases listed
      exact ⟨text, other, same, otherShort,
        called, by rwa [if_neg (mt Bytes.ofText_injective different)]⟩
  nodes key kept found := by
    simp only [Index.add, SortedMap.find?_insert] at found
    split at found
    · cases found
      exact held
    · exact sound.nodes key kept found

theorem put (sound : index.Sound valid) (found : index.node? id = some node)
    (same : Node.ident other = Node.ident node) (held : valid other) :
    (index.put id other).Sound valid where
  named key id' there := by
    obtain ⟨text, kept, called, here, named⟩ := sound.named key id' there
    rw [Index.node?_put]
    by_cases equal : id' = id
    · subst equal
      rw [found] at here
      cases here
      exact ⟨text, other, called, if_pos rfl, same.trans named⟩
    · exact ⟨text, kept, called, by rwa [if_neg equal], named⟩
  listed key kept there := by
    simp only [Index.put, SortedMap.find?_insert] at there
    split at there
    next equal =>
      cases there
      obtain ⟨short, name, named, listed⟩ := sound.name_of_node found
      exact ⟨name, id, equal, short, same.trans named, listed⟩
    next => exact sound.listed key kept there
  nodes key kept there := by
    simp only [Index.put, SortedMap.find?_insert] at there
    split at there
    · cases there
      exact held
    · exact sound.nodes key kept there

theorem remove (sound : index.Sound valid) (found : index.node? id = some node) :
    (index.remove (nameOf (Node.ident node)) id).Sound valid := by
  obtain ⟨-, name, named, listed⟩ := sound.name_of_node found
  rw [named]
  refine ⟨?_, ?_, ?_⟩
  · intro key other there
    simp only [Index.remove, nameOf, Option.map_some, Option.getD_some,
      SortedMap.find?_erase] at there
    split at there
    · cases there
    next different =>
      obtain ⟨text, kept, called, here, kindred⟩ := sound.named key other there
      have apart : other ≠ id := by
        rintro rfl
        rw [found] at here
        cases here
        rw [named] at kindred
        cases kindred
        exact different called
      refine ⟨text, kept, called, ?_, kindred⟩
      rwa [Index.node?_remove, if_neg apart]
  · intro key kept there
    simp only [Index.remove, SortedMap.find?_erase] at there
    split at there
    · cases there
    next different =>
      obtain ⟨text, other, called, short, kindred, here⟩ := sound.listed key kept there
      have apart : text ≠ name := by
        rintro rfl
        rw [listed] at here
        cases here
        exact different called
      refine ⟨text, other, called, short, kindred, ?_⟩
      simpa [Index.remove, Index.id?, nameOf, SortedMap.find?_erase,
        Bytes.ofText_inj, apart] using here
  · intro key kept there
    simp only [Index.remove, SortedMap.find?_erase] at there
    split at there
    · cases there
    · exact sound.nodes key kept there

end Index.Sound
end Levels

structure Shelf.Sound (shelf : Shelf) : Prop where
  rows : ∀ key record, shelf.rows.find? key = some record →
    key = Bytes.ofText (Request.joinValues record.values) ∧ record.table = none ∧
    Wire.FitsPartition record

structure TableNode.Sound (node : TableNode) : Prop where
  record : Wire.FitsTable node.record
  shelf : (node.shelf.getD {}).Sound

structure DatabaseNode.Sound (node : DatabaseNode) : Prop where
  record : Wire.FitsDatabase node.record
  tables : node.tables.Sound TableNode.Sound

namespace Contents

structure Sound (contents : Contents) : Prop where
  short : ∀ catalog index, contents.find? catalog = some index → Bytes.Short catalog
  indices : ∀ catalog index, contents.find? catalog = some index → index.Sound DatabaseNode.Sound

end Contents

/-- The identifier is that of a database or of one of its tables. -/
def Index.Uses (index : Index DatabaseNode) (id : String) : Prop :=
  (∃ node, index.node? id = some node) ∨ ∃ key node, index.entries.find? key = some node ∧
  ∃ table, node.tables.node? id = some table

def Contents.Uses (contents : Contents) (id : String) : Prop :=
  ∃ catalog index, contents.find? catalog = some index ∧ index.Uses id

theorem Shelf.Sound.empty : Shelf.Sound {} where
  rows _ _ impossible := by cases impossible

theorem Shelf.Sound.insert {shelf : Shelf} (sound : shelf.Sound) {record : Partition}
    (detached : record.table = none) (fits : Wire.FitsPartition record) (count : UInt64) :
    Shelf.Sound ⟨count,
      shelf.rows.insert (Bytes.ofText (Request.joinValues record.values)) record⟩ where
  rows key kept found := by
    rw [SortedMap.find?_insert] at found
    split at found
    next same =>
      cases found
      exact ⟨same, detached, fits⟩
    next => exact sound.rows key kept found

theorem Shelf.Sound.removeWhere {shelf : Shelf} (sound : shelf.Sound) (drop : Bytes → Bool) :
    Shelf.Sound ⟨shelf.count, shelf.rows.removeWhere drop⟩ where
  rows key kept found := by
    rw [SortedMap.find?_removeWhere] at found
    split at found
    · cases found
    · exact sound.rows key kept found

namespace Contents

variable {contents after : Contents} {catalog : String} {options : StoreOptions}
  {record : Partition}

/-- Of what the caller gave, only the location may be another in what is kept. -/
theorem kept_eq (fill : Bool) (record : Partition) (fresh : String) (sequence : UInt64) :
    ∃ location, kept fill record fresh sequence =
      { record with table := none, id := fresh, sequence, location } := by
  unfold kept Partition.fillLocation
  cases fill
  · exact ⟨record.location, rfl⟩
  · simp only [if_true]
    split
    · split
      next storage _ => exact ⟨storage.location, rfl⟩
      next => exact ⟨record.location, rfl⟩
    · exact ⟨record.location, rfl⟩

theorem fits_kept (short : record.Short) {fresh : String} (freshShort : Bytes.Short fresh)
    (fill : Bool) (sequence : UInt64) :
    Wire.FitsPartition (kept fill record fresh sequence) := by
  have plain : Wire.FitsPartition { record with table := none, id := fresh } :=
    short.fits freshShort
  unfold kept
  split
  · exact { fits_fillLocation plain with }
  · exact { plain with }

theorem uses_of_opened {id : String} (used : ((contents.find? catalog).getD {}).Uses id) :
    contents.Uses id := by
  cases found : contents.find? catalog with
  | none =>
    rw [found] at used
    rcases used with ⟨_, impossible⟩ | ⟨_, _, impossible, _⟩ <;> cases impossible
  | some index =>
    rw [found] at used
    exact ⟨catalog, index, found, used⟩

namespace Sound

theorem empty : Contents.Sound ∅ where
  short _ _ impossible := by cases impossible
  indices _ _ impossible := by cases impossible

theorem insert (sound : contents.Sound) {index : Index DatabaseNode}
    (short : Bytes.Short catalog) (held : index.Sound DatabaseNode.Sound) :
    Contents.Sound (contents.insert catalog index) where
  short other kept found := by
    rw [SortedMap.find?_insert] at found
    split at found
    next same => exact same ▸ short
    next => exact sound.short other kept found
  indices other kept found := by
    rw [SortedMap.find?_insert] at found
    split at found
    next same =>
      cases found
      exact held
    next => exact sound.indices other kept found

theorem opened (sound : contents.Sound) (catalog : String) :
    ((contents.find? catalog).getD {}).Sound DatabaseNode.Sound := by
  cases there : contents.find? catalog with
  | none => exact .empty
  | some index => exact sound.indices _ _ there

theorem database? (sound : contents.Sound) {db : String} {node : DatabaseNode}
    (found : contents.database? catalog db = some node) : node.Sound := by
  obtain ⟨index, there, held⟩ := Option.bind_eq_some_iff.1 found
  exact (sound.indices _ _ there).nodes _ _ held

theorem table? (sound : contents.Sound) {db table : String} {node : TableNode}
    (found : contents.table? catalog db table = some node) : node.Sound := by
  obtain ⟨inside, there, held⟩ := Option.bind_eq_some_iff.1 found
  exact (sound.database? there).tables.nodes _ _ held

theorem database (sound : contents.Sound) {db : Ident} {found : FoundDatabase}
    (here : contents.database catalog db = .ok found) :
    contents.find? catalog = some found.index ∧ found.index.Sound DatabaseNode.Sound ∧
    found.index.node? found.id = some found.node ∧ found.node.Sound := by
  obtain ⟨there, -, held⟩ := database_eq_ok.1 here
  have index := sound.indices _ _ there
  exact ⟨there, index, held, index.nodes _ _ held⟩

theorem table (sound : contents.Sound) {db table : Ident} {missing : Fault} {found : FoundTable}
    (here : contents.table catalog db table missing = .ok found) :
    contents.database catalog db = .ok found.db ∧
    found.db.node.tables.node? found.id = some found.node ∧ found.node.Sound := by
  obtain ⟨there, -, held⟩ := table_eq_ok.1 here
  exact ⟨there, held, (sound.database there).2.2.2.tables.nodes _ _ held⟩

theorem setDatabase (sound : contents.Sound) {db : Ident} {found : FoundDatabase}
    (here : contents.database catalog db = .ok found) {node : DatabaseNode}
    (held : node.Sound) (same : node.record.ident = found.node.record.ident) :
    (contents.setDatabase catalog found node).Sound := by
  obtain ⟨there, index, stood, -⟩ := sound.database here
  exact sound.insert (sound.short _ _ there) (index.put stood same held)

theorem setTables (sound : contents.Sound) {db : Ident} {found : FoundDatabase}
    (here : contents.database catalog db = .ok found) {tables : Index TableNode}
    (held : tables.Sound TableNode.Sound) : (contents.setTables catalog found tables).Sound :=
  sound.setDatabase here ⟨(sound.database here).2.2.2.record, held⟩ rfl

theorem setShelf (sound : contents.Sound) {db table : Ident} {missing : Fault} {found : FoundTable}
    (here : contents.table catalog db table missing = .ok found)
    {shelf : Shelf} (held : shelf.Sound) :
    (contents.setShelf catalog found shelf).Sound := by
  obtain ⟨there, stood, node⟩ := sound.table here
  exact sound.setTables there
    ((sound.database there).2.2.2.tables.put stood rfl ⟨node.record, held⟩)

theorem step (sound : contents.Sound) {operation : Operation} {outcome : Outcome}
    (step : Step options contents operation outcome after) (short : operation.Short)
    (fresh : ∀ id, operation.fresh? = some id → ¬ contents.Uses id) : after.Sound := by
  cases step with
  | same => exact sound
  | @createDatabase catalog id index record result opened free named =>
    obtain ⟨catalogShort, recordShort, idShort⟩ := short
    have held : index.Sound DatabaseNode.Sound := opened ▸ sound.opened catalog
    have unused : index.node? id = none := Option.eq_none_iff_forall_ne_some.2 fun node there =>
      fresh id rfl (uses_of_opened (.inl ⟨node, opened ▸ there⟩))
    have fits : Wire.FitsDatabase result := named ▸ (recordShort.named idShort _).fits
    exact sound.insert catalogShort (held.add free unused idShort (named ▸ rfl) ⟨fits, .empty⟩)
  | @alterDatabase catalog db found changes here =>
    obtain ⟨-, -, -, node⟩ := sound.database here
    exact sound.setDatabase here ⟨short.2.2.fits_alter node.record, node.tables⟩ rfl
  | @dropDatabase catalog db found here =>
    obtain ⟨there, index, stood, -⟩ := sound.database here
    exact sound.insert (sound.short _ _ there) (index.remove stood)
  | @createTable catalog db id found record result here free named =>
    obtain ⟨-, -, recordShort, idShort⟩ := short
    obtain ⟨there, -, stood, node⟩ := sound.database here
    have unused : found.node.tables.node? id = none :=
      Option.eq_none_iff_forall_ne_some.2 fun table held =>
      fresh id rfl ⟨_, _, there, .inr ⟨_, _, stood, table, held⟩⟩
    have fits : Wire.FitsTable result := named ▸ (recordShort.named idShort _).fits
    exact sound.setTables here (node.tables.add free unused idShort (named ▸ rfl) ⟨fits, .empty⟩)
  | @dropTable catalog db table found missing here =>
    obtain ⟨there, stood, -⟩ := sound.table here
    exact sound.setTables there ((sound.database there).2.2.2.tables.remove stood)
  | @addPartition catalog db table id found shelf record result here opened free same =>
    obtain ⟨-, -, -, recordShort, idShort⟩ := short
    obtain ⟨-, -, node⟩ := sound.table here
    obtain ⟨location, known⟩ := kept_eq options.fillLocation record id (shelf.count + 1)
    have fits : Wire.FitsPartition result := same ▸ fits_kept recordShort idShort _ _
    have values : record.values = result.values := by rw [same, known]
    have detached : result.table = none := by rw [same, known]
    exact values ▸ sound.setShelf here ((opened ▸ node.shelf).insert detached fits _)
  | @dropPartitions catalog db table operation outcome found shelf drop quiet here opened =>
    obtain ⟨-, -, node⟩ := sound.table here
    have held := node.shelf
    rw [opened] at held
    exact sound.setShelf here (held.removeWhere drop)

end Sound

end Contents

namespace Index.Uses

variable {index : Index DatabaseNode} {name id other : String} {node : DatabaseNode}

theorem of_add (used : (index.add name other node).Uses id) :
    index.Uses id ∨ id = other ∨ ∃ table, node.tables.node? id = some table := by
  rcases used with ⟨kept, there⟩ | ⟨key, kept, there, table, held⟩
  · rw [Index.node?_add] at there
    split at there
    next same => exact .inr (.inl same)
    next => exact .inl (.inl ⟨kept, there⟩)
  · simp only [Index.add, SortedMap.find?_insert] at there
    split at there
    next =>
      cases there
      exact .inr (.inr ⟨table, held⟩)
    next => exact .inl (.inr ⟨key, kept, there, table, held⟩)

theorem of_put {before : DatabaseNode} (found : index.node? other = some before)
    (used : (index.put other node).Uses id) :
    index.Uses id ∨ ∃ table, node.tables.node? id = some table := by
  rcases used with ⟨kept, there⟩ | ⟨key, kept, there, table, held⟩
  · rw [Index.node?_put] at there
    split at there
    next same => exact .inl (.inl ⟨before, same ▸ found⟩)
    next => exact .inl (.inl ⟨kept, there⟩)
  · simp only [Index.put, SortedMap.find?_insert] at there
    split at there
    next =>
      cases there
      exact .inr ⟨table, held⟩
    next => exact .inl (.inr ⟨key, kept, there, table, held⟩)

theorem of_remove (used : (index.remove name other).Uses id) : index.Uses id := by
  rcases used with ⟨kept, there⟩ | ⟨key, kept, there, table, held⟩
  · rw [Index.node?_remove] at there
    split at there
    · cases there
    · exact .inl ⟨kept, there⟩
  · simp only [Index.remove, SortedMap.find?_erase] at there
    split at there
    · cases there
    · exact .inr ⟨key, kept, there, table, held⟩

end Index.Uses

namespace Contents.Uses

variable {contents after : Contents} {catalog id : String} {options : StoreOptions}

private theorem of_insert {index : Index DatabaseNode}
    (used : Contents.Uses (contents.insert catalog index) id) :
    contents.Uses id ∨ index.Uses id := by
  obtain ⟨other, kept, there, used⟩ := used
  rw [SortedMap.find?_insert] at there
  split at there
  · cases there
    exact .inr used
  · exact .inl ⟨other, kept, there, used⟩

private theorem of_setDatabase {db : Ident} {found : FoundDatabase}
    {node : DatabaseNode} (here : contents.database catalog db = .ok found)
    (used : (contents.setDatabase catalog found node).Uses id) :
    contents.Uses id ∨ ∃ table, node.tables.node? id = some table := by
  obtain ⟨there, -, stood⟩ := database_eq_ok.1 here
  rcases of_insert used with used | used
  · exact .inl used
  · exact (used.of_put stood).imp_left fun used => ⟨_, _, there, used⟩

theorem of_table {db : Ident} {found : FoundDatabase}
    (here : contents.database catalog db = .ok found) {table : TableNode}
    (held : found.node.tables.node? id = some table) : contents.Uses id := by
  obtain ⟨there, -, stood⟩ := database_eq_ok.1 here
  exact ⟨_, _, there, .inr ⟨_, _, stood, table, held⟩⟩

private theorem of_setShelf {db table : Ident} {missing : Fault} {found : FoundTable}
    {shelf : Shelf} (here : contents.table catalog db table missing = .ok found)
    (used : (contents.setShelf catalog found shelf).Uses id) : contents.Uses id := by
  obtain ⟨here, -, stood⟩ := table_eq_ok.1 here
  rcases of_setDatabase here used with used | ⟨table, held⟩
  · exact used
  · rw [Index.node?_put] at held
    split at held
    next same => exact of_table here (same ▸ stood)
    next => exact of_table here held

/-- A step uses no identifier but the one it draws. -/
theorem of_step {operation : Operation} {outcome : Outcome}
    (step : Step options contents operation outcome after) (used : after.Uses id) :
    contents.Uses id ∨ operation.fresh? = some id := by
  cases step with
  | same => exact .inl used
  | @createDatabase catalog fresh index record result opened free named =>
    rcases of_insert used with used | used
    · exact .inl used
    · rcases used.of_add with used | rfl | ⟨_, impossible⟩
      · exact .inl (uses_of_opened (opened ▸ used))
      · exact .inr rfl
      · cases impossible
  | @alterDatabase catalog db found changes here =>
    rcases of_setDatabase here used with used | ⟨table, held⟩
    · exact .inl used
    · exact .inl (of_table here held)
  | @dropDatabase catalog db found here =>
    rcases of_insert used with used | used
    · exact .inl used
    · exact .inl ⟨_, _, (database_eq_ok.1 here).1, used.of_remove⟩
  | @createTable catalog db fresh found record result here free named =>
    rcases of_setDatabase here used with used | ⟨table, held⟩
    · exact .inl used
    · rw [Index.node?_add] at held
      split at held
      next same => exact .inr (congrArg some same.symm)
      next => exact .inl (of_table here held)
  | @dropTable catalog db table found missing here =>
    obtain ⟨here, -⟩ := table_eq_ok.1 here
    rcases of_setDatabase here used with used | ⟨table, held⟩
    · exact .inl used
    · rw [Index.node?_remove] at held
      split at held
      · cases held
      · exact .inl (of_table here held)
  | @addPartition catalog db table fresh found shelf record result here =>
    exact .inl (of_setShelf here used)
  | @dropPartitions catalog db table operation outcome found shelf drop quiet here =>
    exact .inl (of_setShelf here used)

end Contents.Uses
end TableCatalog

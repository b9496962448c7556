import TableCatalog.Proofs.ContentsFrame
import TableCatalog.Proofs.FaultClassification

/-! How requests address what is there. An identity means an entity
by its identifier if it gives one, and by its name otherwise, so the
same identities lead to an entity for as long as it keeps its own. -/

namespace TableCatalog

open Region

/-- The identity means the entity with this name and identifier. -/
def Ident.Calls (sought : Ident) (name id : String) : Prop :=
  if sought.id = "" then sought.name = name else sought.id = id

instance (sought : Ident) (name id : String) : Decidable (sought.Calls name id) :=
  inferInstanceAs (Decidable (if sought.id = "" then sought.name = name else sought.id = id))

theorem Ident.Calls.not_blank {sought : Ident} {name id : String}
    (calls : sought.Calls name id) (named : name ≠ "") : ¬ sought.Blank := by
  rintro ⟨unnamed, ungiven⟩
  rw [Ident.Calls, if_pos ungiven] at calls
  exact named (calls.symm.trans unnamed)

section Levels

variable {ε ρ : Type} [Wire.Message ρ] [Node ε ρ] {index : Index ε}
  {valid : ε → Prop} {entity : Entity} {sought : Ident} {id : String} {node : ε}

theorem Index.Sound.resolve_iff (sound : index.Sound valid) (held : index.node? id = some node) :
    index.resolve entity sought = .ok id ↔ sought.Calls (nameOf (Node.ident node)) id := by
  rw [Index.resolve_eq_ok, sound.id?_iff held, Ident.Calls]
  split <;> exact eq_comm

end Levels

/-- What an identity designates can be computed. -/
instance {α : Type} [Wire.Message α] (store : Store) (level : Level)
    (ident : α → Option Ident) (sought : Ident) (id : String) :
    Decidable (level.Designates store ident sought id) :=
  match found : store.get? level.byId (Bytes.ofText id) with
  | none => isFalse fun ⟨_, there, _⟩ => nomatch found.symm.trans there
  | some bytes =>
    decidable_of_iff (if sought.id = ""
      then (Wire.read? bytes).any (fun record : α => nameOf (ident record) == sought.name) = true
      else id = sought.id) (by simp [Level.Designates, found, Option.any_eq_true])

instance (store : Store) (catalog : String) (db : Ident) (id : String) :
    Decidable (LiveDatabase store catalog db id) :=
  inferInstanceAs (Decidable (_ ∧ _))

instance (store : Store) (catalog : String) (db table : Ident) (owner id : String) :
    Decidable (LiveTable store catalog db table owner id) :=
  inferInstanceAs (Decidable (_ ∧ _))

variable {store : Store} {contents : Contents} {catalog owner id : String} {db table : Ident}

namespace Contents.Sound

theorem database_iff (sound : contents.Sound) {node : DatabaseNode} :
    (∃ found, contents.database catalog db = .ok found ∧ found.id = id ∧ found.node = node) ↔
      contents.database? catalog id = some node ∧ db.Calls (nameOf node.record.ident) id := by
  constructor
  · rintro ⟨found, here, rfl, rfl⟩
    obtain ⟨there, resolved, held⟩ := database_eq_ok.1 here
    exact ⟨database?_of_database here, ((sound.indices _ _ there).resolve_iff held).1 resolved⟩
  · rintro ⟨stood, calls⟩
    obtain ⟨index, there, held⟩ := Option.bind_eq_some_iff.1 stood
    exact ⟨⟨index, id, node⟩, database_eq_ok.2 ⟨there,
      ((sound.indices _ _ there).resolve_iff held).2 calls, held⟩, rfl, rfl⟩

theorem table_iff (sound : contents.Sound) (missing : Fault)
    {inside : DatabaseNode} {node : TableNode} :
    (∃ found, contents.table catalog db table missing = .ok found ∧
      (found.db.id = owner ∧ found.db.node = inside) ∧ found.id = id ∧ found.node = node) ↔
      (contents.database? catalog owner = some inside ∧
        db.Calls (nameOf inside.record.ident) owner) ∧
      contents.table? catalog owner id = some node ∧ table.Calls (nameOf node.record.ident) id := by
  rw [← sound.database_iff]
  constructor
  · rintro ⟨found, here, ⟨rfl, rfl⟩, rfl, rfl⟩
    obtain ⟨placed, resolved, held⟩ := table_eq_ok.1 here
    exact ⟨⟨found.db, placed, rfl, rfl⟩, table?_of_table here,
      ((sound.database placed).2.2.2.tables.resolve_iff held).1 resolved⟩
  · rintro ⟨⟨found, here, rfl, rfl⟩, stood, calls⟩
    rw [table?_of_database here] at stood
    exact ⟨⟨found, id, node⟩, table_eq_ok.2 ⟨here,
      ((sound.database here).2.2.2.tables.resolve_iff stood).2 calls, stood⟩, ⟨rfl, rfl⟩, rfl, rfl⟩

end Contents.Sound

namespace Holds

/-- What an identity designates in the store is an entity that it means. -/
theorem liveDatabase_iff_calls (holds : Holds store contents)
    (sound : contents.Sound) (short : Bytes.Short catalog) :
    LiveDatabase store catalog db id ↔
    ∃ node, contents.database? catalog id = some node ∧ db.Calls (nameOf node.record.ident) id := by
  rw [holds.liveDatabase_iff sound short]
  constructor
  · rintro ⟨found, here, rfl⟩
    exact ⟨found.node, sound.database_iff.1 ⟨found, here, rfl, rfl⟩⟩
  · rintro ⟨node, stood⟩
    obtain ⟨found, here, same, -⟩ := sound.database_iff.2 stood
    exact ⟨found, here, same⟩

theorem liveTable_iff_calls (holds : Holds store contents) (sound : contents.Sound)
    (short : Bytes.Short catalog) :
    LiveTable store catalog db table owner id ↔
      (∃ inside, contents.database? catalog owner = some inside ∧
        db.Calls (nameOf inside.record.ident) owner) ∧
      ∃ node, contents.table? catalog owner id = some node ∧
      table.Calls (nameOf node.record.ident) id := by
  rw [holds.liveTable_iff sound short (.absent "")]
  constructor
  · rintro ⟨found, here, rfl, rfl⟩
    obtain ⟨stood, within⟩ := (sound.table_iff _).1 ⟨found, here, ⟨rfl, rfl⟩, rfl, rfl⟩
    exact ⟨⟨_, stood⟩, _, within⟩
  · rintro ⟨⟨inside, stood⟩, node, within⟩
    obtain ⟨found, here, ⟨owned, -⟩, same, -⟩ := (sound.table_iff (.absent "")).2 ⟨stood, within⟩
    exact ⟨found, here, owned, same⟩

end Holds
end TableCatalog

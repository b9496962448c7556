import TableCatalog.Proofs.ContentsFrame
import TableCatalog.Proofs.SequenceNumbers

/-! Where the contents come from. Whatever stands there was created by an operation of the run,
under the name it goes by and in its own scope, and the history of that scope tells so. -/

namespace TableCatalog

open Region

/-- The keys of all that was made in a scope, in the order of time. -/
def keysIn (scope : Scope) (log : List Issue) : List Bytes :=
  (log.filter (·.scope = scope)).map (·.key)

theorem keysIn_append (scope : Scope) (log more : List Issue) :
    keysIn scope (log ++ more) = keysIn scope log ++ keysIn scope more := by
  simp only [keysIn, List.filter_append, List.map_append]

theorem keysIn_singleton (issue : Issue) : keysIn issue.scope [issue] = [issue.key] := by
  simp [keysIn]

namespace Contents

variable {contents after : Contents} {catalog other owner id : String}
  {db table : Ident} {options : StoreOptions} {operation : Operation} {outcome : Outcome}

private theorem origin_setTables {found : FoundDatabase}
    (here : contents.database catalog db = .ok found)
    (tables : Index TableNode) {node : DatabaseNode}
    (there : (contents.setTables catalog found tables).database? other id = some node) :
    ∃ before, contents.database? other id = some before ∧ before.record = node.record := by
  rw [setTables, database?_setDatabase here] at there
  split at there
  next same =>
    obtain ⟨rfl, rfl⟩ := same
    cases there
    exact ⟨found.node, database?_of_database here, rfl⟩
  next => exact ⟨node, there, rfl⟩

private theorem origin_setShelf {found : FoundTable} {missing : Fault}
    (here : contents.table catalog db table missing = .ok found) (shelf : Shelf) {node : TableNode}
    (there : (contents.setShelf catalog found shelf).table? other owner id = some node) :
    ∃ before, contents.table? other owner id = some before ∧ before.record = node.record := by
  rw [table?_setShelf here] at there
  split at there
  next same =>
    obtain ⟨rfl, rfl, rfl⟩ := same
    cases there
    exact ⟨found.node, table?_of_table here, rfl⟩
  next => exact ⟨node, there, rfl⟩

namespace Step

theorem catalog_origin (step : Step options contents operation outcome after)
    {index : Index DatabaseNode} (there : after.find? other = some index) :
    (∃ before, contents.find? other = some before) ∨
    ∃ record fresh, operation = .createDatabase other record fresh := by
  have kept {catalog : String} {before index' : Index DatabaseNode} (held : contents.find? catalog =
      some before) (there : SortedMap.find? (contents.insert catalog index') other = some index) :
      ∃ before, contents.find? other = some before := by
    rw [SortedMap.find?_insert] at there
    split at there
    next same => exact ⟨before, same ▸ held⟩
    next => exact ⟨index, there⟩
  cases step with
  | same => exact .inl ⟨index, there⟩
  | @createDatabase catalog fresh opened record =>
    rw [SortedMap.find?_insert] at there
    split at there
    next same => exact .inr ⟨record, fresh, by rw [same]⟩
    next => exact .inl ⟨index, there⟩
  | alterDatabase here | dropDatabase here | createTable here =>
    exact .inl (kept (database_eq_ok.1 here).1 there)
  | dropTable here | addPartition here =>
    exact .inl (kept (database_eq_ok.1 (table_eq_ok.1 here).1).1 there)
  | dropPartitions quiet here => exact .inl (kept (database_eq_ok.1 (table_eq_ok.1 here).1).1 there)

/-- A database that stands after a step stood before under
the same identity, or the step created it. -/
theorem database_origin (step : Step options contents operation outcome after)
    {node : DatabaseNode} (there : after.database? other id = some node) :
    (∃ before, contents.database? other id = some before ∧
      before.record.ident = node.record.ident) ∨
    ∃ record, operation = .createDatabase other record id ∧
    nameOf node.record.ident = nameOf record.ident := by
  have kept (origin : ∃ before, contents.database? other id = some before ∧
    before.record = node.record) :
      ∃ before, contents.database? other id = some before ∧
      before.record.ident = node.record.ident := by
    obtain ⟨before, held, same⟩ := origin
    exact ⟨before, held, congrArg (·.ident) same⟩
  cases step with
  | same => exact .inl ⟨node, there, rfl⟩
  | @createDatabase catalog fresh index record result opened free named =>
    rw [database?_add opened] at there
    split at there
    next same =>
      cases there
      exact .inr ⟨record, by rw [same.1, same.2], by rw [named]; rfl⟩
    next => exact .inl ⟨node, there, rfl⟩
  | @alterDatabase catalog db found changes here =>
    rw [database?_setDatabase here] at there
    split at there
    next same =>
      obtain ⟨rfl, rfl⟩ := same
      cases there
      exact .inl ⟨found.node, database?_of_database here, rfl⟩
    next => exact .inl ⟨node, there, rfl⟩
  | @dropDatabase catalog db found here =>
    rw [database?_remove (database_eq_ok.1 here).1] at there
    split at there
    next => cases there
    next => exact .inl ⟨node, there, rfl⟩
  | createTable here => exact .inl (kept (origin_setTables here _ there))
  | dropTable here | addPartition here =>
    exact .inl (kept (origin_setTables (table_eq_ok.1 here).1 _ there))
  | dropPartitions quiet here => exact .inl (kept (origin_setTables (table_eq_ok.1 here).1 _ there))

theorem table_origin (step : Step options contents operation outcome after)
    {node : TableNode} (there : after.table? other owner id = some node) :
    (∃ before, contents.table? other owner id = some before ∧ before.record = node.record) ∨
    ∃ db record found, operation = .createTable other db record id ∧
      contents.database other db = .ok found ∧ found.id = owner ∧
      nameOf node.record.ident = nameOf record.ident := by
  cases step with
  | same => exact .inl ⟨node, there, rfl⟩
  | @createDatabase catalog fresh index record result opened free named =>
    rw [table?_addDatabase opened] at there
    split at there
    next => cases there
    next => exact .inl ⟨node, there, rfl⟩
  | alterDatabase here =>
    rw [table?_alter here] at there
    exact .inl ⟨node, there, rfl⟩
  | @dropDatabase catalog db found here =>
    rw [table?_removeDatabase (database_eq_ok.1 here).1] at there
    split at there
    next => cases there
    next => exact .inl ⟨node, there, rfl⟩
  | @createTable catalog db fresh found record result here free named =>
    rw [table?_add here] at there
    split at there
    next same =>
      obtain ⟨rfl, rfl, rfl⟩ := same
      cases there
      exact .inr ⟨db, record, found, rfl, here, rfl, by rw [named]; rfl⟩
    next => exact .inl ⟨node, there, rfl⟩
  | @dropTable catalog db table found missing here =>
    rw [table?_remove (table_eq_ok.1 here).1] at there
    split at there
    next => cases there
    next => exact .inl ⟨node, there, rfl⟩
  | addPartition here => exact .inl (origin_setShelf here _ there)
  | dropPartitions quiet here => exact .inl (origin_setShelf here _ there)

end Step
end Contents

/-- All that stands goes by a name, and was made in its scope. -/
structure Founded (contents : Contents) (log : List Issue) : Prop where
  catalogs : ∀ catalog index, contents.find? catalog = some index → catalog ≠ ""
  databases : ∀ catalog id node, contents.database? catalog id = some node →
    nameOf node.record.ident ≠ "" ∧ Bytes.ofText id ∈ keysIn (.catalog catalog) log
  tables : ∀ catalog owner id node, contents.table? catalog owner id = some node →
    nameOf node.record.ident ≠ "" ∧ Bytes.ofText id ∈ keysIn (.database catalog owner) log

namespace Founded

variable {contents after : Contents} {log more : List Issue}
  {options : StoreOptions} {operation : Operation} {outcome : Outcome}

theorem empty : Founded ∅ [] where
  catalogs _ _ impossible := by cases impossible
  databases _ _ _ impossible := by cases impossible
  tables _ _ _ _ impossible := by cases impossible

private theorem mem_keysIn_append {scope : Scope} {key : Bytes} (held : key ∈ keysIn scope log) :
    key ∈ keysIn scope (log ++ more) := by
  rw [keysIn_append]
  exact List.mem_append_left _ held

private theorem mem_keysIn_last (issue : Issue) :
    issue.key ∈ keysIn issue.scope (log ++ [issue]) := by
  rw [keysIn_append, keysIn_singleton]
  exact List.mem_append_right _ List.mem_cons_self

theorem step (founded : Founded contents log)
    (ran : contents.run options operation = (.ok outcome, after)) :
    Founded after (log ++ (issued? (contents.place? operation) (.ok outcome)).toList) where
  catalogs catalog index there := by
    obtain ⟨before, held⟩ | ⟨record, fresh, rfl⟩ := (Contents.step_of_run ran).catalog_origin there
    · exact founded.catalogs catalog before held
    · obtain ⟨made, done, rfl⟩ := Contents.change_eq_ok.1 ran
      exact (Contents.createDatabase_eq_ok.1 done).1
  databases catalog id node there := by
    obtain ⟨before, held, same⟩ | ⟨record, rfl, named⟩ :=
      (Contents.step_of_run ran).database_origin there
    · obtain ⟨named, made⟩ := founded.databases catalog id before held
      exact ⟨same ▸ named, mem_keysIn_append made⟩
    · obtain ⟨made, done, rfl⟩ := Contents.change_eq_ok.1 ran
      rw [named]
      refine ⟨(Contents.createDatabase_eq_ok.1 done).2.1, ?_⟩
      exact mem_keysIn_last ⟨.catalog catalog, Bytes.ofText id, made.sequence⟩
  tables catalog owner id node there := by
    obtain ⟨before, held, same⟩ | ⟨db, record, found, rfl, here, rfl, named⟩ :=
      (Contents.step_of_run ran).table_origin there
    · obtain ⟨named, made⟩ := founded.tables catalog owner id before held
      exact ⟨same ▸ named, mem_keysIn_append made⟩
    · obtain ⟨made, done, rfl⟩ := Contents.change_eq_ok.1 ran
      rw [named]
      refine ⟨(Contents.createTable_eq_ok.1 done).2.1, ?_⟩
      have issued : issued? (contents.place? (.createTable catalog db record id))
            (.ok (.table made)) =
          some ⟨.database catalog found.id, Bytes.ofText id, made.sequence⟩ := by
        simp only [Contents.place?, here, Except.toOption, Option.map_some,
          issued?, Outcome.sequence?]
      rw [issued]
      exact mem_keysIn_last ⟨.database catalog found.id, Bytes.ofText id, made.sequence⟩

end Founded

theorem Reached.founded {store : Store} {contents : Contents}
    {drawn : List String} {log : List Issue} {options : StoreOptions}
    (reached : Reached store contents drawn) (founded : Founded contents log)
    {operations : List Operation} (short : ∀ operation ∈ operations, operation.Short)
    (fresh : (drawn ++ operations.filterMap Operation.fresh?).Nodup) :
    Founded (contents.runAll options operations) (log ++ issues options store operations) := by
  induction operations generalizing store contents drawn log with
  | nil => simpa [issues, Contents.runAll] using founded
  | cons operation rest ih =>
    rw [drawn_cons] at fresh
    have unused := unused_of_nodup fresh
    have first := short operation List.mem_cons_self
    have next : Founded (contents.run options operation).2
        (log ++ (operation.issue? options store).toList) := by
      rw [reached.issue? first unused]
      cases ran : contents.run options operation with
      | mk result after =>
        cases result with
        | ok outcome => exact founded.step ran
        | error fault =>
          have none : issued? (contents.place? operation) (.error fault) = none := by
            cases contents.place? operation <;> rfl
          rw [none, Option.toList_none, List.append_nil]
          exact Contents.run_error ran ▸ founded
    rw [issues, ← List.append_assoc]
    exact ih (reached.run first unused) next (fun other held =>
      short other (List.mem_cons_of_mem _ held)) fresh

theorem Admissible.founded {operations : List Operation} (admissible : Admissible operations)
    (options : StoreOptions) :
    Founded (Contents.runAll options ∅ operations) (issues options ∅ operations) :=
  Reached.empty.founded .empty admissible.short (by simpa using admissible.fresh)

/-- What is made in an index has the identifier that was drawn for it. -/
private theorem key_of_issue {options : StoreOptions} {store : Store}
    {operation : Operation} {issue : Issue} (issued : operation.issue? options store = some issue)
    (index : ∀ catalog owner id, issue.scope ≠ .table catalog owner id) :
    operation.fresh?.map Bytes.ofText = some issue.key := by
  have placed : ∃ scope key, operation.place? store = some (scope, key) ∧
      issue.scope = scope ∧ issue.key = key := by
    unfold Operation.issue? at issued
    cases place : operation.place? store with
    | none => rw [place] at issued; cases issued
    | some place' =>
      rw [place] at issued
      cases ran : (operation.run options store).1 with
      | error fault => rw [ran] at issued; cases issued
      | ok outcome =>
        rw [ran] at issued
        obtain ⟨number, -, rfl⟩ := Option.map_eq_some_iff.1 issued
        exact ⟨_, _, rfl, rfl, rfl⟩
  obtain ⟨scope, key, placed, same, equal⟩ := placed
  cases operation with
  | createDatabase catalog record fresh =>
    cases placed
    rw [equal]
    rfl
  | createTable catalog db record fresh =>
    obtain ⟨owner, -, placed⟩ := Option.bind_eq_some_iff.1 placed
    cases placed
    rw [equal]
    rfl
  | addPartition catalog db table record fresh =>
    obtain ⟨owner, -, placed⟩ := Option.bind_eq_some_iff.1 placed
    obtain ⟨id, -, placed⟩ := Option.bind_eq_some_iff.1 placed
    cases placed
    exact absurd same (index catalog owner id)
  | _ => cases placed

/-- The history of an index follows the order in which identifiers are drawn. -/
theorem keysIn_issues {options : StoreOptions} {store : Store} {scope : Scope}
    (index : ∀ catalog owner id, scope ≠ .table catalog owner id) (operations : List Operation) :
    (keysIn scope (issues options store operations)).Sublist
      ((operations.filterMap Operation.fresh?).map Bytes.ofText) := by
  induction operations generalizing store with
  | nil => exact List.Sublist.refl []
  | cons operation rest ih =>
    have first : (keysIn scope (operation.issue? options store).toList).Sublist
        (operation.fresh?.toList.map Bytes.ofText) := by
      cases issued : operation.issue? options store with
      | none => exact List.nil_sublist _
      | some issue =>
        by_cases same : issue.scope = scope
        · subst same
          obtain ⟨fresh, drew, equal⟩ := Option.map_eq_some_iff.1 (key_of_issue issued index)
          rw [Option.toList_some, keysIn_singleton, drew, ← equal]
          exact List.Sublist.refl _
        · have none : keysIn scope [issue] = [] := by simp [keysIn, same]
          rw [Option.toList_some, none]
          exact List.nil_sublist _
    have split : (operation :: rest).filterMap Operation.fresh? =
        operation.fresh?.toList ++ rest.filterMap Operation.fresh? := by
      simpa using drawn_cons [] operation rest
    rw [issues, keysIn_append, split, List.map_append]
    exact first.append ih

end TableCatalog

import TableCatalog.Proofs.ContentsSuccess

/-! Why an operation fails. A request that lacks something is refused before anything is looked up,
and what is there already is only noticed where all that the operation needs is found. -/

namespace TableCatalog

variable {α β : Type}

theorem bind_eq_error {first : Except Fault α} {next : α → Except Fault β} {fault : Fault} :
    (first >>= next) = .error fault ↔
    first = .error fault ∨ ∃ value, first = .ok value ∧ next value = .error fault := by
  cases first with
  | ok value =>
    refine ⟨fun failed => .inr ⟨value, rfl, failed⟩, ?_⟩
    intro failed
    obtain impossible | ⟨_, same, failed⟩ := failed
    · cases impossible
    · cases same
      exact failed
  | error other =>
    show Except.error other = .error fault ↔ _
    refine ⟨fun failed => .inl (congrArg Except.error (Except.error.inj failed)), ?_⟩
    intro failed
    obtain failed | ⟨_, impossible, _⟩ := failed
    · exact congrArg Except.error (Except.error.inj failed)
    · cases impossible

/-- A result with the reason for it, the first of three that applies. -/
inductive Judged (malformed missing taken : Prop) : Except Fault α → Prop
  | malformed {fault : Fault} (kind : fault.kind = .invalidArgument) (so : malformed) :
      Judged malformed missing taken (.error fault)
  | missing {fault : Fault} (kind : fault.kind = .notFound) (formed : ¬ malformed) (so : missing) :
      Judged malformed missing taken (.error fault)
  | taken {fault : Fault} (kind : fault.kind = .alreadyExists)
      (formed : ¬ malformed) (there : ¬ missing) (so : taken) :
      Judged malformed missing taken (.error fault)
  | done {value : α} (formed : ¬ malformed) (there : ¬ missing) (free : ¬ taken) :
      Judged malformed missing taken (.ok value)

namespace Judged

variable {malformed missing taken : Prop} {result : Except Fault α}

theorem guard {check : Except Fault β} {next : β → Except Fault α}
    (refused : ∀ fault, check = .error fault → fault.kind = .invalidArgument ∧ malformed)
    (passed : ∀ value, check = .ok value → Judged malformed missing taken (next value)) :
    Judged malformed missing taken (check >>= next) := by
  cases checked : check with
  | error fault => exact .malformed (refused fault checked).1 (refused fault checked).2
  | ok value => exact passed value checked

theorem find {lookup : Except Fault β} {next : β → Except Fault α} (formed : ¬ malformed)
    (lost : ∀ fault, lookup = .error fault → fault.kind = .notFound ∧ missing)
    (found : ∀ value, lookup = .ok value → Judged malformed missing taken (next value)) :
    Judged malformed missing taken (lookup >>= next) := by
  cases looked : lookup with
  | error fault => exact .missing (lost fault looked).1 formed (lost fault looked).2
  | ok value => exact found value looked

theorem map (judged : Judged malformed missing taken result) (wrap : α → β) :
    Judged malformed missing taken (result.map wrap) := by
  cases judged with
  | malformed kind so => exact .malformed kind so
  | missing kind formed so => exact .missing kind formed so
  | taken kind formed there so => exact .taken kind formed there so
  | done formed there free => exact .done formed there free

theorem change {contents : Contents} {result : Except Fault (α × Contents)}
    (judged : Judged malformed missing taken result) (wrap : α → Outcome) :
    Judged malformed missing taken (contents.change wrap result).1 := by
  cases judged with
  | malformed kind so => exact .malformed kind so
  | missing kind formed so => exact .missing kind formed so
  | taken kind formed there so => exact .taken kind formed there so
  | done formed there free => exact .done formed there free

end Judged

namespace Request

variable {catalog : String} {entity : Entity} {ident db table : Ident}
  {fault : Fault} {values : List String} {tuples : List (List String)}

theorem requireCatalog_error (refused : requireCatalog catalog = .error fault) :
    fault.kind = .invalidArgument ∧ catalog = "" := by
  unfold requireCatalog at refused
  split at refused
  next empty =>
    cases refused
    exact ⟨rfl, String.isEmpty_iff.1 empty⟩
  next => cases refused

theorem requireIdent_error (refused : requireIdent entity ident = .error fault) :
    fault.kind = .invalidArgument ∧ ident.Blank := by
  unfold requireIdent at refused
  split at refused
  next empty =>
    cases refused
    exact ⟨rfl, by simpa [Ident.isEmpty, Ident.Blank, String.isEmpty_iff] using empty⟩
  next => cases refused

theorem requireName_error {ident : Option Ident}
    (refused : requireName entity ident = .error fault) :
    fault.kind = .invalidArgument ∧ nameOf ident = "" := by
  simp only [requireName] at refused
  split at refused
  next empty =>
    cases refused
    exact ⟨rfl, String.isEmpty_iff.1 empty⟩
  next => cases refused

theorem requireTable_error (refused : requireTable catalog db table = .error fault) :
    fault.kind = .invalidArgument ∧ (catalog = "" ∨ db.Blank ∨ table.Blank) := by
  simp only [requireTable, bind_eq_error] at refused
  rcases refused with refused | ⟨_, -, refused | ⟨_, -, refused⟩⟩
  · exact (requireCatalog_error refused).imp_right .inl
  · exact (requireIdent_error refused).imp_right fun blank => .inr (.inl blank)
  · exact (requireIdent_error refused).imp_right fun blank => .inr (.inr blank)

theorem partitionKey_error (refused : partitionKey values = .error fault) :
    fault.kind = .invalidArgument ∧ joinValues values = "" := by
  simp only [partitionKey] at refused
  split at refused
  next empty =>
    cases refused
    exact ⟨rfl, String.isEmpty_iff.1 empty⟩
  next => cases refused

theorem partitionKeys_error (refused : partitionKeys tuples = .error fault) :
    fault.kind = .invalidArgument ∧ ∃ values ∈ tuples, joinValues values = "" := by
  have failed : tuples.mapM partitionKey = .error fault := by
    obtain failed | ⟨_, -, impossible⟩ := bind_eq_error.1 refused
    · exact failed
    · cases impossible
  clear refused
  induction tuples with
  | nil => cases failed
  | cons values rest ih =>
    simp only [mapM_cons, bind_eq_error] at failed
    obtain failed | ⟨key, -, failed | ⟨keys, -, impossible⟩⟩ := failed
    · exact (partitionKey_error failed).imp_right fun empty => ⟨values, List.mem_cons_self, empty⟩
    · exact (ih failed).imp_right fun ⟨tuple, held, empty⟩ =>
        ⟨tuple, List.mem_cons_of_mem _ held, empty⟩
    · cases impossible

end Request

namespace Contents

variable {contents : Contents} {catalog : String} {db table : Ident} {fault missing : Fault}

private theorem resolve_error {ε : Type} {index : Index ε} {entity : Entity}
    {ident : Ident} (failed : index.resolve entity ident = .error fault) :
    fault.kind = .notFound := by
  unfold Index.resolve at failed
  split at failed
  · cases failed
  · split at failed
    · cases failed
      rfl
    · cases failed

private theorem find_error {ε : Type} {index : Index ε} {entity : Entity} {ident : Ident}
    (failed : index.find entity ident missing = .error fault) (kind : missing.kind = .notFound) :
    fault.kind = .notFound := by
  obtain failed | ⟨id, -, failed⟩ := bind_eq_error.1 failed
  · exact resolve_error failed
  · split at failed
    · cases failed
      exact kind
    · cases failed

private theorem catalog_error (failed : contents.catalog catalog = .error fault) :
    fault.kind = .notFound := by
  unfold Contents.catalog at failed
  split at failed
  · cases failed
    rfl
  · cases failed

/-- A database that is looked up in vain is not found, be it
for its catalog, its name or its identifier. -/
theorem database_error (failed : contents.database catalog db = .error fault) :
    fault.kind = .notFound := by
  simp only [Contents.database, bind_eq_error] at failed
  obtain failed | ⟨index, -, failed | ⟨found, -, impossible⟩⟩ := failed
  · exact catalog_error failed
  · exact find_error failed rfl
  · cases impossible

theorem table_error (failed : contents.table catalog db table missing = .error fault)
    (kind : missing.kind = .notFound) : fault.kind = .notFound := by
  simp only [Contents.table, bind_eq_error] at failed
  obtain failed | ⟨owner, -, failed | ⟨found, -, impossible⟩⟩ := failed
  · exact database_error failed
  · exact find_error failed kind
  · cases impossible

end Contents
end TableCatalog

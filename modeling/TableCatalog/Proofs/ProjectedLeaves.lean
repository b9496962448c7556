import Mathlib.Data.List.Infix
import TableCatalog.Projection
import TableCatalog.Proofs.RecordLeaves

/-! Which leaves of a record a projection shows: those that a shown path covers, or all of them if
no path is listed, less those that a hidden path covers. Every other leaf reads as its default, so a
projection tells nothing of what it leaves out. -/

namespace TableCatalog
open Projectable Leafy

/-- A path covers a leaf if a field of the kind goes by it
and the leaf is that field or lies inside it. -/
def Covers {α : Type} [Projectable α] [Leafy α] (path : String) (leaf : Leaf α) : Prop :=
  path ∈ paths α ∧ ∃ names, names <+: place leaf ∧ path = ".".intercalate names

instance {α : Type} [Projectable α] [Leafy α] (path : String) (leaf : Leaf α) :
    Decidable (Covers path leaf) :=
  decidable_of_iff ((∃ names ∈ (place leaf).inits, path = ".".intercalate names) ∧ path ∈ paths α)
    (by simp only [Covers, List.mem_inits, and_comm])

/-- Every leaf reads as in the source or as its default. -/
def Drawn {α : Type} [Inhabited α] [Leafy α] (source target : α) : Prop :=
  ∀ leaf : Leaf α, read leaf target = read leaf source ∨ read leaf target = read leaf default

/-- A kind whose fields carry over and clear the leaves that their paths cover, and no others. -/
class Leafwise (α : Type) [Projectable α] [Leafy α] : Prop where
  read_clear (field : Projectable.Field α) (leaf : Leaf α) (record : α) :
    read leaf (clear field record) = if Covers (path field) leaf
      then read leaf default else read leaf record
  /-- A field inside a part that the source does not have carries nothing over, so what the target
  has there must be the source's already. -/
  read_copy (field : Projectable.Field α) (leaf : Leaf α) {source target : α} :
    Drawn source target →
    read leaf (copy field source target) = if Covers (path field) leaf
      then read leaf source else read leaf target

instance : Leafwise Database where
  read_clear field leaf record := by
    rcases record with ⟨_ | ident, _⟩ <;> cases field <;>
      rcases leaf with (_ | _) | _ | _ | _ | _ <;> rfl
  read_copy field leaf source target _ := by
    rcases source with ⟨_ | ident, _⟩ <;> cases field <;>
      rcases leaf with (_ | _) | _ | _ | _ | _ <;> rfl

instance : Leafwise Table where
  read_clear field leaf record := by
    rcases record with ⟨_ | ident, _⟩ <;> cases field <;>
      rcases leaf with (_ | _) | _ | _ | _ | _ |
        (_ | _ | _ | _ | (_ | _ | _) | _ | _ | _ | _) | _ | _ <;> rfl
  read_copy field leaf source target _ := by
    rcases source with ⟨_ | ident, _⟩ <;> cases field <;>
      rcases leaf with (_ | _) | _ | _ | _ | _ |
        (_ | _ | _ | _ | (_ | _ | _) | _ | _ | _ | _) | _ | _ <;> rfl

private theorem read_clear_partition (field : Projectable.Field Partition)
    (leaf : Leaf Partition) (record : Partition) :
    read leaf (clear field record) = if Covers (path field) leaf
      then read leaf default else read leaf record := by
  rcases record with ⟨_, _, _, _ | ⟨_, _, _, _, _ | _⟩⟩ <;> cases field <;>
    rcases leaf with _ | _ | _ | (_ | _ | _ | _ | (_ | _ | _) | _ | _ | _ | _) | _ | _ | _ <;> rfl

private theorem Drawn.read_missing {α : Type} [Projectable α]
    [Leafy α] {source target : α} (drawn : Drawn source target)
    (field : Projectable.Field α) {leaf : Leaf α} (missing : clear field source = source)
    (cleared : read leaf (clear field source) = if Covers (path field) leaf
        then read leaf default else read leaf source) :
    read leaf target = if Covers (path field) leaf then read leaf source else read leaf target := by
  by_cases covers : Covers (path field) leaf
  case pos =>
    rw [missing, if_pos covers] at cleared
    rw [if_pos covers]
    rcases drawn leaf with same | blank
    · exact same
    · exact blank.trans cleared.symm
  case neg => rw [if_neg covers]

instance : Leafwise Partition where
  read_clear := read_clear_partition
  read_copy field leaf source target drawn := by
    rcases source with ⟨_, _, _, _ | ⟨_, _, _, _, _ | _⟩⟩ <;> cases field
    -- what the source does not have is not carried over, and clearing it does nothing either
    case none.storageParams => exact drawn.read_missing .storageParams rfl (read_clear_partition ..)
    case none.serialization => exact drawn.read_missing .serialization rfl (read_clear_partition ..)
    case none.serializationParams | some.none.serializationParams =>
      exact drawn.read_missing .serializationParams rfl (read_clear_partition ..)
    all_goals rcases leaf with _ | _ | _ | (_ | _ | _ | _ | (_ | _ | _) | _ | _ | _ | _) |
      _ | _ | _ <;> rfl

namespace Projectable

variable {α : Type} [Projectable α]

theorem field?_eq_some {text : String} {field : Projectable.Field α}
    (found : field? text = some field) : path field = text :=
  beq_iff_eq.mp (List.find?_some (p := fun field => path field == text) found)

theorem field?_eq_none {text : String} : field? (α := α) text = none ↔ text ∉ paths α := by
  simp [field?, paths]

/-- Acts on the field that goes by a path, if there is one. -/
def atPath (act : Projectable.Field α → α → α) (path : String) (record : α) : α :=
  match field? path with
  | some field => act field record
  | none => record

/-- Works off a list of paths. -/
def along (act : Projectable.Field α → α → α) (paths : List String) (record : α) : α :=
  paths.foldl (fun record path => atPath act path record) record

theorem select_eq_along (record : α) (shown : List String) :
    select record shown = along (fun field => copy field record) shown default := rfl

theorem exclude_eq_along (record : α) (hidden : List String) :
    exclude record hidden = along clear hidden record := rfl

end Projectable

variable {α : Type} [Projectable α] [Leafy α]

theorem read_atPath {act : Projectable.Field α → α → α} {origin record : α} {leaf : Leaf α}
    (acts : ∀ field, read leaf (act field record) = if Covers (path field) leaf
        then read leaf origin else read leaf record) (text : String) :
    read leaf (atPath act text record) = if Covers text leaf
      then read leaf origin else read leaf record := by
  unfold atPath
  split
  case h_1 field found => rw [acts, field?_eq_some found]
  case h_2 unknown => rw [if_neg fun covers => field?_eq_none.mp unknown covers.left]

/-- Steps that each take from one record what a path covers
take together what any of the paths covers. -/
theorem read_along {act : Projectable.Field α → α → α} {origin : α} {invariant : α → Prop}
    (acts : ∀ {record}, invariant record → ∀ (field : Projectable.Field α) (leaf : Leaf α),
      read leaf (act field record) = if Covers
      (path field) leaf then read leaf origin else read leaf record)
    (kept : ∀ {record}, invariant record → ∀ path, invariant (atPath act path record))
    (paths : List String) (leaf : Leaf α) {record : α} (holds : invariant record) :
    read leaf (along act paths record) = if ∃ path ∈ paths, Covers path leaf
      then read leaf origin else read leaf record := by
  induction paths generalizing record with
  | nil => simp [along]
  | cons path rest ih =>
    rw [along, List.foldl_cons, ← along, ih (kept holds path),
      read_atPath (fun field => acts holds field leaf)]
    by_cases covers : Covers path leaf <;> simp [covers]

theorem drawn_default (source : α) : Drawn source default := by
  intro leaf
  exact .inr rfl

variable [Leafwise α]

theorem Drawn.copy {source target : α} (drawn : Drawn source target) (text : String) :
    Drawn source (atPath (fun field => Projectable.copy field source) text target) := by
  intro leaf
  rw [read_atPath (fun field => Leafwise.read_copy field leaf drawn) text]
  split
  case isTrue => exact .inl rfl
  case isFalse => exact drawn leaf

theorem read_select (record : α) (shown : List String) (leaf : Leaf α) :
    read leaf (select record shown) = if ∃ path ∈ shown, Covers path leaf
      then read leaf record else read leaf default := by
  rw [select_eq_along]
  exact read_along (fun drawn field leaf => Leafwise.read_copy field leaf drawn)
    Drawn.copy shown leaf (drawn_default record)

theorem read_exclude (record : α) (hidden : List String) (leaf : Leaf α) :
    read leaf (exclude record hidden) = if ∃ path ∈ hidden, Covers path leaf
      then read leaf default else read leaf record := by
  have acts {record : α} (_ : True) (field : Projectable.Field α) (leaf : Leaf α) :=
    Leafwise.read_clear field leaf record
  rw [exclude_eq_along]
  exact read_along acts (fun kept _ => kept) hidden leaf trivial

/-- A projection lets a leaf through. -/
def Admitted (shown hidden : List String) (leaf : Leaf α) : Prop :=
  (shown = [] ∨ ∃ path ∈ shown, Covers path leaf) ∧ ¬ ∃ path ∈ hidden, Covers path leaf

omit [Leafwise α] in
instance (shown hidden : List String) (leaf : Leaf α) : Decidable (Admitted shown hidden leaf) :=
  inferInstanceAs (Decidable (_ ∧ _))

theorem read_project (record : α) (shown hidden : List String) (leaf : Leaf α) :
    read leaf (project record shown hidden) = if Admitted shown hidden leaf
      then read leaf record else read leaf default := by
  rw [project, read_exclude]
  by_cases excluded : ∃ path ∈ hidden, Covers path leaf
  case pos => rw [if_pos excluded, if_neg fun admitted => admitted.right excluded]
  case neg =>
    rw [if_neg excluded]
    cases shown with
    | nil =>
      rw [if_pos (show Admitted [] hidden leaf from ⟨.inl rfl, excluded⟩),
        List.isEmpty_nil, if_pos rfl]
    | cons first rest =>
      have iff : Admitted (first :: rest) hidden leaf ↔
          ∃ path ∈ first :: rest, Covers path leaf := by
        simp only [Admitted, excluded, not_false_eq_true, and_true, reduceCtorEq, false_or]
      simp only [iff, List.isEmpty_cons, Bool.false_eq_true, if_false, read_select]

/-- No path leads to a leaf. -/
def Bare (leaf : Leaf α) : Prop := ∀ path, ¬ Covers path leaf

omit [Leafwise α] in
theorem bare_iff {leaf : Leaf α} : Bare leaf ↔ ∀ path ∈ paths α, ¬ Covers path leaf :=
  ⟨fun bare path _ => bare path, fun bare path covers => bare path covers.left covers⟩

instance (leaf : Leaf α) : Decidable (Bare leaf) := decidable_of_iff _ bare_iff.symm

omit [Leafwise α] in
theorem Bare.admitted_iff {leaf : Leaf α} (bare : Bare leaf) {shown hidden : List String} :
    Admitted shown hidden leaf ↔ shown = [] := by
  have none (path : String) : Covers path leaf ↔ False := iff_false_intro (bare path)
  simp only [Admitted, none, and_false, exists_false, or_false, not_false_eq_true, and_true]

/-- What a projection reads as, for a kind of record with the given bare leaves. -/
structure ShowsAdmitted (α : Type) [Projectable α] [Leafy α]
    (bareLeaves : List (Leaf α)) : Prop where
  shown (record : α) (shown hidden : List String) (leaf : Leaf α) :
    read leaf (project record shown hidden) = if Admitted shown hidden leaf
      then read leaf record else read leaf default
  /-- What is left out makes no difference. -/
  confined {first second : α} {shown hidden : List String} :
    (∀ leaf : Leaf α, Admitted shown hidden leaf → read leaf first = read leaf second) →
      ∀ leaf : Leaf α, read leaf (project first shown hidden) =
        read leaf (project second shown hidden)
  bare (leaf : Leaf α) : Bare leaf ↔ leaf ∈ bareLeaves
  kept (record : α) (shown hidden : List String) {leaf : Leaf α} : Bare leaf →
    read leaf (project record shown hidden) = if shown = [] then read leaf record
      else read leaf default

theorem ShowsAdmitted.of_bare {bareLeaves : List (Leaf α)}
    (bare : ∀ leaf, Bare leaf ↔ leaf ∈ bareLeaves) :
    ShowsAdmitted α bareLeaves where
  shown := read_project
  confined {first second shown hidden} alike leaf := by
    rw [read_project, read_project]
    by_cases admitted : Admitted shown hidden leaf
    case pos => rw [if_pos admitted, if_pos admitted, alike leaf admitted]
    case neg => rw [if_neg admitted, if_neg admitted]
  bare := bare
  kept record shown hidden leaf bare := by simp only [read_project, bare.admitted_iff]

/-- Only the sequence number of a record and the identifier of a partition are in no field. -/
theorem project_shows_admitted :
    ShowsAdmitted Database [Database.Leaf.sequence] ∧ ShowsAdmitted Table [Table.Leaf.sequence] ∧
      ShowsAdmitted Partition [Partition.Leaf.sequence, Partition.Leaf.id] := by
  refine ⟨.of_bare fun leaf => ?_, .of_bare fun leaf => ?_, .of_bare fun leaf => ?_⟩
  · rcases leaf with (_ | _) | _ | _ | _ | _ <;> decide
  · rcases leaf with (_ | _) | _ | _ | _ | _ | (_ | _ | _ | _ | (_ | _ | _) | _ | _ | _ | _) |
      _ | _ <;> decide
  · rcases leaf with _ | _ | _ | (_ | _ | _ | _ | (_ | _ | _) | _ | _ | _ | _) |
      _ | _ | _ <;> decide

example : project ({ values := ["2024"], location := "/data", id := "7" } : Partition)
      ["values", "color", "location"] ["location"] =
    { values := ["2024"] } := by decide

end TableCatalog

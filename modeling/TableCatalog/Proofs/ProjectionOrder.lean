import Mathlib.Data.List.Perm.Basic
import TableCatalog.Proofs.ProjectedLeaves

/-! The order of the paths in a list makes no difference to a projection, nor does how often a path
is listed or what else is listed that is no path of the kind. Both lists are worked off path by
path; acts on two fields commute and an act is done once for all, and that is so of whole records,
of the parts they have as well as of what is in the parts. Selecting a name makes an identity appear
even where the source has none, so for databases and tables the source must have one. -/

namespace TableCatalog
open Projectable Leafy

section

variable {ι σ : Type} [DecidableEq ι] {step : σ → ι → σ} [RightCommutative step]

variable (step) in
theorem foldl_absorbs (once : ∀ state item, step (step state item) item = step state item)
    {item : ι} {items : List ι} (member : item ∈ items) (state : σ) :
    step (items.foldl step state) item = items.foldl step state :=
  calc step (items.foldl step state) item
    _ = (items ++ [item]).foldl step state := by
      rw [List.foldl_append, List.foldl_cons, List.foldl_nil]
    _ = (item :: item :: items.erase item).foldl step state :=
        ((List.perm_append_singleton item items).trans
          (.cons item (List.perm_cons_erase member))).foldl_eq state
    _ = (item :: items.erase item).foldl step state := by
      rw [List.foldl_cons, List.foldl_cons, once, ← List.foldl_cons]
    _ = items.foldl step state := (List.perm_cons_erase member).symm.foldl_eq state

omit [DecidableEq ι] [RightCommutative step] in
theorem foldl_eq_self {items : List ι} {state : σ}
    (still : ∀ item ∈ items, step state item = state) : items.foldl step state = state := by
  induction items with
  | nil => rfl
  | cons item rest ih =>
    rw [List.foldl_cons, still item List.mem_cons_self]
    exact ih fun item member => still item (List.mem_cons_of_mem _ member)

/-- Where only the known items do anything, what counts is which of these are listed. -/
theorem foldl_eq_of_mem_iff (once : ∀ state item, step (step state item) item = step state item)
    {known : List ι} (idle : ∀ state item, item ∉ known → step state item = state)
    {items others : List ι} (same : ∀ item ∈ known, item ∈ items ↔ item ∈ others) (state : σ) :
    items.foldl step state = others.foldl step state := by
  have done {items others : List ι} (same : ∀ item ∈ known, item ∈ items ↔ item ∈ others) :
      items.foldl step (others.foldl step state) = others.foldl step state := by
    apply foldl_eq_self
    intro item member
    by_cases listed : item ∈ known
    · exact foldl_absorbs step once ((same item listed).mp member) state
    · exact idle _ item listed
  calc items.foldl step state
    _ = others.foldl step (items.foldl step state) :=
      (done fun item listed => (same item listed).symm).symm
    _ = (items ++ others).foldl step state := List.foldl_append.symm
    _ = (others ++ items).foldl step state := List.perm_append_comm.foldl_eq state
    _ = items.foldl step (others.foldl step state) := List.foldl_append
    _ = others.foldl step state := done same

end

/-- The fields can be acted on in any order and any number of times. -/
structure ActsFreely {α : Type} [Projectable α] (act : Projectable.Field α → α → α) : Prop where
  comm (first second : Projectable.Field α) (record : α) :
    act first (act second record) = act second (act first record)
  once (field : Projectable.Field α) (record : α) : act field (act field record) = act field record

theorem clear_database : ActsFreely (clear (α := Database)) where
  comm first second record := by
    rcases record with ⟨_ | ident, _⟩ <;> cases first <;> cases second <;> rfl
  once field record := by
    rcases record with ⟨_ | ident, _⟩ <;> cases field <;> rfl

theorem clear_table : ActsFreely (clear (α := Table)) where
  comm first second record := by
    rcases record with ⟨_ | ident, _⟩ <;> cases first <;> cases second <;> rfl
  once field record := by
    rcases record with ⟨_ | ident, _⟩ <;> cases field <;> rfl

theorem clear_partition : ActsFreely (clear (α := Partition)) where
  comm first second record := by
    rcases record with ⟨_, _, _, _ | ⟨_, _, _, _, _ | _⟩⟩ <;> cases first <;> cases second <;> rfl
  once field record := by
    rcases record with ⟨_, _, _, _ | ⟨_, _, _, _, _ | _⟩⟩ <;> cases field <;> rfl

/-- Every part the target has is there in the source. -/
def Within {α : Type} [Leafy α] (source target : α) : Prop :=
  List.Forall₂ (fun there here => there = true → here = true) (parts target) (parts source)

/-- What is carried over from a record can be carried on from
where it came to, and brings no part the record does not have. -/
structure CopiesFreely {α : Type} [Projectable α] [Leafy α] (source : α) :
    Prop extends ActsFreely fun field => copy field source where
  relay (field : Projectable.Field α) {between : α} (target : α) : Within source between →
    copy field (copy field source between) target = copy field source target
  within_default : Within source default
  within_copy (field : Projectable.Field α) {target : α} :
    Within source target → Within source (copy field source target)

theorem Database.copiesFreely {record : Database} (present : record.ident.isSome) :
    CopiesFreely record where
  comm first second target := by
    rcases record with ⟨_ | ident, _⟩
    case none => contradiction
    case some => cases first <;> cases second <;> rfl
  once field target := by cases field <;> rfl
  relay field between target _ := by cases field <;> rfl
  within_default := .cons (fun _ => present) .nil
  within_copy field target _ := .cons (fun _ => present) .nil

theorem Table.copiesFreely {record : Table} (present : record.ident.isSome) :
    CopiesFreely record where
  comm first second target := by
    rcases record with ⟨_ | ident, _⟩
    case none => contradiction
    case some => cases first <;> cases second <;> rfl
  once field target := by cases field <;> rfl
  relay field between target _ := by cases field <;> rfl
  within_default := .cons (fun _ => present) (.cons nofun (.cons nofun .nil))
  within_copy field target within := by
    obtain ⟨-, storage⟩ := List.forall₂_cons.mp within
    refine .cons (fun _ => present) ?_
    cases field
    case storage => exact .cons id (.cons id .nil)
    all_goals exact storage

theorem Partition.copiesFreely (record : Partition) : CopiesFreely record where
  comm first second target := by
    rcases record with ⟨_, _, _, _ | ⟨_, _, _, _, _ | _⟩⟩ <;> cases first <;> cases second <;> rfl
  once field target := by
    rcases record with ⟨_, _, _, _ | ⟨_, _, _, _, _ | _⟩⟩ <;> cases field <;> rfl
  relay field between target within := by
    obtain ⟨storage, rest⟩ := List.forall₂_cons.mp within
    have serialization := (List.forall₂_cons.mp rest).left
    rcases record with ⟨_, _, _, _ | ⟨_, _, _, _, _ | _⟩⟩ <;>
      rcases between with ⟨_, _, _, _ | ⟨_, _, _, _, _ | _⟩⟩
    -- what the record does not have is not in between either
    case none.some.none | none.some.some => exact absurd (storage rfl) Bool.false_ne_true
    case some.none.some.some => exact absurd (serialization rfl) Bool.false_ne_true
    all_goals cases field <;> rfl
  within_default := .cons nofun (.cons nofun .nil)
  within_copy field target within := by
    rcases record with ⟨_, _, _, _ | ⟨_, _, _, _, _ | _⟩⟩ <;> cases field <;>
      simp_all [Within, parts, storageParts, copy, Partition.withStorage, Partition.serialization]

/-- The same paths of the kind are listed. -/
def SamePaths (α : Type) [Projectable α] (listed others : List String) : Prop :=
  ∀ path ∈ paths α, path ∈ listed ↔ path ∈ others

instance {α : Type} [Projectable α] (listed others : List String) :
    Decidable (SamePaths α listed others) :=
  inferInstanceAs (Decidable (∀ path ∈ paths α, _))

variable {α : Type} [Projectable α] {act : Projectable.Field α → α → α}

namespace ActsFreely

theorem rightCommutative (free : ActsFreely act) :
    RightCommutative fun (record : α) (path : String) => atPath act path record where
  right_comm record first second := by
    unfold atPath
    split
    case h_1 =>
      split
      case h_1 => exact free.comm ..
      case h_2 => rfl
    case h_2 => rfl

theorem atPath_once (free : ActsFreely act) (record : α) (path : String) :
    atPath act path (atPath act path record) = atPath act path record := by
  unfold atPath
  split
  case h_1 field _ => exact free.once field record
  case h_2 => rfl

theorem along_congr (free : ActsFreely act) {listed others : List String}
    (same : SamePaths α listed others) (record : α) :
    along act listed record = along act others record := by
  have commutes := free.rightCommutative
  have idle (record : α) (path : String) (unknown : path ∉ paths α) :
      atPath act path record = record := by
    rw [atPath, field?_eq_none.mpr unknown]
  exact foldl_eq_of_mem_iff free.atPath_once idle same record

theorem atPath_along (free : ActsFreely act) {path : String}
    {listed : List String} (member : path ∈ listed) (record : α) :
    atPath act path (along act listed record) = along act listed record := by
  have commutes := free.rightCommutative
  exact foldl_absorbs (fun record path => atPath act path record) free.atPath_once member record

theorem along_along (free : ActsFreely act) (listed : List String) (record : α) :
    along act listed (along act listed record) = along act listed record :=
  foldl_eq_self fun _ member => free.atPath_along member record

end ActsFreely

namespace CopiesFreely

variable [Leafy α] {source : α}

theorem within_atPath (free : CopiesFreely source) (path : String)
    {target : α} (within : Within source target) :
    Within source (atPath (fun field => copy field source) path target) := by
  unfold atPath
  split
  case h_1 field _ => exact free.within_copy field within
  case h_2 => exact within

theorem within_select (free : CopiesFreely source) (shown : List String) :
    Within source (select source shown) := by
  rw [select_eq_along]
  exact List.foldlRecOn shown _ free.within_default fun _ within path _ =>
    free.within_atPath path within

/-- Carrying over what is listed from the selection is carrying it over from the source. -/
theorem select_select (free : CopiesFreely source) (shown : List String) :
    select (select source shown) shown = select source shown := by
  have relay (target : α) (path : String) (member : path ∈ shown) :
      atPath (fun field => copy field (select source shown)) path target =
        atPath (fun field => copy field source) path target := by
    have kept := free.toActsFreely.atPath_along member default
    rw [← select_eq_along] at kept
    unfold atPath at kept ⊢
    split
    case h_1 field found =>
      simp only [found] at kept
      calc copy field (select source shown) target
        _ = copy field (copy field source (select source shown)) target := by rw [kept]
        _ = copy field source target := free.relay field target (free.within_select shown)
    case h_2 => rfl
  exact List.foldl_ext _ _ default relay

end CopiesFreely

/-- A projection of the record depends on what paths of the kind
are listed, and either list leaves a record as it left it. -/
structure ProjectsByPaths (record : α) : Prop where
  project {shown others hidden unwanted : List String} :
    (shown = [] ↔ others = []) → SamePaths α shown others →
    SamePaths α hidden unwanted →
    Projectable.project record shown hidden = Projectable.project record others unwanted
  select (shown : List String) :
    Projectable.select (Projectable.select record shown) shown = Projectable.select record shown
  exclude (hidden : List String) : Projectable.exclude (Projectable.exclude record hidden) hidden =
      Projectable.exclude record hidden

theorem ProjectsByPaths.of_free [Leafy α] {record : α} (copies : CopiesFreely record)
    (clears : ActsFreely (clear (α := α))) :
    ProjectsByPaths record where
  project {shown others hidden unwanted} empty same unseen := by
    have start : (if shown.isEmpty then record else Projectable.select record shown) =
        if others.isEmpty then record else Projectable.select record others := by
      rw [select_eq_along, select_eq_along, copies.toActsFreely.along_congr same]
      simp only [List.isEmpty_iff, empty]
    rw [Projectable.project, Projectable.project, start, exclude_eq_along, exclude_eq_along]
    exact clears.along_congr unseen _
  select := copies.select_select
  exclude hidden := clears.along_along hidden record

theorem projects_by_paths :
    (∀ record : Partition, ProjectsByPaths record) ∧
      (∀ record : Database, record.ident.isSome → ProjectsByPaths record) ∧
      ∀ record : Table, record.ident.isSome → ProjectsByPaths record :=
  ⟨fun record => .of_free record.copiesFreely clear_partition,
    fun _ present => .of_free (Database.copiesFreely present) clear_database,
    fun _ present => .of_free (Table.copiesFreely present) clear_table⟩

theorem projects_by_paths_reordered :
    project ({ storage := some { serialization := some { name := "orc" } } } : Partition)
          ["sd.serdeinfo.parameters", "sd", "color"] ["table"] =
        project { storage := some { serialization := some { name := "orc" } } }
          ["sd", "sd.serdeinfo.parameters", "sd"] ["table", "id"] ∧
      project ({ ident := some { name := "sales", id := "1" }, location := "/sales" } : Database)
          ["id.name", "id"] [] =
        project { ident := some { name := "sales", id := "1" }, location := "/sales" }
          ["id", "id.name", "id.id"] ["sd"] ∧
      project ({ ident := some { name := "orders", id := "2" }, typeCode := 1 } : Table)
          [] ["id.name", "id"] =
        project { ident := some { name := "orders", id := "2" }, typeCode := 1 }
          [] ["id", "id.name"] := by
  obtain ⟨partition, database, table⟩ := projects_by_paths
  refine ⟨(partition _).project ?_ ?_ ?_, (database _ rfl).project ?_ ?_ ?_,
    (table _ rfl).project ?_ ?_ ?_⟩
  all_goals decide

-- without an identity to carry over, the name selected last leaves an empty one
example : project ({} : Database) ["id", "id.name"] [] ≠ project {} ["id.name", "id"] [] := by
  decide

end TableCatalog

import TableCatalog.SortedMap

/-! A sorted map is known by what its keys hold. Each operation is one equation about that, and two
maps that hold the same under every key are one map. -/

namespace TableCatalog.SortedMap

variable {κ α β : Type}

section Rows

variable [DecidableEq κ]

private theorem lookup_row (row : κ × α) (rest : List (κ × α)) (key : κ) :
    (row :: rest).lookup key = if key = row.1 then some row.2 else rest.lookup key := by
  cases row with
  | mk head value =>
    by_cases same : key = head
    · subst same
      rw [List.lookup_cons_self, if_pos rfl]
    · have apart : (key == head) = false := by simpa using same
      simp only [List.lookup_cons, apart, same, if_false]

theorem lookup_filter (rows : List (κ × α)) (keep : κ → Bool) (key : κ) :
    (rows.filter fun row => keep row.1).lookup key = if keep key
      then rows.lookup key else none := by
  induction rows with
  | nil => simp
  | cons row rest ih =>
    rw [List.filter_cons, lookup_row]
    by_cases same : key = row.1
    · subst same
      cases kept : keep row.1 <;> simp [kept, ih, lookup_row]
    · split <;> simp only [lookup_row, same, if_false, ih]

private theorem lookup_map (rows : List (κ × α)) (f : α → β) (key : κ) :
    (rows.map fun row => (row.1, f row.2)).lookup key = (rows.lookup key).map f := by
  induction rows with
  | nil => rfl
  | cons row rest ih =>
    rw [List.map_cons, lookup_row, lookup_row, ih]
    split <;> rfl

end Rows

variable [LT κ]

/-- The map with another value under each of its keys. -/
def map (m : SortedMap κ α) (f : α → β) : SortedMap κ β :=
  ⟨m.toList.map fun row => (row.1, f row.2), List.pairwise_map.2 m.sorted⟩

theorem map_removeWhere (m : SortedMap κ α) (f : α → β) (drop : κ → Bool) :
    (m.removeWhere drop).map f = (m.map f).removeWhere drop := by
  apply ext_toList
  simp only [map, removeWhere, List.filter_map, Function.comp_def]

section Ascending

variable [LE κ] [Std.LawfulOrderLT κ]

private theorem nodup_of_ascending {rows : List (κ × α)} (sorted : rows.Pairwise (·.1 < ·.1)) :
    rows.Nodup := by
  refine sorted.imp fun {a b} less same => ?_
  subst same
  exact Std.lt_irrefl less

private theorem lookup_eq_some_iff_mem [DecidableEq κ] {rows : List (κ × α)}
    (sorted : rows.Pairwise (·.1 < ·.1)) {key : κ} {value : α} :
    rows.lookup key = some value ↔ (key, value) ∈ rows := by
  induction rows with
  | nil => simp
  | cons row rest ih =>
    have ⟨above, tail⟩ := List.pairwise_cons.1 sorted
    rw [lookup_row, List.mem_cons]
    by_cases same : key = row.1
    · subst same
      have absent : (row.1, value) ∉ rest := fun held => Std.lt_irrefl (above (row.1, value) held)
      simp only [if_true, Option.some.injEq, absent, or_false]
      exact ⟨fun equal => equal ▸ rfl, fun equal => (congrArg Prod.snd equal).symm⟩
    · have other : (key, value) ≠ row := fun equal => same (congrArg Prod.fst equal)
      simp only [same, if_false, ih tail, other, false_or]

theorem nodup_toList (m : SortedMap κ α) : m.toList.Nodup := nodup_of_ascending m.sorted

/-- Strictly ascending lists with the same rows are one list. -/
theorem eq_of_pairwise_of_mem_iff [Std.IsPreorder κ] {rows others : List (κ × α)}
    (sorted : rows.Pairwise (·.1 < ·.1)) (othersSorted : others.Pairwise (·.1 < ·.1))
    (same : ∀ row, row ∈ rows ↔ row ∈ others) : rows = others := by
  have shuffled := (List.perm_ext_iff_of_nodup (nodup_of_ascending sorted)
    (nodup_of_ascending othersSorted)).2 same
  refine shuffled.eq_of_pairwise (fun a b _ _ less more => ?_) sorted othersSorted
  exact absurd (Std.lt_trans less more) Std.lt_irrefl

theorem find?_eq_some_iff [DecidableEq κ] {m : SortedMap κ α} {key : κ} {value : α} :
    m.find? key = some value ↔ (key, value) ∈ m.toList :=
  lookup_eq_some_iff_mem m.sorted

theorem ext_find? [DecidableEq κ] [Std.IsPreorder κ] {m n : SortedMap κ α}
    (same : ∀ key, m.find? key = n.find? key) : m = n := by
  refine ext_toList (eq_of_pairwise_of_mem_iff m.sorted n.sorted fun ⟨key, value⟩ => ?_)
  rw [← find?_eq_some_iff, ← find?_eq_some_iff, same]

end Ascending

variable [DecidableEq κ]

@[simp] theorem find?_empty (key : κ) : (∅ : SortedMap κ α).find? key = none := rfl

theorem find?_removeWhere (m : SortedMap κ α) (drop : κ → Bool) (key : κ) :
    (m.removeWhere drop).find? key = if drop key then none else m.find? key := by
  unfold removeWhere find?
  rw [lookup_filter m.toList (fun key => !drop key)]
  cases drop key <;> rfl

theorem find?_map (m : SortedMap κ α) (f : α → β) (key : κ) :
    (m.map f).find? key = (m.find? key).map f := lookup_map m.toList f key

theorem find?_erase (m : SortedMap κ α) (key other : κ) :
    (m.erase key).find? other = if other = key then none else m.find? other := by
  simp [erase, find?_removeWhere]

theorem map_erase (m : SortedMap κ α) (f : α → β) (key : κ) :
    (m.erase key).map f = (m.map f).erase key := m.map_removeWhere f _

theorem erase_comm [LE κ] [Std.LawfulOrderLT κ] [Std.IsPreorder κ]
    (m : SortedMap κ α) (key other : κ) :
    (m.erase key).erase other = (m.erase other).erase key := by
  apply ext_find?
  intro asked
  simp only [find?_erase]
  split <;> split <;> rfl

variable [DecidableLT κ]

private theorem lookup_insertRow (key other : κ) (value : α) (rows : List (κ × α)) :
    (insertRow key value rows).lookup other = if other = key
      then some value else rows.lookup other := by
  induction rows with
  | nil => simp only [insertRow, lookup_row]
  | cons row rest ih =>
    unfold insertRow
    split
    · rw [lookup_row]
    · split
      next equal => simp only [lookup_row, ← equal]; split <;> rfl
      next different =>
        simp only [lookup_row, ih]
        by_cases same : other = row.1
        · simp [same, Ne.symm different]
        · simp only [same, if_false]

variable [LE κ] [Std.IsLinearOrder κ] [Std.LawfulOrderLT κ]

theorem find?_insert (m : SortedMap κ α) (key other : κ) (value : α) :
    (m.insert key value).find? other = if other = key then some value else m.find? other :=
  lookup_insertRow key other value m.toList

theorem insert_self {m : SortedMap κ α} {key : κ} {value : α} (held : m.find? key = some value) :
    m.insert key value = m := by
  apply ext_find?
  intro asked
  rw [find?_insert]
  split
  next same => rw [same, held]
  next => rfl

theorem insert_insert (m : SortedMap κ α) (key : κ) (value later : α) :
    (m.insert key value).insert key later = m.insert key later := by
  apply ext_find?
  intro asked
  simp only [find?_insert]
  split <;> rfl

theorem erase_insert_comm {key other : κ} (apart : key ≠ other) (m : SortedMap κ α) (value : α) :
    (m.insert other value).erase key = (m.erase key).insert other value := by
  apply ext_find?
  intro asked
  simp only [find?_insert, find?_erase]
  by_cases same : asked = key
  · simp only [same, apart, if_true, if_false]
  · simp only [same, if_false]

theorem map_insert (m : SortedMap κ α) (f : α → β) (key : κ) (value : α) :
    (m.insert key value).map f = (m.map f).insert key (f value) := by
  apply ext_find?
  intro asked
  simp only [find?_insert, find?_map]
  split <;> rfl

private theorem insertRow_append {key : κ} {value : α} {earlier : List (κ × α)}
    (below : ∀ row ∈ earlier, row.1 < key) (rows : List (κ × α)) :
    insertRow key value (earlier ++ rows) = earlier ++ insertRow key value rows := by
  induction earlier with
  | nil => rfl
  | cons row rest ih =>
    have less := below row List.mem_cons_self
    have notLess : ¬ key < row.1 := fun more => Std.lt_irrefl (Std.lt_trans less more)
    have different : key ≠ row.1 := fun same => Std.lt_irrefl (same ▸ less)
    simp only [List.cons_append, insertRow, notLess, different,
      if_false, ih fun other held => below other (List.mem_cons_of_mem _ held)]

private theorem insertRow_above {key : κ} {value : α} {rows : List (κ × α)}
    (above : ∀ row ∈ rows, row.1 < key) :
    insertRow key value rows = rows ++ [(key, value)] := by
  simpa only [List.append_nil, insertRow] using insertRow_append above []

/-- A value put in another's place stands in its place. -/
theorem toList_insert_of_find? {m : SortedMap κ α} {key : κ}
    {old : α} (held : m.find? key = some old) :
    ∃ earlier later, m.toList = earlier ++ (key, old) :: later ∧
    ∀ value, (m.insert key value).toList = earlier ++ (key, value) :: later := by
  obtain ⟨earlier, later, rows⟩ := List.append_of_mem (find?_eq_some_iff.1 held)
  have sorted := m.sorted
  rw [rows, List.pairwise_append] at sorted
  have below : ∀ row ∈ earlier, row.1 < key :=
    fun row inside => sorted.2.2 row inside _ List.mem_cons_self
  refine ⟨earlier, later, rows, fun value => ?_⟩
  have notLess : ¬ key < key := Std.lt_irrefl
  show insertRow key value m.toList = _
  rw [rows, insertRow_append below, insertRow, if_neg notLess, if_pos rfl]

/-- Ascending rows put into a map one after another, all above what is there, end up behind it. -/
theorem toList_foldl_insert {m : SortedMap κ α} {rows : List (κ × α)}
    (sorted : (m.toList ++ rows).Pairwise (·.1 < ·.1)) :
    (rows.foldl (fun m row => m.insert row.1 row.2) m).toList = m.toList ++ rows := by
  induction rows generalizing m with
  | nil => simp
  | cons row rest ih =>
    have above : ∀ other ∈ m.toList, other.1 < row.1 := fun other held =>
      (List.pairwise_append.1 sorted).2.2 other held row List.mem_cons_self
    have grown : (m.insert row.1 row.2).toList = m.toList ++ [row] := insertRow_above above
    rw [List.foldl_cons, ih (by rwa [grown, List.append_assoc]), grown, List.append_assoc]
    rfl

theorem insert_comm {key other : κ} (apart : key ≠ other) (m : SortedMap κ α)
    (value otherValue : α) :
    (m.insert key value).insert other otherValue =
      (m.insert other otherValue).insert key value := by
  refine ext_find? fun asked => ?_
  simp only [find?_insert]
  by_cases same : asked = key
  · simp only [same, apart, if_true, if_false]
  · simp only [same, if_false]

/-- The rows of a map put in one after another make the map again, in whatever order they come. -/
theorem foldl_insert_perm {m : SortedMap κ α} {rows : List (κ × α)}
    (shuffled : rows.Perm m.toList) :
    rows.foldl (fun m row => m.insert row.1 row.2) ∅ = m := by
  have sorted : rows.foldl (fun m row => m.insert row.1 row.2) ∅ =
      m.toList.foldl (fun m row => m.insert row.1 row.2) (∅ : SortedMap κ α) := by
    refine shuffled.foldl_eq' (fun row held other otherHeld filled => ?_) ∅
    by_cases same : row.1 = other.1
    · have found := find?_eq_some_iff.2 (shuffled.subset held)
      rw [same, find?_eq_some_iff.2 (shuffled.subset otherHeld)] at found
      rw [Prod.ext same (Option.some.inj found).symm]
    · exact insert_comm same filled row.2 other.2
  rw [sorted]
  exact ext_toList (toList_foldl_insert m.sorted)

end TableCatalog.SortedMap

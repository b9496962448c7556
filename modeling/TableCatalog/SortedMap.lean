/-! Finite maps kept as a list of pairs in strictly ascending key order. Equal contents have one
form, so equality of maps is equality of what they hold, and a scan in key order is the list
itself. -/

namespace TableCatalog

structure SortedMap (κ α : Type) [LT κ] where
  toList : List (κ × α)
  sorted : toList.Pairwise (·.1 < ·.1)

namespace SortedMap

variable {κ α : Type} [LT κ]

theorem ext_toList {m n : SortedMap κ α} (same : m.toList = n.toList) : m = n := by
  cases m; cases n; cases same; rfl

instance [DecidableEq κ] [DecidableEq α] : DecidableEq (SortedMap κ α) := fun m n =>
  if same : m.toList = n.toList then isTrue (ext_toList same)
  else isFalse fun equal => same (equal ▸ rfl)

def empty : SortedMap κ α := ⟨[], .nil⟩

instance : EmptyCollection (SortedMap κ α) := ⟨empty⟩
instance : Inhabited (SortedMap κ α) := ⟨empty⟩

def isEmpty (m : SortedMap κ α) : Bool := m.toList.isEmpty

def size (m : SortedMap κ α) : Nat := m.toList.length

/-- The value under a key. -/
def find? [DecidableEq κ] (m : SortedMap κ α) (key : κ) : Option α := m.toList.lookup key

/-- The map without the keys that `drop` picks. -/
def removeWhere (m : SortedMap κ α) (drop : κ → Bool) : SortedMap κ α :=
  ⟨m.toList.filter fun row => !drop row.1, m.sorted.sublist List.filter_sublist⟩

/-- The map without a key. -/
def erase [DecidableEq κ] (m : SortedMap κ α) (key : κ) : SortedMap κ α := m.removeWhere (· == key)

variable [DecidableEq κ] [DecidableLT κ]

/-- Puts a row at its place in an ascending list; a row with the same key gives way. -/
def insertRow (key : κ) (value : α) : List (κ × α) → List (κ × α)
  | [] => [(key, value)]
  | row :: rest =>
    if key < row.1 then (key, value) :: row :: rest
    else if key = row.1 then (key, value) :: rest
    else row :: insertRow key value rest

theorem mem_insertRow {key : κ} {value : α} {rows : List (κ × α)} {row : κ × α}
    (held : row ∈ insertRow key value rows) : row = (key, value) ∨ row ∈ rows := by
  induction rows with
  | nil => simpa [insertRow] using held
  | cons head rest ih =>
    unfold insertRow at held
    split at held
    · simpa using held
    · split at held
      · rcases List.mem_cons.1 held with equal | inside
        · exact .inl equal
        · exact .inr (List.mem_cons_of_mem _ inside)
      · rcases List.mem_cons.1 held with equal | inside
        · exact .inr (equal ▸ List.mem_cons_self)
        · exact (ih inside).imp id (List.mem_cons_of_mem _)

variable [LE κ] [Std.IsLinearOrder κ] [Std.LawfulOrderLT κ]

theorem insertRow_sorted (key : κ) (value : α) {rows : List (κ × α)}
    (sorted : rows.Pairwise (·.1 < ·.1)) : (insertRow key value rows).Pairwise (·.1 < ·.1) := by
  induction rows with
  | nil => exact .cons (by simp) .nil
  | cons head rest ih =>
    have ⟨above, tail⟩ := List.pairwise_cons.1 sorted
    unfold insertRow
    split
    · next less =>
      refine .cons (fun row held => ?_) sorted
      rcases List.mem_cons.1 held with equal | inside
      · exact equal ▸ less
      · exact Std.lt_trans less (above row inside)
    · next notLess =>
      split
      · next equal => exact .cons (fun row held => equal ▸ above row held) tail
      · next different =>
        refine .cons (fun row held => ?_) (ih tail)
        rcases mem_insertRow held with equal | inside
        · subst equal
          exact Std.lt_of_le_of_ne (Std.not_lt.1 notLess) (Ne.symm different)
        · exact above row inside

/-- The map with a value under a key, in place of what was there. -/
def insert (m : SortedMap κ α) (key : κ) (value : α) : SortedMap κ α :=
  ⟨insertRow key value m.toList, insertRow_sorted key value m.sorted⟩

/-- The pairs put in one after another, so the last value of a key stays. -/
def ofList (pairs : List (κ × α)) : SortedMap κ α :=
  pairs.foldl (fun m pair => m.insert pair.1 pair.2) empty

/-- The rows of both maps. Where both have a key, the value of the second one stays. -/
def union (m other : SortedMap κ α) : SortedMap κ α :=
  other.toList.foldl (fun m pair => m.insert pair.1 pair.2) m

end SortedMap
end TableCatalog

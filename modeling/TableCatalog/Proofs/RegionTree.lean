import TableCatalog.Region.Transaction
import TableCatalog.Proofs.MapContents
import TableCatalog.Proofs.PathKey

/-! The tree of regions without its encoding: one map from paths to counters, and one from a path
and a key to a value. A region knows its own entries, whatever the names of its neighbours, and
counters are plain numbers. Transactions over it say what the stored tables have to answer. -/

namespace TableCatalog.Region

instance : LT Path := ⟨fun p q => p.segments < q.segments⟩
instance : LE Path := ⟨fun p q => ¬ q.segments < p.segments⟩
instance : DecidableLT Path := fun p q => inferInstanceAs (Decidable (p.segments < q.segments))

instance : Std.IsLinearOrder Path := by
  apply Std.IsLinearOrder.of_le
  · exact ⟨fun _ _ less more =>
      Path.segments_injective (@Std.le_antisymm (List String) List.instLE _ _ _ less more)⟩
  · exact ⟨fun {p q r} less more =>
      @Std.le_trans (List String) List.instLE _ p.segments q.segments r.segments less more⟩
  · exact ⟨fun p q => @Std.le_total (List String) List.instLE _ p.segments q.segments⟩

instance : Std.LawfulOrderLT Path where
  lt_iff p q := @Std.LawfulOrderLT.lt_iff (List String) _ List.instLE _ p.segments q.segments

/-- A place for a value: a region and a key in it. -/
structure Slot where
  path : Path
  key : Bytes
deriving DecidableEq

namespace Slot

/-- Slots are in the order of their regions, and within a region in the order of their keys. -/
instance : LT Slot := ⟨fun s t => s.path < t.path ∨ s.path = t.path ∧ s.key < t.key⟩
instance : LE Slot := ⟨fun s t => s.path < t.path ∨ s.path = t.path ∧ s.key ≤ t.key⟩
instance : DecidableLT Slot :=
  fun s t => inferInstanceAs (Decidable (s.path < t.path ∨ s.path = t.path ∧ s.key < t.key))

theorem lt_iff {s t : Slot} : s < t ↔ s.path < t.path ∨ s.path = t.path ∧ s.key < t.key := Iff.rfl
theorem le_iff {s t : Slot} : s ≤ t ↔ s.path < t.path ∨ s.path = t.path ∧ s.key ≤ t.key := Iff.rfl

private theorem lt_asymm {p q : Path} (less : p < q) (more : q < p) : False :=
  Std.lt_irrefl (Std.lt_trans less more)

instance : Std.IsLinearOrder Slot := by
  apply Std.IsLinearOrder.of_le
  · constructor
    intro s t less more
    cases s; cases t
    rw [le_iff] at less more
    rcases less with less | ⟨rfl, less⟩ <;> rcases more with more | ⟨same, more⟩
    · exact (lt_asymm less more).elim
    · exact (Std.lt_irrefl (same ▸ less)).elim
    · exact (Std.lt_irrefl more).elim
    · obtain rfl := Std.le_antisymm less more
      rfl
  · refine ⟨fun {s t u} less more => ?_⟩
    rw [le_iff] at less more ⊢
    rcases less with less | ⟨same, less⟩ <;> rcases more with more | ⟨next, more⟩
    · exact .inl (Std.lt_trans less more)
    · exact .inl (next ▸ less)
    · exact .inl (same ▸ more)
    · exact .inr ⟨same.trans next, Std.le_trans less more⟩
  · constructor
    intro s t
    rw [le_iff, le_iff]
    rcases Std.lt_trichotomy s.path t.path with less | same | more
    · exact .inl (.inl less)
    · rcases Std.le_total (a := s.key) (b := t.key) with less | more
      · exact .inl (.inr ⟨same, less⟩)
      · exact .inr (.inr ⟨same.symm, more⟩)
    · exact .inr (.inl more)

instance : Std.LawfulOrderLT Slot where
  lt_iff s t := by
    rw [lt_iff, le_iff, le_iff]
    constructor
    · rintro (less | ⟨same, less⟩)
      · refine ⟨.inl less, ?_⟩
        rintro (more | ⟨same, -⟩)
        · exact lt_asymm less more
        · exact Std.lt_irrefl (same ▸ less)
      · refine ⟨.inr ⟨same, Std.le_of_lt less⟩, ?_⟩
        rintro (more | ⟨-, more⟩)
        · exact Std.lt_irrefl (same ▸ more)
        · exact Std.not_le.2 less more
    · rintro ⟨less | ⟨same, less⟩, apart⟩
      · exact .inl less
      · refine .inr ⟨same, Std.not_le.1 fun more => apart (.inr ⟨same.symm, more⟩)⟩

end Slot

structure Tree where
  counters : SortedMap Path Nat := ∅
  entries : SortedMap Slot Bytes := ∅
deriving DecidableEq

namespace Tree

instance : EmptyCollection Tree := ⟨{}⟩

/-- The entries put under this very path, in the order of their keys. -/
def scan (tree : Tree) (path : Path) : List (Bytes × Bytes) :=
  (tree.entries.toList.filter fun row => row.1.path = path).map fun row => (row.1.key, row.2)

theorem mem_scan (tree : Tree) (path : Path) (key value : Bytes) :
    (key, value) ∈ tree.scan path ↔ tree.entries.find? ⟨path, key⟩ = some value := by
  rw [SortedMap.find?_eq_some_iff, scan]
  simp only [List.mem_map, List.mem_filter, decide_eq_true_eq]
  constructor
  · rintro ⟨⟨slot, content⟩, ⟨held, rfl⟩, same⟩
    obtain ⟨rfl, rfl⟩ := Prod.mk.inj same
    exact held
  · exact fun held => ⟨_, ⟨held, rfl⟩, rfl⟩

theorem scan_sorted (tree : Tree) (path : Path) : (tree.scan path).Pairwise (·.1 < ·.1) := by
  refine List.pairwise_map.2 (List.Pairwise.imp_of_mem (fun {row other} held otherHeld less => ?_)
    (tree.entries.sorted.filter _))
  have first : row.1.path = path := by simpa using (List.mem_filter.1 held).2
  have second : other.1.path = path := by simpa using (List.mem_filter.1 otherHeld).2
  rcases Slot.lt_iff.1 less with apart | ⟨-, less⟩
  · rw [first, second] at apart
    exact (Std.lt_irrefl apart).elim
  · exact less

def setCounter (tree : Tree) (path : Path) (count : Nat) : Tree :=
  { tree with counters := tree.counters.insert path count }

/-- The region with everything that leads on from it is gone, and nothing else. -/
def deleteRegion (tree : Tree) (path : Path) : Tree where
  counters := tree.counters.removeWhere fun other => other.Within path
  entries := tree.entries.removeWhere fun slot => slot.path.Within path

def countBelow (tree : Tree) (path : Path) : Nat :=
  (tree.entries.toList.filter fun row => row.1.path.Within path).length

/-- What a visitor has to say on the row at an index, knowing the rows before it. -/
def refusal (visit : List (Bytes × Bytes) → Bytes × Bytes → Option Fault)
    (rows : List (Bytes × Bytes)) (index : Nat) : Option Fault :=
  rows[index]?.bind (visit (rows.take index))

/-- A visit ends in front of the first row that is refused. -/
def visited (visit : List (Bytes × Bytes) → Bytes × Bytes → Option Fault)
    (rows : List (Bytes × Bytes)) : Answer :=
  match (List.range rows.length).find? fun index => (refusal visit rows index).isSome with
  | none => .visited rows none
  | some index => .visited (rows.take index) (refusal visit rows index)

def answer (tree : Tree) : Query → Answer
  | .hasRegion path => .flag (tree.counters.find? path).isSome
  | .get path key => .value (tree.entries.find? ⟨path, key⟩)
  | .forEach path visit => visited visit (tree.scan path)

/-- One step: its answer and the tree afterwards. Only the
counter of a region that exists advances. -/
def step (tree : Tree) : Step → Except Fault (Answer × Tree)
  | .query asked => .ok (tree.answer asked, tree)
  | .create path =>
    .ok (.done, if (tree.counters.find? path).isSome then tree else tree.setCounter path 0)
  | .put path key value =>
    .ok (.done, { tree with entries := tree.entries.insert ⟨path, key⟩ value })
  | .delete path key =>
    .ok (.flag (tree.entries.find? ⟨path, key⟩).isSome,
      { tree with entries := tree.entries.erase ⟨path, key⟩ })
  | .nextSequence path =>
    match tree.counters.find? path with
    | none => .error (.lost ("region " ++ path.text))
    | some count => .ok (.sequence (.ofNat (count + 1)), tree.setCounter path (count + 1))
  | .deleteRegion path => .ok (.removed (tree.countBelow path), tree.deleteRegion path)

def steps (tree : Tree) : List Step → List Answer × Option Fault × Tree
  | [] => ([], none, tree)
  | step :: rest =>
    match tree.step step with
    | .error fault => ([], some fault, tree)
    | .ok (answer, after) =>
      let (answers, fault, final) := after.steps rest
      (answer :: answers, fault, final)

/-- A transaction that fails or is aborted leaves the tree as it was. -/
def transact (tree : Tree) : Transaction → List Answer × Option Fault × Tree
  | .view queries => (queries.map tree.answer, none, tree)
  | .update steps abort =>
    let (answers, fault, after) := tree.steps steps
    match fault.or abort with
    | none => (answers, none, after)
    | some fault => (answers, some fault, tree)

/-- What transactions answer one after another, and the tree they leave. -/
def transactAll (tree : Tree) : List Transaction → List (List Answer × Option Fault) × Tree
  | [] => ([], tree)
  | transaction :: rest =>
    let (answers, fault, after) := tree.transact transaction
    let (others, final) := after.transactAll rest
    ((answers, fault) :: others, final)

/-- The counter that a step advances, if it advances one,
has not reached the last word of 64 bits. -/
def stepRoom (tree : Tree) : Step → Bool
  | .nextSequence path => (tree.counters.find? path).all fun count => count + 1 < UInt64.size
  | _ => true

def stepsRoom (tree : Tree) : List Step → Bool
  | [] => true
  | step :: rest =>
    tree.stepRoom step && (tree.step step).toOption.all fun (_, after) => after.stepsRoom rest

/-- Every counter has room whenever it is advanced in a run of these transactions. -/
def hasRoom (tree : Tree) : List Transaction → Bool
  | [] => true
  | .view _ :: rest => tree.hasRoom rest
  | .update steps abort :: rest =>
    tree.stepsRoom steps && (tree.transact (.update steps abort)).2.2.hasRoom rest

end Tree

def Query.path : Query → Path
  | hasRegion path | get path _ | forEach path _ => path

def Step.path : Step → Path
  | query asked => asked.path
  | create path | put path _ _ | delete path _ | nextSequence path | deleteRegion path => path

/-- The paths a transaction is about. -/
def Transaction.paths : Transaction → List Path
  | view queries => queries.map Query.path
  | update steps _ => steps.map Step.path

end TableCatalog.Region

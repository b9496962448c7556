import TableCatalog.Proofs.RegionFrame
import TableCatalog.Proofs.RegionTree

/-! Transactions over the two tables with byte keys answer what the tree of regions answers. Storage
keys never confuse a region with an ancestor, a descendant or a sibling, so every step of a
transaction keeps the tables a picture of the tree. -/

namespace TableCatalog.Region

/-- What transactions answer one after another, and the store they leave. -/
def Store.transactAll (store : Store) : List Transaction → List (List Answer × Option Fault) × Store
  | [] => ([], store)
  | transaction :: rest =>
    let (answers, fault, after) := transaction.run store
    let (others, final) := after.transactAll rest
    ((answers, fault) :: others, final)

/-- What a step of an update does to the store, written out. -/
theorem Step.run_eq (step : Step) (store : Store) :
    step.run store =
      match step with
      | .query asked => .ok (asked.run store, store)
      | .create path => .ok (.done, store.createRegion path)
      | .put path key value => .ok (.done, store.put path key value)
      | .delete path key => .ok (.flag (store.get? path key).isSome, store.delete path key)
      | .nextSequence path =>
        match store.counter? path with
        | none => .error (.lost ("region " ++ path.text))
        | some count => .ok (.sequence (count + 1), store.setCounter path (count + 1))
      | .deleteRegion path => .ok (.removed (store.countBelow path), store.deleteRegion path) := by
  cases step with
  | nextSequence path =>
    simp only [Step.run, Update.nextSequence, bind, StateT.bind, Except.bind, Store.nextSequence_eq]
    cases store.counter? path <;> rfl
  | _ => rfl

/-- The tables hold the rows of the tree under the storage keys of its paths, and no others. -/
structure Represents (store : Store) (tree : Tree) : Prop where
  keyed : store.Keyed
  shortRegions : ∀ path count, tree.counters.find? path = some count → path.Short
  shortSlots : ∀ slot value, tree.entries.find? slot = some value → slot.path.Short
  counters : ∀ path : Path, path.Short →
    (store.counter? path).map (·.toNat) = tree.counters.find? path
  entries : ∀ (path : Path) key, path.Short → store.get? path key = tree.entries.find? ⟨path, key⟩

namespace Represents

variable {store : Store} {tree : Tree}

theorem empty : Represents ∅ ∅ where
  keyed := .empty
  shortRegions _ _ impossible := by cases impossible
  shortSlots _ _ impossible := by cases impossible
  counters _ _ := rfl
  entries _ _ _ := rfl

theorem hasRegion (picture : Represents store tree) {path : Path} (short : path.Short) :
    store.hasRegion path = (tree.counters.find? path).isSome := by
  rw [Store.hasRegion_eq, ← picture.counters path short, Option.isSome_map]

/-- Both scans are strictly ascending and hold the same entries, so they are one list. -/
theorem scan (picture : Represents store tree) {path : Path} (short : path.Short) :
    store.scan path = tree.scan path := by
  refine SortedMap.eq_of_pairwise_of_mem_iff (store.scan_sorted path)
    (tree.scan_sorted path) fun ⟨key, value⟩ => ?_
  rw [Store.mem_scan, Tree.mem_scan, picture.entries path key short]

/-- Visiting accepts rows up to the first one refused; `seen` are the rows accepted before. -/
private theorem visitRows_eq (visit : List (Bytes × Bytes) → Bytes × Bytes → Option Fault)
    (seen rows : List (Bytes × Bytes)) :
    visitRows visit seen rows =
      match (List.range' seen.length rows.length).find? fun index =>
        (Tree.refusal visit (seen ++ rows) index).isSome with
      | none => (seen ++ rows, none)
      | some index => ((seen ++ rows).take index, Tree.refusal visit (seen ++ rows) index) := by
  induction rows generalizing seen with
  | nil => simp [visitRows]
  | cons row rest ih =>
    have here : Tree.refusal visit (seen ++ row :: rest) seen.length = visit seen row := by
      simp [Tree.refusal]
    simp only [visitRows, List.length_cons, List.range'_succ, List.find?_cons, here]
    cases answer : visit seen row with
    | some fault => simp [here, answer]
    | none => simpa using ih (seen ++ [row])

theorem answer (picture : Represents store tree) {asked : Query} (short : asked.path.Short) :
    asked.run store = tree.answer asked := by
  cases asked with
  | hasRegion path => exact congrArg Answer.flag (picture.hasRegion short)
  | get path key => exact congrArg Answer.value (picture.entries path key short)
  | forEach path visit =>
    have scanned : store.scan path = tree.scan path := picture.scan short
    simp only [Query.run, Tree.answer, Tree.visited, scanned, visitRows_eq, List.nil_append,
      List.length_nil, List.range_eq_range']
    cases (List.range' 0 (tree.scan path).length).find? fun index =>
      (Tree.refusal visit (tree.scan path) index).isSome <;> rfl

theorem setCounter (picture : Represents store tree) {path : Path}
    (short : path.Short) {count : Nat} (room : count < UInt64.size) :
    Represents (store.setCounter path (.ofNat count)) (tree.setCounter path count) where
  keyed := picture.keyed.setCounter short _
  shortRegions other found held := by
    simp only [Tree.setCounter, SortedMap.find?_insert] at held
    split at held
    next same => exact same ▸ short
    next => exact picture.shortRegions other found held
  shortSlots := picture.shortSlots
  counters other otherShort := by
    rw [Store.counter?_setCounter short otherShort, Tree.setCounter, SortedMap.find?_insert]
    split
    · simpa using room
    · exact picture.counters other otherShort
  entries := picture.entries

theorem put (picture : Represents store tree) {path : Path} (short : path.Short)
    (key value : Bytes) :
    Represents (store.put path key value) { tree with
      entries := tree.entries.insert ⟨path, key⟩ value } where
  keyed := picture.keyed.put short key value
  shortRegions := picture.shortRegions
  shortSlots slot found held := by
    rw [SortedMap.find?_insert] at held
    split at held
    next same => exact same ▸ short
    next => exact picture.shortSlots slot found held
  counters := picture.counters
  entries other otherKey otherShort := by
    simp only [Store.get?_put short otherShort, SortedMap.find?_insert, Slot.mk.injEq,
      picture.entries other otherKey otherShort]

theorem delete (picture : Represents store tree) {path : Path} (short : path.Short) (key : Bytes) :
    Represents (store.delete path key) { tree with entries := tree.entries.erase ⟨path, key⟩ } where
  keyed := picture.keyed.delete path key
  shortRegions := picture.shortRegions
  shortSlots slot found held := by
    rw [SortedMap.find?_erase] at held
    split at held
    · cases held
    · exact picture.shortSlots slot found held
  counters := picture.counters
  entries other otherKey otherShort := by
    simp only [Store.get?_delete short otherShort, SortedMap.find?_erase, Slot.mk.injEq,
      picture.entries other otherKey otherShort]

theorem deleteRegion (picture : Represents store tree) {path : Path} (short : path.Short) :
    Represents (store.deleteRegion path) (tree.deleteRegion path) where
  keyed := picture.keyed.deleteRegion path
  shortRegions other count held := by
    simp only [Tree.deleteRegion, SortedMap.find?_removeWhere] at held
    split at held
    · cases held
    · exact picture.shortRegions other count held
  shortSlots slot value held := by
    simp only [Tree.deleteRegion, SortedMap.find?_removeWhere] at held
    split at held
    · cases held
    · exact picture.shortSlots slot value held
  counters other otherShort := by
    rw [Store.counter?_deleteRegion short otherShort, Tree.deleteRegion,
      SortedMap.find?_removeWhere,
      ← picture.counters other otherShort]
    simp only [decide_eq_true_eq]
    split <;> rfl
  entries other key otherShort := by
    simp only [Store.get?_deleteRegion short otherShort, Tree.deleteRegion,
      SortedMap.find?_removeWhere,
      decide_eq_true_eq, picture.entries other key otherShort]

/-- The row of an entry of the tree. -/
private def row (entry : Slot × Bytes) : Bytes × Bytes :=
  (entry.1.path.entryKey entry.1.key, entry.2)

/-- The rows of the entry table are those of the tree's entries, one for each. -/
private theorem entries_perm (picture : Represents store tree) :
    List.Perm store.entries.toList (tree.entries.toList.map row) := by
  have short (entry) (held : entry ∈ tree.entries.toList) : entry.1.path.Short :=
    picture.shortSlots entry.1 entry.2 (SortedMap.find?_eq_some_iff.2 held)
  have distinct : (tree.entries.toList.map row).Nodup := by
    refine List.pairwise_map.2 (tree.entries.nodup_toList.imp_of_mem
      fun {first second} held otherHeld apart same => apart ?_)
    obtain ⟨keys, values⟩ := Prod.mk.inj same
    obtain ⟨paths, keys⟩ := (Path.entryKey_inj (short first held) (short second otherHeld)).1 keys
    obtain ⟨⟨_, _⟩, _⟩ := first
    obtain ⟨⟨_, _⟩, _⟩ := second
    cases paths; cases keys; cases values
    rfl
  refine (List.perm_ext_iff_of_nodup store.entries.nodup_toList distinct).2 fun ⟨key, value⟩ => ?_
  rw [← SortedMap.find?_eq_some_iff]
  constructor
  · intro held
    obtain ⟨path, entry, pathShort, rfl⟩ := picture.keyed.entries key value held
    have kept := (picture.entries path entry pathShort).symm.trans held
    exact List.mem_map.2 ⟨(⟨path, entry⟩, value), SortedMap.find?_eq_some_iff.1 kept, rfl⟩
  · intro held
    obtain ⟨⟨slot, content⟩, inside, same⟩ := List.mem_map.1 held
    obtain ⟨rfl, rfl⟩ := Prod.mk.inj same
    exact (picture.entries slot.path slot.key (short _ inside)).trans
      (SortedMap.find?_eq_some_iff.2 inside)

theorem countBelow (picture : Represents store tree) {path : Path} (short : path.Short) :
    store.countBelow path = tree.countBelow path := by
  have counted := ((picture.entries_perm).filter fun row =>
    Bytes.inPrefixRange path.encode row.1).length_eq
  rw [Store.countBelow, counted, List.filter_map, List.length_map, Tree.countBelow]
  congr 1
  refine List.filter_congr fun entry held => ?_
  have entryShort := picture.shortSlots entry.1 entry.2 (SortedMap.find?_eq_some_iff.2 held)
  rw [Function.comp_apply, Bool.eq_iff_iff, row, Bytes.inPrefixRange_iff,
    Path.encode_start_entryKey_iff short entryShort,
    decide_eq_true_eq]

/-- A step answers the same in both, or fails with the same fault, and keeps the picture. -/
theorem step (picture : Represents store tree) {step : Step}
    (short : step.path.Short) (room : tree.stepRoom step = true) :
    (∃ answer after tree', step.run store = .ok (answer, after) ∧
      tree.step step = .ok (answer, tree') ∧
      Represents after tree') ∨
    ∃ fault, step.run store = .error fault ∧ tree.step step = .error fault := by
  rw [Step.run_eq]
  cases step with
  | query asked =>
    have same : asked.run store = tree.answer asked := picture.answer short
    exact .inl ⟨_, _, _, rfl, by rw [same]; rfl, picture⟩
  | create path =>
    have present : store.hasRegion path = (tree.counters.find? path).isSome :=
      picture.hasRegion short
    refine .inl ⟨_, _, _, rfl, rfl, ?_⟩
    rw [Store.createRegion_eq, present]
    split
    · exact picture
    · exact picture.setCounter short (by decide)
  | put path key value => exact .inl ⟨_, _, _, rfl, rfl, picture.put short key value⟩
  | delete path key =>
    have present : store.get? path key = tree.entries.find? ⟨path, key⟩ :=
      picture.entries path key short
    exact .inl ⟨_, _, _, rfl, by rw [present]; rfl, picture.delete short key⟩
  | nextSequence path =>
    have known : (store.counter? path).map (·.toNat) = tree.counters.find? path :=
      picture.counters path short
    simp only [Tree.step, Tree.stepRoom, ← known] at room ⊢
    cases counted : store.counter? path with
    | none => exact .inr ⟨_, rfl, rfl⟩
    | some count =>
      rw [counted] at room
      have below : count.toNat + 1 < UInt64.size := by simpa using room
      have next : count + 1 = .ofNat (count.toNat + 1) := by simp
      refine .inl ⟨.sequence (count + 1), _, tree.setCounter path (count.toNat + 1),
        rfl, by rw [next]; rfl, ?_⟩
      rw [next]
      exact picture.setCounter short below
  | deleteRegion path =>
    have counted : store.countBelow path = tree.countBelow path := picture.countBelow short
    exact .inl ⟨_, _, _, rfl, by rw [counted]; rfl, picture.deleteRegion short⟩

/-- The steps of an update answer alike up to the first
fault, and a run without one keeps the picture. -/
theorem steps (picture : Represents store tree) {steps : List Step}
    (short : ∀ step ∈ steps, step.path.Short) (room : tree.stepsRoom steps = true)
    (answers : List Answer) :
    (runSteps answers store steps).1 = answers ++ (tree.steps steps).1 ∧
    (runSteps answers store steps).2.1 = (tree.steps steps).2.1 ∧
    Represents (runSteps answers store steps).2.2 (tree.steps steps).2.2 := by
  induction steps generalizing store tree answers with
  | nil => exact ⟨(List.append_nil _).symm, rfl, picture⟩
  | cons step rest ih =>
    simp only [Tree.stepsRoom, Bool.and_eq_true] at room
    obtain ⟨answer, after, tree', ran, stepped, kept⟩ | ⟨fault, ran, stepped⟩ :=
      picture.step (short step List.mem_cons_self) room.1
    · simp only [runSteps, ran, Tree.steps, stepped]
      rw [stepped] at room
      obtain ⟨same, ended, kept⟩ := ih kept
        (fun other held => short other (List.mem_cons_of_mem _ held)) room.2 (answers ++ [answer])
      exact ⟨by rw [same, List.append_assoc]; rfl, ended, kept⟩
    · simp only [runSteps, ran, Tree.steps, stepped]
      exact ⟨(List.append_nil _).symm, trivial, picture⟩

theorem update (picture : Represents store tree) {steps : List Step}
    (short : ∀ step ∈ steps, step.path.Short) (room : tree.stepsRoom steps = true)
    (abort : Option Fault) :
    ∃ answers fault after tree',
      (Transaction.update steps abort).run store = (answers, fault, after) ∧
      tree.transact (.update steps abort) = (answers, fault, tree') ∧ Represents after tree' := by
  obtain ⟨same, ended, kept⟩ := picture.steps short room []
  simp only [List.nil_append] at same
  simp only [Transaction.run, Tree.transact]
  rcases ran : runSteps [] store steps with ⟨answers, fault, after⟩
  rcases walked : tree.steps steps with ⟨others, other, tree'⟩
  rw [ran, walked] at same ended kept
  obtain rfl : answers = others := same
  obtain rfl : fault = other := ended
  cases fault with
  | some fault => exact ⟨_, _, _, _, rfl, rfl, picture⟩
  | none =>
    cases abort with
    | some fault => exact ⟨_, _, _, _, rfl, rfl, picture⟩
    | none => exact ⟨_, _, _, _, rfl, rfl, kept⟩

theorem transact (picture : Represents store tree) {transaction : Transaction}
    (short : ∀ path ∈ transaction.paths, path.Short) (room : tree.hasRoom [transaction] = true) :
    ∃ answers fault after tree', transaction.run store = (answers, fault, after) ∧
      tree.transact transaction = (answers, fault, tree') ∧ Represents after tree' := by
  cases transaction with
  | view queries =>
    have same : queries.map (·.run store) = queries.map tree.answer :=
      List.map_congr_left fun asked held => picture.answer (short _ (List.mem_map_of_mem held))
    exact ⟨_, _, _, _, rfl, by rw [same]; rfl, picture⟩
  | update steps abort =>
    simp only [Tree.hasRoom, Bool.and_true] at room
    exact picture.update (fun step held => short _ (List.mem_map_of_mem held)) room abort

theorem transactAll (picture : Represents store tree) {transactions : List Transaction}
    (short : ∀ transaction ∈ transactions, ∀ path ∈ transaction.paths, path.Short)
    (room : tree.hasRoom transactions = true) :
    (store.transactAll transactions).1 = (tree.transactAll transactions).1 ∧
    Represents (store.transactAll transactions).2 (tree.transactAll transactions).2 := by
  induction transactions generalizing store tree with
  | nil => exact ⟨rfl, picture⟩
  | cons transaction rest ih =>
    have first : tree.hasRoom [transaction] = true := by
      cases transaction with
      | view => rfl
      | update => exact Bool.and_eq_true _ _ ▸ ⟨(Bool.and_eq_true _ _ ▸ room).1, rfl⟩
    have others : (tree.transact transaction).2.2.hasRoom rest = true := by
      cases transaction with
      | view => exact room
      | update => exact (Bool.and_eq_true _ _ ▸ room).2
    obtain ⟨answers, fault, after, tree', ran, walked, kept⟩ :=
      picture.transact (short transaction List.mem_cons_self) first
    rw [walked] at others
    obtain ⟨same, kept⟩ :=
      ih kept (fun other held => short other (List.mem_cons_of_mem _ held)) others
    simp only [Store.transactAll, Tree.transactAll, ran, walked, same]
    exact ⟨trivial, kept⟩

end Represents

/-- Whatever transactions run one after another on an empty store, the tables answer as the tree
does and end as a picture of it. -/
theorem tables_refine_tree (transactions : List Transaction)
    (short : ∀ transaction ∈ transactions, ∀ path ∈ transaction.paths, path.Short)
    (room : (∅ : Tree).hasRoom transactions = true) :
    ((∅ : Store).transactAll transactions).1 = ((∅ : Tree).transactAll transactions).1 ∧
    Represents ((∅ : Store).transactAll transactions).2 ((∅ : Tree).transactAll transactions).2 :=
  Represents.empty.transactAll short room

/-- Neighbours with names and keys that are hard to tell apart: the second update is undone by the
counter it advances after removing its region. -/
private def neighbours : List Transaction :=
  let a : Path := ⟨"c", ["a"]⟩
  let inner : Path := ⟨"c", ["a", "x"]⟩
  let ab : Path := ⟨"c", ["ab"]⟩
  [.update [.create a, .create inner, .create ab, .put a [] [1],
      .put a [255] [2], .put inner [1] [3], .put ab [] [4],
      .nextSequence a, .query (.forEach a fun seen _ =>
        if seen.isEmpty then none else some (.internal "visitor stopped"))] none,
    .update [.deleteRegion a, .nextSequence a] none,
    .update [.deleteRegion a] none,
    .view [.get ab [], .hasRegion inner]]

theorem tables_refine_tree_neighbours :
    ((∅ : Store).transactAll neighbours).1 =
      [([.done, .done, .done, .done, .done, .done, .done, .sequence 1,
        .visited [([], [1])] (some (.internal "visitor stopped"))], none),
        ([.removed 3], some (.lost "region c/a")), ([.removed 3], none),
        ([.value (some [4]), .flag false], none)] ∧
    Represents ((∅ : Store).transactAll neighbours).2 ((∅ : Tree).transactAll neighbours).2 := by
  have short : ∀ transaction ∈ neighbours, ∀ path ∈ transaction.paths, path.Short := by decide
  obtain ⟨answers, picture⟩ := tables_refine_tree neighbours short (by decide +kernel)
  exact ⟨answers.trans (by decide +kernel), picture⟩

end TableCatalog.Region

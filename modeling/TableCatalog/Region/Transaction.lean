import TableCatalog.Region.Store

/-! Transactions over the tree of regions. An update works on the state it was given and keeps its
changes only if it ends well: a fault leaves the store as it was. -/

namespace TableCatalog.Region

/-- Work inside an update: it sees and changes the store, and may fail. -/
abbrev Update (α : Type) := StateT Store (Except Fault) α

namespace Update

def createRegion (path : Path) : Update Unit := modify (·.createRegion path)

def nextSequence (path : Path) : Update UInt64 := fun store => store.nextSequence path

def put (path : Path) (key value : Bytes) : Update Unit := modify (·.put path key value)

/-- Removes a key from a region and returns whether it was there. -/
def delete (path : Path) (key : Bytes) : Update Bool := do
  let present := ((← get).get? path key).isSome
  modify (·.delete path key)
  return present

/-- Removes a region with everything below it and returns the number of entries removed. -/
def deleteRegion (path : Path) : Update Nat := do
  let count := (← get).countBelow path
  modify (·.deleteRegion path)
  return count

/-- What a lookup finds in the store as the update has left it so far. -/
def read (lookup : Store → Except Fault α) : Update α := do lookup (← get)

end Update

/-- Runs an update. A fault undoes everything it did. -/
def Store.update (store : Store) (work : Update α) : Except Fault α × Store :=
  match work store with
  | .ok (result, after) => (.ok result, after)
  | .error fault => (.error fault, store)

/-- A question to the tree. -/
inductive Query
  | hasRegion (path : Path)
  | get (path : Path) (key : Bytes)
  /-- Visits a region; the visitor may refuse an entry, knowing those it has accepted. -/
  | forEach (path : Path) (visit : List (Bytes × Bytes) → Bytes × Bytes → Option Fault)

/-- A step of an update. -/
inductive Step
  | query (query : Query)
  | create (path : Path)
  | put (path : Path) (key value : Bytes)
  | delete (path : Path) (key : Bytes)
  | nextSequence (path : Path)
  | deleteRegion (path : Path)

/-- What a step answers. -/
inductive Answer
  | done
  | flag (holds : Bool)
  | value (found : Option Bytes)
  | visited (seen : List (Bytes × Bytes)) (stopped : Option Fault)
  | sequence (number : UInt64)
  | removed (count : Nat)
deriving DecidableEq

/-- Accepts entries in order up to the first that the visitor refuses. -/
def visitRows (visit : List (Bytes × Bytes) → Bytes × Bytes → Option Fault)
    (seen : List (Bytes × Bytes)) : List (Bytes × Bytes) → List (Bytes × Bytes) × Option Fault
  | [] => (seen, none)
  | row :: rest =>
    match visit seen row with
    | some fault => (seen, some fault)
    | none => visitRows visit (seen ++ [row]) rest

def Query.run (store : Store) : Query → Answer
  | hasRegion path => .flag (store.hasRegion path)
  | get path key => .value (store.get? path key)
  | forEach path visit =>
    let (seen, stopped) := visitRows visit [] (store.scan path)
    .visited seen stopped

def Step.run : Step → Update Answer
  | query asked => do return asked.run (← get)
  | create path => do Update.createRegion path; return .done
  | put path key value => do Update.put path key value; return .done
  | delete path key => do return .flag (← Update.delete path key)
  | nextSequence path => do return .sequence (← Update.nextSequence path)
  | deleteRegion path => do return .removed (← Update.deleteRegion path)

/-- A transaction: questions to one state of the store, or steps that end in a commit or, with a
fault of their own, in an abort. -/
inductive Transaction
  | view (queries : List Query)
  | update (steps : List Step) (abort : Option Fault)

/-- Runs steps up to the first fault: the answers given, the fault, and the state reached. -/
def runSteps (answers : List Answer) (store : Store) : List Step → List Answer × Option Fault × Store
  | [] => (answers, none, store)
  | step :: rest =>
    match step.run store with
    | .ok (answer, after) => runSteps (answers ++ [answer]) after rest
    | .error fault => (answers, some fault, store)

/-- Runs a transaction: its answers, the fault that ended it, and the store afterwards. -/
def Transaction.run (store : Store) : Transaction → List Answer × Option Fault × Store
  | view queries => (queries.map (·.run store), none, store)
  | update steps abort =>
    match runSteps [] store steps with
    | (answers, none, after) =>
      match abort with
      | none => (answers, none, after)
      | some fault => (answers, some fault, store)
    | (answers, some fault, _) => (answers, some fault, store)

end TableCatalog.Region

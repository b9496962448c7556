/-! The values of a TOML document, and how its tables grow. A table is defined once: by a header, by
braces, or piece by piece by keys with dots in them, and what may still be added to it depends on how it
came about. -/

namespace TableCatalog.Toml

/-- How a table came about. -/
inductive Origin
  /-- By a header of its own. -/
  | header
  /-- By a header of a table inside it. -/
  | implied
  /-- By dots in a key. -/
  | dotted
  /-- By braces, which close it. -/
  | braces
deriving DecidableEq, Repr

inductive Value
  | text (s : String)
  | integer (n : Int)
  | boolean (b : Bool)
  | float
  | moment
  | array (items : List Value)
  | table (origin : Origin) (entries : List (String × Value))
  /-- Tables under one header in double brackets. -/
  | tables (rows : List (List (String × Value)))

abbrev Entries := List (String × Value)

/-- Puts a value under a key, in place of what is there. -/
def Entries.set (entries : Entries) (key : String) (value : Value) : Entries :=
  if (entries.lookup key).isSome then
    entries.map fun entry => if entry.1 = key then (key, value) else entry
  else entries ++ [(key, value)]

/-- What is done to a table: its entries afterwards, or nothing if that is not allowed. -/
abbrev Change := Origin → Entries → Option (Origin × Entries)

/-- Changes the table inside another that a path leads to. Tables on the way that are not there come
about; of several tables under a header, the path leads into the last. A path written with dots enters no
table that has a header of its own. -/
def changeAt (dots : Bool) (change : Change) : List String → Change
  | [], origin, entries => change origin entries
  | key :: path, origin, entries =>
    match entries.lookup key with
    | none => inside key path origin entries (if dots then .dotted else .implied) []
    | some (.table .braces _) => none
    | some (.table .header inner) => if dots then none else inside key path origin entries .header inner
    | some (.table kind inner) => inside key path origin entries kind inner
    | some (.tables rows) =>
      match rows.getLast? with
      | none => none
      | some last =>
        (changeAt dots change path .header last).map fun (_, last) =>
          (origin, entries.set key (.tables (rows.dropLast ++ [last])))
    | some _ => none
where
  inside (key : String) (path : List String) (origin : Origin) (entries : Entries) (kind : Origin)
      (inner : Entries) : Option (Origin × Entries) :=
    (changeAt dots change path kind inner).map fun (kind, inner) => (origin, entries.set key (.table kind inner))

/-- Adds a key that is not there yet. Behind dots, it is added only to a table that came about so. -/
def addKey (behindDots : Bool) (key : String) (value : Value) : Change := fun origin entries =>
  if decide (origin = .dotted) == behindDots && (entries.lookup key).isNone then
    some (origin, entries ++ [(key, value)])
  else none

/-- Adds a value under a key that may have dots in it. -/
def addPath (path : List String) (value : Value) : Change := fun origin entries =>
  match path.getLast? with
  | none => none
  | some key => changeAt true (addKey (path.length != 1) key value) path.dropLast origin entries

/-- Defines a table by a header. -/
def openTable (key : String) : Change := fun origin entries =>
  match entries.lookup key with
  | none => some (origin, entries ++ [(key, .table .header [])])
  | some (.table .implied inner) => some (origin, entries.set key (.table .header inner))
  | some _ => none

/-- Adds a table under a header in double brackets. -/
def openRow (key : String) : Change := fun origin entries =>
  match entries.lookup key with
  | none => some (origin, entries ++ [(key, .tables [[]])])
  | some (.tables rows) => some (origin, entries.set key (.tables (rows ++ [[]])))
  | some _ => none

end TableCatalog.Toml

import TableCatalog.Fault
import TableCatalog.SortedMap
import TableCatalog.Region.Path

/-! The tree of regions, kept in two tables with byte keys: one row per region, holding its
counter, and one row per entry, holding its value. A region exists when its row does. Since the
key of a path starts the keys of everything below it, a region and all it holds is one range in
each table. -/

namespace TableCatalog.Region

structure Store where
  regions : SortedMap Bytes UInt64 := ∅
  entries : SortedMap Bytes Bytes := ∅
deriving DecidableEq

namespace Store

/-- A store that holds nothing. -/
def empty : Store := {}

instance : EmptyCollection Store := ⟨empty⟩

def hasRegion (store : Store) (path : Path) : Bool := (store.regions.find? path.encode).isSome

/-- The value under a key of a region. -/
def get? (store : Store) (path : Path) (key : Bytes) : Option Bytes :=
  store.entries.find? (path.entryKey key)

/-- The entries kept directly in a region, with keys relative to it, in key order. -/
def scan (store : Store) (path : Path) : List (Bytes × Bytes) :=
  let stem := path.entryStem
  (store.entries.toList.filter fun row => Bytes.inPrefixRange stem row.1).map fun row =>
    (row.1.drop stem.length, row.2)

/-- Creates a region with its counter at zero; one that exists keeps its counter. -/
def createRegion (store : Store) (path : Path) : Store :=
  if store.hasRegion path then store
  else { store with regions := store.regions.insert path.encode 0 }

/-- Advances the counter of a region and returns the new value. -/
def nextSequence (store : Store) (path : Path) : Except Fault (UInt64 × Store) :=
  match store.regions.find? path.encode with
  | none => .error (.lost ("region " ++ path.text))
  | some count => .ok (count + 1, { store with regions := store.regions.insert path.encode (count + 1) })

/-- Stores a value under a key of a region. The region need not exist. -/
def put (store : Store) (path : Path) (key value : Bytes) : Store :=
  { store with entries := store.entries.insert (path.entryKey key) value }

/-- Removes a key from a region. -/
def delete (store : Store) (path : Path) (key : Bytes) : Store :=
  { store with entries := store.entries.erase (path.entryKey key) }

/-- Removes a region with all its entries and everything below it. -/
def deleteRegion (store : Store) (path : Path) : Store :=
  { regions := store.regions.removeWhere (Bytes.inPrefixRange path.encode)
    entries := store.entries.removeWhere (Bytes.inPrefixRange path.encode) }

/-- The number of entries that removing a region takes with it. -/
def countBelow (store : Store) (path : Path) : Nat :=
  (store.entries.toList.filter fun row => Bytes.inPrefixRange path.encode row.1).length

end Store
end TableCatalog.Region

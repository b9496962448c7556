import TableCatalog.SortedMap

/-! The records a catalog keeps: databases, tables and partitions, and what they are made of. A
text that was never given is empty, a number is zero, and a part of its own, such as an identity
or a storage descriptor, may be absent. -/

namespace TableCatalog

/-- Free-form settings, from name to value. -/
abbrev Params := SortedMap String String

/-- How a database or table is referred to: by name, by generated identifier, or by both. -/
structure Ident where
  name : String := ""
  id : String := ""
deriving DecidableEq, Inhabited

/-- A column of a table, or a partition key. -/
structure Column where
  name : String := ""
  typeName : String := ""
  comment : String := ""
deriving DecidableEq, Inhabited

/-- How rows are turned into bytes and back. -/
structure Serialization where
  name : String := ""
  library : String := ""
  params : Params := ∅
deriving DecidableEq, Inhabited

/-- A column that rows are sorted by. -/
structure SortColumn where
  column : String := ""
  ascending : Bool := false
deriving DecidableEq, Inhabited

/-- Where and in which form data is stored. -/
structure StorageDescriptor where
  location : String := ""
  columns : List Column := []
  inputFormat : String := ""
  outputFormat : String := ""
  serialization : Option Serialization := none
  params : Params := ∅
  bucketCount : Int32 := 0
  bucketColumns : List String := []
  sortColumns : List SortColumn := []
deriving DecidableEq, Inhabited

structure Database where
  ident : Option Ident := none
  location : String := ""
  params : Params := ∅
  systemParams : Params := ∅
  sequence : UInt64 := 0
deriving DecidableEq, Inhabited

/-- What a table's data is to the catalog. -/
inductive TableType
  | managed
  | external
  | index
deriving DecidableEq, Repr

namespace TableType

def all : List TableType := [managed, external, index]

def code : TableType → Int32
  | managed => 0
  | external => 1
  | index => 2

/-- The type with a code. A code that means nothing is read as the type with code zero. -/
def ofCode (code : Int32) : TableType := (all.find? (·.code == code)).getD managed

end TableType

/-- A table. Its type is kept as the code it came with, so codes of later versions survive. -/
structure Table where
  ident : Option Ident := none
  location : String := ""
  params : Params := ∅
  systemParams : Params := ∅
  partitionKeys : List Column := []
  storage : Option StorageDescriptor := none
  typeCode : Int32 := 0
  sequence : UInt64 := 0
deriving DecidableEq, Inhabited

/-- A partition of a table, told apart by its values. The table is attached for readers and is
never part of what is stored. -/
structure Partition where
  values : List String := []
  location : String := ""
  params : Params := ∅
  storage : Option StorageDescriptor := none
  sequence : UInt64 := 0
  id : String := ""
  table : Option Table := none
deriving DecidableEq, Inhabited

namespace Ident

def named (name : String) : Ident := { name }

def isEmpty (ident : Ident) : Bool := ident.name.isEmpty && ident.id.isEmpty

/-- How a message refers to an entity: by name if one is given. -/
def text (ident : Ident) : String := if ident.name.isEmpty then ident.id else ident.name

end Ident

/-- The name in an identity that may be absent. -/
def nameOf (ident : Option Ident) : String := (ident.map (·.name)).getD ""

end TableCatalog

import TableCatalog.Text.Split

/-! The part of a file system that the daemon sees: directories, files with their text, and a working
directory. Paths are followed name by name; one that starts with a slash starts at the root. -/

namespace TableCatalog.Daemon

/-- A file system. Places are lists of names from the root down; the root itself is there always. -/
structure Disk where
  directories : List (List String) := []
  files : List (List String × String) := []
  working : List String := []
deriving DecidableEq, Repr, Inhabited

namespace Disk

/-- The longest name and the longest path, in bytes. -/
def nameLimit : Nat := 255

def pathLimit : Nat := 4095

def names (path : String) : List String := (Text.splitAll '/' path.toList).map .ofList

/-- Where the following of a path starts. -/
def start (disk : Disk) (path : String) : List String := if path.startsWith "/" then [] else disk.working

/-- No file system takes such a name. -/
def isImpossible (name : String) : Bool := nameLimit < name.utf8ByteSize || name.contains '\x00'

/-- No file system takes names in such a row. -/
def areImpossible (names : List String) : Bool :=
  names.any isImpossible || pathLimit < ("/".intercalate names).utf8ByteSize

def isDirectory (disk : Disk) (place : List String) : Bool := place.isEmpty || disk.directories.contains place

def file? (disk : Disk) (place : List String) : Option String := disk.files.lookup place

/-- Follows names through directories. -/
def follow (disk : Disk) (place : List String) : List String → Option (List String)
  | [] => some place
  | name :: rest =>
    if name = "" ∨ name = "." then follow disk place rest
    else if name = ".." then follow disk place.dropLast rest
    else if disk.isDirectory (place ++ [name]) then follow disk (place ++ [name]) rest
    else none

/-- Follows names and makes the directories that are missing. -/
def make (disk : Disk) (place : List String) : List String → Option Disk
  | [] => some disk
  | name :: rest =>
    if name = ".." then make disk place.dropLast rest
    else if disk.isDirectory (place ++ [name]) then make disk (place ++ [name]) rest
    else if (disk.file? (place ++ [name])).isSome then none
    else make { disk with directories := disk.directories ++ [place ++ [name]] } (place ++ [name]) rest

/-- The directories that a path leads through to what it names. -/
def parentNames (path : String) : List String := ((names path).filter fun name => name != "" && name != ".").dropLast

/-- Makes the directory that a path lies in. -/
def makeParent (disk : Disk) (path : String) : Option Disk :=
  let parents := parentNames path
  if areImpossible parents then none else disk.make (disk.start path) parents

/-- The place that a path names a file at, if it can be one. -/
def place? (disk : Disk) (path : String) : Option (List String) :=
  match (names path).getLast? with
  | none => none
  | some name =>
    if areImpossible (names path) || ["", ".", ".."].contains name then none
    else
      match disk.follow (disk.start path) (names path).dropLast with
      | some place => if disk.isDirectory (place ++ [name]) then none else some (place ++ [name])
      | none => none

/-- The text of a file. -/
def read? (disk : Disk) (path : String) : Option String := (disk.place? path).bind disk.file?

/-- A new file can be made here. -/
def canCreate (disk : Disk) (path : String) : Bool :=
  match disk.place? path with
  | some place => (disk.file? place).isNone
  | none => false

end Disk
end TableCatalog.Daemon

/-! A catalog operation that fails answers with a fault: a kind, on which a caller can act, and a
sentence for people. The kind alone fixes the numeric code, the category and whether the caller
or the catalog is to blame. -/

namespace TableCatalog

/-- What went wrong, as far as a caller can act on it. -/
inductive Fault.Kind
  | invalidArgument
  | notFound
  | alreadyExists
  | corruption
  | internal
deriving DecidableEq, Repr

/-- A failed operation: its kind and a sentence that names what it was about. -/
structure Fault where
  kind : Fault.Kind
  detail : String
deriving DecidableEq, Repr

namespace Fault.Kind

def all : List Kind := [invalidArgument, notFound, alreadyExists, corruption, internal]

def name : Kind → String
  | invalidArgument => "InvalidArgument"
  | notFound => "NotFound"
  | alreadyExists => "AlreadyExists"
  | corruption => "Corruption"
  | internal => "Internal"

/-- The stable number of a kind. Its high byte is the category. -/
def code : Kind → UInt16
  | invalidArgument => 0x0001
  | notFound => 0x0002
  | alreadyExists => 0x0003
  | corruption => 0x0100
  | internal => 0x0200

/-- The part of the system a kind belongs to, read off the high byte of its code. -/
def category (kind : Kind) : String :=
  match kind.code >>> 8 with
  | 0 => "Request"
  | 1 => "Data"
  | 2 => "Storage"
  | _ => "Unknown"

/-- The caller, rather than the catalog, is to blame. -/
def isClient : Kind → Bool
  | invalidArgument | notFound | alreadyExists => true
  | corruption | internal => false

def ofName? (text : String) : Option Kind := all.find? (·.name == text)

end Fault.Kind

namespace Fault

/-- The sentence shown to people. Faults that name an entity by themselves carry no heading. -/
def text (fault : Fault) : String :=
  match fault.kind with
  | .invalidArgument => "invalid argument: " ++ fault.detail
  | .notFound | .alreadyExists => fault.detail
  | .corruption => "corrupt catalog: " ++ fault.detail
  | .internal => "internal error: " ++ fault.detail

def invalidArgument (detail : String) : Fault := ⟨.invalidArgument, detail⟩
def notFound (detail : String) : Fault := ⟨.notFound, detail⟩
def alreadyExists (detail : String) : Fault := ⟨.alreadyExists, detail⟩
def corruption (detail : String) : Fault := ⟨.corruption, detail⟩
def internal (detail : String) : Fault := ⟨.internal, detail⟩

/-- A request lacks something it must carry. -/
def missing (what : String) : Fault := invalidArgument ("missing " ++ what)

/-- Something the request names is not there. -/
def absent (what : String) : Fault := notFound (what ++ " doesn't exist")

/-- A create found its name taken. -/
def taken (what : String) : Fault := alreadyExists (what ++ " already exists")

/-- A row or region that another row promises is not there. -/
def lost (what : String) : Fault := corruption ("missing " ++ what)

/-- Stored bytes are not the record they should be. -/
def undecodable (what reason : String) : Fault := corruption ("failed to decode " ++ what ++ ": " ++ reason)

end Fault
end TableCatalog

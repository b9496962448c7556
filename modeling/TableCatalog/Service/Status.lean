import TableCatalog.Fault

/-! How faults reach a remote caller. A call that answers once reports a fault inside its reply, apart
from a request that lacks something, which fails the call; a call that streams its answer has no reply
to put a fault into and always fails as a call. -/

namespace TableCatalog

/-- The port of a catalog service unless another is given. -/
def servicePort : UInt16 := 10010

/-- The status codes that a failed call can end with. -/
inductive StatusCode
  | invalidArgument
  | notFound
  | alreadyExists
  | internal
  | dataLoss
deriving DecidableEq, Repr

def StatusCode.name : StatusCode → String
  | invalidArgument => "InvalidArgument"
  | notFound => "NotFound"
  | alreadyExists => "AlreadyExists"
  | internal => "Internal"
  | dataLoss => "DataLoss"

/-- How a failed call ends. -/
structure Status where
  code : StatusCode
  message : String
deriving DecidableEq, Repr

/-- The part of a reply that says how it went. -/
structure RequestStatus where
  status : Int32 := 0
  error : String := ""
  code : Int32 := 0
deriving DecidableEq, Inhabited

/-- The number of a kind of fault in a reply; zero is no fault. -/
def Fault.Kind.wireCode : Fault.Kind → Int32
  | invalidArgument => 1
  | notFound => 2
  | alreadyExists => 3
  | corruption => 4
  | internal => 5

/-- The status of a call that fails with a fault. -/
def Fault.toStatus (fault : Fault) : Status :=
  match fault.kind with
  | .invalidArgument => ⟨.invalidArgument, fault.detail⟩
  | .notFound => ⟨.notFound, fault.detail⟩
  | .alreadyExists => ⟨.alreadyExists, fault.detail⟩
  | .corruption => ⟨.dataLoss, fault.text⟩
  | .internal => ⟨.internal, fault.text⟩

namespace RequestStatus

def ok : RequestStatus := {}

def failed (fault : Fault) : RequestStatus := ⟨1, fault.text, fault.kind.wireCode⟩

def isOk (status : RequestStatus) : Bool := status.status == 0

/-- The name of the code. Numbers that mean nothing count as none. -/
def codeName (status : RequestStatus) : String :=
  ((Fault.Kind.all.find? (·.wireCode == status.code)).map (·.name)).getD "None"

/-- Puts a fault into a reply, or fails the call. -/
def ofFault (fault : Fault) : Except Status RequestStatus :=
  if fault.kind = .invalidArgument then .error fault.toStatus else .ok (failed fault)

end RequestStatus
end TableCatalog

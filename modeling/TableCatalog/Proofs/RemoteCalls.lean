import TableCatalog.Service.Stream

/-! Remote calls of every kind as values, so that runs of them can be spoken of. Each is made of
operations on the store; one that adds something brings the identifiers that its operations draw. -/

namespace TableCatalog

open Region

inductive RemoteCall
  | unary (call : Call) (fresh : String)
  | list (call : ListCall)
  | addStream (requests : List (AddRequest × String))
  | dropStream (requests : List DropRequest)

inductive RemoteAnswer
  | reply (result : Except Status Reply)
  | listed (result : Except Status Listed)
  | status (result : Except Status RequestStatus)

def ListCall.operation : ListCall → Operation
  | databases catalog listing => .listDatabases catalog listing
  | tables catalog db shown => .listTables catalog (db.getD {}) shown
  | partitions catalog db table listing =>
    .listPartitions catalog (db.getD {}) (table.getD {}) listing

namespace RemoteCall

/-- The operations that a call makes if none of them fails. -/
def operations : RemoteCall → List Operation
  | unary call fresh => (call.operation fresh).toOption.toList
  | list call => [call.operation]
  | addStream requests =>
    requests.flatMap fun (request, fresh) => (request.operation fresh).toOption.toList
  | dropStream requests => requests.head?.toList.map fun first =>
      .dropPartitions first.catalog (first.db.getD {}) (first.table.getD {})
        (requests.map (·.values))

def handle (options : StoreOptions) (store : Store) : RemoteCall → RemoteAnswer × Store
  | unary call fresh => (call.handle options fresh store).map .reply id
  | list call => (.listed (call.handle store), store)
  | addStream requests => (addMany options store requests).map .status id
  | dropStream requests => (dropMany store requests).map .status id

/-- The answers to calls that are made one after another. -/
def answers (options : StoreOptions) (store : Store) : List RemoteCall → List RemoteAnswer
  | [] => []
  | call :: rest =>
    (call.handle options store).1 :: answers options (call.handle options store).2 rest

end RemoteCall

/-- What a caller is told of the result of an operation. -/
def Call.told (call : Call) : Except Fault Outcome → Except Status Reply
  | .ok outcome => .ok (call.reply .ok (some outcome))
  | .error fault => (RequestStatus.ofFault fault).map fun status => call.reply status none

theorem Call.handle_refused {call : Call} {fresh : String} {fault : Fault}
    (refused : call.operation fresh = .error fault) (options : StoreOptions) (store : Store) :
    call.handle options fresh store = (call.told (.error fault), store) := by
  rw [handle, refused]
  rfl

theorem Call.handle_asked {call : Call} {fresh : String} {operation : Operation}
    (asked : call.operation fresh = .ok operation) (options : StoreOptions) (store : Store) :
    call.handle options fresh store =
      (call.told (operation.run options store).1, (operation.run options store).2) := by
  simp only [handle, asked]
  cases operation.run options store with
  | mk result after => cases result <;> rfl

theorem addMany_refused {request : AddRequest} {fresh : String}
    {fault : Fault} (refused : request.operation fresh = .error fault)
    (options : StoreOptions) (store : Store) (rest : List (AddRequest × String)) :
    addMany options store ((request, fresh) :: rest) =
      ((RequestStatus.ofFault fault).map (·.ofRequest request.sequence), store) := by
  simp only [addMany, AddRequest.run, refused]

theorem addMany_asked {request : AddRequest} {fresh : String}
    {operation : Operation} (asked : request.operation fresh = .ok operation)
    (options : StoreOptions) (store : Store) (rest : List (AddRequest × String)) :
    addMany options store ((request, fresh) :: rest) =
      match (operation.run options store).1 with
      | .ok _ => addMany options (operation.run options store).2 rest
      | .error fault =>
        ((RequestStatus.ofFault fault).map (·.ofRequest request.sequence),
          (operation.run options store).2) := by
  simp only [addMany, AddRequest.run, asked]
  cases operation.run options store with
  | mk result after => cases result <;> rfl

theorem dropMany_cons (options : StoreOptions) (store : Store)
    (first : DropRequest) (rest : List DropRequest) :
    let drop : Operation := .dropPartitions first.catalog (first.db.getD {})
      (first.table.getD {}) (first.values :: rest.map (·.values))
    dropMany store (first :: rest) =
      (statusOf (drop.run options store).1, (drop.run options store).2) := by
  simp only [dropMany, Operation.run, Operation.change]
  cases store.update _ with
  | mk result after => cases result <;> rfl

end TableCatalog

import TableCatalog.Proofs.DropStreams
import TableCatalog.Proofs.UnaryCalls

/-! Adds that come as a stream of requests. Each is made as by a call of its own, up to the first
that is refused: what those before it added stays, and those behind it are not looked at. How the
stream ends is told by the refused request alone. -/

namespace TableCatalog

open Region

/-- The store that calls leave which are made for these requests one after another. -/
def addEach (options : StoreOptions) (store : Store)
    (requests : List (AddRequest × String)) : Store :=
  requests.foldl (fun store request =>
    ((Call.addPartition request.1).handle options request.2 store).2) store

/-- A call of its own for the request is answered well. -/
def AddRequest.Passes (options : StoreOptions) (store : Store)
    (request : AddRequest) (fresh : String) : Prop :=
  Succeeded ((Call.addPartition request).handle options fresh store).1

instance (options : StoreOptions) (store : Store) (request : AddRequest) (fresh : String) :
    Decidable (request.Passes options store fresh) := inferInstanceAs (Decidable (Succeeded _))

/-- So many requests come before the first one that is
refused in the store which those before it leave. -/
structure PassesFirst (options : StoreOptions) (store : Store)
    (requests : List (AddRequest × String)) (n : Nat) : Prop where
  within : n ≤ requests.length
  passes : ∀ k < n, ∀ request fresh, requests[k]? = some (request, fresh) →
    request.Passes options (addEach options store (requests.take k)) fresh
  refused : ∀ request fresh, requests[n]? = some (request, fresh) →
    ¬ request.Passes options (addEach options store (requests.take n)) fresh

/-- The answer to a stream that ends at a refused request. One that lacks something fails the call,
and any other fault is told under the number of the request. -/
def AddRequest.Ends (options : StoreOptions) (store : Store)
    (request : AddRequest) (fresh : String) (answer : Except Status RequestStatus) : Prop :=
  match request.partition with
  | none => answer = .error ⟨.invalidArgument, "missing partition"⟩
  | some record => ∃ fault,
      (Operation.run options store (.addPartition request.catalog
        (request.db.getD {}) (request.table.getD {}) record fresh)).1 = .error fault ∧
      answer =
        if fault.kind = .invalidArgument then .error ⟨.invalidArgument, fault.detail⟩
        else .ok ⟨1, "request " ++ toString request.sequence ++ ": " ++ fault.text,
          fault.kind.wireCode⟩

/-- A stream adds what its first requests ask for, so many of them, and nothing else. -/
structure AddedByStream (options : StoreOptions) (store : Store)
    (requests : List (AddRequest × String)) (n : Nat) (answer : Except Status RequestStatus)
    (after : Store) : Prop where
  stored : after = addEach options store (requests.take n)
  accepted : Accepted answer ↔ n = requests.length
  whole : n = requests.length → answer = .ok .ok
  ended : ∀ request fresh, requests[n]? = some (request, fresh) →
    request.Ends options after fresh answer
  cut : n < requests.length →
    ∀ others, addMany options store (requests.take (n + 1) ++ others) = (answer, after)

variable {options : StoreOptions} {store after : Store} {request : AddRequest} {fresh : String}
  {requests rest : List (AddRequest × String)} {n : Nat} {answer : Except Status RequestStatus}

private theorem not_ok_error {α : Type} {fault : Fault} :
    ¬ ∃ value : α, (.error fault : Except Fault α) = .ok value := by
  intro ⟨value, same⟩
  cases same

theorem Call.succeeded_told {call : Call} {result : Except Fault Outcome} :
    Succeeded (call.told result) ↔ ∃ outcome, result = .ok outcome := by
  cases result with
  | ok outcome => exact iff_of_true ⟨_, rfl, by rw [envelope_reply]; rfl⟩ ⟨outcome, rfl⟩
  | error fault =>
    refine iff_of_false ?_ not_ok_error
    intro ⟨reply, told, fine⟩
    have shown : call.told (.error fault) = (RequestStatus.ofFault fault).map fun status =>
      call.reply status none := rfl
    rw [shown, RequestStatus.ofFault] at told
    split at told
    · cases told
    · cases told
      rw [envelope_reply] at fine
      cases fine

/-- What the caller of a stream is told of a fault. -/
theorem ofFault_ofRequest (fault : Fault) (sequence : UInt64) :
    (RequestStatus.ofFault fault).map (·.ofRequest sequence) =
      if fault.kind = .invalidArgument then .error ⟨.invalidArgument, fault.detail⟩
      else .ok ⟨1, "request " ++ toString sequence ++ ": " ++ fault.text, fault.kind.wireCode⟩ := by
  unfold RequestStatus.ofFault
  split
  next malformed =>
    have told : fault.toStatus = ⟨.invalidArgument, fault.detail⟩ := by
      rw [Fault.toStatus, malformed]
    rw [told]
    rfl
  next =>
    have number : Numeral.decimalText sequence.toNat = toString sequence :=
      Numeral.decimalText_eq sequence.toNat
    rw [← number]
    rfl

theorem not_accepted_ofRequest (fault : Fault) (sequence : UInt64) :
    ¬ Accepted ((RequestStatus.ofFault fault).map (·.ofRequest sequence)) := by
  rw [ofFault_ofRequest]
  intro ⟨status, answered, fine⟩
  split at answered
  · cases answered
  · cases answered
    cases fine

/-- A request does in a stream what a call of its own does.
One that is refused ends the stream and has added nothing. -/
theorem addMany_cons (options : StoreOptions) (store : Store)
    (request : AddRequest) (fresh : String) :
    (request.Passes options store fresh ∧ ∀ rest, addMany options store ((request, fresh) :: rest) =
      addMany options ((Call.addPartition request).handle options fresh store).2 rest) ∨
    (¬ request.Passes options store fresh ∧ ∃ answer, request.Ends options store fresh answer ∧
      ¬ Accepted answer ∧
      ∀ rest, addMany options store ((request, fresh) :: rest) = (answer, store)) := by
  unfold AddRequest.Passes AddRequest.Ends
  cases carried : request.partition with
  | none =>
    have refused : (Call.addPartition request).operation fresh = .error (.missing "partition") := by
      rw [Call.operation, AddRequest.operation, carried]
      rfl
    have lacking : Fault.missing "partition" = ⟨.invalidArgument, "missing partition"⟩ := by
      decide +kernel
    have told : (RequestStatus.ofFault (.missing "partition")).map (·.ofRequest request.sequence) =
        .error ⟨.invalidArgument, "missing partition"⟩ := by
      rw [ofFault_ofRequest, lacking]
      exact if_pos rfl
    right
    rw [Call.handle_refused refused, Call.succeeded_told]
    refine ⟨not_ok_error, _, told, not_accepted_ofRequest _ _, ?_⟩
    intro rest
    exact addMany_refused refused options store rest
  | some record =>
    have asked : (Call.addPartition request).operation fresh =
        .ok (.addPartition request.catalog (request.db.getD {})
          (request.table.getD {}) record fresh) := by
      rw [Call.operation, AddRequest.operation, carried]
      rfl
    have added := addMany_asked asked options store
    rw [Call.handle_asked asked, Call.succeeded_told]
    cases ran : (Operation.run options store (.addPartition request.catalog
      (request.db.getD {}) (request.table.getD {}) record fresh)).1 with
    | ok outcome =>
      left
      refine ⟨⟨outcome, rfl⟩, ?_⟩
      intro rest
      rw [added, ran]
    | error fault =>
      right
      refine ⟨not_ok_error, (RequestStatus.ofFault fault).map (·.ofRequest request.sequence),
        ⟨fault, ran, ?_⟩, ?_, ?_⟩
      · exact ofFault_ofRequest fault request.sequence
      · exact not_accepted_ofRequest fault request.sequence
      · intro rest
        rw [added, ran, Operation.run_fault ran]

theorem PassesFirst.unique {m : Nat} (first : PassesFirst options store requests n)
    (other : PassesFirst options store requests m) : m = n := by
  -- The smaller of two such numbers would be that of a request which passes and is refused.
  have apart {i j : Nat} (less : i < j) (lower : PassesFirst options store requests i)
      (upper : PassesFirst options store requests j) : False := by
    have inside : i < requests.length := Nat.lt_of_lt_of_le less upper.within
    have found : requests[i]? = some (requests[i].1, requests[i].2) :=
      List.getElem?_eq_getElem inside
    exact lower.refused _ _ found (upper.passes i less _ _ found)
  obtain less | same | more := Nat.lt_trichotomy m n
  · exact (apart less other first).elim
  · exact same
  · exact (apart more first other).elim

theorem PassesFirst.zero (refused : ∀ request fresh, requests[0]? = some (request, fresh) →
    ¬ request.Passes options store fresh) :
    PassesFirst options store requests 0 where
  within := Nat.zero_le _
  passes k less := absurd less (Nat.not_lt_zero k)
  refused := refused

theorem PassesFirst.cons (passes : request.Passes options store fresh)
    (first : PassesFirst options
        ((Call.addPartition request).handle options fresh store).2 rest n) :
    PassesFirst options store ((request, fresh) :: rest) (n + 1) where
  within := Nat.succ_le_succ first.within
  passes k less other drawn found := by
    cases k with
    | zero =>
      cases found
      exact passes
    | succ k => exact first.passes k (Nat.lt_of_succ_lt_succ less) other drawn found
  refused := first.refused

theorem AddedByStream.cons (same : ∀ rest, addMany options store ((request, fresh) :: rest) =
      addMany options ((Call.addPartition request).handle options fresh store).2 rest)
    (added : AddedByStream options
        ((Call.addPartition request).handle options fresh store).2 rest n answer after) :
    AddedByStream options store ((request, fresh) :: rest) (n + 1) answer after where
  stored := added.stored
  accepted := added.accepted.trans Nat.succ_inj.symm
  whole last := added.whole (Nat.succ_inj.1 last)
  ended := added.ended
  cut less others :=
    (same (rest.take (n + 1) ++ others)).trans (added.cut (Nat.lt_of_succ_lt_succ less) others)

theorem stream_adds (options : StoreOptions) (store : Store)
    (requests : List (AddRequest × String)) :
    ∃ n, PassesFirst options store requests n ∧
      (∀ m, PassesFirst options store requests m → m = n) ∧
      AddedByStream options store requests n (addMany options store requests).1
        (addMany options store requests).2 := by
  suffices split : ∃ n, PassesFirst options store requests n ∧
      AddedByStream options store requests n (addMany options store requests).1
        (addMany options store requests).2 by
    obtain ⟨n, first, added⟩ := split
    exact ⟨n, first, fun m other => first.unique other, added⟩
  induction requests generalizing store with
  | nil =>
    refine ⟨0, .zero ?_, rfl, ?_, fun _ => rfl, ?_, ?_⟩
    · intro request fresh found
      cases found
    · exact iff_of_true ⟨.ok, rfl, rfl⟩ rfl
    · intro request fresh found
      cases found
    · intro less
      exact absurd less (Nat.lt_irrefl 0)
  | cons head rest ih =>
    obtain ⟨request, fresh⟩ := head
    obtain ⟨passes, same⟩ | ⟨refused, answer, ends, failed, ended⟩ :=
      addMany_cons options store request fresh
    · obtain ⟨n, first, added⟩ := ih ((Call.addPartition request).handle options fresh store).2
      rw [same rest]
      exact ⟨n + 1, first.cons passes, added.cons same⟩
    · have more : 0 ≠ ((request, fresh) :: rest).length := (Nat.succ_ne_zero _).symm
      rw [ended rest]
      refine ⟨0, .zero ?_, rfl, ?_, ?_, ?_, ?_⟩
      · intro other drawn found
        cases found
        exact refused
      · exact iff_of_false failed more
      · intro none
        exact absurd none more
      · intro other drawn found
        cases found
        exact ends
      · intro _ others
        exact ended others

/-- The third request repeats the first, so the fourth is not
looked at. What the first two added can be read afterwards. -/
theorem stream_adds_repeated :
    let sales : Ident := { name := "sales" }
    let orders : Ident := { name := "orders" }
    let store := Operation.runAll {} ∅ [.createDatabase "main" { ident := some sales } "1",
      .createTable "main" sales { ident := some orders } "2"]
    let add (day : String) (sequence : UInt64) : AddRequest :=
      ⟨"main", some sales, some orders, some { values := [day] }, sequence⟩
    let requests := [(add "1" 7, "3"), (add "2" 8, "4"), (add "1" 9, "5"), (add "3" 10, "6")]
    let after := (addMany {} store requests).2
    let read (day : String) :=
      (Operation.run {} after (.getPartition "main" sales orders [day] ["values"])).1
    PassesFirst {} store requests 2 ∧ after = addEach {} store (requests.take 2) ∧
    (addMany {} store requests).1 =
      .ok ⟨1, "request 9: partition sales.orders/1 already exists", 3⟩ ∧
    read "1" = .ok (.partition { values := ["1"] }) ∧
    read "2" = .ok (.partition { values := ["2"] }) ∧
    read "3" = .error (.absent "partition sales.orders/3") := by
  intro sales orders store add requests after read
  have first : PassesFirst {} store requests 2 := by
    refine .cons (by decide +kernel) (.cons (by decide +kernel) (.zero ?_))
    intro request fresh found
    cases found
    decide +kernel
  obtain ⟨n, -, unique, added⟩ := stream_adds {} store requests
  obtain rfl := unique 2 first
  refine ⟨first, added.stored, ?_, ?_, ?_, ?_⟩ <;> decide +kernel

end TableCatalog

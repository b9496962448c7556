import Mathlib.Data.List.Basic
import TableCatalog.CommandLine.Reader
import TableCatalog.Proofs.MapContents

/-! Reading a command line, frame by frame. What a command makes of its arguments is known by what
each name goes by; a value for one name more changes nothing about the others, and where plain
arguments have no place a line is read in the frames of one command. -/

namespace TableCatalog

namespace CommandLine

variable {frame next told settled : Frame} {slot : Slot} {switch : Switch}
  {name text : String} {values arguments line : List String} {environment others : Environment}

theorem bind_eq_ok {work : Except UsageError α} {rest : α → Except UsageError β} {result : β} :
    work >>= rest = .ok result ↔ ∃ middle, work = .ok middle ∧ rest middle = .ok result := by
  cases work <;> simp [bind, Except.bind]

theorem Frame.lookup_add (frame : Frame) (name : String) (values : List String) (other : String) :
    (frame.add name values).found.lookup other =
      if other = name then some ((frame.found.lookup name).getD [] ++ values)
        else frame.found.lookup other := by
  have rest := SortedMap.lookup_filter frame.found (fun key => key != name) other
  by_cases same : other = name
  · subst same
    rw [if_pos rfl]
    exact List.lookup_cons_self
  · have kept : (other != name) = true := bne_iff_ne.2 same
    have apart : (other == name) = false := beq_eq_false_iff_ne.2 same
    rw [if_neg same]
    show List.lookup other ((name, _) :: _) = _
    rw [List.lookup_cons, apart, rest, if_pos kept]

/-- A slot is filled by arguments in its form, once or as often as they come. -/
theorem Frame.fill_eq_ok : frame.fill slot arguments = .ok next ↔
    arguments.isEmpty = false ∧ (!slot.many && frame.has slot.name) = false ∧
    ((arguments.flatMap slot.form.split).forM fun value => slot.form.check value) = .ok () ∧
    next = frame.add slot.name (arguments.flatMap slot.form.split) := by
  unfold fill
  cases arguments.isEmpty with
  | true => exact ⟨fun done => (by cases done), fun done => (by cases done.1)⟩
  | false =>
    cases !slot.many && frame.has slot.name with
    | true => exact ⟨fun done => (by cases done), fun done => (by cases done.2.1)⟩
    | false =>
      refine bind_eq_ok.trans ⟨?_, ?_⟩
      · rintro ⟨_, checked, done⟩
        cases done
        exact ⟨rfl, rfl, checked, rfl⟩
      · rintro ⟨-, -, checked, rfl⟩
        exact ⟨(), checked, rfl⟩

/-- The value of a switch that has none yet. -/
theorem Frame.fill_text (free : frame.has slot.name = false)
    (form : slot.form = .text) (text : String) :
    frame.fill slot [text] = .ok (frame.add slot.name [text]) := by
  refine fill_eq_ok.2 ⟨rfl, by rw [free, Bool.and_false], ?_, ?_⟩
  · rw [form]
    rfl
  · rw [form]
    rfl

/-- An argument is for a slot of this name. -/
def Action.fills (name : String) : Action → Bool
  | take slot => slot.name == name
  | _ => false

/-- Two frames of one grammar that differ in what a name
goes by: in the second it goes by these values. -/
structure Frame.Told (grammar : Grammar) (name : String) (values : List String)
    (frame told : Frame) : Prop where
  before : frame.grammar = grammar
  after : told.grammar = grammar
  found : ∀ other, told.found.lookup other = if other = name
    then some values else frame.found.lookup other

namespace Frame.Told

variable {grammar : Grammar}

theorem of_add (before : frame.grammar = grammar) (free : frame.has name = false)
    (values : List String) :
    Told grammar name values frame (frame.add name values) where
  before := before
  after := before
  found other := by
    have none : frame.found.lookup name = none :=
      Option.isNone_iff_eq_none.1 (by simpa [Frame.has] using free)
    rw [Frame.lookup_add, none]
    rfl

theorem has_self (changed : Told grammar name values frame told) : told.has name = true := by
  rw [Frame.has, changed.found, if_pos rfl]
  rfl

theorem has (changed : Told grammar name values frame told) {other : String}
    (apart : other ≠ name) : told.has other = frame.has other := by
  rw [Frame.has, Frame.has, changed.found, if_neg apart]

theorem add (changed : Told grammar name values frame told) {other : String}
    (apart : other ≠ name) (more : List String) :
    Told grammar name values (frame.add other more) (told.add other more) where
  before := changed.before
  after := changed.after
  found asked := by
    rw [Frame.lookup_add, Frame.lookup_add, changed.found other, if_neg apart, changed.found asked]
    by_cases same : asked = other
    · rw [if_pos same, if_pos same, if_neg (same ▸ apart)]
    · rw [if_neg same, if_neg same]

theorem fill (changed : Told grammar name values frame told)
    (apart : slot.name ≠ name) (filled : frame.fill slot arguments = .ok next) :
    ∃ other, told.fill slot arguments = .ok other ∧ Told grammar name values next other := by
  obtain ⟨given, first, checked, rfl⟩ := Frame.fill_eq_ok.1 filled
  exact ⟨_, Frame.fill_eq_ok.2 ⟨given, by rwa [changed.has apart], checked, rfl⟩,
    changed.add apart _⟩

/-- A switch for something else finds the same in an environment with the same value for it. -/
theorem readVariable (changed : Told grammar name values frame told)
    (apart : switch.action.fills name = false)
    (same : switch.environment.bind (List.lookup · others) =
      switch.environment.bind (List.lookup · environment))
    (read : frame.readVariable environment switch = .ok next) :
    ∃ other, told.readVariable others switch = .ok other ∧ Told grammar name values next other := by
  unfold Frame.readVariable at read ⊢
  rw [same]
  split at read
  next slot value action found =>
    rw [action] at apart
    have other : slot.name ≠ name := by simpa [Action.fills] using apart
    rw [changed.has other]
    split at read
    next held =>
      rw [if_pos held]
      exact ⟨told, rfl, by cases read; exact changed⟩
    next free =>
      rw [if_neg free]
      exact changed.fill other read
  next => exact ⟨told, rfl, by cases read; exact changed⟩

theorem readVariables {switches : List Switch} (changed : Told grammar name values frame told)
    (apart : ∀ switch ∈ switches, switch.action.fills name = false)
    (same : ∀ switch ∈ switches, switch.environment.bind (List.lookup · others) =
        switch.environment.bind (List.lookup · environment))
    (read : switches.foldlM (Frame.readVariable environment) frame = .ok next) :
    ∃ other, switches.foldlM (Frame.readVariable others) told = .ok other ∧
    Told grammar name values next other := by
  induction switches generalizing frame told with
  | nil =>
    cases read
    exact ⟨told, rfl, changed⟩
  | cons switch switches ih =>
    obtain ⟨apart, apartRest⟩ := List.forall_mem_cons.1 apart
    obtain ⟨same, sameRest⟩ := List.forall_mem_cons.1 same
    rw [List.foldlM_cons] at read ⊢
    obtain ⟨middle, first, rest⟩ := bind_eq_ok.1 read
    obtain ⟨other, taken, changed⟩ := changed.readVariable apart same first
    rw [taken]
    exact ih changed apartRest sameRest rest

theorem fallbacks (changed : Told grammar name values frame told) {switches : List Switch}
    (none : ∀ switch ∈ switches, switch.long = name → switch.fallback = none) :
    switches.filterMap told.fallback = switches.filterMap frame.fallback := by
  apply List.filterMap_congr
  intro switch held
  unfold Frame.fallback
  by_cases same : switch.long = name
  · rw [none switch held same]
    simp
  · rw [changed.has same]

end Frame.Told

theorem Shape.of_dashes {argument : String} (dashes : Shape.of argument = .dashes) :
    argument = "--" := by
  unfold Shape.of at dashes
  split at dashes
  next spelled => exact String.toList_inj.1 spelled
  next => split at dashes <;> cases dashes
  next => cases dashes
  next => cases dashes

/-- A frame of the same command, in which plain arguments are still told from others. -/
structure Frame.Keeps (frame next : Frame) : Prop where
  grammar : next.grammar = frame.grammar
  plainOnly : next.plainOnly = frame.plainOnly

namespace Frame.Keeps

theorem trans {middle : Frame} (first : frame.Keeps middle) (rest : middle.Keeps next) :
    frame.Keeps next :=
  ⟨rest.grammar.trans first.grammar, rest.plainOnly.trans first.plainOnly⟩

theorem fill (filled : frame.fill slot arguments = .ok next) : frame.Keeps next := by
  obtain ⟨-, -, -, rfl⟩ := Frame.fill_eq_ok.1 filled
  exact ⟨rfl, rfl⟩

theorem settle (settled : frame.settle = .ok next) : frame.Keeps next := by
  unfold Frame.settle at settled
  split at settled
  next =>
    cases settled
    exact ⟨rfl, rfl⟩
  next =>
    obtain ⟨grammar, plainOnly⟩ := Keeps.fill settled
    exact ⟨grammar, plainOnly⟩

theorem readVariable (read : frame.readVariable environment switch = .ok next) :
    frame.Keeps next := by
  unfold Frame.readVariable at read
  split at read
  next =>
    split at read
    next =>
      cases read
      exact ⟨rfl, rfl⟩
    next => exact Keeps.fill read
  next =>
    cases read
    exact ⟨rfl, rfl⟩

theorem readVariables {switches : List Switch}
    (read : switches.foldlM (Frame.readVariable environment) frame = .ok next) :
    frame.Keeps next := by
  induction switches generalizing frame with
  | nil =>
    cases read
    exact ⟨rfl, rfl⟩
  | cons switch switches ih =>
    rw [List.foldlM_cons] at read
    obtain ⟨middle, first, rest⟩ := bind_eq_ok.1 read
    exact (Keeps.readVariable first).trans (ih rest)

theorem mark (marked : frame.mark switch = .ok next) : frame.Keeps next := by
  obtain ⟨settled, settles, done⟩ := bind_eq_ok.1 marked
  refine (Keeps.settle settles).trans ?_
  cases action : switch.action with
  | help | version =>
    rw [action] at done
    cases done
  | mark | take _ =>
    rw [action] at done
    dsimp only at done
    split at done
    next => cases done
    next =>
      cases done
      exact ⟨rfl, rfl⟩

theorem attach {value : List Char} (attached : frame.attach slot value = .ok next) :
    frame.Keeps next := by
  obtain ⟨settled, settles, fills⟩ := bind_eq_ok.1 attached
  obtain ⟨full, filled, done⟩ := bind_eq_ok.1 fills
  cases done
  obtain ⟨grammar, plainOnly⟩ := (Keeps.settle settles).trans (Keeps.fill filled)
  exact ⟨grammar, plainOnly⟩

theorem await (awaits : frame.await slot = .ok next) : frame.Keeps next := by
  obtain ⟨settled, settles, done⟩ := bind_eq_ok.1 awaits
  cases done
  obtain ⟨grammar, plainOnly⟩ := Keeps.settle settles
  exact ⟨grammar, plainOnly⟩

theorem readLong {long : List Char} {attached : Option (List Char)}
    (read : frame.readLong long attached = .ok next) : frame.Keeps next := by
  unfold Frame.readLong at read
  split at read
  next => cases read
  next =>
    split at read
    next => exact Keeps.attach read
    next => exact Keeps.await read
    next => cases read
    next => exact Keeps.mark read

theorem readShort {letters : List Char} (read : frame.readShort letters = .ok next) :
    frame.Keeps next := by
  induction letters generalizing frame with
  | nil =>
    cases read
    exact ⟨rfl, rfl⟩
  | cons letter letters ih =>
    unfold Frame.readShort at read
    split at read
    next => cases read
    next switch _ =>
      split at read
      next => exact Keeps.await read
      next => exact Keeps.attach read
      next => exact Keeps.attach read
      next =>
        obtain ⟨middle, marked, rest⟩ := bind_eq_ok.1 read
        exact (Keeps.mark marked).trans (ih rest)

end Frame.Keeps

section Flat

variable {grammar : Grammar} (flat : grammar.inner = []) (placeless : grammar.places = [])

include placeless in
/-- Where there are no places for plain arguments, nothing
but two dashes alone changes how arguments are told apart. -/
theorem Frame.read_keeps {argument : String} (here : frame.grammar = grammar)
    (read : frame.read argument = .ok next) :
    next.grammar = grammar ∧ (argument ≠ "--" → next.plainOnly = frame.plainOnly) := by
  have unplaced : frame.readPlace argument = .error (frame.misplaced argument) := by
    rw [readPlace, here, placeless]; rfl
  have kept (keeps : frame.Keeps next) : next.grammar = grammar ∧
      (argument ≠ "--" → next.plainOnly = frame.plainOnly) :=
    ⟨keeps.grammar.trans here, fun _ => keeps.plainOnly⟩
  unfold Frame.read at read
  split at read
  next =>
    rw [unplaced] at read
    cases read
  next =>
    split at read
    next dashes =>
      cases read
      exact ⟨here, fun other => absurd (Shape.of_dashes dashes) other⟩
    next => exact kept (.readLong read)
    next => exact kept (.readShort read)
    next =>
      split at read
      next =>
        cases read
        exact ⟨here, fun _ => rfl⟩
      next =>
        rw [unplaced] at read
        cases read

include flat

theorem Progress.step_flat (here : frame.grammar = grammar) (argument : String)
    (outer : List Frame) :
    Progress.step (.reading frame outer) argument =
      do return .reading (← frame.read argument) outer := by
  simp only [step, Grammar.inner?, here, flat, List.find?_nil,
    List.isEmpty_nil, Bool.not_true, Bool.false_eq_true, and_false, if_false, ite_self]

include placeless

/-- Reading a line leads from frame to frame of the one command. -/
theorem Progress.steps_flat {progress : Progress} (here : frame.grammar = grammar)
    (read : line.foldlM Progress.step (.reading frame []) = .ok progress) :
    ∃ next, progress = .reading next [] ∧ next.grammar = grammar ∧
    ("--" ∉ line → next.plainOnly = frame.plainOnly) := by
  induction line generalizing frame with
  | nil =>
    cases read
    exact ⟨frame, rfl, here, fun _ => rfl⟩
  | cons argument line ih =>
    rw [List.foldlM_cons, step_flat flat here] at read
    obtain ⟨_, stepped, read⟩ := bind_eq_ok.1 read
    obtain ⟨middle, first, same⟩ := bind_eq_ok.1 stepped
    cases same
    obtain ⟨stays, kept⟩ := Frame.read_keeps placeless here first
    obtain ⟨next, same, grammar, keptRest⟩ := ih stays read
    refine ⟨next, same, grammar, fun undashed => ?_⟩
    obtain ⟨other, rest⟩ := not_or.1 (mt List.mem_cons.2 undashed)
    exact (keptRest rest).trans (kept (Ne.symm other))

/-- Completing the one command: what is pending is put into
its slot, and the switches that are missing are looked up. -/
theorem Frame.complete_eq_ok {found : Match} (here : frame.grammar = grammar) :
    frame.complete environment false = .ok found ↔ ∃ settled full, frame.settle = .ok settled ∧
      grammar.switches.foldlM (Frame.readVariable environment) settled = .ok full ∧
      full.grammar = grammar ∧
      found = ⟨grammar.name, full.found ++ grammar.switches.filterMap full.fallback⟩ := by
  unfold complete
  rw [here]
  constructor
  · intro done
    obtain ⟨settled, settles, looked⟩ := bind_eq_ok.1 done
    obtain ⟨full, reads, rest⟩ := bind_eq_ok.1 looked
    have stays : full.grammar = grammar :=
      (Keeps.readVariables reads).grammar.trans ((Keeps.settle settles).grammar.trans here)
    simp only [stays, flat, placeless] at rest
    cases rest
    exact ⟨settled, full, settles, reads, stays, rfl⟩
  · rintro ⟨settled, full, settles, reads, stays, rfl⟩
    refine bind_eq_ok.2 ⟨settled, settles, bind_eq_ok.2 ⟨full, reads, ?_⟩⟩
    simp only [stays, flat, placeless]
    rfl

end Flat

/-- A command that found these values under a name, and otherwise what another found. -/
def Match.Told (name : String) (values : List String) (found told : Match) : Prop :=
  ∀ other, told.values.lookup other = if other = name then some values
    else found.values.lookup other

theorem Frame.Told.matches {grammar : Grammar} (changed : Told grammar name values frame told)
    (none : ∀ switch ∈ grammar.switches, switch.long = name → switch.fallback = none) :
    Match.Told name values ⟨grammar.name, frame.found ++ grammar.switches.filterMap frame.fallback⟩
      ⟨grammar.name, told.found ++ grammar.switches.filterMap told.fallback⟩ := by
  intro other
  simp only [List.lookup_append, changed.fallbacks none, changed.found other]
  split <;> rfl

end CommandLine
end TableCatalog

import TableCatalog.Daemon.Start
import TableCatalog.Proofs.CommandFrames

/-! The host that the daemon runs with. It comes from the command line, from the environment or from
the file of settings, in this order; all else stays as it would be without. The host is looked up
before the other switches, so one that was told changes the frame once and the rest of the lookups,
which are for other names, leave the change alone. -/

namespace TableCatalog

namespace Daemon

open CommandLine

variable {frame next told settled : Frame} {text : String} {line : List String}
  {environment others : Environment} {found : Match}

/-- The slot that a host goes to, and its switch. -/
def hostSlot : Slot := { name := "host" }

def hostSwitch : Switch := option "host" .text (some 'H') (some "HOST")

/-- The switches for anything else. -/
def otherSwitches : List Switch := grammar.switches.tail

theorem grammar_switches : grammar.switches = hostSwitch :: otherSwitches := rfl

theorem otherSwitches_apart :
    ∀ switch ∈ otherSwitches, switch.action.fills "host" = false ∧
    switch.environment ≠ some "HOST" := by decide

theorem host_without_fallback :
    ∀ switch ∈ grammar.switches, switch.long = "host" → switch.fallback = none := by decide

/-- The environment without what it says about the host. -/
def withoutHost (environment : Environment) : Environment :=
  environment.filter fun entry => entry.1 != "HOST"

theorem lookup_withoutHost (environment : Environment) (key : String) :
    (withoutHost environment).lookup key = if key = "HOST" then none
      else environment.lookup key := by
  rw [withoutHost, SortedMap.lookup_filter environment fun key => key != "HOST"]
  by_cases same : key = "HOST" <;> simp [same]

/-- Environments that agree on everything but the host lead to the same for the other switches. -/
theorem others_found (changed : Frame.Told grammar "host" values frame told)
    (same : ∀ key ≠ "HOST", others.lookup key = environment.lookup key)
    (read : otherSwitches.foldlM (Frame.readVariable environment) frame = .ok next) :
    ∃ other, otherSwitches.foldlM (Frame.readVariable others) told = .ok other ∧
    Frame.Told grammar "host" values next other := by
  refine changed.readVariables (fun switch held => (otherSwitches_apart switch held).1)
    (fun switch held => ?_) read
  cases named : switch.environment with
  | none => rfl
  | some key => exact same key fun host => (otherSwitches_apart switch held).2 (host ▸ named)

/-- A host that was found is not lost over the other switches. -/
theorem host_kept (here : frame.grammar = grammar) (has : frame.has "host" = true)
    (read : otherSwitches.foldlM (Frame.readVariable environment) frame = .ok next) :
    next.has "host" = true := by
  obtain ⟨values, held⟩ := Option.isSome_iff_exists.1 has
  have same : Frame.Told grammar "host" values frame frame := by
    refine ⟨here, here, fun other => ?_⟩
    split
    next host => rw [host, held]
    next => rfl
  obtain ⟨other, taken, kept⟩ := others_found same (fun _ _ => rfl) read
  obtain rfl := Except.ok.inj (read.symm.trans taken)
  exact kept.has_self

theorem readVariable_host (has : frame.has "host" = true) (environment : Environment) :
    frame.readVariable environment hostSwitch = .ok frame := by
  unfold Frame.readVariable
  split
  next action _ =>
    cases action
    exact if_pos has
  next => rfl

theorem readVariable_host_of_lookup (free : frame.has "host" = false)
    (held : environment.lookup "HOST" = some text) :
    frame.readVariable environment hostSwitch = .ok (frame.add "host" [text]) := by
  have found : hostSwitch.environment.bind (List.lookup · environment) = some text := held
  unfold Frame.readVariable
  rw [found]
  have filled : frame.fill hostSlot [text] = .ok (frame.add "host" [text]) :=
    Frame.fill_text free rfl text
  exact (if_neg (by simp [free])).trans filled

/-- The line is read as the one command of the daemon. -/
theorem read_eq_ok {matches' : List Match} :
    CommandLine.read grammar environment line = .ok matches' ↔ ∃ frame one,
    line.foldlM Progress.step (.reading { grammar } []) = .ok (.reading frame []) ∧
    frame.complete environment false = .ok one ∧
    matches' = [one] := by
  unfold CommandLine.read
  constructor
  · intro done
    obtain ⟨progress, steps, rest⟩ := CommandLine.bind_eq_ok.1 done
    obtain ⟨frame, rfl, -⟩ := Progress.steps_flat rfl rfl rfl steps
    obtain ⟨one, completed, last⟩ := CommandLine.bind_eq_ok.1 rest
    cases last
    exact ⟨frame, one, steps, completed, rfl⟩
  · rintro ⟨frame, one, steps, completed, rfl⟩
    exact CommandLine.bind_eq_ok.2 ⟨_, steps, CommandLine.bind_eq_ok.2 ⟨one, completed, rfl⟩⟩

theorem frame_of_steps
    (steps : line.foldlM Progress.step (.reading { grammar } []) = .ok (.reading frame [])) :
    frame.grammar = grammar ∧ ("--" ∉ line → frame.plainOnly = false) := by
  obtain ⟨_, same, here, mixed⟩ := Progress.steps_flat rfl rfl rfl steps
  cases same
  exact ⟨here, mixed⟩

/-- A frame that is completed without a host had none, and neither had the environment. -/
theorem complete_silent (here : frame.grammar = grammar)
      (completed : frame.complete environment false = .ok found)
      (silent : found.has "host" = false) :
      ∃ settled full, frame.settle = .ok settled ∧ settled.grammar = grammar ∧
      settled.has "host" = false ∧
      otherSwitches.foldlM (Frame.readVariable environment) settled = .ok full ∧
      found = ⟨grammar.name, full.found ++ grammar.switches.filterMap full.fallback⟩ := by
  obtain ⟨settled, full, settles, reads, stays, rfl⟩ :=
    (Frame.complete_eq_ok rfl rfl here).1 completed
  have settledHere : settled.grammar = grammar := (Frame.Keeps.settle settles).grammar.trans here
  have unfound : ¬ full.has "host" = true := by
    intro has
    obtain ⟨values, held⟩ := Option.isSome_iff_exists.1 has
    rw [Match.has, List.lookup_append, held] at silent
    cases silent
  rw [grammar_switches, List.foldlM_cons] at reads
  by_cases has : settled.has "host" = true
  · rw [readVariable_host has] at reads
    exact absurd (host_kept settledHere has reads) unfound
  · have free : settled.has "host" = false := Bool.not_eq_true _ ▸ has
    cases held : environment.lookup "HOST" with
    | some text =>
      rw [readVariable_host_of_lookup free held] at reads
      have added := Frame.Told.of_add settledHere free [text]
      exact absurd (host_kept added.after added.has_self reads) unfound
    | none =>
      have quiet : settled.readVariable environment hostSwitch = .ok settled := by
        have missing : hostSwitch.environment.bind (List.lookup · environment) = none := held
        unfold Frame.readVariable
        rw [missing]
        rfl
      rw [quiet] at reads
      exact ⟨settled, full, settles, settledHere, free, reads, rfl⟩

/-- A frame that settles with a host, or finds one in the environment, is completed with it. -/
theorem complete_told {host : Frame} (here : told.grammar = grammar)
    (settles : told.settle = .ok next) (first : next.readVariable others hostSwitch = .ok host)
    (changed : Frame.Told grammar "host" values settled host)
    (same : ∀ key ≠ "HOST", others.lookup key = environment.lookup key) {full : Frame}
    (reads : otherSwitches.foldlM (Frame.readVariable environment) settled = .ok full) :
    ∃ found, told.complete others false = .ok found ∧
      Match.Told "host" values
        ⟨grammar.name, full.found ++ grammar.switches.filterMap full.fallback⟩ found := by
  obtain ⟨other, taken, changed⟩ := others_found changed same reads
  refine ⟨_, (Frame.complete_eq_ok rfl rfl here).2 ⟨next, other, settles, ?_, changed.after, rfl⟩,
    changed.matches host_without_fallback⟩
  rw [grammar_switches, List.foldlM_cons, first]
  exact taken

/-- The ways to write a host on a command line. -/
def hostArguments (text : String) : List (List String) :=
  [["--host", text], ["-H", text], ["--host=" ++ text], ["-H" ++ text], ["-H=" ++ text]]

/-- The text cannot be taken for a switch, or for the equals sign in front of a value. -/
def Plain (text : String) : Prop := ∃ c rest, text.toList = c :: rest ∧ c ≠ '-' ∧ c ≠ '='

theorem Plain.shape (plain : Plain text) : Shape.of text = .plain := by
  obtain ⟨c, rest, spelled, dash, -⟩ := plain
  unfold Shape.of
  rw [spelled]
  split
  next same => exact absurd (List.cons.inj same).1 dash
  next same => exact absurd (List.cons.inj same).1 dash
  next same => exact absurd (List.cons.inj same).1 dash
  next => rfl

/-- After two dashes or one the host is awaited. -/
theorem read_hostSwitch (here : frame.grammar = grammar) (mixed : frame.plainOnly = false) :
    frame.read "--host" = frame.await hostSlot ∧ frame.read "-H" = frame.await hostSlot := by
  have long : Shape.of "--host" = .long ['h', 'o', 's', 't'] none := by decide
  have short : Shape.of "-H" = .short ['H'] := by decide
  constructor
  · simp only [Frame.read, mixed, long, Frame.readLong, here]
    rfl
  · simp only [Frame.read, mixed, short, Frame.readShort, here]
    rfl

/-- A host may stand in one argument with its switch. -/
theorem read_hostAttached (here : frame.grammar = grammar) (mixed : frame.plainOnly = false)
    (plain : Plain text) :
    ∀ argument ∈ ["--host=" ++ text, "-H" ++ text, "-H=" ++ text],
    frame.read argument = frame.attach hostSlot text.toList := by
  have long : Shape.of ("--host=" ++ text) = .long ['h', 'o', 's', 't'] (some text.toList) := by
    simp [Shape.of, Text.splitFirst]
  have short (more : List Char) : Shape.of ("-H" ++ String.ofList more) = .short ('H' :: more) := by
    simp [Shape.of]
  have attached (more : List Char) :
      frame.readShort ('H' :: '=' :: more) = frame.attach hostSlot more := by
    simp only [Frame.readShort, here]
    rfl
  have joined : frame.readShort ('H' :: text.toList) = frame.attach hostSlot text.toList := by
    obtain ⟨c, rest, spelled, -, sign⟩ := plain
    have known : grammar.short? 'H' = some hostSwitch := rfl
    have action : hostSwitch.action = .take hostSlot := rfl
    simp only [Frame.readShort, here, spelled, known, action]
    split
    next same => cases same
    next same =>
      exact absurd (List.cons.inj same).1 sign
    next slot taken _ _ =>
      cases taken
      rfl
    next other _ _ => exact (other hostSlot rfl).elim
  intro argument held
  simp only [List.mem_cons, List.not_mem_nil, or_false] at held
  rcases held with rfl | rfl | rfl
  · simp only [Frame.read, mixed, long, Frame.readLong, here]
    rfl
  · have shape := short text.toList
    rw [String.ofList_toList] at shape
    simp only [Frame.read, mixed, shape, joined]
    rfl
  · have shape := short ('=' :: text.toList)
    have same : "-H" ++ String.ofList ('=' :: text.toList) = "-H=" ++ text := by
      apply String.toList_inj.1
      simp
    rw [same] at shape
    simp only [Frame.read, mixed, shape, attached]
    rfl

theorem settle_pending (settles : frame.settle = .ok settled) : settled.pending = none := by
  unfold Frame.settle at settles
  split at settles
  next none =>
    cases settles
    exact none
  next =>
    obtain ⟨-, -, -, rfl⟩ := Frame.fill_eq_ok.1 settles
    rfl

/-- The switch has been read, and its value is to follow. -/
def awaiting (settled : Frame) : Frame :=
  { settled with pending := some (hostSlot, []), expects := .value }

/-- The value has been read as well. -/
def supplied (settled : Frame) (text : String) : Frame :=
  { settled with pending := some (hostSlot, [text]), expects := .anything }

theorem step_awaiting (here : settled.grammar = grammar) (mixed : settled.plainOnly = false)
    (plain : Plain text) :
    Progress.step (.reading (awaiting settled) []) text =
      .ok (.reading (supplied settled text) []) := by
  have read : (awaiting settled).read text = .ok (supplied settled text) := by
    have stillMixed : (awaiting settled).plainOnly = false := mixed
    simp only [Frame.read, stillMixed, plain.shape]
    rfl
  have stillHere : (awaiting settled).grammar = grammar := here
  rw [Progress.step_flat rfl stillHere, read]
  rfl

/-- However a host is written behind a line, the frame settles with it. -/
theorem read_hostArguments (here : frame.grammar = grammar) (mixed : frame.plainOnly = false)
    (settles : frame.settle = .ok settled) (free : settled.has "host" = false)
    (plain : Plain text) {written : List String} (one : written ∈ hostArguments text) :
    ∃ told next, written.foldlM Progress.step (.reading frame []) = .ok (.reading told []) ∧
      told.grammar = grammar ∧ told.settle = .ok next ∧
      Frame.Told grammar "host" [text] settled next := by
  obtain ⟨grammarStill, mixedStill⟩ := Frame.Keeps.settle settles
  rw [here] at grammarStill
  rw [mixed] at mixedStill
  have added := Frame.Told.of_add grammarStill free [text]
  have filled (other : Frame) (same : other.found = settled.found) :
      other.fill hostSlot [text] = .ok (other.add "host" [text]) := by
    refine Frame.fill_text ?_ rfl text
    rw [Frame.has, same]
    exact free
  have apart (argument : String) (read : frame.read argument = frame.await hostSlot) :
      [argument, text].foldlM Progress.step (.reading frame []) =
        .ok (.reading (supplied settled text) []) := by
    have awaits : frame.await hostSlot = .ok (awaiting settled) := by
      rw [Frame.await, settles]
      rfl
    have next := step_awaiting grammarStill mixedStill plain
    rw [List.foldlM_cons, Progress.step_flat rfl here, read, awaits]
    show Progress.step (.reading (awaiting settled) []) text >>= _ = _
    rw [next]
    rfl
  have together (argument : String)
    (read : frame.read argument = frame.attach hostSlot text.toList) :
      [argument].foldlM Progress.step (.reading frame []) =
        .ok (.reading { settled.add "host" [text] with expects := .anything } []) := by
    have attached : frame.attach hostSlot text.toList =
        .ok { settled.add "host" [text] with expects := .anything } := by
      simp only [Frame.attach, settles, String.ofList_toList, bind, Except.bind, filled settled rfl]
      rfl
    rw [List.foldlM_cons, Progress.step_flat rfl here, read, attached]
    rfl
  have written : written = ["--host", text] ∨ written = ["-H", text] ∨
      ∃ argument ∈ ["--host=" ++ text, "-H" ++ text, "-H=" ++ text], written = [argument] := by
    simpa [hostArguments] using one
  obtain ⟨long, short⟩ := read_hostSwitch here mixed
  -- Behind its switch a host is still to be put into
  -- the slot; in one argument with it, that is done.
  have later := filled { settled with pending := none, expects := .anything } rfl
  rcases written with rfl | rfl | ⟨argument, held, rfl⟩
  · exact ⟨_, _, apart _ long, grammarStill, later, added.before, grammarStill, added.found⟩
  · exact ⟨_, _, apart _ short, grammarStill, later, added.before, grammarStill, added.found⟩
  · refine ⟨_, { settled.add "host" [text] with expects := .anything },
      together argument (read_hostAttached here mixed plain argument held),
      grammarStill, ?_, added.before, grammarStill, added.found⟩
    simp only [Frame.settle, Frame.add, settle_pending settles]

variable {disk : Disk} {arguments : Arguments} {config saved : Config}
  {longer : List String} {retold : Match}

/-- The settings that a command line and an environment lead to. -/
def RunsWith (disk : Disk) (environment : Environment) (line : List String)
    (config : Config) : Prop :=
  ∃ arguments, parse environment line = .ok arguments ∧ load disk arguments = some config

/-- The line is read, and neither it nor the environment says anything about the host. -/
def Hostless (environment : Environment) (line : List String) : Prop :=
  ∃ found, CommandLine.read grammar environment line = .ok [found] ∧ found.has "host" = false

theorem parse_told (reads : CommandLine.read grammar environment line = .ok [found])
    (rereads : CommandLine.read grammar others longer = .ok [retold])
    (changed : Match.Told "host" [text] found retold)
    (parsed : parse environment line = .ok arguments) :
    parse others longer = .ok { arguments with host := some text } := by
  have given : retold.text? "host" = some text := by
    rw [Match.text?, Match.texts, changed, if_pos rfl]; rfl
  have kept {name : String} (apart : name ≠ "host") : retold.has name = found.has name ∧
      retold.text? name = found.text? name := by
    constructor
    · rw [Match.has, Match.has, changed, if_neg apart]
    · rw [Match.text?, Match.text?, Match.texts, Match.texts, changed, if_neg apart]
  unfold parse at parsed ⊢
  rw [reads] at parsed
  rw [rereads]
  cases parsed
  simp [bind, Except.bind, pure, Except.pure, Match.text, given, kept]

theorem host_none (reads : CommandLine.read grammar environment line = .ok [found])
    (silent : found.has "host" = false) (parsed : parse environment line = .ok arguments) :
    arguments.host = none := by
  have missing : found.values.lookup "host" = none :=
    Option.isNone_iff_eq_none.1 (by simpa [Match.has] using silent)
  unfold parse at parsed
  rw [reads] at parsed
  cases parsed
  show found.text? "host" = none
  rw [Match.text?, Match.texts, missing]
  rfl

theorem foldl_set_host {settings : List Setting} (apart : ∀ host, .host host ∉ settings)
    (config : Config) (text : String) :
    settings.foldl Config.set { config with host := text } =
      { settings.foldl Config.set config with host := text } := by
  induction settings generalizing config with
  | nil => rfl
  | cons setting settings ih =>
    have rest (host : String) : .host host ∉ settings :=
      fun held => apart host (List.mem_cons_of_mem _ held)
    have commutes : Config.set { config with host := text } setting =
        { config.set setting with host := text } := by
      cases setting with
      | host host => exact absurd List.mem_cons_self (apart host)
      | _ => rfl
    rw [List.foldl_cons, List.foldl_cons, commutes, ih rest]

/-- Arguments without a host make settings of other things. -/
theorem settings_hostless (silent : arguments.host = none) (host : String) :
    .host host ∉ arguments.settings := by
  simp [Arguments.settings, silent]

/-- The settings that the others go over. -/
def saved? (disk : Disk) (arguments : Arguments) : Option Config :=
  match arguments.config with
  | some path => (disk.read? path).bind Config.ofToml?
  | none => some {}

theorem load_eq (disk : Disk) (arguments : Arguments) :
    load disk arguments = (saved? disk arguments).map fun saved =>
      arguments.settings.foldl Config.set saved := by
  unfold load saved?
  cases arguments.config with
  | none => rfl
  | some path =>
    dsimp only
    cases (disk.read? path).bind Config.ofToml? <;> rfl

/-- A host among the arguments goes over what is saved, and touches nothing else. -/
theorem load_host (disk : Disk) (arguments : Arguments) (text : String) :
    load disk { arguments with host := some text } = (load disk { arguments with host := none }).map
      fun config => { config with host := text } := by
  have settings : ({ arguments with host := some text } : Arguments).settings =
      .host text :: ({ arguments with host := none } : Arguments).settings := by
    simp [Arguments.settings]
  have still : saved? disk { arguments with host := some text } =
    saved? disk { arguments with host := none } := rfl
  rw [load_eq, load_eq, settings, still, Option.map_map]
  congr 1
  funext saved
  exact foldl_set_host (settings_hostless rfl) saved text

theorem host_of_load (given : arguments.host = some text)
    (loads : load disk arguments = some config) : config.host = text := by
  have same : arguments = { arguments with host := some text } := by rw [← given]
  rw [same, load_host] at loads
  obtain ⟨_, -, rfl⟩ := Option.map_eq_some_iff.1 loads
  rfl

/-- What the daemon runs with is what it would run with
otherwise, but for the host that is found. -/
theorem RunsWith.with_host (runs : RunsWith disk environment line config)
    (reads : CommandLine.read grammar environment line = .ok [found])
    (silent : found.has "host" = false)
    (rereads : CommandLine.read grammar others longer = .ok [retold])
    (changed : Match.Told "host" [text] found retold) :
    RunsWith disk others longer { config with host := text } := by
  obtain ⟨arguments, parsed, loads⟩ := runs
  have same : { arguments with host := none } = arguments := by rw [← host_none reads silent parsed]
  refine ⟨_, parse_told reads rereads changed parsed, ?_⟩
  rw [load_host, same, loads]
  rfl

/-- A text that the daemon takes as its host, in whichever of the three ways it is given; all other
settings are as they would be without. What the command line says goes over what the environment
says, and both go over the file. -/
structure TakesHost (text : String) : Prop where
  argument {disk : Disk} {environment : Environment} {line : List String}
    {config : Config} : "--" ∉ line →
    Hostless (withoutHost environment) line → RunsWith disk (withoutHost environment) line config →
    ∀ written ∈ hostArguments text,
    RunsWith disk environment (line ++ written) { config with host := text }
  environment {disk : Disk} {environment : Environment} {line : List String} {config : Config} :
    environment.lookup "HOST" = some text →
    Hostless (withoutHost environment) line → RunsWith disk (withoutHost environment) line config →
    RunsWith disk environment line { config with host := text }
  given {disk : Disk} {arguments : Arguments} {config : Config} :
    arguments.host = some text → load disk arguments = some config →
    config.host = text
  file {disk : Disk} {environment : Environment} {line : List String}
    {arguments : Arguments} {path file : String} {saved : Config} :
    Hostless environment line → parse environment line = .ok arguments →
    arguments.config = some path → disk.read? path = some file →
    Config.ofToml? file = some saved → saved.host = text →
    ∃ config, RunsWith disk environment line config ∧ config.host = text

theorem lookup_same (environment : Environment) :
    ∀ key ≠ "HOST", environment.lookup key = (withoutHost environment).lookup key :=
  fun key apart => by rw [lookup_withoutHost, if_neg apart]

theorem takes_argument (plain : Plain text) (mixed : "--" ∉ line)
    (silent : Hostless (withoutHost environment) line)
    (runs : RunsWith disk (withoutHost environment) line config)
    {written : List String} (one : written ∈ hostArguments text) :
    RunsWith disk environment (line ++ written) { config with host := text } := by
  obtain ⟨found, reads, silent⟩ := silent
  obtain ⟨frame, _, steps, completed, same⟩ := read_eq_ok.1 reads
  cases same
  obtain ⟨here, undashed⟩ := frame_of_steps steps
  obtain ⟨settled, full, settles, settledHere, free, rest, rfl⟩ :=
    complete_silent here completed silent
  obtain ⟨told, next, more, toldHere, toldSettles, changed⟩ :=
    read_hostArguments here (undashed mixed) settles free plain one
  obtain ⟨retold, recompleted, changed⟩ := complete_told toldHere toldSettles
    (readVariable_host changed.has_self environment) changed (lookup_same environment) rest
  refine runs.with_host reads silent (read_eq_ok.2 ⟨told, retold, ?_, recompleted, rfl⟩) changed
  rw [List.foldlM_append, steps]
  exact more

theorem takes_variable (held : environment.lookup "HOST" = some text)
    (silent : Hostless (withoutHost environment) line)
    (runs : RunsWith disk (withoutHost environment) line config) :
    RunsWith disk environment line { config with host := text } := by
  obtain ⟨found, reads, silent⟩ := silent
  obtain ⟨frame, _, steps, completed, same⟩ := read_eq_ok.1 reads
  cases same
  obtain ⟨here, -⟩ := frame_of_steps steps
  obtain ⟨settled, full, settles, settledHere, free, rest, rfl⟩ :=
    complete_silent here completed silent
  obtain ⟨retold, recompleted, changed⟩ :=
    complete_told here settles (readVariable_host_of_lookup free held)
      (.of_add settledHere free [text]) (lookup_same environment) rest
  exact runs.with_host reads silent (read_eq_ok.2 ⟨frame, retold, steps, recompleted, rfl⟩) changed

theorem takes_saved {path file : String} (silent : Hostless environment line)
    (parsed : parse environment line = .ok arguments) (named : arguments.config = some path)
    (read : disk.read? path = some file)
    (understood : Config.ofToml? file = some saved) :
    ∃ config, RunsWith disk environment line config ∧ config.host = saved.host := by
  obtain ⟨found, reads, silent⟩ := silent
  have kept : arguments.settings.foldl Config.set saved =
      { arguments.settings.foldl Config.set saved with host := saved.host } :=
    foldl_set_host (settings_hostless (host_none reads silent parsed)) saved saved.host
  refine ⟨arguments.settings.foldl Config.set saved, ⟨arguments, parsed, ?_⟩, by rw [kept]⟩
  rw [load_eq, saved?, named]
  show ((disk.read? path).bind Config.ofToml?).map _ = _
  rw [read, Option.bind_some, understood]
  rfl

theorem Plain.takesHost (plain : Plain text) : TakesHost text where
  argument mixed silent runs _ one := takes_argument plain mixed silent runs one
  environment held silent runs := takes_variable held silent runs
  given := host_of_load
  file silent parsed named read understood same :=
    same ▸ takes_saved silent parsed named read understood

end Daemon
end TableCatalog

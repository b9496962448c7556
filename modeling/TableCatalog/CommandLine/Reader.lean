import TableCatalog.CommandLine.Grammar

/-! Reading a command line, one argument after the other. The values of a switch or place are collected
first and put into their slot when the next thing begins, so an argument that cannot be read at all is
reported before a value that is malformed. Arguments after `--` are plain. A command inside another
takes over all that follows; when the arguments end, the innermost command is completed first. -/

namespace TableCatalog.CommandLine

/-- What an argument looks like. -/
inductive Shape
  /-- Two dashes alone. -/
  | dashes
  | long (name : List Char) (attached : Option (List Char))
  | short (letters : List Char)
  | plain
deriving DecidableEq, Repr

/-- A dash alone is plain. -/
def Shape.of (argument : String) : Shape :=
  match argument.toList with
  | ['-', '-'] => .dashes
  | '-' :: '-' :: rest =>
    match Text.splitFirst '=' rest with
    | some (name, value) => .long name (some value)
    | none => .long rest none
  | '-' :: letter :: rest => .short (letter :: rest)
  | _ => .plain

/-- What the next plain argument is taken for. -/
inductive Expectation
  /-- The name of a command inside, or the next place. -/
  | anything
  /-- The value of a switch. -/
  | value
  /-- One more value of a place. -/
  | more
deriving DecidableEq, Repr

/-- How far the reading of one command has come. -/
structure Frame where
  grammar : Grammar
  found : List (String × List String) := []
  /-- A slot whose arguments are being collected. -/
  pending : Option (Slot × List String) := none
  expects : Expectation := .anything
  /-- The place that the next plain argument goes to. -/
  place : Nat := 0
  /-- All that follows is plain. -/
  plainOnly : Bool := false

namespace Frame

def has (frame : Frame) (name : String) : Bool := (frame.found.lookup name).isSome

/-- Adds values under a name. -/
def add (frame : Frame) (name : String) (values : List String) : Frame :=
  let old := (frame.found.lookup name).getD []
  { frame with found := (name, old ++ values) :: frame.found.filter (·.1 != name) }

/-- Puts arguments into a slot. -/
def fill (frame : Frame) (slot : Slot) (arguments : List String) : Except UsageError Frame := do
  if arguments.isEmpty then throw .invalidValue
  if !slot.many && frame.has slot.name then throw .argumentConflict
  let values := arguments.flatMap slot.form.split
  values.forM fun value => slot.form.check value
  return frame.add slot.name values

/-- Puts what was collected into its slot. -/
def settle (frame : Frame) : Except UsageError Frame :=
  match frame.pending with
  | none => .ok frame
  | some (slot, arguments) => { frame with pending := none }.fill slot arguments

/-- A switch without a value. -/
def mark (frame : Frame) (switch : Switch) : Except UsageError Frame := do
  let frame ← frame.settle
  match switch.action with
  | .help => throw .displayHelp
  | .version => throw .displayVersion
  | .mark | .take _ =>
    if frame.has switch.long then throw .argumentConflict
    return { frame.add switch.long [] with expects := .anything }

/-- A switch with its value in the same argument. -/
def attach (frame : Frame) (slot : Slot) (value : List Char) : Except UsageError Frame := do
  let frame ← (← frame.settle).fill slot [String.ofList value]
  return { frame with expects := .anything }

/-- A switch whose value is to follow. -/
def await (frame : Frame) (slot : Slot) : Except UsageError Frame := do
  return { ← frame.settle with pending := some (slot, []), expects := .value }

def readLong (frame : Frame) (name : List Char) (attached : Option (List Char)) : Except UsageError Frame :=
  match frame.grammar.long? (String.ofList name) with
  | none => .error .unknownArgument
  | some switch =>
    match switch.action, attached with
    | .take slot, some value => frame.attach slot value
    | .take slot, none => frame.await slot
    | _, some _ => .error .tooManyValues
    | _, none => frame.mark switch

/-- Reads switches of one letter written together. One that takes a value takes what is left. -/
def readShort (frame : Frame) : List Char → Except UsageError Frame
  | [] => .ok frame
  | letter :: rest =>
    match frame.grammar.short? letter with
    | none => .error .unknownArgument
    | some switch =>
      match switch.action, rest with
      | .take slot, [] => frame.await slot
      | .take slot, '=' :: value => frame.attach slot value
      | .take slot, value => frame.attach slot value
      | _, rest => do readShort (← frame.mark switch) rest

/-- The value of the switch before. -/
def readValue (frame : Frame) (argument : String) : Frame :=
  { frame with
    pending := frame.pending.map fun (slot, arguments) => (slot, arguments ++ [argument])
    expects := .anything }

/-- Why no place is left for an argument. -/
def misplaced (frame : Frame) (argument : String) : UsageError :=
  if frame.grammar.inner.isEmpty then .unknownArgument
  else if frame.plainOnly && ((frame.grammar.inner? argument).isSome || argument == helpSwitch.long) then
    .unknownArgument
  else .invalidSubcommand

/-- An argument for the next place. -/
def readPlace (frame : Frame) (argument : String) : Except UsageError Frame :=
  match frame.grammar.places[frame.place]? with
  | none => .error (frame.misplaced argument)
  | some slot =>
    match frame.pending with
    | some (current, arguments) =>
      if slot.many && current == slot then
        .ok { frame with pending := some (slot, arguments ++ [argument]), expects := .more }
      else enter slot
    | none => enter slot
where
  enter (slot : Slot) : Except UsageError Frame := do
    let frame := { ← frame.settle with pending := some (slot, [argument]) }
    if slot.many then return { frame with expects := .more }
    else return { frame with place := frame.place + 1, expects := .anything }

/-- Any argument but the name of a command inside. -/
def read (frame : Frame) (argument : String) : Except UsageError Frame :=
  if frame.plainOnly then frame.readPlace argument
  else
    match Shape.of argument with
    | .dashes => .ok { frame with plainOnly := true }
    | .long name attached => frame.readLong name attached
    | .short letters => frame.readShort letters
    | .plain => if frame.expects = .value then .ok (frame.readValue argument) else frame.readPlace argument

end Frame

/-- How far the reading has come: in a command, with those around it, or in a request for help on a
command, given those inside it. -/
inductive Progress
  | reading (frame : Frame) (outer : List Frame)
  | helping (inner : List Grammar)

/-- Reads one argument. The name of a command inside counts only where a new thing may begin. -/
def Progress.step (progress : Progress) (argument : String) : Except UsageError Progress :=
  match progress with
  | helping inner =>
    match inner.find? (·.name == argument) with
    | some command => .ok (helping command.inner)
    | none =>
      if argument = helpSwitch.long ∧ !inner.isEmpty then .ok (helping []) else .error .invalidSubcommand
  | reading frame outer =>
    if frame.plainOnly ∨ frame.expects ≠ .anything then do return reading (← frame.read argument) outer
    else
      match frame.grammar.inner? argument with
      | some command => .ok (reading { grammar := command } (frame :: outer))
      | none =>
        if argument = helpSwitch.long ∧ !frame.grammar.inner.isEmpty then .ok (helping frame.grammar.inner)
        else do return reading (← frame.read argument) outer

/-- A command with the values found for it. -/
structure Match where
  command : String
  values : List (String × List String)
deriving DecidableEq, Repr, Inhabited

namespace Match

def has (found : Match) (name : String) : Bool := (found.values.lookup name).isSome

def texts (found : Match) (name : String) : List String := (found.values.lookup name).getD []

def text? (found : Match) (name : String) : Option String := (found.texts name).getLast?

def text (found : Match) (name : String) : String := (found.text? name).getD ""

def pairs (found : Match) (name : String) : List (String × String) :=
  (found.texts name).filterMap fun text => (readPair text).toOption

end Match

abbrev Environment := List (String × String)

/-- A switch that is missing gets its value from the environment, if it has one there. -/
def Frame.readVariable (environment : Environment) (frame : Frame) (switch : Switch) : Except UsageError Frame :=
  match switch.action, switch.environment.bind (List.lookup · environment) with
  | .take slot, some value => if frame.has slot.name then .ok frame else frame.fill slot [value]
  | _, _ => .ok frame

/-- The default of a switch, if nothing was found for it. -/
def Frame.fallback (frame : Frame) (switch : Switch) : Option (String × List String) :=
  if frame.has switch.long then none else switch.fallback.map fun value => (switch.long, [value])

/-- Completes a command. One with commands inside wants one of them, and every place wants a value. -/
def Frame.complete (environment : Environment) (descended : Bool) (frame : Frame) : Except UsageError Match := do
  let frame ← frame.grammar.switches.foldlM (Frame.readVariable environment) (← frame.settle)
  if !descended && !frame.grammar.inner.isEmpty then
    throw (if frame.found.isEmpty then .displayHelpOnMissing else .missingSubcommand)
  if frame.grammar.places.any fun slot => !frame.has slot.name then throw .missingRequiredArgument
  return ⟨frame.grammar.name, frame.found ++ frame.grammar.switches.filterMap frame.fallback⟩

/-- Completes the commands around another, from the inside out. -/
def completeOuter (environment : Environment) (inner : List Match) : List Frame → Except UsageError (List Match)
  | [] => .ok inner
  | frame :: outer => do completeOuter environment ((← frame.complete environment true) :: inner) outer

/-- Reads the arguments of a command: the command and those inside it that they name, from the outside
in. -/
def read (grammar : Grammar) (environment : Environment) (arguments : List String) :
    Except UsageError (List Match) := do
  match ← arguments.foldlM Progress.step (.reading { grammar } []) with
  | .helping _ => throw .displayHelp
  | .reading frame outer => completeOuter environment [← frame.complete environment false] outer

end TableCatalog.CommandLine

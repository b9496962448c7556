import TableCatalog.Numeral
import TableCatalog.Text.Split

/-! What a command line may hold. A command has switches, places for plain arguments and commands
inside it; a switch or a place takes values of some form. A switch may also get its value from a
variable of the environment, and failing that from a default. -/

namespace TableCatalog.CommandLine

open Text (splitFirst splitAll)

/-- Why a command line is refused, or what it asks for instead of a run. -/
inductive UsageError
  | argumentConflict
  | displayHelp
  | displayHelpOnMissing
  | displayVersion
  | invalidSubcommand
  | invalidValue
  | missingRequiredArgument
  | missingSubcommand
  | tooManyValues
  | unknownArgument
  | valueValidation
deriving DecidableEq, Repr

/-- Reads `key=value`. The key is not empty and ends before the first equals sign. -/
def readPair (text : String) : Except String (String × String) :=
  match splitFirst '=' text.toList with
  | some (key, value) => if key.isEmpty then refused else .ok (.ofList key, .ofList value)
  | none => refused
where
  refused := .error ("invalid key=value: `" ++ text ++ "`")

/-- Reads the number of a port. -/
def readPort (text : String) : Option UInt16 :=
  match Numeral.integer? text.toList with
  | some n => if 0 ≤ n ∧ n.toNat < UInt16.size then some (UInt16.ofNat n.toNat) else none
  | none => none

/-- Reads a count that fits in a word of 64 bits. -/
def readCount (text : String) : Option UInt64 :=
  match Numeral.natural? text.toList with
  | some n => if n < UInt64.size then some (UInt64.ofNat n) else none
  | none => none

/-- The form of a value. -/
inductive ValueForm
  | text
  /-- Texts with commas between them. -/
  | texts
  /-- A path, which is not empty. -/
  | path
  | port
  | count
  | oneOf (words : List String)
  /-- A key and a value with an equals sign between them. -/
  | pair
deriving DecidableEq, Repr

namespace ValueForm

/-- The values that an argument stands for. -/
def split (form : ValueForm) (argument : String) : List String :=
  match form with
  | texts => (splitAll ',' argument.toList).map .ofList
  | _ => [argument]

def check (value : String) : ValueForm → Except UsageError Unit
  | text | texts => .ok ()
  | path => if value.isEmpty then .error .invalidValue else .ok ()
  | port => if (readPort value).isSome then .ok () else .error .valueValidation
  | count => if (readCount value).isSome then .ok () else .error .valueValidation
  | oneOf words => if words.contains value then .ok () else .error .invalidValue
  | pair => match readPair value with
    | .ok _ => .ok ()
    | .error _ => .error .valueValidation

end ValueForm

/-- Where values go: under which name, in which form, and whether more may follow later. -/
structure Slot where
  name : String
  form : ValueForm := .text
  many : Bool := false
deriving DecidableEq, Repr

/-- What a switch does when it is met. -/
inductive Action
  | help
  | version
  | mark
  | take (slot : Slot)
deriving DecidableEq, Repr

structure Switch where
  long : String
  short : Option Char := none
  action : Action
  environment : Option String := none
  fallback : Option String := none
deriving DecidableEq, Repr

/-- A command. Each of its places must be filled, in order; only the last may take many values. -/
structure Grammar where
  name : String
  switches : List Switch := []
  places : List Slot := []
  inner : List Grammar := []

namespace Grammar

def long? (grammar : Grammar) (name : String) : Option Switch := grammar.switches.find? (·.long == name)

def short? (grammar : Grammar) (letter : Char) : Option Switch :=
  grammar.switches.find? (·.short == some letter)

def inner? (grammar : Grammar) (name : String) : Option Grammar := grammar.inner.find? (·.name == name)

end Grammar

/-- The switch that every command has. -/
def helpSwitch : Switch := { long := "help", short := some 'h', action := .help }

def versionSwitch : Switch := { long := "version", short := some 'V', action := .version }

/-- A switch that is there or not. -/
def marker (long : String) (short : Option Char := none) : Switch := { long, short, action := .mark }

/-- A switch with a value. -/
def option (long : String) (form : ValueForm := .text) (short : Option Char := none)
    (environment : Option String := none) (fallback : Option String := none) : Switch :=
  { long, short, action := .take { name := long, form }, environment, fallback }

/-- A switch with a value that may be given again and again. -/
def repeated (long : String) (form : ValueForm := .text) : Switch :=
  { long, action := .take { name := long, form, many := true } }

end TableCatalog.CommandLine

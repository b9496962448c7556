import TableCatalog.Record
import TableCatalog.Wire.Varint

/-! A message is a sequence of fields, each a key and a value. The key holds the number of the field
and the form of its value, so that a reader can pass over fields it does not know. Passing over a
group means passing over the fields in it, and a budget bounds how deep that may go. Readers return
what follows the thing read; a reader of a message inside another stops where its length says. -/

namespace TableCatalog.Wire

/-- The form of a field's value. -/
inductive Form
  | varint
  | fixed64
  | delimited
  | groupStart
  | groupEnd
  | fixed32
deriving DecidableEq, Repr

namespace Form

def code : Form → Nat
  | varint => 0
  | fixed64 => 1
  | delimited => 2
  | groupStart => 3
  | groupEnd => 4
  | fixed32 => 5

def ofCode? : Nat → Option Form
  | 0 => some varint
  | 1 => some fixed64
  | 2 => some delimited
  | 3 => some groupStart
  | 4 => some groupEnd
  | 5 => some fixed32
  | _ => none

def text : Form → String
  | varint => "Varint"
  | fixed64 => "SixtyFourBit"
  | delimited => "LengthDelimited"
  | groupStart => "StartGroup"
  | groupEnd => "EndGroup"
  | fixed32 => "ThirtyTwoBit"

end Form

/-- What is wrong with the bytes of a message. -/
inductive Defect
  /-- A number that does not end, or does not fit. -/
  | number
  /-- A key that does not fit in 32 bits. -/
  | key (value : Nat)
  /-- A key whose form means nothing. -/
  | formCode (code : Nat)
  | fieldZero
  /-- A field of another form than the one it must have. -/
  | mismatch (form expected : Form)
  /-- A length beyond the bytes that are there. -/
  | underflow
  /-- A message inside another that runs on beyond its length. -/
  | overrun
  /-- The end of a group that was not entered. -/
  | groupEnd
  | tooDeep
  | notText
deriving DecidableEq, Repr

def Defect.text : Defect → String
  | number => "invalid varint"
  | key value => "invalid key value: " ++ Nat.repr value
  | formCode code => "invalid wire type value: " ++ Nat.repr code
  | fieldZero => "invalid tag value: 0"
  | mismatch form expected => "invalid wire type: " ++ form.text ++ " (expected " ++ expected.text ++ ")"
  | underflow => "buffer underflow"
  | overrun => "delimited length exceeded"
  | groupEnd => "unexpected end group tag"
  | tooDeep => "recursion limit reached"
  | notText => "invalid string value: data is not UTF-8 encoded"

/-- A defect and the fields it lies in, the innermost first. -/
structure DecodeError where
  defect : Defect
  fields : List String := []
deriving DecidableEq, Repr

def DecodeError.text (error : DecodeError) : String :=
  "failed to decode Protobuf message: "
    ++ error.fields.foldr (fun field text => field ++ ": " ++ text) error.defect.text

/-- What a reader returns: what it read and the bytes that follow, or what is wrong with them. -/
abbrev Reading (α : Type) := Except DecodeError (α × Bytes)

def defective (defect : Defect) : Except DecodeError α := .error { defect }

structure Key where
  number : Nat
  form : Form
deriving DecidableEq, Repr

def writeKey (number : Nat) (form : Form) : Bytes := Varint.writeNat (number * 8 + form.code)

/-- Reads a number. -/
def readNumber (bytes : Bytes) : Reading UInt64 :=
  match Varint.read bytes with
  | some found => .ok found
  | none => defective .number

/-- Reads a key. It fits in 32 bits, and no field has number zero. -/
def readKey (bytes : Bytes) : Except DecodeError (Key × Bytes) := do
  let (key, rest) ← readNumber bytes
  if UInt32.size ≤ key.toNat then defective (.key key.toNat)
  else
    match Form.ofCode? (key.toNat % 8) with
    | none => defective (.formCode (key.toNat % 8))
    | some form => if key.toNat / 8 = 0 then defective .fieldZero else return (⟨key.toNat / 8, form⟩, rest)

/-- Reads so many bytes. -/
def readBytes (size : Nat) (bytes : Bytes) : Reading Bytes :=
  if bytes.length < size then defective .underflow else .ok (bytes.take size, bytes.drop size)

/-- Reads a length and so many bytes. -/
def readDelimited (bytes : Bytes) : Except DecodeError (Bytes × Bytes) := do
  let (size, rest) ← readNumber bytes
  readBytes size.toNat rest

/-- How the value of a field is read into a record, given its key. -/
abbrev Merge (α : Type) := α → Key → Bytes → Reading α

/-- Reads fields one after another until so many bytes are left. -/
def readFields (merge : Merge α) (record : α) (left : Nat) (bytes : Bytes) : Reading α :=
  if bytes.length ≤ left then
    if bytes.length = left then .ok (record, bytes) else defective .overrun
  else
    match readKey bytes with
    | .error e => .error e
    | .ok (key, value) =>
      match merge record key value with
      | .error e => .error e
      | .ok (record, rest) =>
        if rest.length < bytes.length then readFields merge record left rest else defective .underflow
termination_by bytes.length

/-- Passes over the fields of a group up to the end mark with its number. -/
def skipGroup (skip : Key → Bytes → Except DecodeError Bytes) (number : Nat) (bytes : Bytes) :
    Except DecodeError Bytes :=
  match readKey bytes with
  | .error e => .error e
  | .ok (key, value) =>
    if key.form = .groupEnd then
      if key.number = number then .ok value else defective .groupEnd
    else
      match skip key value with
      | .error e => .error e
      | .ok rest => if rest.length < bytes.length then skipGroup skip number rest else defective .underflow
termination_by bytes.length

/-- Passes over the value of a field nobody asked for. Each group entered takes one from the budget. -/
def skipValue : Nat → Key → Bytes → Except DecodeError Bytes
  | 0, _, _ => defective .tooDeep
  | budget + 1, key, bytes =>
    match key.form with
    | .varint => (readNumber bytes).map (·.2)
    | .fixed64 => (readBytes 8 bytes).map (·.2)
    | .delimited => (readDelimited bytes).map (·.2)
    | .groupStart => skipGroup (skipValue budget) key.number bytes
    | .groupEnd => defective .groupEnd
    | .fixed32 => (readBytes 4 bytes).map (·.2)

/-- Passes over a field and leaves the record as it is. -/
def skipField (budget : Nat) (record : α) (key : Key) (bytes : Bytes) : Reading α :=
  (skipValue budget key bytes).map fun rest => (record, rest)

def writeDelimited (number : Nat) (body : Bytes) : Bytes :=
  writeKey number .delimited ++ Varint.writeNat body.length ++ body

/-- A text that stands in a list is written even if it is empty. -/
def writeTextItem (number : Nat) (text : String) : Bytes := writeDelimited number (Bytes.ofText text)

def writeText (number : Nat) (text : String) : Bytes :=
  if text = "" then [] else writeTextItem number text

def writeUInt64 (number : Nat) (n : UInt64) : Bytes :=
  if n = 0 then [] else writeKey number .varint ++ Varint.write n

/-- A negative number is written as the 64-bit word with the same low bits and sign. -/
def writeInt32 (number : Nat) (n : Int32) : Bytes := writeUInt64 number n.toInt64.toUInt64

def writeBool (number : Nat) (b : Bool) : Bytes := writeUInt64 number (if b then 1 else 0)

/-- Each entry is a message of its own, with the key as field 1 and the value as field 2. -/
def writeParams (number : Nat) (params : Params) : Bytes :=
  params.toList.flatMap fun entry => writeDelimited number (writeText 1 entry.1 ++ writeText 2 entry.2)

/-- Reads a value of the form it must have. -/
def expect (form : Form) (key : Key) (read : Bytes → Reading β) (bytes : Bytes) : Reading β :=
  if key.form = form then read bytes else defective (.mismatch key.form form)

def readText (key : Key) (bytes : Bytes) : Reading String :=
  expect .delimited key readBody bytes
where
  readBody (bytes : Bytes) : Except DecodeError (String × Bytes) := do
    let (body, rest) ← readDelimited bytes
    match Bytes.text? body with
    | some text => return (text, rest)
    | none => defective .notText

def readUInt64 (key : Key) (bytes : Bytes) : Reading UInt64 := expect .varint key readNumber bytes

/-- The low 32 bits of the word read. -/
def readInt32 (key : Key) (bytes : Bytes) : Reading Int32 :=
  (readUInt64 key bytes).map fun (n, rest) => (n.toInt64.toInt32, rest)

def readBool (key : Key) (bytes : Bytes) : Reading Bool :=
  (readUInt64 key bytes).map fun (n, rest) => (n != 0, rest)

/-- Reads a length and the fields of a message so long, into what is already there of it. -/
def readMessage (merge : Merge α) (record : α) (bytes : Bytes) : Except DecodeError (α × Bytes) := do
  let (size, rest) ← readNumber bytes
  if rest.length < size.toNat then defective .underflow
  else readFields merge record (rest.length - size.toNat) rest

/-- The fields of a map entry. -/
def mergeEntry (budget : Nat) : Merge (String × String) := fun entry key bytes =>
  match key.number with
  | 1 => (readText key bytes).map fun (name, rest) => ((name, entry.2), rest)
  | 2 => (readText key bytes).map fun (value, rest) => ((entry.1, value), rest)
  | _ => skipField budget entry key bytes

/-- Reads a map entry and puts it into the map. An entry is read as a message whatever form its key
announces. -/
def readParam (budget : Nat) (params : Params) (bytes : Bytes) : Except DecodeError (Params × Bytes) := do
  let ((name, value), rest) ← readMessage (mergeEntry budget) ("", "") bytes
  return (params.insert name value, rest)

end TableCatalog.Wire

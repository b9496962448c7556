import TableCatalog.Toml.Number
import TableCatalog.Toml.Text
import TableCatalog.Toml.Value

/-! Reading a TOML document: lines that hold a key with its value or a header, with comments and blank
lines between them. Keys belong to the table of the last header before them. -/

namespace TableCatalog.Toml

/-- How many values may be nested, and parts a key may have. -/
def depthLimit : Nat := 80

def skipBlanks (input : List Char) : List Char := input.dropWhile isBlank

/-- Passes over a comment if there is one, up to the end of its line. -/
def skipComment : List Char → List Char
  | '#' :: rest => rest.dropWhile isPlain
  | input => input

/-- What may follow on a line: blanks, a comment and the end of the line or of the document. -/
def readLineRest (input : List Char) : Option (List Char) :=
  match skipComment (skipBlanks input) with
  | [] => some []
  | rest => readLineEnd rest

/-- Passes over blanks, line ends and comments. A comment ends with its line. -/
def skipLines (comment : Bool) : List Char → Option (List Char)
  | [] => if comment then none else some []
  | c :: rest =>
    if c = '\n' then skipLines false rest
    else if c = '\r' then
      match rest with
      | '\n' :: rest => skipLines false rest
      | _ => none
    else if comment then if isPlain c then skipLines true rest else none
    else if isBlank c then skipLines false rest
    else if c = '#' then skipLines true rest
    else some (c :: rest)

def isKeyChar (c : Char) : Bool := c.isAlphanum || c == '-' || c == '_'

/-- Reads one part of a key: a text on one line, or letters, digits, dashes and underscores. -/
def readKeyPart (input : List Char) : Option (String × List Char) :=
  match input with
  | [] => none
  | c :: _ =>
    if isQuote c then (readLineText input).map fun (text, rest) => (String.ofList text, rest)
    else
      let name := input.takeWhile isKeyChar
      if name.isEmpty then none else some (String.ofList name, input.dropWhile isKeyChar)

/-- Reads parts of a key with dots between them. -/
def readKeyParts (input : List Char) : Option (List String × List Char) :=
  match readKeyPart (skipBlanks input) with
  | none => none
  | some (part, rest) =>
    match skipBlanks rest with
    | '.' :: rest =>
      if rest.length < input.length then (readKeyParts rest).map fun (parts, rest) => (part :: parts, rest)
      else none
    | rest => some ([part], rest)
termination_by input.length

/-- Reads a key. -/
def readKey (input : List Char) : Option (List String × List Char) :=
  match readKeyParts input with
  | some (parts, rest) => if parts.length < depthLimit then some (parts, rest) else none
  | none => none

/-- Reads a key, the equals sign and a value. -/
def readPair (read : List Char → Option (Value × List Char)) (input : List Char) :
    Option (List String × Value × List Char) := do
  let (path, rest) ← readKey input
  let (value, rest) ← read (skipBlanks (← readChar '=' rest))
  return (path, value, rest)

/-- Reads the items of an array and its closing bracket. A comma may follow the last. -/
def readItems (read : List Char → Option (Value × List Char)) (input : List Char) :
    Option (List Value × List Char) :=
  match skipLines false input with
  | none => none
  | some (']' :: rest) => some ([], rest)
  | some rest =>
    match read rest with
    | none => none
    | some (item, rest) =>
      match skipLines false rest with
      | some (',' :: rest) =>
        if rest.length < input.length then (readItems read rest).map fun (items, rest) => (item :: items, rest)
        else none
      | some (']' :: rest) => some ([item], rest)
      | _ => none
termination_by input.length

/-- Reads the pairs of a table in braces, of which there is at least one, and the closing brace. -/
def readPairs (read : List Char → Option (Value × List Char)) (entries : Entries) (input : List Char) :
    Option (Entries × List Char) :=
  match readPair read input with
  | none => none
  | some (path, value, rest) =>
    match addPath path value .header entries with
    | none => none
    | some (_, entries) =>
      match skipBlanks rest with
      | ',' :: rest => if rest.length < input.length then readPairs read entries rest else none
      | '\x7d' :: rest => some (entries, rest)
      | _ => none
termination_by input.length

def ofNumber : Number → Value
  | .integer n => .integer n
  | .float => .float

/-- Reads a value that has no values inside. -/
def readScalar (input : List Char) : Option (Value × List Char) :=
  match input with
  | 't' :: 'r' :: 'u' :: 'e' :: rest => some (.boolean true, rest)
  | 'f' :: 'a' :: 'l' :: 's' :: 'e' :: rest => some (.boolean false, rest)
  | c :: _ =>
    if isQuote c then (readText input).map fun (text, rest) => (.text (String.ofList text), rest)
    else
      match readMoment input with
      | some rest => some (.moment, rest)
      | none => (readNumber input).map fun (number, rest) => (ofNumber number, rest)
  | [] => none

/-- Reads a value, inside which others may be nested so deep. -/
def readValue : Nat → List Char → Option (Value × List Char)
  | depth + 1, '[' :: rest => (readItems (readValue depth) rest).map fun (items, rest) => (.array items, rest)
  | depth + 1, '\x7b' :: rest =>
    match skipBlanks rest with
    | '\x7d' :: rest => some (.table .braces [], rest)
    | rest => (readPairs (readValue depth) [] rest).map fun (entries, rest) => (.table .braces entries, rest)
  | _, input => readScalar input

/-- How far a document has been read: what it holds, and the path of the last header. -/
structure Progress where
  entries : Entries := []
  header : List String := []

/-- Changes the table of the last header. -/
def Progress.change (progress : Progress) (header : List String) (change : Change) : Option Entries :=
  (changeAt false change header .header progress.entries).map (·.2)

/-- Defines a table or a row under a header. -/
def Progress.enter (progress : Progress) (path : List String) (define : String → Change) : Option Progress :=
  match path.getLast? with
  | none => none
  | some key => (progress.change path.dropLast (define key)).map fun entries => { entries, header := path }

/-- Reads one line that is not blank. -/
def readLine (progress : Progress) (input : List Char) : Option (Progress × List Char) :=
  match input with
  | '[' :: '[' :: rest => do
    let (path, rest) ← readKey rest
    let rest ← readLineRest (← readChar ']' (← readChar ']' rest))
    return (← progress.enter path openRow, rest)
  | '[' :: rest => do
    let (path, rest) ← readKey rest
    let rest ← readLineRest (← readChar ']' rest)
    return (← progress.enter path openTable, rest)
  | _ => do
    let (path, value, rest) ← readPair (readValue (depthLimit - 1)) input
    let rest ← readLineRest rest
    return ({ progress with entries := ← progress.change progress.header (addPath path value) }, rest)

/-- Reads lines to the end of the document. -/
def readLines (progress : Progress) (input : List Char) : Option Entries :=
  match skipBlanks input with
  | [] => some progress.entries
  | c :: rest =>
    if c = '\n' ∨ c = '\r' ∨ c = '#' then
      match readLineRest (c :: rest) with
      | none => none
      | some rest => if rest.length < input.length then readLines progress rest else none
    else
      match readLine progress (c :: rest) with
      | none => none
      | some (progress, rest) => if rest.length < input.length then readLines progress rest else none
termination_by input.length

/-- Reads a document: the keys of its outermost table. A mark of the byte order in front does not
count. -/
def parse? (text : String) : Option Entries :=
  match text.toList with
  | '\uFEFF' :: rest => readLines {} rest
  | input => readLines {} input

end TableCatalog.Toml

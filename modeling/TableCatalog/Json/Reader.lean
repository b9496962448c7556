import TableCatalog.Json.Value

/-! Reading JSON. The whole text must be one value; blanks may stand between its tokens, and a text
may spell its characters with escapes. -/

namespace TableCatalog.Json

def isBlank (c : Char) : Bool := c == ' ' || c == '\n' || c == '\t' || c == '\r'

def skipBlanks (input : List Char) : List Char := input.dropWhile isBlank

/-- What a text is spelled with: characters, and sixteen-bit units given by their number. -/
inductive Piece
  | char (c : Char)
  | unit (n : Nat)

/-- The characters that pieces spell. Two units outside the characters make one character if they are
a leading and a trailing half; otherwise they make none. -/
def charsOf : List Piece → Option (List Char)
  | [] => some []
  | .char c :: rest => (charsOf rest).map (c :: ·)
  | .unit n :: rest =>
    if n < 0xD800 ∨ 0xDFFF < n then (charsOf rest).map (Char.ofNat n :: ·)
    else
      match rest with
      | .unit m :: rest =>
        if n < 0xDC00 ∧ 0xDC00 ≤ m ∧ m ≤ 0xDFFF then
          (charsOf rest).map (Char.ofNat (0x10000 + (n - 0xD800) * 0x400 + (m - 0xDC00)) :: ·)
        else none
      | _ => none

/-- The character that a one-letter escape names. -/
def escaped? : Char → Option Char
  | '"' => some '"'
  | '\\' => some '\\'
  | '/' => some '/'
  | 'b' => some '\x08'
  | 'f' => some '\x0c'
  | 'n' => some '\n'
  | 'r' => some '\r'
  | 't' => some '\t'
  | _ => none

/-- Reads the pieces of a text up to its closing quote. -/
def readPieces : List Char → Option (List Piece × List Char)
  | [] => none
  | '"' :: rest => some ([], rest)
  | '\\' :: 'u' :: a :: b :: c :: d :: rest =>
    match Numeral.value? 16 [a, b, c, d] with
    | none => none
    | some n => (readPieces rest).map fun (pieces, rest) => (.unit n :: pieces, rest)
  | '\\' :: e :: rest =>
    match escaped? e with
    | none => none
    | some c => (readPieces rest).map fun (pieces, rest) => (.char c :: pieces, rest)
  | c :: rest =>
    if c.toNat < 0x20 ∨ c = '\\' then none
    else (readPieces rest).map fun (pieces, rest) => (.char c :: pieces, rest)

/-- Reads a text after its opening quote. -/
def readText (input : List Char) : Option (Option String × List Char) :=
  (readPieces input).map fun (pieces, rest) => ((charsOf pieces).map String.ofList, rest)

/-- One or more digits. -/
def readDigits (input : List Char) : Option (List Char × List Char) :=
  let digits := input.takeWhile (Numeral.isDigit 10)
  if digits.isEmpty then none else some (digits, input.dropWhile (Numeral.isDigit 10))

/-- The digits in front of a fraction or exponent: a lone zero, or digits that do not start with one. -/
def readWhole : List Char → Option (List Char × List Char)
  | '0' :: rest => some (['0'], rest)
  | input => readDigits input

/-- Passes over a fraction, if there is one. -/
def skipFraction : List Char → Option (Bool × List Char)
  | '.' :: rest => (readDigits rest).map fun (_, rest) => (true, rest)
  | input => some (false, input)

/-- Passes over an exponent, if there is one. -/
def skipExponent : List Char → Option (Bool × List Char)
  | c :: rest =>
    if c = 'e' ∨ c = 'E' then
      let digits := match rest with
        | s :: more => if s = '+' ∨ s = '-' then more else rest
        | [] => []
      (readDigits digits).map fun (_, rest) => (true, rest)
    else some (false, c :: rest)
  | [] => some (false, [])

/-- Reads a numeral. One with a fraction or an exponent, and a zero with a sign, is no whole number. -/
def readNumber (input : List Char) : Option (Json × List Char) := do
  let negative := input.head? == some '-'
  let (digits, rest) ← readWhole (if negative then input.tail else input)
  let (fraction, rest) ← skipFraction rest
  let (exponent, rest) ← skipExponent rest
  let n := Numeral.value 10 digits
  if fraction || exponent || (negative && n == 0) then return (.number none, rest)
  return (.number (some (if negative then -(n : Int) else n)), rest)

mutual

def readValue : Nat → List Char → Option (Json × List Char)
  | 0, _ => none
  | fuel + 1, input =>
    match skipBlanks input with
    | 'n' :: 'u' :: 'l' :: 'l' :: rest => some (.null, rest)
    | 't' :: 'r' :: 'u' :: 'e' :: rest => some (.bool true, rest)
    | 'f' :: 'a' :: 'l' :: 's' :: 'e' :: rest => some (.bool false, rest)
    | '"' :: rest => (readText rest).map fun (s, rest) => (.text s, rest)
    | '[' :: rest =>
      match skipBlanks rest with
      | ']' :: rest => some (.list [], rest)
      | rest => (readItems fuel rest).map fun (items, rest) => (.list items, rest)
    | '\x7b' :: rest =>
      match skipBlanks rest with
      | '\x7d' :: rest => some (.object [], rest)
      | rest => (readMembers fuel rest).map fun (members, rest) => (.object members, rest)
    | rest => readNumber rest

/-- Reads the items of a list that has some, and its closing bracket. -/
def readItems : Nat → List Char → Option (List Json × List Char)
  | 0, _ => none
  | fuel + 1, input =>
    match readValue fuel input with
    | none => none
    | some (item, rest) =>
      match skipBlanks rest with
      | ']' :: rest => some ([item], rest)
      | ',' :: rest => (readItems fuel rest).map fun (items, rest) => (item :: items, rest)
      | _ => none

/-- Reads the members of an object that has some, and its closing brace. -/
def readMembers : Nat → List Char → Option (List (Option String × Json) × List Char)
  | 0, _ => none
  | fuel + 1, input =>
    match skipBlanks input with
    | '"' :: rest =>
      match readText rest with
      | none => none
      | some (name, rest) =>
        match skipBlanks rest with
        | ':' :: rest =>
          match readValue fuel rest with
          | none => none
          | some (value, rest) =>
            match skipBlanks rest with
            | '\x7d' :: rest => some ([(name, value)], rest)
            | ',' :: rest => (readMembers fuel rest).map fun (members, rest) => ((name, value) :: members, rest)
            | _ => none
        | _ => none
    | _ => none

end

/-- Reads a text that is one JSON value. Every value takes a character, and a list or object one more,
so twice the length of the text is fuel enough. -/
def parse? (text : String) : Option Json :=
  let input := text.toList
  match readValue (2 * input.length + 2) input with
  | some (value, rest) => if (skipBlanks rest).isEmpty then some value else none
  | none => none

end TableCatalog.Json

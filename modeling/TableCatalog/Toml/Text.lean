import TableCatalog.Numeral

/-! Texts in a TOML document. There are four forms: between single or double quotes, on one line or,
with three quotes on either side, on several. Backslashes escape only between double quotes. A writer
picks the form in which the least has to be escaped. -/

namespace TableCatalog.Toml

/-- A character that may stand for itself on a line. -/
def isPlain (c : Char) : Bool := c == '\t' || (0x20 ≤ c.toNat && c.toNat != 0x7F)

def isBlank (c : Char) : Bool := c == ' ' || c == '\t'

/-- Takes a line end off the front. -/
def readLineEnd : List Char → Option (List Char)
  | '\n' :: rest => some rest
  | '\r' :: '\n' :: rest => some rest
  | _ => none

/-- The character that a one-letter escape names. -/
def escaped? (c : Char) : Option Char :=
  if c = 'b' then some '\x08'
  else if c = 't' then some '\t'
  else if c = 'n' then some '\n'
  else if c = 'f' then some '\x0c'
  else if c = 'r' then some '\r'
  else if c = '"' then some '"'
  else if c = '\\' then some '\\'
  else none

/-- The character with a number given in hexadecimal digits. -/
def numbered? (digits : List Char) : Option Char :=
  match Numeral.value? 16 digits with
  | some n => if n.isValidChar then some (Char.ofNat n) else none
  | none => none

/-- Puts a character in front of what is read after it. -/
def prepend (c : Option Char) (read : Option (List Char × List Char)) : Option (List Char × List Char) :=
  match c, read with
  | some c, some (text, rest) => some (c :: text, rest)
  | _, _ => none

/-- Reads a text on one line after its opening quote. -/
def readShort (quote : Char) : List Char → Option (List Char × List Char)
  | [] => none
  | c :: rest =>
    if c = quote then some ([], rest)
    else if c == '\\' && quote == '"' then
      match rest with
      | 'u' :: d1 :: d2 :: d3 :: d4 :: rest => prepend (numbered? [d1, d2, d3, d4]) (readShort quote rest)
      | 'U' :: d1 :: d2 :: d3 :: d4 :: d5 :: d6 :: d7 :: d8 :: rest =>
        prepend (numbered? [d1, d2, d3, d4, d5, d6, d7, d8]) (readShort quote rest)
      | e :: rest => prepend (escaped? e) (readShort quote rest)
      | [] => none
    else if isPlain c then prepend (some c) (readShort quote rest)
    else none

/-- What stands before the last three of a row of quotes, of which three have been read. -/
def readLastQuotes (quote : Char) : List Char → List Char × List Char
  | c :: d :: rest =>
    if c = quote then if d = quote then ([quote, quote], rest) else ([quote], d :: rest) else ([], c :: d :: rest)
  | [c] => if c = quote then ([quote], []) else ([], [c])
  | [] => ([], [])

/-- A backslash here goes before the end of a line. -/
def opensLine (input : List Char) : Bool := (readLineEnd (input.dropWhile isBlank)).isSome

/-- Reads a text on several lines after its opening quotes. Behind a backslash at the end of a line,
blanks and line ends are dropped. -/
def readLong (quote : Char) (dropping : Bool) : List Char → Option (List Char × List Char)
  | [] => none
  | c :: rest =>
    if dropping && isBlank c then readLong quote true rest
    else if c = '\n' then
      if dropping then readLong quote true rest else prepend (some '\n') (readLong quote false rest)
    else if c = '\r' then
      match rest with
      | '\n' :: rest => if dropping then readLong quote true rest else prepend (some '\n') (readLong quote false rest)
      | _ => none
    else if c = quote then
      match rest with
      | d :: e :: more =>
        if d = quote ∧ e = quote then some (readLastQuotes quote more)
        else prepend (some c) (readLong quote false rest)
      | _ => prepend (some c) (readLong quote false rest)
    else if c == '\\' && quote == '"' then
      if opensLine rest then readLong quote true rest
      else
        match rest with
        | 'u' :: d1 :: d2 :: d3 :: d4 :: rest => prepend (numbered? [d1, d2, d3, d4]) (readLong quote false rest)
        | 'U' :: d1 :: d2 :: d3 :: d4 :: d5 :: d6 :: d7 :: d8 :: rest =>
          prepend (numbered? [d1, d2, d3, d4, d5, d6, d7, d8]) (readLong quote false rest)
        | e :: rest => prepend (escaped? e) (readLong quote false rest)
        | [] => none
    else if isPlain c then prepend (some c) (readLong quote false rest)
    else none

def isQuote (c : Char) : Bool := c == '"' || c == '\''

/-- Reads a text on one line, with its quotes. -/
def readLineText : List Char → Option (List Char × List Char)
  | quote :: rest => if isQuote quote then readShort quote rest else none
  | [] => none

/-- Reads a text, with its quotes. A line end right after three opening quotes does not count. -/
def readText : List Char → Option (List Char × List Char)
  | q1 :: q2 :: q3 :: rest =>
    if isQuote q1 ∧ q2 = q1 ∧ q3 = q1 then readLong q1 false ((readLineEnd rest).getD rest)
    else readLineText (q1 :: q2 :: q3 :: rest)
  | input => readLineText input

/-- The forms of a text. -/
inductive Form
  | basic
  | literal
  | longBasic
  | longLiteral
deriving DecidableEq, Repr

/-- The length of the longest row of a character, given the row so far. -/
def longestRow (c : Char) (row : Nat) : List Char → Nat
  | [] => row
  | d :: rest => if d = c then longestRow c (row + 1) rest else max row (longestRow c 0 rest)

/-- A character that must be escaped: any control character but the end of a line. -/
def isControl (c : Char) : Bool := (c.toNat < 0x20 && c != '\n') || c.toNat == 0x7F

/-- The form to write a text in. -/
def formOf (text : List Char) : Form :=
  let control := text.any isControl
  let backslash := text.contains '\\'
  let newline := text.contains '\n'
  let single := longestRow '\'' 0 text
  let double := longestRow '"' 0 text
  if !control && !backslash && !newline && double == 0 then .basic
  else if !control && !newline && single == 0 then .literal
  else if !control && !backslash && double ≤ 2 then .longBasic
  else if !control && single ≤ 2 then .longLiteral
  else if newline then .longBasic
  else .basic

/-- A character other than a double quote, as it stands between double quotes. -/
def escapeChar (long : Bool) (c : Char) : List Char :=
  if c = '\n' then if long then ['\n'] else ['\\', 'n']
  else if c = '\x08' then ['\\', 'b']
  else if c = '\t' then ['\\', 't']
  else if c = '\x0c' then ['\\', 'f']
  else if c = '\r' then ['\\', 'r']
  else if c = '\\' then ['\\', '\\']
  else if isControl c then '\\' :: 'u' :: (Numeral.hex4 c.toNat).map Char.toUpper
  else [c]

/-- A text between double quotes. On several lines, up to two quotes in a row may stand there as they are;
`row` says how many have just been written. -/
def escape (long : Bool) (row : Nat) : List Char → List Char
  | [] => []
  | c :: rest =>
    if c = '"' then
      if row < (if long then 2 else 0) then '"' :: escape long (row + 1) rest
      else '\\' :: '"' :: escape long 0 rest
    else escapeChar long c ++ escape long 0 rest

/-- A text on several lines starts on a line of its own if it has a line end. -/
def opening (quote : Char) (text : List Char) : List Char :=
  [quote, quote, quote] ++ if text.contains '\n' then ['\n'] else []

def writeText (text : List Char) : List Char :=
  match formOf text with
  | .basic => '"' :: (escape false 0 text ++ ['"'])
  | .literal => '\'' :: (text ++ ['\''])
  | .longBasic => opening '"' text ++ escape true 0 text ++ ['"', '"', '"']
  | .longLiteral => opening '\'' text ++ text ++ ['\'', '\'', '\'']

end TableCatalog.Toml

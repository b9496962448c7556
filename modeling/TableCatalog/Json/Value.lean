import TableCatalog.Numeral

/-! JSON values and their printed form: two blanks per level, one item or member to a line. -/

namespace TableCatalog

/-- A JSON value. A numeral that is no whole number, and a text whose escapes name no characters, are
kept as `none`: they may stand where nobody reads them. Members keep their order and may repeat. -/
inductive Json
  | null
  | bool (b : Bool)
  | number (n : Option Int)
  | text (s : Option String)
  | list (items : List Json)
  | object (members : List (Option String × Json))

namespace Json

def ofText (s : String) : Json := .text (some s)

def ofInt (n : Int) : Json := .number (some n)

def ofMembers (members : List (String × Json)) : Json :=
  .object (members.map fun (name, value) => (some name, value))

/-- A character of a text as it is written. Quotes, backslashes and control characters are escaped. -/
def escapeChar (c : Char) : List Char :=
  match c with
  | '"' => ['\\', '"']
  | '\\' => ['\\', '\\']
  | '\x08' => ['\\', 'b']
  | '\x0c' => ['\\', 'f']
  | '\n' => ['\\', 'n']
  | '\r' => ['\\', 'r']
  | '\t' => ['\\', 't']
  | c => if c.toNat < 0x20 then '\\' :: 'u' :: Numeral.hex4 c.toNat else [c]

def writeText (s : String) : List Char := '"' :: (s.toList.flatMap escapeChar ++ ['"'])

/-- A new line at a level. -/
def lineBreak (level : Nat) : List Char := '\n' :: List.replicate (2 * level) ' '

mutual

def write (level : Nat) : Json → List Char
  | null => ['n', 'u', 'l', 'l']
  | bool true => ['t', 'r', 'u', 'e']
  | bool false => ['f', 'a', 'l', 's', 'e']
  | number n => (n.map Numeral.signed).getD ['0']
  | text s => writeText (s.getD "")
  | list [] => ['[', ']']
  | list (item :: rest) =>
    '[' :: (lineBreak (level + 1) ++ write (level + 1) item ++ writeItems (level + 1) rest
      ++ lineBreak level ++ [']'])
  | object [] => ['\x7b', '\x7d']
  | object (member :: rest) =>
    '\x7b' :: (lineBreak (level + 1) ++ writeMember (level + 1) member ++ writeMembers (level + 1) rest
      ++ lineBreak level ++ ['\x7d'])

def writeItems (level : Nat) : List Json → List Char
  | [] => []
  | item :: rest => ',' :: (lineBreak level ++ write level item ++ writeItems level rest)

def writeMember (level : Nat) : Option String × Json → List Char
  | (name, value) => writeText (name.getD "") ++ [':', ' '] ++ write level value

def writeMembers (level : Nat) : List (Option String × Json) → List Char
  | [] => []
  | member :: rest => ',' :: (lineBreak level ++ writeMember level member ++ writeMembers level rest)

end

/-- The printed form of a value. -/
def print (value : Json) : String := String.ofList (value.write 0)

end Json
end TableCatalog

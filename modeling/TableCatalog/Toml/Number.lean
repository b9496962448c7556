import TableCatalog.Numeral

/-! Numbers and moments in a TOML document. Whole numbers fit in 64 bits with a sign; digits may have
underscores between them; a fraction or an exponent makes a number a float. Moments are dates, times and
both together, and only valid ones can be read. -/

namespace TableCatalog.Toml

/-- A number as far as it is looked at: the value of a float does not matter. -/
inductive Number
  | integer (n : Int)
  | float
deriving DecidableEq, Repr

/-- Reads one or more digits of a base, with single underscores between them. -/
def readDigits (base : Nat) : List Char → Option (List Char × List Char)
  | [] => none
  | c :: rest =>
    if Numeral.isDigit base c then
      match rest with
      | '_' :: more => (readDigits base more).map fun (digits, rest) => (c :: digits, rest)
      | d :: more =>
        if Numeral.isDigit base d then (readDigits base (d :: more)).map fun (digits, rest) => (c :: digits, rest)
        else some ([c], d :: more)
      | [] => some ([c], [])
    else none

/-- The digits in front of a fraction: a lone zero, or digits that do not start with one. -/
def readWhole : List Char → Option (List Char × List Char)
  | '0' :: rest => some (['0'], rest)
  | input => readDigits 10 input

/-- Takes a sign off the front. -/
def readSign : List Char → Bool × List Char
  | '-' :: rest => (true, rest)
  | '+' :: rest => (false, rest)
  | input => (false, input)

/-- Reads an exponent behind its letter. -/
def readExponent (input : List Char) : Option (Int × List Char) :=
  let (negative, input) := readSign input
  (readDigits 10 input).map fun (digits, rest) =>
    let n : Int := Numeral.value 10 digits
    (if negative then -n else n, rest)

/-- The digits of a fraction and the exponent, if there is either. -/
def readTail : List Char → Option (Option (List Char × Int) × List Char)
  | '.' :: rest =>
    match readDigits 10 rest with
    | none => none
    | some (fraction, c :: rest) =>
      if c = 'e' ∨ c = 'E' then (readExponent rest).map fun (exponent, rest) => (some (fraction, exponent), rest)
      else some (some (fraction, 0), c :: rest)
    | some (fraction, []) => some (some (fraction, 0), [])
  | c :: rest =>
    if c = 'e' ∨ c = 'E' then (readExponent rest).map fun (exponent, rest) => (some ([], exponent), rest)
    else some (none, c :: rest)
  | [] => some (none, [])

/-- Half a step above the greatest float of 64 bits. From here on numbers are rounded to infinity. -/
def floatBound : Nat := 0x3FFFFFFFFFFFFF <<< 970

/-- The number `digits · 10 ^ exponent` is too great for a float. -/
def overflows (digits : List Char) (exponent : Int) : Bool :=
  let n := Numeral.value 10 digits
  if n = 0 then false
  else if 400 < exponent then true
  else if 0 ≤ exponent then floatBound ≤ n * Nat.pow 10 exponent.toNat
  else if digits.length ≤ exponent.natAbs then false
  else floatBound * Nat.pow 10 exponent.natAbs ≤ n

def readSpecial : List Char → Option (List Char)
  | 'i' :: 'n' :: 'f' :: rest => some rest
  | 'n' :: 'a' :: 'n' :: rest => some rest
  | _ => none

/-- A whole number of 64 bits with a sign. -/
def integer? (n : Int) : Option Number :=
  if Int64.minValue.toInt ≤ n ∧ n ≤ Int64.maxValue.toInt then some (.integer n) else none

/-- Reads a whole number behind the letter of its base. -/
def readBased (base : Nat) (input : List Char) : Option (Number × List Char) := do
  let (digits, rest) ← readDigits base input
  return (← integer? (Numeral.value base digits), rest)

def readDecimal (input : List Char) : Option (Number × List Char) :=
  let (negative, input) := readSign input
  match readSpecial input with
  | some rest => some (.float, rest)
  | none =>
    match readWhole input with
    | none => none
    | some (whole, rest) =>
      match readTail rest with
      | none => none
      | some (none, rest) =>
        let n : Int := Numeral.value 10 whole
        (integer? (if negative then -n else n)).map (·, rest)
      | some (some (fraction, exponent), rest) =>
        if !negative && overflows (whole ++ fraction) (exponent - fraction.length) then none else some (.float, rest)

def readNumber : List Char → Option (Number × List Char)
  | '0' :: 'x' :: rest => readBased 16 rest
  | '0' :: 'o' :: rest => readBased 8 rest
  | '0' :: 'b' :: rest => readBased 2 rest
  | input => readDecimal input

/-- Reads so many digits as a number within bounds. -/
def readFixed (count low high : Nat) (input : List Char) : Option (Nat × List Char) :=
  let digits := input.take count
  match Numeral.value? 10 digits with
  | some n => if digits.length = count ∧ low ≤ n ∧ n ≤ high then some (n, input.drop count) else none
  | none => none

/-- Takes a character off the front. -/
def readChar (c : Char) : List Char → Option (List Char)
  | d :: rest => if d = c then some rest else none
  | [] => none

def daysIn (year month : Nat) : Nat :=
  if month = 2 then if year % 4 = 0 ∧ (year % 100 ≠ 0 ∨ year % 400 = 0) then 29 else 28
  else if [4, 6, 9, 11].contains month then 30
  else 31

def readDate (input : List Char) : Option (List Char) := do
  let (year, rest) ← readFixed 4 0 9999 input
  let (month, rest) ← readFixed 2 1 12 (← readChar '-' rest)
  let (_, rest) ← readFixed 2 1 (daysIn year month) (← readChar '-' rest)
  return rest

/-- Passes over the fraction of a second, if there is one. -/
def skipFraction : List Char → List Char
  | '.' :: rest => if (rest.head?.any (Numeral.isDigit 10)) then rest.dropWhile (Numeral.isDigit 10) else '.' :: rest
  | input => input

def readHour (input : List Char) : Option (List Char) := do
  let (_, rest) ← readFixed 2 0 23 input
  let (_, rest) ← readFixed 2 0 59 (← readChar ':' rest)
  return rest

def readTime (input : List Char) : Option (List Char) := do
  let (_, rest) ← readFixed 2 0 60 (← readChar ':' (← readHour input))
  return skipFraction rest

/-- Passes over the distance from universal time, if it is given. -/
def readOffset : List Char → Option (List Char)
  | c :: rest =>
    if c = 'Z' ∨ c = 'z' then some rest
    else if c = '+' ∨ c = '-' then readHour rest
    else some (c :: rest)
  | [] => some []

/-- Reads a moment and returns what follows it. -/
def readMoment (input : List Char) : Option (List Char) :=
  match readDate input with
  | none => readTime input
  | some (c :: rest) =>
    if c = 'T' ∨ c = 't' ∨ c = ' ' then
      match readTime rest with
      | some rest => readOffset rest
      | none => some (c :: rest)
    else some (c :: rest)
  | some [] => some []

end TableCatalog.Toml

/-! Whole numbers in positional notation, for every format that spells them: digits run from `0` to
`9` and on from `a` or `A`, the most significant first. -/

namespace TableCatalog.Numeral

def digitChar (digit : Nat) : Char := Char.ofNat (if digit < 10 then 48 + digit else 87 + digit)

def digitValue (c : Char) : Option Nat :=
  if '0' ≤ c ∧ c ≤ '9' then some (c.toNat - 48)
  else if 'a' ≤ c ∧ c ≤ 'z' then some (c.toNat - 87)
  else if 'A' ≤ c ∧ c ≤ 'Z' then some (c.toNat - 55)
  else none

/-- The character is a digit in this base. -/
def isDigit (base : Nat) (c : Char) : Bool := (digitValue c).any (· < base)

/-- The number that digits of a base stand for. -/
def value (base : Nat) (digits : List Char) : Nat :=
  digits.foldl (fun n c => n * base + (digitValue c).getD 0) 0

/-- The number that a text of one or more digits stands for. -/
def value? (base : Nat) (digits : List Char) : Option Nat :=
  if digits.isEmpty || !digits.all (isDigit base) then none else some (value base digits)

/-- The number that a text of decimal digits with or without a sign stands for. -/
def integer? : List Char → Option Int
  | '-' :: digits => (value? 10 digits).map fun n => -(n : Int)
  | '+' :: digits => (value? 10 digits).map fun n => (n : Int)
  | digits => (value? 10 digits).map fun n => (n : Int)

/-- The number that a text of decimal digits with or without a plus stands for. -/
def natural? : List Char → Option Nat
  | '+' :: digits => value? 10 digits
  | digits => value? 10 digits

/-- The digits of a number in a base from two on, without a leading zero. -/
def digits (base n : Nat) : List Char :=
  if _small : base < 2 ∨ n < base then [digitChar n] else digits base (n / base) ++ [digitChar (n % base)]
termination_by n
decreasing_by exact Nat.div_lt_self (by omega) (by omega)

def decimal (n : Nat) : List Char := digits 10 n

/-- A number of sixteen bits in four hexadecimal digits. -/
def hex4 (n : Nat) : List Char :=
  [digitChar (n / 4096 % 16), digitChar (n / 256 % 16), digitChar (n / 16 % 16), digitChar (n % 16)]

def decimalText (n : Nat) : String := String.ofList (decimal n)

theorem digits_ten (n : Nat) : digits 10 n = Nat.toDigits 10 n := by
  have digit : ∀ d < 10, digitChar d = Nat.digitChar d := by decide
  induction n using Nat.strongRecOn with
  | ind n ih =>
    rw [digits, Nat.toDigits_eq_if (by decide)]
    by_cases small : n < 10
    · rw [dif_pos (.inr small), if_pos small, digit n small]
    · have large : ¬ (10 < 2 ∨ n < 10) := by omega
      rw [dif_neg large, if_neg small, ih (n / 10) (by omega), digit (n % 10) (by omega)]

/-- The text of a number is the usual one. -/
theorem decimalText_eq (n : Nat) : decimalText n = toString n := by
  rw [Nat.toString_eq_ofList_toDigits, decimalText, decimal, digits_ten]

/-- A number with its sign if it is negative. -/
def signed (n : Int) : List Char := if n < 0 then '-' :: decimal n.natAbs else decimal n.natAbs

end TableCatalog.Numeral

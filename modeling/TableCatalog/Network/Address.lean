import TableCatalog.Numeral

/-! Addresses of hosts on a network, and of sockets on them: the texts they go by and what texts are
read as one. Every address has one text, which is read back; some have others too. -/

namespace TableCatalog.Network

/-- An address of 32 bits, as four numbers. -/
structure Ipv4 where
  a : UInt8
  b : UInt8
  c : UInt8
  d : UInt8
deriving DecidableEq, Repr

/-- An address of 128 bits, as eight groups. -/
structure Ipv6 where
  groups : List UInt16
  size : groups.length = 8
deriving DecidableEq, Repr

inductive IpAddress
  | v4 (address : Ipv4)
  | v6 (address : Ipv6)
deriving DecidableEq, Repr

/-- A port of a host. An address of 128 bits may come with a scope, in which it is meant. -/
structure SocketAddress where
  ip : IpAddress
  port : UInt16
  scope : UInt32 := 0
deriving DecidableEq, Repr

def Ipv4.numbers (address : Ipv4) : List UInt8 := [address.a, address.b, address.c, address.d]

/-- Four numbers with points between them. -/
def Ipv4.chars (address : Ipv4) : List Char :=
  ['.'].intercalate (address.numbers.map fun n => Numeral.decimal n.toNat)

def Ipv4.text (address : Ipv4) : String := String.ofList address.chars

/-- The start and the length of the longest row of zeros, the first of several. -/
def longestZeros : List UInt16 → Nat × Nat
  | [] => (0, 0)
  | group :: rest =>
    let here := ((group :: rest).takeWhile (· == 0)).length
    let (start, length) := longestZeros rest
    if length ≤ here then (0, here) else (start + 1, length)

def groupsChars (groups : List UInt16) : List Char :=
  [':'].intercalate (groups.map fun n => Numeral.digits 16 n.toNat)

/-- The address of 32 bits that an address of 128 bits embeds. -/
def Ipv6.embedded? (address : Ipv6) : Option Ipv4 :=
  match address.groups with
  | [0, 0, 0, 0, 0, 0xFFFF, high, low] =>
    some ⟨(high >>> 8).toUInt8, high.toUInt8, (low >>> 8).toUInt8, low.toUInt8⟩
  | _ => none

/-- Eight groups with colons between them, in hexadecimal digits. Two colons stand for the longest row of
zeros if it has two groups or more. -/
def Ipv6.chars (address : Ipv6) : List Char :=
  match address.embedded? with
  | some inner => [':', ':', 'f', 'f', 'f', 'f', ':'] ++ inner.chars
  | none =>
    let (start, length) := longestZeros address.groups
    if 1 < length then
      groupsChars (address.groups.take start) ++ [':', ':'] ++ groupsChars (address.groups.drop (start + length))
    else groupsChars address.groups

def Ipv6.text (address : Ipv6) : String := String.ofList address.chars

def IpAddress.text : IpAddress → String
  | v4 address => address.text
  | v6 address => address.text

/-- Reads a number up to `bound` in digits of a base: as many as there are, but no more than `most`. A zero
in front of other digits is allowed only in padded numbers. -/
def readNumber (base bound : Nat) (most : Option Nat) (padded : Bool) (input : List Char) :
    Option (Nat × List Char) :=
  let digits := input.takeWhile (Numeral.isDigit base)
  let n := Numeral.value base digits
  if digits.isEmpty || most.any (· < digits.length) || bound < n
      || (!padded && digits.head? == some '0' && 1 < digits.length) then none
  else some (n, input.dropWhile (Numeral.isDigit base))

/-- Takes a character off the front. -/
def readChar (c : Char) : List Char → Option (List Char)
  | d :: rest => if d = c then some rest else none
  | [] => none

def readOctet (input : List Char) : Option (UInt8 × List Char) :=
  (readNumber 10 255 (some 3) false input).map fun (n, rest) => (UInt8.ofNat n, rest)

def readIpv4 (input : List Char) : Option (Ipv4 × List Char) := do
  let (a, rest) ← readOctet input
  let (b, rest) ← readOctet (← readChar '.' rest)
  let (c, rest) ← readOctet (← readChar '.' rest)
  let (d, rest) ← readOctet (← readChar '.' rest)
  return (⟨a, b, c, d⟩, rest)

def readGroup (input : List Char) : Option (UInt16 × List Char) :=
  (readNumber 16 0xFFFF (some 4) true input).map fun (n, rest) => (UInt16.ofNat n, rest)

def Ipv4.groups (address : Ipv4) : List UInt16 :=
  [address.a.toUInt16 <<< 8 ||| address.b.toUInt16, address.c.toUInt16 <<< 8 ||| address.d.toUInt16]

/-- Reads up to so many groups with colons between them. An address of 32 bits may take the place of the
last two; whether it did comes back too. -/
def readGroups (first : Bool) : Nat → List Char → List UInt16 × Bool × List Char
  | 0, input => ([], false, input)
  | left + 1, input =>
    match if first then some input else readChar ':' input with
    | none => ([], false, input)
    | some body =>
      match if left = 0 then none else readIpv4 body with
      | some (inner, rest) => (inner.groups, true, rest)
      | none =>
        match readGroup body with
        | none => ([], false, input)
        | some (group, rest) =>
          let (groups, embedded, rest) := readGroups false left rest
          (group :: groups, embedded, rest)

/-- The address with eight groups. -/
def Ipv6.ofGroups? (groups : List UInt16) : Option Ipv6 :=
  if size : groups.length = 8 then some ⟨groups, size⟩ else none

/-- Reads eight groups, or fewer with two colons for the zeros left out. -/
def readIpv6 (input : List Char) : Option (Ipv6 × List Char) :=
  let (front, embedded, rest) := readGroups true 8 input
  if front.length = 8 then (Ipv6.ofGroups? front).map (·, rest)
  else if embedded then none
  else
    match rest with
    | ':' :: ':' :: rest =>
      let (back, _, rest) := readGroups true (7 - front.length) rest
      (Ipv6.ofGroups? (front ++ List.replicate (8 - front.length - back.length) 0 ++ back)).map (·, rest)
    | _ => none

def readPort (input : List Char) : Option (UInt16 × List Char) := do
  let (n, rest) ← readNumber 10 0xFFFF none true (← readChar ':' input)
  return (UInt16.ofNat n, rest)

/-- Reads the scope of an address, which is zero if none is given. -/
def readScope (input : List Char) : UInt32 × List Char :=
  match (readChar '%' input).bind (readNumber 10 0xFFFFFFFF none true) with
  | some (n, rest) => (UInt32.ofNat n, rest)
  | none => (0, input)

def readSocketV4 (input : List Char) : Option (SocketAddress × List Char) := do
  let (ip, rest) ← readIpv4 input
  let (port, rest) ← readPort rest
  return ({ ip := .v4 ip, port }, rest)

/-- An address of 128 bits stands in brackets. -/
def readSocketV6 (input : List Char) : Option (SocketAddress × List Char) := do
  let (ip, rest) ← readIpv6 (← readChar '[' input)
  let (scope, rest) := readScope rest
  let (port, rest) ← readPort (← readChar ']' rest)
  return ({ ip := .v6 ip, port, scope }, rest)

/-- The socket that a text is the address of. -/
def SocketAddress.parse? (text : String) : Option SocketAddress :=
  match (readSocketV4 text.toList).or (readSocketV6 text.toList) with
  | some (address, []) => some address
  | _ => none

end TableCatalog.Network

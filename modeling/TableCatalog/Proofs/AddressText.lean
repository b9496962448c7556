import TableCatalog.Network.Address
import TableCatalog.Proofs.NumeralDigits

/-! The text of an address reads back. A group may be taken for the start of an address of 32 bits,
which is then refused for want of a point; so in every place but the last two the reading of a group
is what counts. Zeros that are left out come back from the number of groups that are there. -/

namespace TableCatalog

namespace Numeral

variable {base n : Nat}

theorem length_digits_small (small : n < base) : (digits base n).length = 1 := by
  rw [digits, dif_pos (.inr small), List.length_singleton]

theorem length_digits_le (base n : Nat) :
    (digits base n).length ≤ (digits base (n / base)).length + 1 := by
  rw [digits]
  split
  · exact Nat.le_add_left 1 _
  · exact Nat.le_of_eq List.length_append

theorem not_padded (several : 2 ≤ base) (known : base ≤ 36) (n : Nat) :
    ((digits base n).head? == some '0' && decide (1 < (digits base n).length)) = false := by
  by_cases zero : n = 0
  · rw [length_digits_small (by omega)]
    exact Bool.and_false _
  · obtain ⟨c, first, other⟩ := head?_digits several known zero
    rw [first]
    simp [other]

end Numeral

namespace Network

open Numeral

variable {rest : List Char}

theorem readNumber_digits {base bound n : Nat} {most : Option Nat}
    (several : 2 ≤ base) (known : base ≤ 36) (padded : Bool) (small : n ≤ bound)
    (short : ∀ limit ∈ most, (digits base n).length ≤ limit) (stops : Stops base rest) :
    readNumber base bound most padded (digits base n ++ rest) = some (n, rest) := by
  obtain ⟨front, after⟩ :=
    takeWhile_digits (fun c => isDigit_of_mem_digits several known (n := n)) stops
  have given : (digits base n).isEmpty = false := List.isEmpty_eq_false_iff.2 (digits_ne_nil base n)
  have fits : (most.any fun limit => decide (limit < (digits base n).length)) = false := by
    cases most with
    | none => rfl
    | some limit => simpa using short limit rfl
  have inside : decide (bound < n) = false := by simpa using small
  have whole := not_padded several known n
  rw [readNumber, front, after]
  simp only [given, fits, value_digits several known, inside,
    Bool.and_assoc, whole, Bool.and_false, Bool.or_self]
  rfl

theorem readOctet_decimal (n : UInt8) (stops : Stops 10 rest) :
    readOctet (decimal n.toNat ++ rest) = some (n, rest) := by
  have small := n.toNat_lt
  have short : (digits 10 n.toNat).length ≤ 3 := by
    have tens := length_digits_le 10 n.toNat
    have hundreds := length_digits_le 10 (n.toNat / 10)
    rw [length_digits_small (n := n.toNat / 10 / 10) (by omega)] at hundreds
    exact Nat.le_trans tens (Nat.succ_le_succ hundreds)
  rw [readOctet, decimal,
    readNumber_digits (by decide) (by decide) false (by omega) (by simpa using short) stops]
  exact congrArg some (Prod.ext (UInt8.ofNat_toNat) rfl)

theorem readGroup_digits (group : UInt16) (stops : Stops 16 rest) :
    readGroup (digits 16 group.toNat ++ rest) = some (group, rest) := by
  have small := group.toNat_lt
  have short : (digits 16 group.toNat).length ≤ 4 := by
    have first := length_digits_le 16 group.toNat
    have second := length_digits_le 16 (group.toNat / 16)
    have third := length_digits_le 16 (group.toNat / 16 / 16)
    rw [length_digits_small (n := group.toNat / 16 / 16 / 16) (by omega)] at third
    omega
  rw [readGroup, readNumber_digits (by decide) (by decide) true
      (by omega) (by simpa using short) stops]
  exact congrArg some (Prod.ext (UInt16.ofNat_toNat) rfl)

theorem readPort_decimal (port : UInt16) :
    readPort (':' :: decimal port.toNat) = some (port, []) := by
  have small := port.toNat_lt
  have read : readNumber 10 0xFFFF none true (decimal port.toNat ++ []) = some (port.toNat, []) :=
    readNumber_digits (by decide) (by decide) true (by omega)
      (fun _ held => by cases held) (fun _ held => by cases held)
  rw [List.append_nil] at read
  simp [readPort, readChar, read]

theorem Ipv4.chars_eq (address : Ipv4) : address.chars =
    decimal address.a.toNat ++ '.' :: (decimal address.b.toNat ++
      '.' :: (decimal address.c.toNat ++ '.' :: decimal address.d.toNat)) := by
  simp [chars, numbers, List.intercalate, List.intersperse]

theorem readIpv4_chars (address : Ipv4) (stops : Stops 10 rest) :
    readIpv4 (address.chars ++ rest) = some (address, rest) := by
  have point (more : List Char) : Stops 10 ('.' :: more) := by
    intro c first
    cases first
    rfl
  simp [Ipv4.chars_eq, readIpv4, readOctet_decimal _ (point _), readOctet_decimal _ stops, readChar]

/-- What may stand behind a group. -/
def Closes (rest : List Char) : Prop := ∃ c more, rest = c :: more ∧ (c = ':' ∨ c = ']')

theorem Closes.stops (closes : Closes rest) (base : Nat) : Stops base rest := by
  obtain ⟨c, more, rfl, either⟩ := closes
  intro d first
  cases first
  rcases either with rfl | rfl <;> rfl

theorem dropWhile_digits_head {front more : List Char} {c : Char}
    (hex : ∀ d ∈ front, isDigit 16 d = true) (closes : Closes rest)
    (left : (front ++ rest).dropWhile (isDigit 10) = c :: more) : c ≠ '.' := by
  induction front with
  | nil =>
    obtain ⟨d, others, rfl, either⟩ := closes
    have kept : (d :: others).dropWhile (isDigit 10) = d :: others := by
      rcases either with rfl | rfl <;> rfl
    rw [List.nil_append, kept] at left
    cases left
    rcases either with rfl | rfl <;> decide
  | cons d front ih =>
    obtain ⟨first, hex⟩ := List.forall_mem_cons.1 hex
    rw [List.cons_append, List.dropWhile_cons] at left
    split at left
    · exact ih hex left
    · cases left
      rintro rfl
      cases first

/-- Hexadecimal digits are no address of 32 bits, for there is no point behind them. -/
theorem readIpv4_hex {front : List Char} (hex : ∀ d ∈ front, isDigit 16 d = true)
    (closes : Closes rest) : readIpv4 (front ++ rest) = none := by
  have pointless {n : UInt8} {left : List Char}
      (read : readOctet (front ++ rest) = some (n, left)) : readChar '.' left = none := by
    obtain ⟨⟨value, after⟩, taken, same⟩ := Option.map_eq_some_iff.1 read
    cases same
    rw [readNumber] at taken
    split at taken
    next => cases taken
    next =>
      cases taken
      cases after : (front ++ rest).dropWhile (isDigit 10) with
      | nil => rfl
      | cons c more => exact if_neg (dropWhile_digits_head hex closes after)
  unfold readIpv4
  cases read : readOctet (front ++ rest) with
  | none => rfl
  | some taken => simp [pointless read]

/-- What stands in front of a group. -/
def separator (first : Bool) : List Char := if first then [] else [':']

/-- Groups as they are read: all but the first with a colon in front. -/
def spelled (first : Bool) : List UInt16 → List Char
  | [] => []
  | group :: groups => separator first ++ (digits 16 group.toNat ++ spelled false groups)

theorem groupsChars_eq (groups : List UInt16) : groupsChars groups = spelled true groups := by
  have behind (group : UInt16) (groups : List UInt16) :
      [':'].intercalate ((group :: groups).map fun n => digits 16 n.toNat) =
        digits 16 group.toNat ++ spelled false groups := by
    induction groups generalizing group with
    | nil => simp [spelled, List.intercalate]
    | cons next groups ih =>
      have tail := ih next
      rw [List.map_cons] at tail
      rw [List.map_cons, List.map_cons, List.intercalate_cons_cons, tail]
      simp [spelled, separator]
  cases groups with
  | nil => rfl
  | cons group groups => exact behind group groups

/-- What ends a row of groups: a bracket, or the colons that stand for zeros. -/
def Ends (rest : List Char) : Prop := ∃ more, rest = ']' :: more ∨ rest = ':' :: ':' :: more

theorem Ends.closes (ends : Ends rest) : Closes rest := by
  obtain ⟨more, rfl | rfl⟩ := ends
  · exact ⟨_, _, rfl, .inr rfl⟩
  · exact ⟨_, _, rfl, .inl rfl⟩

theorem closes_spelled (ends : Ends rest) (groups : List UInt16) :
    Closes (spelled false groups ++ rest) := by
  cases groups with
  | nil => exact ends.closes
  | cons group groups => exact ⟨':', _, rfl, .inl rfl⟩

theorem isDigit_of_mem_group {group : UInt16} {c : Char} (held : c ∈ digits 16 group.toNat) :
    isDigit 16 c = true :=
  isDigit_of_mem_digits (by decide) (by decide) held

theorem readGroups_end (ends : Ends rest) (first : Bool) (left : Nat) :
    readGroups first left rest = ([], false, rest) := by
  have nothing {c : Char} {more : List Char} (either : c = ':' ∨ c = ']') :
      readIpv4 (c :: more) = none ∧ readGroup (c :: more) = none := by
    rcases either with rfl | rfl <;> exact ⟨rfl, rfl⟩
  cases left with
  | zero => rfl
  | succ left =>
    obtain ⟨more, rfl | rfl⟩ := ends
    · cases first <;> simp [readGroups, readChar, nothing]
    · cases first <;> simp [readGroups, readChar, nothing]

theorem readGroups_group (group : UInt16) (closes : Closes rest) (first : Bool) (left : Nat) :
    readGroups first (left + 1) (separator first ++ (digits 16 group.toNat ++ rest)) =
      (group :: (readGroups false left rest).1, (readGroups false left rest).2) := by
  have noAddress : readIpv4 (digits 16 group.toNat ++ rest) = none :=
    readIpv4_hex (fun _ => isDigit_of_mem_group) closes
  have taken := readGroup_digits group (closes.stops 16)
  cases first <;> simp [readGroups, separator, readChar, noAddress, taken]

theorem readGroups_spelled {groups : List UInt16} {left : Nat}
    (room : groups.length ≤ left) (ends : Ends rest) (first : Bool) :
    readGroups first left (spelled first groups ++ rest) = (groups, false, rest) := by
  induction groups generalizing first left with
  | nil => exact readGroups_end ends first left
  | cons group groups ih =>
    obtain ⟨left, rfl⟩ : ∃ fewer, left = fewer + 1 :=
      Nat.exists_eq_succ_of_ne_zero (by rintro rfl; cases room)
    rw [spelled, List.append_assoc, List.append_assoc,
      readGroups_group group (closes_spelled ends groups), ih (Nat.le_of_succ_le_succ room)]

/-- An address of 32 bits takes the place of two groups. -/
theorem readGroups_ipv4 (inner : Ipv4) (stops : Stops 10 rest) (left : Nat) :
    readGroups false (left + 2) (':' :: (inner.chars ++ rest)) = (inner.groups, true, rest) := by
  simp [readGroups, readChar, readIpv4_chars inner stops]

theorem longestZeros_cons (group : UInt16) (groups : List UInt16) : longestZeros (group :: groups) =
    if (longestZeros groups).2 ≤ ((group :: groups).takeWhile (· == 0)).length
      then (0, ((group :: groups).takeWhile (· == 0)).length)
    else ((longestZeros groups).1 + 1, (longestZeros groups).2) := rfl

theorem zeros_in_front (groups : List UInt16) :
    groups = List.replicate (groups.takeWhile (· == 0)).length 0 ++
      groups.drop (groups.takeWhile (· == 0)).length := by
  induction groups with
  | nil => rfl
  | cons group groups ih =>
    rw [List.takeWhile_cons]
    split
    next zero =>
      rw [List.length_cons, List.replicate_succ, List.drop_succ_cons,
        List.cons_append, ← ih, eq_of_beq zero]
    next => rfl

/-- The row of zeros that is left out is one. -/
theorem longestZeros_spec (groups : List UInt16) :
    groups = groups.take (longestZeros groups).1 ++
      (List.replicate (longestZeros groups).2 0 ++
        groups.drop ((longestZeros groups).1 + (longestZeros groups).2)) := by
  induction groups with
  | nil => rfl
  | cons group groups ih =>
    rw [longestZeros_cons]
    split
    next =>
      simpa using zeros_in_front (group :: groups)
    next =>
      rw [List.take_succ_cons, Nat.add_right_comm, List.drop_succ_cons, List.cons_append, ← ih]

theorem word_of_bytes (word : UInt16) :
    (word >>> 8).toUInt8.toUInt16 <<< 8 ||| word.toUInt8.toUInt16 = word := by
  apply UInt16.toNat_inj.1
  have small := word.toNat_lt
  have shift : UInt16.toNat 8 % 16 = 8 := rfl
  have high : (word.toNat >>> 8 % 256) <<< 8 % 65536 = (word.toNat >>> 8) <<< 8 := by omega
  simp only [UInt16.toNat_or, UInt16.toNat_shiftLeft, UInt8.toNat_toUInt16,
    UInt16.toNat_toUInt8, UInt16.toNat_shiftRight, shift, Nat.reducePow, high]
  rw [← Nat.shiftLeft_add_eq_or_of_lt (i := 8) (by omega)]
  omega

theorem groups_of_embedded {address : Ipv6} {inner : Ipv4}
    (known : address.embedded? = some inner) :
    address.groups = List.replicate 5 0 ++ 0xFFFF :: inner.groups := by
  unfold Ipv6.embedded? at known
  split at known
  next high low spelled =>
    cases known
    rw [spelled, Ipv4.groups, word_of_bytes, word_of_bytes]
    rfl
  next => cases known

theorem ofGroups?_groups (address : Ipv6) : Ipv6.ofGroups? address.groups = some address :=
  dif_pos address.size

/-- As many zeros come back as are missing. -/
theorem readIpv6_gap {address : Ipv6} {front back : List UInt16} {zeros : Nat} {embedded : Bool}
    {tail : List Char} (whole : address.groups = front ++ (List.replicate zeros 0 ++ back))
    (gap : 0 < zeros) (read : readGroups true (7 - front.length) tail = (back, embedded, rest)) :
    readIpv6 (spelled true front ++ ':' :: ':' :: tail) = some (address, rest) := by
  have eight : front.length + (zeros + back.length) = 8 := by simpa [whole] using address.size
  have begun : readGroups true 8 (spelled true front ++ ':' :: ':' :: tail) =
      (front, false, ':' :: ':' :: tail) :=
    readGroups_spelled (by omega) ⟨tail, .inr rfl⟩ true
  have missing : 8 - front.length - back.length = zeros := by omega
  have short : front.length ≠ 8 := by omega
  have found := ofGroups?_groups address
  rw [whole] at found
  simp [readIpv6, begun, short, read, missing, found]

theorem readIpv6_whole (address : Ipv6) (ends : Ends rest) :
    readIpv6 (spelled true address.groups ++ rest) = some (address, rest) := by
  have read := readGroups_spelled (Nat.le_of_eq address.size) ends true
  simp [readIpv6, read, address.size, ofGroups?_groups]

theorem readIpv6_chars (address : Ipv6) (ends : Ends rest) :
    readIpv6 (address.chars ++ rest) = some (address, rest) := by
  unfold Ipv6.chars
  cases known : address.embedded? with
  | some inner =>
    have read : readGroups true 7 (spelled true [0xFFFF] ++ (':' :: (inner.chars ++ rest))) =
        (0xFFFF :: inner.groups, true, rest) := by
      have closes : Closes (':' :: (inner.chars ++ rest)) := ⟨_, _, rfl, .inl rfl⟩
      have last := readGroups_ipv4 inner (ends.closes.stops 10) 4
      have first := readGroups_group 0xFFFF closes true 6
      rw [last] at first
      simpa [spelled] using first
    have four : digits 16 0xFFFF = ['f', 'f', 'f', 'f'] := by simp [digits, digitChar]
    have gap := @readIpv6_gap _ address [] _ 5 _ _ (groups_of_embedded known) (by decide) read
    simpa [spelled, separator, four] using gap
  | none =>
    simp only [groupsChars_eq]
    split
    next several =>
      have parts := longestZeros_spec address.groups
      have within : (longestZeros address.groups).1 + (longestZeros address.groups).2 ≤ 8 := by
        have lengths := congrArg List.length parts
        simp only [List.length_append, List.length_take, List.length_replicate,
          List.length_drop, address.size] at lengths
        omega
      have room : (address.groups.drop
        ((longestZeros address.groups).1 + (longestZeros address.groups).2)).length ≤
          7 - (address.groups.take (longestZeros address.groups).1).length := by
        rw [List.length_drop, List.length_take, address.size]
        omega
      have read := readGroups_spelled room ends true
      have gap := readIpv6_gap parts (Nat.lt_trans Nat.zero_lt_one several) read
      simpa using gap
    next => exact readIpv6_whole address ends

/-- The text is digits up to a colon. -/
def LeadsToColon (text : List Char) : Prop :=
  ∃ front more, text = front ++ ':' :: more ∧ ∀ c ∈ front, isDigit 16 c = true

theorem leadsToColon_group (group : UInt16) (more : List Char) :
    LeadsToColon (separator true ++ (digits 16 group.toNat ++ ':' :: more)) :=
  ⟨_, more, rfl, fun _ => isDigit_of_mem_group⟩

theorem leadsToColon_spelled (groups : List UInt16) (more : List Char) :
    LeadsToColon (spelled true groups ++ ':' :: more) := by
  cases groups with
  | nil => exact ⟨[], more, rfl, fun c held => by cases held⟩
  | cons group groups =>
    rw [spelled, List.append_assoc, List.append_assoc]
    cases groups with
    | nil => exact leadsToColon_group group more
    | cons next groups => exact leadsToColon_group group _

theorem leadsToColon_chars (address : Ipv6) : LeadsToColon address.chars := by
  unfold Ipv6.chars
  cases address.embedded? with
  | some inner => exact ⟨[], _, rfl, fun c held => by cases held⟩
  | none =>
    simp only [groupsChars_eq]
    split
    next =>
      rw [List.append_assoc]
      exact leadsToColon_spelled _ _
    next =>
      obtain ⟨groups, size⟩ := address
      cases groups with
      | nil => exact absurd size (by decide)
      | cons group groups =>
        cases groups with
        | nil => exact absurd size (by simp)
        | cons next groups => exact leadsToColon_group group _

/-- An address of 128 bits is none of 32, and it does not open a bracket. -/
theorem readSocket_bare (address : Ipv6) (rest : List Char) :
    readSocketV4 (address.chars ++ rest) = none ∧ readSocketV6 (address.chars ++ rest) = none := by
  obtain ⟨front, more, start, hex⟩ := leadsToColon_chars address
  rw [start, List.append_assoc, List.cons_append]
  constructor
  · rw [readSocketV4, readIpv4_hex hex ⟨_, _, rfl, .inl rfl⟩]
    rfl
  · have closed : readChar '[' (front ++ ':' :: (more ++ rest)) = none := by
      cases front with
      | nil => rfl
      | cons c front =>
        apply if_neg
        rintro rfl
        cases hex '[' List.mem_cons_self
    rw [readSocketV6, closed]
    rfl

theorem readSocketV4_chars (address : Ipv4) (port : UInt16) :
    readSocketV4 (address.chars ++ ':' :: decimal port.toNat) =
      some ({ ip := .v4 address, port }, []) := by
  have read : readIpv4 (address.chars ++ ':' :: decimal port.toNat) =
      some (address, ':' :: decimal port.toNat) :=
    readIpv4_chars address (Closes.stops ⟨_, _, rfl, .inl rfl⟩ 10)
  simp [readSocketV4, read, readPort_decimal]

theorem readSocketV6_chars (address : Ipv6) (port : UInt16) :
    readSocketV6 ('[' :: (address.chars ++ ']' :: ':' :: decimal port.toNat)) =
      some ({ ip := .v6 address, port }, []) := by
  have read : readIpv6 (address.chars ++ ']' :: ':' :: decimal port.toNat) =
      some (address, ']' :: ':' :: decimal port.toNat) :=
    readIpv6_chars address ⟨_, .inl rfl⟩
  simp [readSocketV6, readChar, read, readScope, readPort_decimal]

theorem parse?_ipv4 (address : Ipv4) (port : UInt16) :
    SocketAddress.parse? (address.text ++ ":" ++ decimalText port.toNat) =
      some { ip := .v4 address, port } := by
  have text : (address.text ++ ":" ++ decimalText port.toNat).toList =
    address.chars ++ ':' :: decimal port.toNat := by simp [Ipv4.text, decimalText]
  unfold SocketAddress.parse?
  rw [text, readSocketV4_chars]
  rfl

theorem parse?_ipv6 (address : Ipv6) (port : UInt16) :
    SocketAddress.parse? (address.text ++ ":" ++ decimalText port.toNat) = none := by
  have text : (address.text ++ ":" ++ decimalText port.toNat).toList =
    address.chars ++ ':' :: decimal port.toNat := by simp [Ipv6.text, decimalText]
  obtain ⟨first, second⟩ := readSocket_bare address (':' :: decimal port.toNat)
  unfold SocketAddress.parse?
  rw [text, first, second]
  rfl

theorem parse?_bracketed (address : Ipv6) (port : UInt16) :
    SocketAddress.parse? ("[" ++ address.text ++ "]" ++ ":" ++ decimalText port.toNat) =
      some { ip := .v6 address, port } := by
  have text : ("[" ++ address.text ++ "]" ++ ":" ++ decimalText port.toNat).toList =
      '[' :: (address.chars ++ ']' :: ':' :: decimal port.toNat) := by
    simp [Ipv6.text, decimalText]
  have other : readSocketV4 ('[' :: (address.chars ++ ']' :: ':' :: decimal port.toNat)) = none :=
    rfl
  unfold SocketAddress.parse?
  rw [text, other, readSocketV6_chars]
  rfl

end Network
end TableCatalog

import Mathlib.Data.List.DropRight
import TableCatalog.Json.Reader
import TableCatalog.Proofs.NumeralDigits

/-! A JSON value reads back from its printed form. A numeral is told from what follows it by a comma
or the end of its line, a text by its closing quote, and a list or an object by its bracket, so
values are read back whatever they stand in. -/

namespace TableCatalog.Json

variable {rest : List Char} {fuel level : Nat}

/-- How a character of a printed text is read. -/
def pieceOf (c : Char) : Piece :=
  if c.toNat < 0x20 ∧ c ∉ ['\x08', '\x0c', '\n', '\r', '\t'] then .unit c.toNat else .char c

theorem readPieces_escape (c : Char) (rest : List Char) :
    readPieces (escapeChar c ++ rest) = (readPieces rest).map fun (pieces, rest) =>
      (pieceOf c :: pieces, rest) := by
  unfold escapeChar
  split
  case h_8 _ notQuote notBackslash _ _ _ _ _ =>
    split
    next control =>
      have piece : pieceOf c = .unit c.toNat := if_pos ⟨control, by simp_all⟩
      have value : Numeral.value? 16 (Numeral.hex4 c.toNat) = some c.toNat :=
        Numeral.value?_hex4 (by omega)
      rw [piece, List.cons_append, List.cons_append, Numeral.hex4] at *
      simp only [List.cons_append, List.nil_append, readPieces, value]
    next plain =>
      have piece : pieceOf c = .char c := if_neg fun control => plain control.1
      have kept : ¬ (c.toNat < 0x20 ∨ c = '\\') := not_or.2 ⟨plain, notBackslash⟩
      have read : readPieces (c :: rest) = if c.toNat < 0x20 ∨ c = '\\' then none
            else (readPieces rest).map fun (pieces, rest) => (.char c :: pieces, rest) := by
        rw [readPieces.eq_def]
        split <;> simp_all
      rw [piece, List.singleton_append, read, if_neg kept]
  all_goals rfl

theorem charsOf_pieces (text : List Char) : charsOf (text.map pieceOf) = some text := by
  induction text with
  | nil => rfl
  | cons c rest ih =>
    rw [List.map_cons, pieceOf]
    split
    next control =>
      have inside : c.toNat < 0xD800 ∨ 0xDFFF < c.toNat := by omega
      unfold charsOf
      rw [if_pos inside, ih, Char.ofNat_toNat]
      rfl
    next =>
      rw [charsOf, ih]
      rfl

theorem readText_write (s : String) (rest : List Char) :
    readText (s.toList.flatMap escapeChar ++ '"' :: rest) = some (some s, rest) := by
  have pieces (text : List Char) :
      readPieces (text.flatMap escapeChar ++ '"' :: rest) = some (text.map pieceOf, rest) := by
    induction text with
    | nil => rfl
    | cons c text ih =>
      rw [List.flatMap_cons, List.append_assoc, readPieces_escape, ih]
      rfl
  simp only [readText, pieces, Option.map_some, charsOf_pieces, String.ofList_toList]

/-- What may follow a value: nothing, or what stands between values. -/
def Ends (rest : List Char) : Prop := ∀ c ∈ rest.head?, c = ',' ∨ c = '\n'

theorem Ends.stops (ends : Ends rest) : Numeral.Stops 10 rest := by
  intro c first
  obtain rfl | rfl := ends c first <;> rfl

theorem readDigits_decimal (n : Nat) (stops : Numeral.Stops 10 rest) :
    readDigits (Numeral.decimal n ++ rest) = some (Numeral.decimal n, rest) := by
  have digits : ∀ c ∈ Numeral.decimal n, Numeral.isDigit 10 c = true :=
    fun _ => Numeral.isDigit_of_mem_decimal
  obtain ⟨taken, dropped⟩ := Numeral.takeWhile_digits digits stops
  have some : (Numeral.decimal n).isEmpty = false :=
    List.isEmpty_eq_false_iff.2 (Numeral.digits_ne_nil 10 n)
  simp only [readDigits, taken, dropped, some]
  rfl

theorem readWhole_decimal (n : Nat) (stops : Numeral.Stops 10 rest) :
    readWhole (Numeral.decimal n ++ rest) = some (Numeral.decimal n, rest) := by
  have digits := readDigits_decimal n stops
  rcases Numeral.decimal_whole n with lone | ⟨c, front, spelled, other⟩
  · rw [lone]
    rfl
  · rw [spelled, List.cons_append] at digits ⊢
    rw [readWhole]
    · exact digits
    · intro more same
      exact other (List.cons.inj same).1

theorem skipFraction_ends (ends : Ends rest) : skipFraction rest = some (false, rest) := by
  cases rest with
  | nil => rfl
  | cons c rest => obtain rfl | rfl := ends c rfl <;> rfl

theorem skipExponent_ends (ends : Ends rest) : skipExponent rest = some (false, rest) := by
  cases rest with
  | nil => rfl
  | cons c rest => obtain rfl | rfl := ends c rfl <;> rfl

theorem readNumber_write (n : Int) (ends : Ends rest) :
    readNumber (Numeral.signed n ++ rest) = some (ofInt n, rest) := by
  have read (m : Nat) := readWhole_decimal m ends.stops
  unfold Numeral.signed
  split
  next negative =>
    have nonzero : (n.natAbs == 0) = false := beq_eq_false_iff_ne.2 (by omega)
    have back : -(n.natAbs : Int) = n := by omega
    simp only [readNumber, List.cons_append, List.head?_cons, List.tail_cons,
      beq_self_eq_true, if_true, read, skipFraction_ends ends, skipExponent_ends ends,
      Option.bind_eq_bind, Option.bind_some, Numeral.value_decimal, nonzero, back]
    rfl
  next positive =>
    obtain ⟨c, front, spelled, digit⟩ := Numeral.decimal_first n.natAbs
    have unsigned : ((Numeral.decimal n.natAbs ++ rest).head? == some '-') = false := by
      rw [spelled, List.cons_append, List.head?_cons, beq_eq_false_iff_ne]
      rintro ⟨⟩
      exact Bool.false_ne_true digit
    have back : (n.natAbs : Int) = n := by omega
    simp only [readNumber, unsigned, read, skipFraction_ends ends,
      skipExponent_ends ends, Numeral.value_decimal, back, ofInt,
      Bool.false_and, Bool.or_self, Bool.false_eq_true, if_false,
      Option.bind_eq_bind, Option.bind_some]
    rfl

/-- A value is read back from its printed form at any level, whatever
follows that may follow a value. Each reader that is entered takes one
from the fuel, and none is entered for less than half a character. -/
def ReadsBack (value : Json) : Prop :=
  ∀ level fuel rest, 2 * (value.write level).length ≤ fuel →
  Ends rest → readValue fuel (value.write level ++ rest) = some (value, rest)

theorem skipBlanks_lineBreak (level : Nat) (rest : List Char) :
    skipBlanks (lineBreak level ++ rest) = skipBlanks rest := by
  have blank : ∀ c ∈ lineBreak level, isBlank c = true := by
    intro c held
    obtain rfl | held := List.mem_cons.1 held
    · rfl
    · rw [List.eq_of_mem_replicate held]
      rfl
  exact List.dropWhile_append_of_pos blank

theorem ends_lineBreak (level : Nat) (rest : List Char) : Ends (lineBreak level ++ rest) := by
  intro c first
  cases first
  exact .inr rfl

theorem ends_comma (rest : List Char) : Ends (',' :: rest) := by
  intro c first
  cases first
  exact .inl rfl

theorem readsBack_null : ReadsBack .null := by
  intro level fuel rest enough ends
  cases fuel with
  | zero => simp [write] at enough
  | succ fuel => rfl

theorem readsBack_bool (b : Bool) : ReadsBack (.bool b) := by
  intro level fuel rest enough ends
  cases fuel with
  | zero => cases b <;> simp [write] at enough
  | succ fuel => cases b <;> rfl

theorem readValue_quote (fuel : Nat) (rest : List Char) :
    readValue (fuel + 1) ('"' :: rest) = (readText rest).map fun (s, rest) => (.text s, rest) := rfl

theorem readsBack_text (s : String) : ReadsBack (ofText s) := by
  intro level fuel rest enough ends
  have spelled : (ofText s).write level ++ rest =
      '"' :: (s.toList.flatMap escapeChar ++ '"' :: rest) := by
    simp [ofText, write, writeText]
  cases fuel with
  | zero => simp [ofText, write, writeText] at enough
  | succ fuel =>
    rw [spelled, readValue_quote, readText_write]
    rfl

/-- What begins no other value is read as a numeral. -/
theorem readValue_number {c : Char}
    (other : c ∉ ['n', 't', 'f', '"', '[', '\x7b', ' ', '\n', '\t', '\r']) :
    readValue (fuel + 1) (c :: rest) = readNumber (c :: rest) := by
  simp only [List.mem_cons, List.not_mem_nil, or_false, not_or] at other
  obtain ⟨n, t, f, quote, bracket, brace, blanks⟩ := other
  have kept : skipBlanks (c :: rest) = c :: rest := by simp [skipBlanks, isBlank, blanks]
  rw [readValue, kept]
  split <;> simp_all

theorem readsBack_int (n : Int) : ReadsBack (ofInt n) := by
  intro level fuel rest enough ends
  obtain ⟨c, front, spelled, first⟩ : ∃ c front, Numeral.signed n = c :: front ∧
    (c = '-' ∨ Numeral.isDigit 10 c = true) := by
    obtain ⟨c, front, spelled, digit⟩ := Numeral.decimal_first n.natAbs
    unfold Numeral.signed
    split
    next => exact ⟨'-', _, rfl, .inl rfl⟩
    next => exact ⟨c, front, spelled, .inr digit⟩
  have other : c ∉ ['n', 't', 'f', '"', '[', '\x7b', ' ', '\n', '\t', '\r'] := by
    rcases first with rfl | digit
    · decide
    · exact Numeral.not_mem_of_all digit rfl
  have written : (ofInt n).write level = c :: front := by
    rw [← spelled]
    simp [ofInt, write]
  rw [written] at enough ⊢
  obtain ⟨fuel, rfl⟩ := Nat.exists_eq_succ_of_ne_zero (n := fuel) (by simp at enough; omega)
  rw [List.cons_append, readValue_number other, ← List.cons_append, ← spelled]
  exact readNumber_write n ends

theorem skipBlanks_skipBlanks (input : List Char) :
    skipBlanks (skipBlanks input) = skipBlanks input := List.dropWhile_idempotent _ _

theorem readValue_skipBlanks (fuel : Nat) (input : List Char) :
    readValue fuel (skipBlanks input) = readValue fuel input := by
  cases fuel with
  | zero => rfl
  | succ fuel => simp only [readValue, skipBlanks_skipBlanks]

theorem readItems_skipBlanks (fuel : Nat) (input : List Char) :
    readItems fuel (skipBlanks input) = readItems fuel input := by
  cases fuel with
  | zero => rfl
  | succ fuel => simp only [readItems, readValue_skipBlanks]

theorem readMembers_skipBlanks (fuel : Nat) (input : List Char) :
    readMembers fuel (skipBlanks input) = readMembers fuel input := by
  cases fuel with
  | zero => rfl
  | succ fuel => simp only [readMembers, skipBlanks_skipBlanks]

/-- A closing bracket begins no item, so a list with items is never taken for the empty one. -/
theorem readItems_closed (fuel : Nat) (rest : List Char) : readItems fuel (']' :: rest) = none := by
  cases fuel with
  | zero => rfl
  | succ fuel =>
    cases fuel with
    | zero => rfl
    | succ fuel =>
      rw [readItems, readValue_number (by decide), show readNumber (']' :: rest) = none from rfl]

theorem readMembers_closed (fuel : Nat) (rest : List Char) :
    readMembers fuel ('\x7d' :: rest) = none := by
  cases fuel with
  | zero => rfl
  | succ fuel => rfl

theorem readValue_bracket (fuel : Nat) (rest : List Char) : readValue (fuel + 1) ('[' :: rest) =
    match skipBlanks rest with
    | ']' :: rest => some (.list [], rest)
    | rest => (readItems fuel rest).map fun (items, rest) => (.list items, rest) := rfl

theorem readValue_brace (fuel : Nat) (rest : List Char) : readValue (fuel + 1) ('\x7b' :: rest) =
    match skipBlanks rest with
    | '\x7d' :: rest => some (.object [], rest)
    | rest => (readMembers fuel rest).map fun (members, rest) => (.object members, rest) := rfl

theorem readValue_items {items : List Json} {input : List Char}
    (read : readItems fuel input = some (items, rest)) :
    readValue (fuel + 1) ('[' :: input) = some (.list items, rest) := by
  rw [readValue_bracket]
  split
  next closed =>
    rw [← readItems_skipBlanks, closed, readItems_closed] at read
    cases read
  next =>
    rw [readItems_skipBlanks, read]
    rfl

theorem readValue_members {members : List (Option String × Json)}
    {input : List Char} (read : readMembers fuel input = some (members, rest)) :
    readValue (fuel + 1) ('\x7b' :: input) = some (.object members, rest) := by
  rw [readValue_brace]
  split
  next closed =>
    rw [← readMembers_skipBlanks, closed, readMembers_closed] at read
    cases read
  next =>
    rw [readMembers_skipBlanks, read]
    rfl

theorem skipBlanks_member (level : Nat) (name : String) (item : Json) (after : List Char) :
    skipBlanks (lineBreak level ++ writeMember level (some name, item) ++ after) =
      '"' :: (name.toList.flatMap escapeChar ++
        '"' :: ':' :: ' ' :: (item.write level ++ after)) := by
  have spelled : writeMember level (some name, item) ++ after = '"' ::
      (name.toList.flatMap escapeChar ++ '"' :: ':' :: ' ' :: (item.write level ++ after)) := by
    simp [writeMember, writeText]
  rw [List.append_assoc, skipBlanks_lineBreak, spelled]
  rfl

section Parts

variable {item : Json} {after more : List Char} (readBack : ReadsBack item) (ends : Ends after)
include readBack ends

theorem ReadsBack.line (enough : 2 * (item.write level).length ≤ fuel) :
    readValue fuel (lineBreak level ++ item.write level ++ after) = some (item, after) := by
  rw [← readValue_skipBlanks, List.append_assoc, skipBlanks_lineBreak,
    readValue_skipBlanks, readBack level fuel after enough ends]

theorem readItems_last (enough : 2 * (item.write level).length ≤ fuel)
    (last : skipBlanks after = ']' :: rest) :
    readItems (fuel + 1) (lineBreak level ++ item.write level ++ after) = some ([item], rest) := by
  simp only [readItems, readBack.line ends enough, last]

theorem readItems_next {items : List Json} (enough : 2 * (item.write level).length ≤ fuel)
    (comma : skipBlanks after = ',' :: more) (read : readItems fuel more = some (items, rest)) :
    readItems (fuel + 1) (lineBreak level ++ item.write level ++ after) =
      some (item :: items, rest) := by
  simp only [readItems, readBack.line ends enough, comma, read, Option.map_some]

variable {name : String}

theorem ReadsBack.member (enough : 2 * (writeMember level (some name, item)).length ≤ fuel) :
    skipBlanks (':' :: ' ' :: (item.write level ++ after)) =
        ':' :: ' ' :: (item.write level ++ after) ∧
      readValue fuel (' ' :: (item.write level ++ after)) = some (item, after) := by
  have shorter : 2 * (item.write level).length ≤ fuel := by
    simp [writeMember] at enough
    omega
  have space : skipBlanks (' ' :: (item.write level ++ after)) =
    skipBlanks (item.write level ++ after) := rfl
  refine ⟨rfl, ?_⟩
  rw [← readValue_skipBlanks, space, readValue_skipBlanks, readBack level fuel after shorter ends]

theorem readMembers_last (enough : 2 * (writeMember level (some name, item)).length ≤ fuel)
    (last : skipBlanks after = '\x7d' :: rest) :
    readMembers (fuel + 1) (lineBreak level ++ writeMember level (some name, item) ++ after) =
      some ([(some name, item)], rest) := by
  obtain ⟨colon, value⟩ := readBack.member ends enough
  simp only [readMembers, skipBlanks_member, readText_write, colon, value, last]

theorem readMembers_next {members : List (Option String × Json)}
    (enough : 2 * (writeMember level (some name, item)).length ≤ fuel)
    (comma : skipBlanks after = ',' :: more) (read : readMembers fuel more = some (members, rest)) :
    readMembers (fuel + 1) (lineBreak level ++ writeMember level (some name, item) ++ after) =
      some ((some name, item) :: members, rest) := by
  obtain ⟨colon, value⟩ := readBack.member ends enough
  simp only [readMembers, skipBlanks_member, readText_write,
    colon, value, comma, read, Option.map_some]

end Parts

theorem readItems_write {item : Json} {items : List Json}
    (readBack : ∀ held ∈ item :: items, ReadsBack held) (outer : Nat)
    (rest : List Char) (enough : 2 * (item.write level ++ writeItems level items).length < fuel) :
    readItems fuel (lineBreak level ++ item.write level ++ (writeItems level items ++
      (lineBreak outer ++ ']' :: rest))) = some (item :: items, rest) := by
  induction items generalizing item fuel with
  | nil =>
    obtain ⟨fuel, rfl⟩ := Nat.exists_eq_add_one_of_ne_zero (Nat.ne_zero_of_lt enough)
    have enough : 2 * (item.write level).length ≤ fuel := by
      simp [writeItems] at enough
      omega
    have last : skipBlanks (writeItems level [] ++ (lineBreak outer ++ ']' :: rest)) =
      ']' :: rest := skipBlanks_lineBreak outer _
    exact readItems_last (readBack item List.mem_cons_self) (ends_lineBreak outer _) enough last
  | cons next items ih =>
    obtain ⟨fuel, rfl⟩ := Nat.exists_eq_add_one_of_ne_zero (Nat.ne_zero_of_lt enough)
    have first : 2 * (item.write level).length ≤ fuel := by
      simp at enough
      omega
    have shorter : 2 * (next.write level ++ writeItems level items).length < fuel := by
      simp [writeItems] at enough ⊢
      omega
    have read := ih (fun held among => readBack held (List.mem_cons_of_mem _ among)) shorter
    have comma : skipBlanks (writeItems level (next :: items) ++ (lineBreak outer ++ ']' :: rest)) =
        ',' :: (lineBreak level ++ next.write level ++
          (writeItems level items ++ (lineBreak outer ++ ']' :: rest))) := by
      simp only [writeItems, List.cons_append, List.append_assoc]
      rfl
    exact readItems_next (readBack item List.mem_cons_self) (ends_comma _) first comma read

theorem readsBack_list {items : List Json} (readBack : ∀ item ∈ items, ReadsBack item) :
    ReadsBack (.list items) := by
  intro level fuel rest enough ends
  cases items with
  | nil =>
    obtain ⟨fuel, rfl⟩ :=
      Nat.exists_eq_add_one_of_ne_zero (n := fuel) (by simp [write] at enough; omega)
    rfl
  | cons item items =>
    obtain ⟨fuel, rfl⟩ :=
      Nat.exists_eq_add_one_of_ne_zero (n := fuel) (by simp [write] at enough; omega)
    have shorter : 2 * (item.write (level + 1) ++ writeItems (level + 1) items).length < fuel := by
      simp [write] at enough ⊢
      omega
    have read := readItems_write readBack level rest shorter
    have spelled : (Json.list (item :: items)).write level ++ rest =
        '[' :: (lineBreak (level + 1) ++ item.write (level + 1) ++
          (writeItems (level + 1) items ++ (lineBreak level ++ ']' :: rest))) := by
      simp [write]
    rw [spelled]
    exact readValue_items read

theorem readMembers_write {member : String × Json} {members : List (String × Json)}
    (readBack : ∀ held ∈ member :: members, ReadsBack held.2) (outer : Nat) (rest : List Char)
    (enough : 2 * (writeMember level (some member.1, member.2) ++
      writeMembers level (members.map fun (name, value) => (some name, value))).length < fuel) :
    readMembers fuel (lineBreak level ++ writeMember level (some member.1, member.2) ++
      (writeMembers level (members.map fun (name, value) => (some name, value)) ++
        (lineBreak outer ++ '\x7d' :: rest))) =
        some ((member :: members).map (fun (name, value) => (some name, value)), rest) := by
  induction members generalizing member fuel with
  | nil =>
    obtain ⟨fuel, rfl⟩ := Nat.exists_eq_add_one_of_ne_zero (Nat.ne_zero_of_lt enough)
    have enough : 2 * (writeMember level (some member.1, member.2)).length ≤ fuel := by
      simp [writeMembers] at enough
      omega
    have last : skipBlanks (writeMembers level [] ++ (lineBreak outer ++ '\x7d' :: rest)) =
      '\x7d' :: rest := skipBlanks_lineBreak outer _
    exact readMembers_last (readBack member List.mem_cons_self) (ends_lineBreak outer _) enough last
  | cons next members ih =>
    obtain ⟨fuel, rfl⟩ := Nat.exists_eq_add_one_of_ne_zero (Nat.ne_zero_of_lt enough)
    have first : 2 * (writeMember level (some member.1, member.2)).length ≤ fuel := by
      simp at enough
      omega
    have shorter : 2 * (writeMember level (some next.1, next.2) ++
      writeMembers level (members.map fun (name, value) => (some name, value))).length < fuel := by
      simp [writeMembers] at enough ⊢
      omega
    have read := ih (fun held among => readBack held (List.mem_cons_of_mem _ among)) shorter
    have comma : skipBlanks (writeMembers level ((next :: members).map fun (name, value) =>
      (some name, value)) ++ (lineBreak outer ++ '\x7d' :: rest)) =
        ',' :: (lineBreak level ++ writeMember level (some next.1, next.2) ++
          (writeMembers level (members.map fun (name, value) => (some name, value)) ++
            (lineBreak outer ++ '\x7d' :: rest))) := by
      simp only [List.map_cons, writeMembers, List.cons_append, List.append_assoc]
      rfl
    exact readMembers_next (readBack member List.mem_cons_self) (ends_comma _) first comma read

theorem readsBack_members {members : List (String × Json)}
    (readBack : ∀ member ∈ members, ReadsBack member.2) : ReadsBack (ofMembers members) := by
  intro level fuel rest enough ends
  cases members with
  | nil =>
    obtain ⟨fuel, rfl⟩ :=
      Nat.exists_eq_add_one_of_ne_zero (n := fuel) (by simp [ofMembers, write] at enough; omega)
    rfl
  | cons member members =>
    obtain ⟨fuel, rfl⟩ :=
      Nat.exists_eq_add_one_of_ne_zero (n := fuel) (by simp [ofMembers, write] at enough; omega)
    have shorter : 2 * (writeMember (level + 1) (some member.1, member.2) ++
        writeMembers (level + 1) (members.map fun (name, value) =>
          (some name, value))).length < fuel := by
      simp [ofMembers, write] at enough ⊢
      omega
    have read := readMembers_write readBack level rest shorter
    have spelled : (ofMembers (member :: members)).write level ++ rest =
        '\x7b' :: (lineBreak (level + 1) ++ writeMember (level + 1) (some member.1, member.2) ++
          (writeMembers (level + 1) (members.map fun (name, value) => (some name, value)) ++
            (lineBreak level ++ '\x7d' :: rest))) := by
      simp [ofMembers, write]
    rw [spelled]
    exact readValue_members read

theorem parse?_print {value : Json} (readBack : ReadsBack value) :
    parse? value.print = some value := by
  have read := readBack 0 (2 * (value.write 0).length + 2) []
    (by omega) (fun _ none => nomatch none)
  rw [List.append_nil] at read
  rw [parse?, print, String.toList_ofList, read]
  rfl

end TableCatalog.Json

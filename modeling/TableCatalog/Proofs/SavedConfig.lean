import TableCatalog.Daemon.Config
import TableCatalog.Proofs.TomlText

/-! A saved configuration is loaded as it was. Each of its lines adds one entry to the document,
under a key that was not there. -/

namespace TableCatalog.Toml

variable {c : Char} {digits rest : List Char}

section Digits

variable (all : ∀ c ∈ digits, Numeral.isDigit 10 c = true)
include all

theorem first_digit_or_end {more : List Char} (first : digits ++ '\n' :: rest = c :: more) :
    Numeral.isDigit 10 c = true ∨ c = '\n' := by
  cases digits with
  | nil => exact .inr (List.cons.inj first).1.symm
  | cons d digits => exact .inl ((List.cons.inj first).1 ▸ all d List.mem_cons_self)

theorem readDigits_all (some : digits ≠ []) (rest : List Char) :
    readDigits 10 (digits ++ '\n' :: rest) = .some (digits, '\n' :: rest) := by
  induction digits with
  | nil => exact absurd rfl some
  | cons c digits ih =>
    obtain ⟨first, all⟩ := List.forall_mem_cons.1 all
    rw [List.cons_append, readDigits.eq_def]
    cases digits with
    | nil => simp [first, show Numeral.isDigit 10 '\n' = false from rfl]
    | cons d digits =>
      have digit : Numeral.isDigit 10 d = true := all d List.mem_cons_self
      have read := ih all (List.cons_ne_nil d digits)
      rw [List.cons_append] at read ⊢
      refine (if_pos first).trans ?_
      split
      next same =>
        cases same
        cases digit
      next same =>
        cases same
        rw [if_pos digit, read]
        rfl
      next same => cases same

/-- A number of so many digits is read from digits alone, and
behind it comes no sign that would go on with a moment. -/
theorem readFixed_stuck {count low high n : Nat} {after : List Char}
    (other : Numeral.isDigit 10 c = false) (inLine : c ≠ '\n')
    (read : readFixed count low high (digits ++ '\n' :: rest) = some (n, after)) :
    readChar c after = none := by
  simp only [readFixed] at read
  split at read
  next value known =>
    have digital := Numeral.isDigit_of_value? known
    have within : count ≤ digits.length := by
      apply Nat.le_of_not_lt
      intro beyond
      have held : '\n' ∈ (digits ++ '\n' :: rest).take count := by
        rw [List.take_append, List.take_cons (by omega)]
        exact List.mem_append_right _ List.mem_cons_self
      cases digital '\n' held
    rw [List.drop_append_of_le_length within] at read
    have spelled : after = digits.drop count ++ '\n' :: rest := by
      split at read
      next =>
        cases read
        rfl
      next => cases read
    cases after with
    | nil => rfl
    | cons d more =>
      rw [readChar, if_neg]
      rintro rfl
      rcases first_digit_or_end
        (fun c held => all c (List.mem_of_mem_drop held)) spelled.symm with digit | newline
      · exact Bool.false_ne_true (other.symm.trans digit)
      · exact inLine newline
  next => cases read

theorem readMoment_digits (rest : List Char) : readMoment (digits ++ '\n' :: rest) = none := by
  have noDate : readDate (digits ++ '\n' :: rest) = none := by
    unfold readDate
    cases read : readFixed 4 0 9999 (digits ++ '\n' :: rest) with
    | none => rfl
    | some year => simp [readFixed_stuck all (c := '-') rfl (by decide) read]
  have noTime : readTime (digits ++ '\n' :: rest) = none := by
    unfold readTime readHour
    cases read : readFixed 2 0 23 (digits ++ '\n' :: rest) with
    | none => rfl
    | some hour => simp [readFixed_stuck all (c := ':') rfl (by decide) read]
  rw [readMoment, noDate]
  exact noTime

end Digits

theorem readWhole_decimal (n : Nat) (rest : List Char) :
    readWhole (Numeral.decimal n ++ '\n' :: rest) = some (Numeral.decimal n, '\n' :: rest) := by
  have digits := readDigits_all (fun _ => Numeral.isDigit_of_mem_decimal)
    (Numeral.digits_ne_nil 10 n) rest
  rcases Numeral.decimal_whole n with lone | ⟨c, front, spelled, other⟩
  · rw [lone]
    rfl
  · rw [spelled, List.cons_append] at digits ⊢
    rw [readWhole]
    · exact digits
    · intro more same
      exact other (List.cons.inj same).1

theorem readSign_digit (digit : Numeral.isDigit 10 c = true) (rest : List Char) :
    readSign (c :: rest) = (false, c :: rest) := by
  rw [readSign.eq_def]
  split
  next same => cases same; cases digit
  next same => cases same; cases digit
  next => rfl

theorem readSpecial_digit (digit : Numeral.isDigit 10 c = true) (rest : List Char) :
    readSpecial (c :: rest) = none := by
  rw [readSpecial.eq_def]
  split
  next same => cases (List.cons.inj same).1; cases digit
  next same => cases (List.cons.inj same).1; cases digit
  next => rfl

theorem readDecimal_decimal {n : Nat} (small : (n : Int) ≤ Int64.maxValue.toInt)
    (rest : List Char) :
    readDecimal (Numeral.decimal n ++ '\n' :: rest) = some (.integer n, '\n' :: rest) := by
  have whole := readWhole_decimal n rest
  have value := Numeral.value_decimal n
  have inside : Int64.minValue.toInt ≤ (n : Int) ∧ (n : Int) ≤ Int64.maxValue.toInt :=
    ⟨Int.le_trans (by decide) (Int.natCast_nonneg n), small⟩
  have tail : readTail ('\n' :: rest) = some (none, '\n' :: rest) := rfl
  obtain ⟨c, front, spelled, digit⟩ := Numeral.decimal_first n
  rw [spelled, List.cons_append] at whole ⊢
  rw [spelled] at value
  simp only [readDecimal, readSign_digit digit, readSpecial_digit digit,
    whole, tail, value, integer?]
  simp [inside]

theorem readNumber_decimal {n : Nat} (small : (n : Int) ≤ Int64.maxValue.toInt) (rest : List Char) :
    readNumber (Numeral.decimal n ++ '\n' :: rest) = some (.integer n, '\n' :: rest) := by
  have read := readDecimal_decimal small rest
  obtain ⟨c, front, spelled, digit⟩ := Numeral.decimal_first n
  have digits : ∀ c ∈ front, Numeral.isDigit 10 c = true :=
    fun c held => Numeral.isDigit_of_mem_decimal (spelled ▸ List.mem_cons_of_mem _ held)
  -- No letter of another base stands behind the first digit.
  have second : ∀ base ∈ ['x', 'o', 'b'], ∀ more, front ++ '\n' :: rest ≠ base :: more := by
    intro base letter more same
    rcases first_digit_or_end digits same with digit | rfl
    · exact Numeral.not_mem_of_all digit rfl letter
    · revert letter
      decide
  rw [spelled, List.cons_append] at read ⊢
  rw [readNumber.eq_def]
  split
  next same => exact absurd (List.cons.inj same).2 (second _ (by decide) _)
  next same => exact absurd (List.cons.inj same).2 (second _ (by decide) _)
  next same => exact absurd (List.cons.inj same).2 (second _ (by decide) _)
  next => exact read

/-- A value of one line that is read back up to the end of the line. -/
structure ReadsAs (spelled : List Char) (value : Value) : Prop where
  scalar (rest : List Char) : readScalar (spelled ++ '\n' :: rest) = some (value, '\n' :: rest)
  first : ∃ c front, spelled = c :: front ∧ c ∉ [' ', '\t', '[', '\x7b']

theorem readScalar_first (other : c ∉ ['t', 'f']) (rest : List Char) : readScalar (c :: rest) =
    if isQuote c then (readText (c :: rest)).map fun (text, rest) =>
      (.text (String.ofList text), rest)
    else
      match readMoment (c :: rest) with
      | some rest => some (.moment, rest)
      | none => (readNumber (c :: rest)).map fun (number, rest) => (ofNumber number, rest) := by
  rw [readScalar.eq_def]
  split
  next same => exact absurd (by rw [(List.cons.inj same).1]; decide) other
  next same => exact absurd (by rw [(List.cons.inj same).1]; decide) other
  next same => cases same; rfl
  next same => cases same

theorem readsAs_text (text : List Char) :
    ReadsAs (writeText text) (.text (String.ofList text)) := by
  obtain ⟨quote, front, spelled, known⟩ : ∃ quote front, writeText text = quote :: front ∧
    isQuote quote = true := by
    unfold writeText
    split <;> exact ⟨_, _, rfl, rfl⟩
  have other : quote ∉ ['t', 'f'] := Numeral.not_mem_of_all known rfl
  have first : quote ∉ [' ', '\t', '[', '\x7b'] := Numeral.not_mem_of_all known rfl
  refine ⟨fun rest => ?_, quote, front, spelled, first⟩
  have read := readText_writeText text rest
  rw [spelled, List.cons_append] at read ⊢
  rw [readScalar_first other, if_pos known, read]
  rfl

theorem readsAs_bool (b : Bool) : ReadsAs (Daemon.Config.boolChars b) (.boolean b) := by
  cases b
  · exact ⟨fun _ => rfl, 'f', _, rfl, by decide⟩
  · exact ⟨fun _ => rfl, 't', _, rfl, by decide⟩

theorem readsAs_decimal {n : Nat} (small : (n : Int) ≤ Int64.maxValue.toInt) :
    ReadsAs (Numeral.decimal n) (.integer n) := by
  obtain ⟨c, front, spelled, digit⟩ := Numeral.decimal_first n
  have first : c ∉ ['"', '\'', 't', 'f', ' ', '\t', '[', '\x7b'] := Numeral.not_mem_of_all digit rfl
  simp only [List.mem_cons, List.not_mem_nil, or_false, not_or] at first
  refine ⟨fun rest => ?_, c, front, spelled, by simp [first]⟩
  have digits : ∀ c ∈ Numeral.decimal n, Numeral.isDigit 10 c = true :=
    fun _ => Numeral.isDigit_of_mem_decimal
  have noMoment := readMoment_digits digits rest
  have read := readNumber_decimal small rest
  rw [spelled, List.cons_append] at noMoment read ⊢
  rw [readScalar_first (by simp [first]), if_neg (by simp [isQuote, first]), noMoment, read]
  rfl

/-- A key that needs no quotes. -/
structure BareKey (key : String) : Prop where
  given : key.toList.isEmpty = false
  plain : key.toList.all isKeyChar = true

/-- What begins a bare key begins nothing else that may stand on a line. -/
theorem BareKey.first {key : String} (bare : BareKey key) :
    ∃ c front, key.toList = c :: front ∧ isBlank c = false ∧ isQuote c = false ∧
    c ≠ '[' ∧ ¬ (c = '\n' ∨ c = '\r' ∨ c = '#') ∧ c ≠ '\uFEFF' := by
  obtain ⟨c, front, spelled⟩ := List.exists_cons_of_ne_nil (List.isEmpty_eq_false_iff.1 bare.given)
  have plain : isKeyChar c = true := List.all_eq_true.1 bare.plain c (spelled ▸ List.mem_cons_self)
  have first : c ∉ [' ', '\t', '"', '\'', '[', '\n', '\r', '#', '\uFEFF'] :=
    Numeral.not_mem_of_all plain rfl
  simp only [List.mem_cons, List.not_mem_nil, or_false, not_or] at first
  exact ⟨c, front, spelled, by simp [isBlank, first], by simp [isQuote, first], by
      simp [first], by simp [first], by simp [first]⟩

theorem skipBlanks_first (inside : isBlank c = false) (rest : List Char) :
    skipBlanks (c :: rest) = c :: rest := by
  rw [skipBlanks, List.dropWhile_cons_of_neg (by simp [inside])]

theorem readKey_bare {key : String} (bare : BareKey key) (rest : List Char) :
    readKey (key.toList ++ ' ' :: '=' :: rest) = some ([key], '=' :: rest) := by
  have part : readKeyPart (key.toList ++ ' ' :: '=' :: rest) = some (key, ' ' :: '=' :: rest) := by
    have plain : ∀ c ∈ key.toList, isKeyChar c = true := List.all_eq_true.1 bare.plain
    have name : (key.toList ++ ' ' :: '=' :: rest).takeWhile isKeyChar = key.toList := by
      rw [List.takeWhile_append_of_pos plain]
      exact List.append_nil _
    have after : (key.toList ++ ' ' :: '=' :: rest).dropWhile isKeyChar = ' ' :: '=' :: rest :=
      List.dropWhile_append_of_pos plain
    obtain ⟨c, front, spelled, inside, unquoted, -⟩ := bare.first
    have input : key.toList ++ ' ' :: '=' :: rest = c :: (front ++ ' ' :: '=' :: rest) := by
      rw [spelled]; rfl
    unfold readKeyPart
    rw [input] at name after ⊢
    simp only [unquoted, name, after, bare.given, String.ofList_toList]
    rfl
  obtain ⟨c, front, spelled, inside, -⟩ := bare.first
  have start : skipBlanks (key.toList ++ ' ' :: '=' :: rest) =
      key.toList ++ ' ' :: '=' :: rest := by
    rw [spelled]
    exact skipBlanks_first inside _
  have parts : readKeyParts (key.toList ++ ' ' :: '=' :: rest) = some ([key], '=' :: rest) := by
    rw [readKeyParts, start, part]
    rfl
  rw [readKey, parts]
  rfl

theorem readValue_scalar {depth : Nat} {spelled : List Char}
    {value : Value} (reads : ReadsAs spelled value) (rest : List Char) :
    readValue depth (spelled ++ '\n' :: rest) = some (value, '\n' :: rest) := by
  have read := reads.scalar rest
  obtain ⟨c, front, spelled, first⟩ := reads.first
  simp only [List.mem_cons, List.not_mem_nil, or_false, not_or] at first
  rw [spelled, List.cons_append] at read ⊢
  rw [readValue.eq_def]
  split
  next same => exact absurd (List.cons.inj same).1 first.2.2.1
  next same => exact absurd (List.cons.inj same).1 first.2.2.2
  next => exact read

theorem addPath_fresh {key : String} {entries : Entries} (fresh : entries.lookup key = none)
    (value : Value) :
    addPath [key] value .header entries = some (.header, entries ++ [(key, value)]) := by
  simp [addPath, changeAt, addKey, fresh]

theorem readLine_line {key : String} {spelled : List Char} {value : Value}
    {entries : Entries} (bare : BareKey key) (fresh : entries.lookup key = none)
    (reads : ReadsAs spelled value) (rest : List Char) :
    readLine { entries } (Daemon.Config.line key spelled ++ rest) =
      some ({ entries := entries ++ [(key, value)] }, rest) := by
  have input : Daemon.Config.line key spelled ++ rest =
      key.toList ++ ' ' :: '=' :: ' ' :: (spelled ++ '\n' :: rest) := by
    simp [Daemon.Config.line]
  have pair : readPair (readValue (depthLimit - 1)) (key.toList ++
    ' ' :: '=' :: ' ' :: (spelled ++ '\n' :: rest)) = some ([key], value, '\n' :: rest) := by
    have space : skipBlanks (' ' :: (spelled ++ '\n' :: rest)) = spelled ++ '\n' :: rest := by
      obtain ⟨c, front, rfl, first⟩ := reads.first
      simp only [List.mem_cons, List.not_mem_nil, or_false, not_or] at first
      have inside : isBlank c = false := by simp [isBlank, first]
      exact skipBlanks_first inside _
    simp [readPair, readKey_bare bare, readChar, space, readValue_scalar reads]
  have ended : readLineRest ('\n' :: rest) = some rest := rfl
  have added : Progress.change { entries } [] (addPath [key] value) =
      some (entries ++ [(key, value)]) := by
    simp [Progress.change, changeAt, addPath_fresh fresh]
  obtain ⟨c, front, begun, _, _, noHeader, _⟩ := bare.first
  rw [input]
  rw [begun, List.cons_append] at pair ⊢
  rw [readLine.eq_def]
  split
  next same => exact absurd (List.cons.inj same).1 noHeader
  next same => exact absurd (List.cons.inj same).1 noHeader
  next => simp [pair, ended, added]

theorem readLines_line {key : String} {spelled : List Char} {value : Value}
    {entries : Entries} (bare : BareKey key) (fresh : entries.lookup key = none)
    (reads : ReadsAs spelled value) (rest : List Char) :
    readLines { entries } (Daemon.Config.line key spelled ++ rest) =
      readLines { entries := entries ++ [(key, value)] } rest := by
  have line := readLine_line bare fresh reads rest
  have shorter : rest.length < (Daemon.Config.line key spelled ++ rest).length := by
    simp [Daemon.Config.line]
    omega
  obtain ⟨c, front, begun, inside, _, _, other, _⟩ := bare.first
  have input : Daemon.Config.line key spelled ++ rest =
      c :: (front ++ [' ', '=', ' '] ++ spelled ++ ['\n'] ++ rest) := by
    rw [Daemon.Config.line, begun]
    rfl
  rw [input] at line shorter ⊢
  rw [readLines, skipBlanks_first inside]
  simp only [if_neg other, line, if_pos shorter]

theorem parse?_line {key : String} (bare : BareKey key) (spelled rest : List Char) :
    parse? (String.ofList (Daemon.Config.line key spelled ++ rest)) =
      readLines {} (Daemon.Config.line key spelled ++ rest) := by
  obtain ⟨c, front, begun, _, _, _, _, unmarked⟩ := bare.first
  rw [parse?, String.toList_ofList, Daemon.Config.line, begun]
  split
  next same => exact absurd (List.cons.inj same).1 unmarked
  next => rfl

end TableCatalog.Toml

namespace TableCatalog.Daemon.Config

/-- What a saved configuration holds. -/
def saved (config : Config) : Toml.Entries :=
  [("host", .text config.host), ("port", .integer config.port.toNat),
    ("db_path", .text config.dbPath),
  ("memory_mode", .boolean config.memoryMode),
  ("stream_buffer", .integer config.streamBuffer.toNat),
  ("copy_sd_location", .boolean config.copySdLocation)]

theorem readNat_natCast {bound n : Nat} (small : n < bound) :
    readNat bound (.integer n) = some n := by
  have inside : 0 ≤ (n : Int) ∧ (n : Int) < bound := ⟨Int.natCast_nonneg n, Int.ofNat_lt.2 small⟩
  rw [readNat, if_pos inside, Int.toNat_natCast]

theorem ofEntries_saved (config : Config) : ofEntries config.saved = some config := by
  have port : readNat UInt16.size (.integer config.port.toNat) = some config.port.toNat :=
    readNat_natCast config.port.toNat_lt
  have streamBuffer : readNat UInt64.size (.integer config.streamBuffer.toNat) =
    some config.streamBuffer.toNat := readNat_natCast config.streamBuffer.toNat_lt
  simp [ofEntries, saved, setting, List.lookup_cons, readText, readBool, port, streamBuffer]

theorem parse?_toToml {config : Config} {text : String} (written : config.toToml = some text) :
    Toml.parse? text = some config.saved := by
  unfold toToml at written
  split at written
  next small =>
    have port : (config.port.toNat : Int) ≤ Int64.maxValue.toInt := by
      have := config.port.toNat_lt
      rw [Int64.toInt_maxValue]
      omega
    cases written
    simp only [List.append_assoc]
    rw [Toml.parse?_line ⟨rfl, rfl⟩, Toml.readLines_line ⟨rfl, rfl⟩ rfl (Toml.readsAs_text _),
      Toml.readLines_line ⟨rfl, rfl⟩ rfl (Toml.readsAs_decimal port),
      Toml.readLines_line ⟨rfl, rfl⟩ rfl (Toml.readsAs_text _),
      Toml.readLines_line ⟨rfl, rfl⟩ rfl (Toml.readsAs_bool _),
      Toml.readLines_line ⟨rfl, rfl⟩ rfl (Toml.readsAs_decimal small),
      ← List.append_nil (line "copy_sd_location" _),
      Toml.readLines_line ⟨rfl, rfl⟩ rfl (Toml.readsAs_bool _), Toml.readLines]
    simp [Toml.skipBlanks, saved]
  next => cases written

/-- A configuration that is saved is loaded as it was. It is
saved whenever its number fits in 64 bits with a sign. -/
theorem saved_config_loads (config : Config) :
    (config.streamBuffer.toNat ≤ 9223372036854775807 → ∃ text, config.toToml = some text) ∧
    ∀ text, config.toToml = some text → ofToml? text = some config := by
  refine ⟨fun fits => ?_, fun text written => ?_⟩
  · have small : (config.streamBuffer.toNat : Int) ≤ Int64.maxValue.toInt := by
      rw [Int64.toInt_maxValue]
      omega
    exact ⟨_, if_pos small⟩
  · rw [ofToml?, parse?_toToml written, Option.bind_some, ofEntries_saved]

def awkward : Config :=
  { host := "'''\"\\", dbPath := "\n\"\"\"\r'", streamBuffer := 9223372036854775807 }

theorem saved_config_loads_awkward :
    awkward.streamBuffer.toNat ≤ 9223372036854775807 ∧ ∃ text, awkward.toToml = some text ∧
    ofToml? text = some awkward := by
  have fits : awkward.streamBuffer.toNat ≤ 9223372036854775807 := by simp [awkward]
  obtain ⟨text, written⟩ := (saved_config_loads awkward).1 fits
  exact ⟨fits, text, written, (saved_config_loads awkward).2 text written⟩

end TableCatalog.Daemon.Config

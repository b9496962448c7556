import Mathlib.Tactic.SplitIfs
import TableCatalog.Proofs.NumeralDigits
import TableCatalog.Toml.Text

/-! A text is read back from the form it is written in. Between single quotes it stands as it is.
Between double quotes a reader takes each escape for the character it was written for, and on
several lines up to two quotes in a row are told from the closing three because whatever comes next
begins with something else. -/

namespace TableCatalog.Toml

variable {quote c : Char} {row : Nat} {text body rest : List Char}

/-- A reader takes what is spelled for one character, whatever follows. -/
def TakenFor (read : List Char → Option (List Char × List Char))
    (spelled : List Char) (c : Char) : Prop :=
  ∀ rest, read (spelled ++ rest) = prepend (some c) (read rest)

theorem isPlain_of_not_control (uncontrolled : isControl c = false) (inLine : c ≠ '\n') :
    isPlain c = true := by
  simp [isControl, isPlain, inLine] at uncontrolled ⊢
  omega

section Plain

variable (other : c ≠ quote) (unescaped : (c == '\\' && quote == '"') = false)
include other unescaped

theorem readShort_plain (plain : isPlain c = true) : TakenFor (readShort quote) [c] c := by
  intro rest
  rw [List.singleton_append, readShort.eq_def]
  simp [other, unescaped, plain]

theorem readLong_plain (plain : isPlain c = true ∨ c = '\n') :
    TakenFor (readLong quote false) [c] c := by
  intro rest
  rw [List.singleton_append, readLong.eq_def]
  rcases plain with plain | rfl
  · have inLine : c ≠ '\n' := by
      rintro rfl
      cases plain
    have noReturn : c ≠ '\r' := by
      rintro rfl
      cases plain
    simp [inLine, noReturn, other, unescaped, plain]
  · simp

end Plain

theorem numbered?_control (control : isControl c = true) :
    numbered? ((Numeral.hex4 c.toNat).map Char.toUpper) = some c := by
  have small : c.toNat < 65536 := by
    simp [isControl] at control
    omega
  have valid : c.toNat.isValidChar := c.valid
  simp only [numbered?, Numeral.value?_hex4_toUpper small, if_pos valid, Char.ofNat_toNat]

/-- The letters that name characters behind a backslash. -/
def letters : List (Char × Char) :=
  [('b', '\x08'), ('t', '\t'), ('n', '\n'), ('f', '\x0c'), ('r', '\r'), ('"', '"'), ('\\', '\\')]

/-- The escapes of one letter, and the one by number. -/
inductive Escapes (c : Char) : List Char → Prop
  | named {e : Char} (named : (e, c) ∈ letters) : Escapes c ['\\', e]
  | numbered (control : isControl c = true) :
      Escapes c ('\\' :: 'u' :: (Numeral.hex4 c.toNat).map Char.toUpper)

namespace Escapes

variable {spelled : List Char}

theorem short (escapes : Escapes c spelled) : TakenFor (readShort '"') spelled c := by
  intro rest
  cases escapes with
  | numbered control =>
    have value := numbered?_control control
    rw [Numeral.hex4] at value ⊢
    simp only [List.map_cons, List.map_nil] at value
    rw [readShort.eq_def]
    simp [value]
  | named named =>
    simp only [letters, List.mem_cons, Prod.mk.injEq, List.not_mem_nil, or_false] at named
    rcases named with ⟨rfl, rfl⟩ | ⟨rfl, rfl⟩ | ⟨rfl, rfl⟩ |
      ⟨rfl, rfl⟩ | ⟨rfl, rfl⟩ | ⟨rfl, rfl⟩ | ⟨rfl, rfl⟩ <;> rfl

theorem long (escapes : Escapes c spelled) : TakenFor (readLong '"' false) spelled c := by
  intro rest
  cases escapes with
  | numbered control =>
    have value := numbered?_control control
    have midline (more : List Char) : opensLine ('u' :: more) = false := rfl
    rw [Numeral.hex4] at value ⊢
    simp only [List.map_cons, List.map_nil] at value
    rw [readLong.eq_def]
    simp [value, midline]
  | named named =>
    simp only [letters, List.mem_cons, Prod.mk.injEq, List.not_mem_nil, or_false] at named
    rcases named with ⟨rfl, rfl⟩ | ⟨rfl, rfl⟩ | ⟨rfl, rfl⟩ |
      ⟨rfl, rfl⟩ | ⟨rfl, rfl⟩ | ⟨rfl, rfl⟩ | ⟨rfl, rfl⟩ <;> rfl

theorem backslash (escapes : Escapes c spelled) : ∃ tail, spelled = '\\' :: tail := by
  cases escapes <;> exact ⟨_, rfl⟩

end Escapes

/-- A character other than a quote stands for itself between
double quotes, if it may, or is escaped. -/
theorem escapeChar_cases (long : Bool) (c : Char) : Escapes c (escapeChar long c) ∨
    escapeChar long c = [c] ∧ c ≠ '\\' ∧ (isPlain c = true ∨ long = true ∧ c = '\n') := by
  unfold escapeChar
  split
  next newline =>
    split
    next several => exact .inr ⟨by rw [newline], by rw [newline]; decide, .inr ⟨several, newline⟩⟩
    next => exact .inl (.named (by rw [newline]; decide))
  next inLine =>
    split_ifs with backspace tab feed carriage backslash control
    · exact .inl (.named (by rw [backspace]; decide))
    · exact .inl (.named (by rw [tab]; decide))
    · exact .inl (.named (by rw [feed]; decide))
    · exact .inl (.named (by rw [carriage]; decide))
    · exact .inl (.named (by rw [backslash]; decide))
    · exact .inl (.numbered control)
    · exact .inr ⟨rfl, backslash,
        .inl (isPlain_of_not_control (Bool.eq_false_iff.2 control) inLine)⟩

theorem readShort_close (quote : Char) (rest : List Char) :
    readShort quote (quote :: rest) = some ([], rest) := by
  rw [readShort.eq_def]
  exact if_pos rfl

theorem readShort_escape (row : Nat) (text rest : List Char) :
    readShort '"' (escape false row text ++ '"' :: rest) = some (text, rest) := by
  induction text generalizing row with
  | nil => exact readShort_close '"' rest
  | cons c text ih =>
    rw [escape]
    split
    next double =>
      have named : Escapes c ['\\', '"'] := .named (by rw [double]; decide)
      rw [if_neg (by simp)]
      exact (named.short _).trans (congrArg (prepend (some c)) (ih 0))
    next other =>
      have taken : TakenFor (readShort '"') (escapeChar false c) c := by
        rcases escapeChar_cases false c with escapes | ⟨same, noBackslash, plain | ⟨several, _⟩⟩
        · exact escapes.short
        · rw [same]
          exact readShort_plain other (by simp [noBackslash]) plain
        · cases several
      rw [List.append_assoc, taken, ih]
      rfl

theorem readShort_literal (single : '\'' ∉ text) (plain : ∀ c ∈ text, isPlain c = true)
    (rest : List Char) :
    readShort '\'' (text ++ '\'' :: rest) = some (text, rest) := by
  induction text with
  | nil => exact readShort_close '\'' rest
  | cons c text ih =>
    obtain ⟨other, single⟩ := not_or.1 (mt List.mem_cons.2 single)
    obtain ⟨first, plain⟩ := List.forall_mem_cons.1 plain
    have taken := readShort_plain (Ne.symm other) (Bool.and_false _) first
    exact (taken _).trans (congrArg (prepend (some c)) (ih single plain))

/-- What spells a text between three quotes, of which so many have just been passed. At most two
stand in a row, and whatever is taken for another character begins with something else. -/
inductive SpellsLong (quote : Char) : Nat → List Char → List Char → Prop
  | nil {row : Nat} : SpellsLong quote row [] []
  | quote {row : Nat} {body text : List Char} (few : row < 2)
      (spells : SpellsLong quote (row + 1) body text) :
    SpellsLong quote row (quote :: body) (quote :: text)
  | char {row : Nat} {c d : Char} {spelled body text : List Char}
      (other : d ≠ quote) (taken : TakenFor (readLong quote false) (d :: spelled) c)
      (spells : SpellsLong quote 0 body text) :
      SpellsLong quote row (d :: spelled ++ body) (c :: text)

/-- A quote that two more do not follow stands for itself. -/
theorem readLong_quote (known : isQuote quote = true)
    (apart : ∀ more, rest ≠ quote :: quote :: more) :
    readLong quote false (quote :: rest) = prepend (some quote) (readLong quote false rest) := by
  have inLine : quote ≠ '\n' ∧ quote ≠ '\r' := by
    constructor <;> rintro rfl <;> cases known
  rw [readLong.eq_def]
  match rest, apart with
  | [], _ => simp [inLine]
  | [d], _ => simp [inLine]
  | d :: e :: more, apart =>
    have apart : ¬ (d = quote ∧ e = quote) :=
      fun ⟨first, second⟩ => apart more (by rw [first, second])
    simp [inLine, apart]

theorem readLong_close (known : isQuote quote = true) (rest : List Char) :
    readLong quote false (quote :: quote :: quote :: rest) = some (readLastQuotes quote rest) := by
  have inLine : quote ≠ '\n' ∧ quote ≠ '\r' := by
    constructor <;> rintro rfl <;> cases known
  rw [readLong.eq_def]
  simp [inLine]

theorem SpellsLong.read (known : isQuote quote = true) (spells : SpellsLong quote row body text)
    (rest : List Char) :
    readLong quote false (body ++ quote :: quote :: quote :: '\n' :: rest) =
      some (text, '\n' :: rest) := by
  have newline : '\n' ≠ quote := by
    rintro rfl
    cases known
  induction spells with
  | nil =>
    rw [List.nil_append, readLong_close known]
    cases rest <;> simp [readLastQuotes, newline]
  | char other taken _ ih => rw [List.append_assoc, taken, ih]; rfl
  | quote few spells ih =>
    -- Up to two quotes in front of the closing three are counted from the first of the five.
    cases spells with
    | nil =>
      rw [List.singleton_append, readLong_close known]
      simp [readLastQuotes, newline]
    | @char _ c d spelled body text other taken spells =>
      have apart : ∀ more, d :: spelled ++ body ++ quote :: quote :: quote :: '\n' :: rest ≠
        quote :: quote :: more := fun _ same => other (List.cons.inj same).1
      rw [List.cons_append, readLong_quote known apart, ih]
      rfl
    | quote fewer spells =>
      cases spells with
      | nil =>
        rw [List.cons_append, List.singleton_append, readLong_close known]
        simp [readLastQuotes]
      | quote => omega
      | @char _ c d spelled body text other taken spells =>
        have apart : ∀ more, quote :: (d :: spelled ++ body) ++
            quote :: quote :: quote :: '\n' :: rest ≠ quote :: quote :: more :=
          fun _ same => other (List.cons.inj (List.cons.inj same).2).1
        rw [List.cons_append, readLong_quote known apart, ih]
        rfl

theorem spellsLong_escape (row : Nat) (text : List Char) :
    SpellsLong '"' row (escape true row text) text := by
  induction text generalizing row with
  | nil => exact .nil
  | cons c text ih =>
    rw [escape]
    split
    next double =>
      have two : (if true = true then 2 else 0) = 2 := rfl
      rw [double, two]
      split
      next few => exact .quote few (ih (row + 1))
      next => exact .char (by decide) (Escapes.named (by decide : ('"', '"') ∈ letters)).long (ih 0)
    next other =>
      rcases escapeChar_cases true c with escapes | ⟨same, noBackslash, plain⟩
      · obtain ⟨tail, spelled⟩ := escapes.backslash
        have taken := escapes.long
        rw [spelled] at taken ⊢
        exact .char (by decide) taken (ih 0)
      · rw [same]
        exact .char other (readLong_plain other (by simp [noBackslash]) (plain.imp_right And.right))
          (ih 0)

theorem le_longestRow (c : Char) (row : Nat) (text : List Char) : row ≤ longestRow c row text := by
  induction text generalizing row with
  | nil => exact Nat.le_refl row
  | cons d text ih =>
    rw [longestRow]
    split
    next => exact Nat.le_of_succ_le (ih (row + 1))
    next => exact Nat.le_max_left ..

theorem spellsLong_literal (uncontrolled : ∀ c ∈ text, isControl c = false)
    (few : longestRow '\'' row text ≤ 2) : SpellsLong '\'' row text text := by
  induction text generalizing row with
  | nil => exact .nil
  | cons c text ih =>
    obtain ⟨first, uncontrolled⟩ := List.forall_mem_cons.1 uncontrolled
    rw [longestRow] at few
    split at few
    next single =>
      rw [single]
      exact .quote (Nat.le_trans (le_longestRow '\'' (row + 1) text) few) (ih uncontrolled few)
    next other =>
      have plain : isPlain c = true ∨ c = '\n' :=
        Decidable.or_iff_not_imp_right.2 (isPlain_of_not_control first)
      exact .char other (readLong_plain other (Bool.and_false _) plain)
        (ih uncontrolled (Nat.le_trans (Nat.le_max_right ..) few))

theorem longestRow_pos (held : c ∈ text) : 0 < longestRow c row text := by
  induction text generalizing row with
  | nil => cases held
  | cons d text ih =>
    rw [longestRow]
    split
    next => exact Nat.lt_of_lt_of_le row.succ_pos (le_longestRow c (row + 1) text)
    next other =>
      have later : c ∈ text := (List.mem_cons.1 held).resolve_left (Ne.symm other)
      exact Nat.lt_of_lt_of_le (ih later) (Nat.le_max_right ..)

theorem readText_short (known : isQuote quote = true) (apart : ∀ more, body ≠ quote :: more)
    (rest : List Char) :
    readText (quote :: (body ++ quote :: '\n' :: rest)) =
      readShort quote (body ++ quote :: '\n' :: rest) := by
  have newline : '\n' ≠ quote := by
    rintro rfl
    cases known
  match body, apart with
  | [], _ => simp [readText, readLineText, newline, known]
  | [d], apart =>
    have other : d ≠ quote := fun same => apart [] (by rw [same])
    simp [readText, readLineText, other, known]
  | d :: e :: more, apart =>
    have other : d ≠ quote := fun same => apart (e :: more) (by rw [same])
    simp [readText, readLineText, other, known]

theorem readText_long (known : isQuote quote = true) (spells : SpellsLong quote 0 body text)
    (inLine : '\n' ∉ text → readLineEnd (body ++ quote :: quote :: quote :: '\n' :: rest) = none) :
    readText (opening quote text ++ body ++ [quote, quote, quote] ++ '\n' :: rest) =
      some (text, '\n' :: rest) := by
  have input : (readLineEnd ((if text.contains '\n' then ['\n'] else []) ++
    (body ++ quote :: quote :: quote :: '\n' :: rest))).getD ((if text.contains '\n'
      then ['\n'] else []) ++ (body ++ quote :: quote :: quote :: '\n' :: rest)) =
        body ++ quote :: quote :: quote :: '\n' :: rest := by
    split
    next => rfl
    next none =>
      rw [List.nil_append, inLine (by simpa using none)]
      rfl
  simp only [opening, List.append_assoc, List.cons_append, List.nil_append, readText]
  rw [if_pos (by simp [known]), input]
  exact spells.read known rest

theorem readLineEnd_plain (plain : isPlain c = true) (rest : List Char) :
    readLineEnd (c :: rest) = none := by
  have inLine : c ≠ '\n' ∧ c ≠ '\r' := by
    constructor <;> rintro rfl <;> cases plain
  rw [readLineEnd.eq_def]
  split
  next same => exact absurd (List.cons.inj same).1 inLine.1
  next same => exact absurd (List.cons.inj same).1 inLine.2
  next => rfl

/-- What stands between double quotes begins with a backslash, or with what the text begins with. -/
theorem escape_first (long : Bool) (row : Nat) (c : Char) (text : List Char) :
    ∃ d tail, escape long row (c :: text) = d :: tail ∧
    (d = '\\' ∨ d = c ∧ (c = '"' → long = true) ∧ (isPlain c = true ∨ c = '\n')) := by
  rw [escape]
  split
  next double =>
    by_cases few : row < if long then 2 else 0
    · have several : long = true := by
        cases long with
        | true => rfl
        | false => exact absurd few (Nat.not_lt_zero row)
      exact ⟨'"', escape long (row + 1) text, if_pos few,
        .inr ⟨double.symm, fun _ => several, .inl (double ▸ rfl)⟩⟩
    · exact ⟨'\\', '"' :: escape long 0 text, if_neg few, .inl rfl⟩
  next other =>
    rcases escapeChar_cases long c with escapes | ⟨same, _, plain⟩
    · obtain ⟨tail, spelled⟩ := escapes.backslash
      exact ⟨'\\', tail ++ escape long 0 text, by rw [spelled]; rfl, .inl rfl⟩
    · exact ⟨c, escape long 0 text, by rw [same]; rfl,
        .inr ⟨rfl, fun double => absurd double other, plain.imp_right And.right⟩⟩

theorem formOf_literal (form : formOf text = .literal) :
    (∀ c ∈ text, isControl c = false) ∧ '\n' ∉ text ∧ '\'' ∉ text := by
  simp only [formOf] at form
  split_ifs at form with _ fits
  simp only [Bool.and_eq_true, Bool.not_eq_true', List.any_eq_false,
    List.contains_eq_mem, decide_eq_false_iff_not, beq_iff_eq] at fits
  obtain ⟨⟨uncontrolled, inLine⟩, none⟩ := fits
  exact ⟨fun c held => Bool.eq_false_iff.2 (uncontrolled c held),
    inLine, fun held => Nat.lt_irrefl 0 (none ▸ longestRow_pos held)⟩

theorem formOf_longLiteral (form : formOf text = .longLiteral) :
    (∀ c ∈ text, isControl c = false) ∧ longestRow '\'' 0 text ≤ 2 := by
  simp only [formOf] at form
  split_ifs at form with _ _ _ fits
  simp only [Bool.and_eq_true, Bool.not_eq_true', List.any_eq_false, decide_eq_true_eq] at fits
  exact ⟨fun c held => Bool.eq_false_iff.2 (fits.1 c held), fits.2⟩

theorem readText_basic (text rest : List Char) :
    readText ('"' :: (escape false 0 text ++ '"' :: '\n' :: rest)) = some (text, '\n' :: rest) := by
  have apart : ∀ more, escape false 0 text ≠ '"' :: more := by
    intro more same
    cases text with
    | nil => cases same
    | cons c text =>
      obtain ⟨d, tail, spelled, first⟩ := escape_first false 0 c text
      obtain ⟨rfl, -⟩ := List.cons.inj (spelled.symm.trans same)
      rcases first with backslash | ⟨double, long, -⟩
      · cases backslash
      · cases long double.symm
  rw [readText_short rfl apart, readShort_escape]

theorem readText_literal (uncontrolled : ∀ c ∈ text, isControl c = false)
    (inLine : '\n' ∉ text) (single : '\'' ∉ text) (rest : List Char) :
    readText ('\'' :: (text ++ '\'' :: '\n' :: rest)) = some (text, '\n' :: rest) := by
  have plain : ∀ c ∈ text, isPlain c = true := fun c held =>
    isPlain_of_not_control (uncontrolled c held) fun newline => inLine (newline ▸ held)
  have apart : ∀ more, text ≠ '\'' :: more := fun more same => single (same ▸ List.mem_cons_self)
  rw [readText_short rfl apart, readShort_literal single plain]

theorem readText_longBasic (text rest : List Char) :
    readText (opening '"' text ++ escape true 0 text ++ ['"', '"', '"'] ++ '\n' :: rest) =
      some (text, '\n' :: rest) := by
  refine readText_long rfl (spellsLong_escape 0 text) fun inLine => ?_
  cases text with
  | nil => exact readLineEnd_plain rfl _
  | cons c text =>
    obtain ⟨d, tail, spelled, first⟩ := escape_first true 0 c text
    have plain : isPlain d = true := by
      rcases first with rfl | ⟨rfl, -, plain | rfl⟩
      · rfl
      · exact plain
      · exact absurd List.mem_cons_self inLine
    rw [spelled]
    exact readLineEnd_plain plain _

theorem readText_longLiteral (uncontrolled : ∀ c ∈ text, isControl c = false)
    (few : longestRow '\'' 0 text ≤ 2) (rest : List Char) :
    readText (opening '\'' text ++ text ++ ['\'', '\'', '\''] ++ '\n' :: rest) =
      some (text, '\n' :: rest) := by
  refine readText_long rfl (spellsLong_literal uncontrolled few) fun inLine => ?_
  cases text with
  | nil => exact readLineEnd_plain rfl _
  | cons c text =>
    have newline : c ≠ '\n' := fun same => inLine (same ▸ List.mem_cons_self)
    exact readLineEnd_plain (isPlain_of_not_control (uncontrolled c List.mem_cons_self) newline) _

theorem readText_writeText (text rest : List Char) :
    readText (writeText text ++ '\n' :: rest) = some (text, '\n' :: rest) := by
  unfold writeText
  split
  next =>
    rw [List.cons_append, List.append_assoc]
    exact readText_basic text rest
  next form =>
    obtain ⟨uncontrolled, inLine, single⟩ := formOf_literal form
    rw [List.cons_append, List.append_assoc]
    exact readText_literal uncontrolled inLine single rest
  next => exact readText_longBasic text rest
  next form =>
    obtain ⟨uncontrolled, few⟩ := formOf_longLiteral form
    exact readText_longLiteral uncontrolled few rest

end TableCatalog.Toml

import TableCatalog.Wire.Message

/-! A reader that succeeds has not looked at what follows the thing read: the same thing is read off
the front of a longer string. So a record that was read whole can be read on, and whatever is put
behind its bytes is read as further fields of it. -/

namespace TableCatalog.Wire

/-- What is read off the front is read there whatever follows it. -/
def Steady (read : Bytes → Reading α) : Prop :=
  ∀ bytes value rest, read bytes = .ok (value, rest) →
  ∀ more, read (bytes ++ more) = .ok (value, rest ++ more)

/-- What is passed over is passed over whatever follows it. -/
def SteadySkip (skip : Bytes → Except DecodeError Bytes) : Prop :=
  ∀ bytes rest, skip bytes = .ok rest → ∀ more, skip (bytes ++ more) = .ok (rest ++ more)

/-- However a field is taken in, what follows it makes no difference. -/
def SteadyMerge (merge : Merge α) : Prop := ∀ record key, Steady (merge record key)

variable {read : Bytes → Reading α} {merge : Merge α} {record after : α}
  {key : Key} {budget left : Nat} {bytes rest : Bytes}

theorem steady_ok (value : α) : Steady fun bytes => .ok (value, bytes) := by
  intro bytes other rest found more
  cases found
  rfl

theorem steady_defective (defect : Defect) : Steady fun _ => (defective defect : Reading α) := by
  intro bytes value rest found
  cases found

namespace Steady

theorem bind (steady : Steady read) {next : α × Bytes → Reading β}
    (behind : ∀ value, Steady fun bytes => next (value, bytes)) :
    Steady fun bytes => (read bytes).bind next := by
  intro bytes value rest found more
  cases first : read bytes with
  | error defect =>
    simp only [first] at found
    cases found
  | ok front =>
    simp only [first] at found
    simp only [steady bytes front.1 front.2 first more]
    exact behind front.1 front.2 value rest found more

theorem map (steady : Steady read) (give : α → β) :
    Steady fun bytes => (read bytes).map fun found => (give found.1, found.2) := by
  have steps : Steady fun bytes => (read bytes).bind fun found => .ok (give found.1, found.2) :=
    steady.bind fun value => steady_ok (give value)
  exact steps

theorem ite {other : Bytes → Reading α} {chosen : Prop} [Decidable chosen]
    (first : Steady read) (second : Steady other) :
    Steady fun bytes => if chosen then read bytes else other bytes := by
  by_cases holds : chosen
  · simpa only [if_pos holds] using first
  · simpa only [if_neg holds] using second

theorem into (steady : Steady read) (field : String) (set : α → β) :
    Steady fun bytes => Wire.into field set (read bytes) := by
  intro bytes value rest found more
  cases first : read bytes with
  | error defect =>
    simp only [first] at found
    cases found
  | ok front =>
    simp only [first] at found
    cases found
    simp only [steady bytes front.1 front.2 first more]
    rfl

theorem expect (steady : Steady read) (form : Form) (key : Key) :
    Steady (Wire.expect form key read) := by
  unfold Wire.expect
  split
  · exact steady
  · exact steady_defective _

/-- What is read does not matter where it is passed over. -/
theorem skip (steady : Steady read) : SteadySkip fun bytes => (read bytes).map (·.2) := by
  intro bytes rest found more
  cases first : read bytes with
  | error defect =>
    simp only [first] at found
    cases found
  | ok front =>
    simp only [first] at found
    cases found
    simp only [steady bytes front.1 front.2 first more]
    rfl

end Steady

theorem Varint.readFrom_append {index n : Nat} (found : readFrom index bytes = some (n, rest))
    (more : Bytes) :
    readFrom index (bytes ++ more) = some (n, rest ++ more) := by
  induction bytes generalizing index n with
  | nil => cases found
  | cons byte tail ih =>
    rw [List.cons_append, readFrom]
    rw [readFrom] at found
    split at found
    next last =>
      rw [if_pos last]
      split at found
      · cases found
      next fits =>
        cases found
        rw [if_neg fits]
    next goesOn =>
      rw [if_neg goesOn]
      split at found
      · cases found
      next early =>
        obtain ⟨⟨high, behind⟩, deeper, same⟩ := Option.map_eq_some_iff.1 found
        cases same
        rw [if_neg early, ih deeper]
        rfl

theorem steady_readNumber : Steady readNumber := by
  intro bytes value rest found more
  unfold readNumber Varint.read at found ⊢
  cases first : Varint.readFrom 0 bytes with
  | none =>
    rw [first] at found
    cases found
  | some front =>
    rw [first] at found
    cases found
    rw [Varint.readFrom_append first more]
    rfl

theorem steady_readKey : Steady readKey := by
  refine steady_readNumber.bind fun word => ?_
  refine .ite (steady_defective _) ?_
  cases Form.ofCode? (word.toNat % 8) with
  | none => exact steady_defective _
  | some form => exact .ite (steady_defective _) (steady_ok _)

theorem steady_readBytes (size : Nat) : Steady (readBytes size) := by
  intro bytes value rest found more
  unfold readBytes at found ⊢
  split at found
  · cases found
  next room =>
    cases found
    have longer : ¬ (bytes ++ more).length < size := by
      rw [List.length_append]
      omega
    rw [if_neg longer, List.take_append_of_le_length (by omega),
      List.drop_append_of_le_length (by omega)]

theorem steady_readDelimited : Steady readDelimited :=
  steady_readNumber.bind fun size => steady_readBytes size.toNat

theorem steady_readText (key : Key) : Steady (readText key) := by
  have body : Steady readText.readBody := by
    refine steady_readDelimited.bind fun body => ?_
    cases text : Bytes.text? body with
    | none => simpa only [text] using steady_defective _
    | some read => simpa only [text] using! steady_ok read
  exact body.expect .delimited key

theorem steady_readUInt64 (key : Key) : Steady (readUInt64 key) :=
  steady_readNumber.expect .varint key

theorem steady_readInt32 (key : Key) : Steady (readInt32 key) :=
  (steady_readUInt64 key).map fun word => word.toInt64.toInt32

theorem steady_readBool (key : Key) : Steady (readBool key) :=
  (steady_readUInt64 key).map fun word => word != 0

theorem length_readFields (found : readFields merge record left bytes = .ok (after, rest)) :
    rest.length = left := by
  fun_induction readFields merge record left bytes with
  | case1 record bytes _ whole =>
    cases found
    exact whole
  | case5 _ _ _ _ _ _ _ _ _ _ ih => exact ih found
  | _ => cases found

/-- A field that was taken in is taken in by any reader that goes on so far. -/
theorem readFields_step {stop : Nat} {taken : α} {value behind : Bytes}
    (further : stop < bytes.length) (keyed : readKey bytes = .ok (key, value))
    (merged : merge record key value = .ok (taken, behind))
    (shorter : behind.length < bytes.length) :
    readFields merge record stop bytes = readFields merge taken stop behind := by
  rw [readFields, if_neg (Nat.not_le.2 further), keyed]
  simp only [merged, if_pos shorter]

/-- A reader that goes on for longer comes by where another one ended. -/
theorem readFields_split (found : readFields merge record left bytes = .ok (after, rest))
    {stop : Nat} (earlier : stop ≤ left) :
    readFields merge record stop bytes = readFields merge after stop rest := by
  fun_induction readFields merge record left bytes with
  | case1 =>
    cases found
    rfl
  | case5 record bytes more key value keyed taken behind merged shorter ih =>
    rw [readFields_step (by omega) keyed merged shorter, ih found]
  | _ => cases found

theorem readFields_append (steady : SteadyMerge merge)
    (found : readFields merge record left bytes = .ok (after, rest)) (more : Bytes) :
    readFields merge record (left + more.length) (bytes ++ more) = .ok (after, rest ++ more) := by
  fun_induction readFields merge record left bytes with
  | case1 record bytes _ whole =>
    cases found
    have length : (rest ++ more).length = left + more.length := by rw [List.length_append, whole]
    rw [readFields, if_pos (Nat.le_of_eq length), if_pos length]
  | case5 record bytes further key value keyed taken behind merged shorter ih =>
    have longer : left + more.length < (bytes ++ more).length := by
      rw [List.length_append]
      omega
    have shorterStill : (behind ++ more).length < (bytes ++ more).length := by
      rw [List.length_append, List.length_append]
      omega
    rw [readFields_step longer (steady_readKey _ _ _ keyed more)
        (steady _ _ _ _ _ merged more) shorterStill, ih found]
  | _ => cases found

theorem steady_readMessage (steady : SteadyMerge merge) (record : α) :
    Steady (readMessage merge record) := by
  refine steady_readNumber.bind fun size => ?_
  intro bytes value rest found more
  dsimp only at found ⊢
  split at found
  · cases found
  next room =>
    have longer : ¬ (bytes ++ more).length < size.toNat := by
      rw [List.length_append]
      omega
    have left : (bytes ++ more).length - size.toNat = bytes.length - size.toNat + more.length := by
      rw [List.length_append]
      omega
    rw [if_neg longer, left]
    exact readFields_append steady found more

section Groups

variable {skip : Key → Bytes → Except DecodeError Bytes} {number : Nat} {value behind : Bytes}

theorem skipGroup_end (keyed : readKey bytes = .ok (⟨number, .groupEnd⟩, rest)) :
    skipGroup skip number bytes = .ok rest := by
  rw [skipGroup, keyed]
  simp

theorem skipGroup_step (keyed : readKey bytes = .ok (key, value)) (inside : key.form ≠ .groupEnd)
    (skipped : skip key value = .ok behind) (shorter : behind.length < bytes.length) :
    skipGroup skip number bytes = skipGroup skip number behind := by
  rw [skipGroup, keyed]
  simp only [if_neg inside, skipped, if_pos shorter]

theorem skipGroup_append (steady : ∀ key, SteadySkip (skip key))
    (found : skipGroup skip number bytes = .ok rest) (more : Bytes) :
    skipGroup skip number (bytes ++ more) = .ok (rest ++ more) := by
  fun_induction skipGroup skip number bytes with
  | case2 bytes key value keyed ended same =>
    cases found
    obtain ⟨number, form⟩ := key
    cases ended
    cases same
    exact skipGroup_end (steady_readKey _ _ _ keyed more)
  | case5 bytes key value keyed inside behind skipped shorter ih =>
    have shorterStill : (behind ++ more).length < (bytes ++ more).length := by
      rw [List.length_append, List.length_append]
      omega
    rw [skipGroup_step (steady_readKey _ _ _ keyed more) inside
        (steady key value behind skipped more) shorterStill, ih found]
  | _ => cases found

end Groups

theorem steady_skipValue (budget : Nat) (key : Key) : SteadySkip (skipValue budget key) := by
  induction budget generalizing key with
  | zero =>
    intro bytes rest found
    cases found
  | succ budget ih =>
    obtain ⟨number, form⟩ := key
    cases form with
    | varint => exact steady_readNumber.skip
    | fixed64 => exact (steady_readBytes 8).skip
    | delimited => exact steady_readDelimited.skip
    | groupStart => exact fun bytes rest found more => skipGroup_append ih found more
    | groupEnd =>
      intro bytes rest found
      cases found
    | fixed32 => exact (steady_readBytes 4).skip

theorem steady_skipField (budget : Nat) (record : α) (key : Key) :
    Steady (skipField budget record key) := by
  intro bytes value rest found more
  unfold skipField at found ⊢
  cases skipped : skipValue budget key bytes with
  | error defect =>
    rw [skipped] at found
    cases found
  | ok behind =>
    rw [skipped] at found
    cases found
    rw [steady_skipValue budget key bytes rest skipped more]
    rfl

theorem steady_mergeEntry (budget : Nat) : SteadyMerge (mergeEntry budget) := by
  intro entry ⟨number, form⟩
  match number with
  | 1 => exact (steady_readText _).map fun name => (name, entry.2)
  | 2 => exact (steady_readText _).map fun value => (entry.1, value)
  | 0 | _ + 3 => exact steady_skipField budget entry _

theorem steady_readParam (budget : Nat) (params : Params) : Steady (readParam budget params) :=
  (steady_readMessage (steady_mergeEntry budget) ("", "")).bind fun entry =>
    steady_ok (params.insert entry.1 entry.2)

theorem steady_readTextItem (items : List String) (key : Key) : Steady (readTextItem items key) :=
  (steady_readText key).map fun text => items ++ [text]

section Parts

variable [Message β] (steady : ∀ budget, SteadyMerge (Message.merge (α := β) budget))
include steady

theorem steady_readPart (budget : Nat) (part : Option β) (key : Key) :
    Steady (readPart budget part key) :=
  ((steady_readMessage (steady (budget - 1)) _).expect .delimited key).map some

theorem steady_readItem (budget : Nat) (items : List β) (key : Key) :
    Steady (readItem budget items key) :=
  ((steady_readMessage (steady (budget - 1)) _).expect .delimited key).map fun item =>
    items ++ [item]

end Parts

theorem steady_ident (budget : Nat) : SteadyMerge (Message.merge (α := Ident) budget) := by
  intro r ⟨number, form⟩
  match number with
  | 1 | 2 => exact (steady_readText _).into _ _
  | 0 | _ + 3 => exact steady_skipField budget r _

theorem steady_column (budget : Nat) : SteadyMerge (Message.merge (α := Column) budget) := by
  intro r ⟨number, form⟩
  match number with
  | 1 | 2 | 3 => exact (steady_readText _).into _ _
  | 0 | _ + 4 => exact steady_skipField budget r _

theorem steady_serialization (budget : Nat) :
    SteadyMerge (Message.merge (α := Serialization) budget) := by
  intro r ⟨number, form⟩
  match number with
  | 1 | 2 => exact (steady_readText _).into _ _
  | 3 => exact (steady_readParam _ _).into _ _
  | 0 | _ + 4 => exact steady_skipField budget r _

theorem steady_sortColumn (budget : Nat) :
    SteadyMerge (Message.merge (α := SortColumn) budget) := by
  intro r ⟨number, form⟩
  match number with
  | 1 => exact (steady_readText _).into _ _
  | 2 => exact (steady_readBool _).into _ _
  | 0 | _ + 3 => exact steady_skipField budget r _

theorem steady_storage (budget : Nat) :
    SteadyMerge (Message.merge (α := StorageDescriptor) budget) := by
  intro r ⟨number, form⟩
  match number with
  | 1 | 3 | 4 => exact (steady_readText _).into _ _
  | 2 => exact (steady_readItem steady_column budget r.columns _).into _ _
  | 5 => exact (steady_readPart steady_serialization budget r.serialization _).into _ _
  | 6 => exact (steady_readParam _ _).into _ _
  | 7 => exact (steady_readInt32 _).into _ _
  | 8 => exact (steady_readTextItem _ _).into _ _
  | 9 => exact (steady_readItem steady_sortColumn budget r.sortColumns _).into _ _
  | 0 | _ + 10 => exact steady_skipField budget r _

theorem steady_database (budget : Nat) : SteadyMerge (Message.merge (α := Database) budget) := by
  intro r ⟨number, form⟩
  match number with
  | 1 => exact (steady_readPart steady_ident budget r.ident _).into _ _
  | 2 => exact (steady_readText _).into _ _
  | 3 | 4 => exact (steady_readParam _ _).into _ _
  | 5 => exact (steady_readUInt64 _).into _ _
  | 0 | _ + 6 => exact steady_skipField budget r _

theorem steady_table (budget : Nat) : SteadyMerge (Message.merge (α := Table) budget) := by
  intro r ⟨number, form⟩
  match number with
  | 1 => exact (steady_readPart steady_ident budget r.ident _).into _ _
  | 2 => exact (steady_readText _).into _ _
  | 3 | 4 => exact (steady_readParam _ _).into _ _
  | 5 => exact (steady_readItem steady_column budget r.partitionKeys _).into _ _
  | 6 => exact (steady_readPart steady_storage budget r.storage _).into _ _
  | 7 => exact (steady_readInt32 _).into _ _
  | 8 => exact (steady_readUInt64 _).into _ _
  | 0 | _ + 9 => exact steady_skipField budget r _

theorem steady_partition (budget : Nat) : SteadyMerge (Message.merge (α := Partition) budget) := by
  intro r ⟨number, form⟩
  match number with
  | 1 => exact (steady_readTextItem _ _).into _ _
  | 2 | 6 => exact (steady_readText _).into _ _
  | 3 => exact (steady_readParam _ _).into _ _
  | 4 => exact (steady_readPart steady_storage budget r.storage _).into _ _
  | 5 => exact (steady_readUInt64 _).into _ _
  | 7 => exact (steady_readPart steady_table budget r.table _).into _ _
  | 0 | _ + 8 => exact steady_skipField budget r _

end TableCatalog.Wire

import TableCatalog.Proofs.WireContinuation
import TableCatalog.Proofs.WireRoundTrip

/-! Records of other versions of a schema carry fields that this one does
not define. Wherever such fields stand, in front of a record or behind it,
they are passed over to the byte, so the record is read as without them. -/

namespace TableCatalog.Wire

/-- Seven bits to a byte, the lowest first, and the high bit on every byte but the last. The last
may be zero: a number may be written in more bytes than it needs. -/
inductive Varint.Spells : Bytes → Nat → Prop
  | last {byte : UInt8} : byte < 128 → Spells [byte] byte.toNat
  | more {byte : UInt8} {rest : Bytes} {high : Nat} :
      ¬ byte < 128 → Spells rest high → Spells (byte :: rest) (byte.toNat - 128 + 128 * high)

/-- A number of 64 bits in no more than ten bytes. -/
structure SpellsNumber (bytes : Bytes) (n : Nat) : Prop where
  spells : Varint.Spells bytes n
  short : bytes.length ≤ 10
  fits : n < UInt64.size

structure SpellsKey (bytes : Bytes) (number : Nat) (form : Form) : Prop where
  valid : FieldNumber number
  spells : SpellsNumber bytes (number * 8 + form.code)

/-- The value of a field that is not a group. What a length announces may be any bytes. -/
inductive SpellsValue : Form → Bytes → Prop
  | varint {bytes : Bytes} {n : Nat} : SpellsNumber bytes n → SpellsValue .varint bytes
  | fixed64 {bytes : Bytes} : bytes.length = 8 → SpellsValue .fixed64 bytes
  | delimited {size body : Bytes} :
      SpellsNumber size body.length → SpellsValue .delimited (size ++ body)
  | fixed32 {bytes : Bytes} : bytes.length = 4 → SpellsValue .fixed32 bytes

/-- Fields with numbers that are allowed, one after another. Groups
hold fields of any numbers up to the end mark of the same number, and
groups in groups may go so deep that a field takes one of the depth. -/
inductive SpellsFields : Nat → (Nat → Prop) → Bytes → Prop
  | nil {depth : Nat} {allowed : Nat → Prop} : SpellsFields depth allowed []
  | plain {depth number : Nat} {allowed : Nat → Prop} {form : Form} {key value rest : Bytes} :
      allowed number → SpellsKey key number form →
      SpellsValue form value → SpellsFields (depth + 1) allowed rest →
      SpellsFields (depth + 1) allowed (key ++ value ++ rest)
  | group {depth number : Nat} {allowed : Nat → Prop} {start inner stop rest : Bytes} :
      allowed number → SpellsKey start number .groupStart →
      SpellsFields depth (fun _ => True) inner → SpellsKey stop number .groupEnd →
      SpellsFields (depth + 1) allowed rest →
      SpellsFields (depth + 1) allowed (start ++ (inner ++ stop) ++ rest)

/-- Fields that a kind of record does not define whose own are numbered up to `last`. -/
def UnknownFields (last : Nat) (bytes : Bytes) : Prop := SpellsFields depthLimit (last < ·) bytes

theorem Varint.readFrom_spelled {bytes : Bytes} {n : Nat} (spells : Spells bytes n)
    {index : Nat} (short : bytes.length + index ≤ 10) (fits : n * Nat.pow 128 index < UInt64.size)
    (rest : Bytes) : readFrom index (bytes ++ rest) = some (n, rest) := by
  induction spells generalizing index with
  | @last byte low =>
    have last : ¬ (index = 9 ∧ 2 ≤ byte) := by
      rintro ⟨rfl, large⟩
      have powers : Nat.pow 128 9 = 9223372036854775808 := rfl
      have size : UInt64.size = 18446744073709551616 := rfl
      have two : (2 : UInt8).toNat = 2 := rfl
      rw [UInt8.le_iff_toNat_le] at large
      rw [powers] at fits
      omega
    rw [List.singleton_append, readFrom, if_pos low, if_neg last]
  | @more byte tail high goesOn spelled ih =>
    rw [List.length_cons] at short
    have tailed : tail.length ≠ 0 := by cases spelled <;> simp
    have early : index ≠ 9 := by omega
    have smaller : high * Nat.pow 128 (index + 1) ≤
        (byte.toNat - 128 + 128 * high) * Nat.pow 128 index := by
      have power : Nat.pow 128 (index + 1) = 128 * Nat.pow 128 index := Nat.mul_comm _ _
      rw [power, ← Nat.mul_assoc, Nat.mul_comm high 128]
      exact Nat.mul_le_mul_right _ (Nat.le_add_left _ _)
    rw [List.cons_append, readFrom, if_neg goesOn, if_neg early,
      ih (by omega) (Nat.lt_of_le_of_lt smaller fits)]
    rfl

theorem SpellsNumber.read {bytes : Bytes} {n : Nat} (spelled : SpellsNumber bytes n)
    (rest : Bytes) :
    readNumber (bytes ++ rest) = .ok (.ofNat n, rest) := by
  have unit : n * Nat.pow 128 0 < UInt64.size := (Nat.mul_one n).symm ▸ spelled.fits
  simp only [readNumber, Varint.read, Varint.readFrom_spelled spelled.spells spelled.short unit,
    Option.map_some]

theorem SpellsNumber.ne_nil {bytes : Bytes} {n : Nat} (spelled : SpellsNumber bytes n) :
    bytes ≠ [] := by
  cases spelled.spells <;> simp

theorem SpellsKey.read {bytes : Bytes} {number : Nat} {form : Form}
    (spelled : SpellsKey bytes number form) (rest : Bytes) :
    readKey (bytes ++ rest) = .ok (⟨number, form⟩, rest) := by
  -- A key is read by its number alone, which is that of the key as this version writes it.
  have written := readKey_writeKey spelled.valid form rest
  unfold readKey writeKey at *
  rw [readNumber_writeNat spelled.spells.fits] at written
  rw [spelled.spells.read]
  exact written

theorem SpellsValue.ne_groupEnd {form : Form} {bytes : Bytes} (spelled : SpellsValue form bytes) :
    form ≠ .groupEnd := by
  cases spelled <;> decide

theorem SpellsValue.skip {form : Form} {bytes : Bytes} (spelled : SpellsValue form bytes)
    (depth number : Nat) (rest : Bytes) :
    skipValue (depth + 1) ⟨number, form⟩ (bytes ++ rest) = .ok rest := by
  have taken {size : Nat} (length : bytes.length = size) :
      readBytes size (bytes ++ rest) = .ok (bytes, rest) := by
    have room : ¬ (bytes ++ rest).length < size := by
      rw [List.length_append]
      omega
    rw [readBytes, if_neg room, ← length, List.take_left, List.drop_left]
  cases spelled with
  | varint spelled =>
    rw [skipValue, spelled.read]
    rfl
  | fixed64 length =>
    rw [skipValue, taken length]
    rfl
  | @delimited size body spelled =>
    have word : (UInt64.ofNat body.length).toNat = body.length :=
      UInt64.toNat_ofNat_of_lt' spelled.fits
    have room : ¬ (body ++ rest).length < body.length := by
      rw [List.length_append]
      omega
    simp only [skipValue, readDelimited, List.append_assoc, spelled.read,
      bind, Except.bind, word, readBytes, if_neg room, List.drop_left]
    rfl
  | fixed32 length =>
    rw [skipValue, taken length]
    rfl

theorem SpellsKey.shorter {bytes : Bytes} {number : Nat} {form : Form}
    (spelled : SpellsKey bytes number form) (value rest : Bytes) :
    rest.length < (bytes ++ (value ++ rest)).length := by
  have positive := List.length_pos_iff.2 spelled.spells.ne_nil
  simp only [List.length_append]
  omega

/-- The fields of a group are passed over one by one, those
that are groups themselves by the same law one level below. -/
theorem SpellsFields.skipGroup {depth number : Nat} {allowed : Nat → Prop} {inner stop : Bytes}
    (fields : SpellsFields depth allowed inner) (stopped : SpellsKey stop number .groupEnd)
    (rest : Bytes) : skipGroup (skipValue depth) number (inner ++ (stop ++ rest)) = .ok rest := by
  induction fields generalizing number stop rest with
  | nil => exact skipGroup_end (stopped.read rest)
  | @plain depth other allowed form key value more _ keyed spelled _ ih =>
    simp only [List.append_assoc]
    rw [skipGroup_step (keyed.read _) spelled.ne_groupEnd (spelled.skip depth other _)
        (keyed.shorter _ _)]
    exact ih stopped rest
  | @group depth other allowed start inside finish more _ started _ ended _ within behind =>
    have skipped (rest : Bytes) :
        skipValue (depth + 1) ⟨other, .groupStart⟩ (inside ++ finish ++ rest) = .ok rest := by
      rw [List.append_assoc]
      exact within ended rest
    simp only [List.append_assoc]
    rw [← List.append_assoc inside,
      skipGroup_step (started.read _) nofun (skipped _) (started.shorter _ _)]
    exact behind stopped rest

/-- Fields that a reader only passes over leave the record as it is. -/
theorem SpellsFields.absorbs {depth : Nat} {allowed : Nat → Prop}
    {bytes : Bytes} (fields : SpellsFields depth allowed bytes) {merge : Merge α}
    (passes : ∀ record key, allowed key.number → merge record key = skipField depth record key)
    (record : α) : Absorbs merge bytes record record := by
  induction fields with
  | nil => exact .nil
  | @plain depth number allowed form key value rest outside keyed spelled _ ih =>
    refine .append (.keyed keyed.spells.ne_nil keyed.read fun rest => ?_) (ih passes)
    rw [passes record ⟨number, form⟩ outside, skipField, spelled.skip]
    rfl
  | @group depth number allowed start inner stop rest outside started inside stopped _ _ ih =>
    refine .append (.keyed started.spells.ne_nil started.read fun rest => ?_) (ih passes)
    have skipped : skipValue (depth + 1) ⟨number, .groupStart⟩ (inner ++ (stop ++ rest)) =
      .ok rest := inside.skipGroup stopped rest
    rw [passes record ⟨number, .groupStart⟩ outside, skipField, List.append_assoc, skipped]
    rfl

/-- What is read of a record is taken in by any reader that has more to read. -/
theorem Absorbs.of_read {merge : Merge α} {before after : α} {bytes : Bytes}
    (steady : SteadyMerge merge) (found : readFields merge before 0 bytes = .ok (after, [])) :
    Absorbs merge bytes before after := by
  intro left rest inside
  have further := readFields_append steady found rest
  rw [Nat.zero_add, List.nil_append] at further
  exact readFields_split further inside

/-- The kind of record reads without looking ahead, and
passes over fields with numbers above `last`. -/
structure Defines (α : Type) [Message α] (last : Nat) : Prop where
  steady : ∀ budget, SteadyMerge (Message.merge (α := α) budget)
  passes : ∀ budget record key, last < key.number →
    Message.merge (α := α) budget record key = skipField budget record key

/-- Unknown fields make no difference to how a record is
read, whether they come before it or after it. -/
structure Tolerates (α : Type) [Message α] (last : Nat) : Prop where
  behind : ∀ (what : String) (bytes unknown : Bytes) (record : α), decode what bytes = .ok record →
    UnknownFields last unknown →
    decode what (bytes ++ unknown) = .ok record
  before : ∀ (what : String) (bytes unknown : Bytes) (record : α), decode what bytes = .ok record →
    UnknownFields last unknown →
    decode what (unknown ++ bytes) = .ok record

theorem decode_eq_ok [Message α] {what : String} {bytes : Bytes} {record : α} :
    decode what bytes = .ok record ↔
    readFields (Message.merge depthLimit) default 0 bytes = .ok (record, []) := by
  unfold decode read
  constructor
  · intro read
    cases found : readFields (Message.merge (α := α) depthLimit) default 0 bytes with
    | error defect =>
      rw [found] at read
      cases read
    | ok front =>
      rw [found] at read
      cases read
      rw [← List.length_eq_zero_iff.1 (length_readFields found)]
  · intro found
    rw [found]
    rfl

theorem Defines.tolerates [Message α] {last : Nat} (defines : Defines α last) :
    Tolerates α last := by
  have absorbs {unknown : Bytes} (fields : UnknownFields last unknown) (record : α) :
      Absorbs (Message.merge depthLimit) unknown record record :=
    fields.absorbs (defines.passes depthLimit) record
  constructor
  · intro what bytes unknown record decoded fields
    have whole := Absorbs.of_read (defines.steady depthLimit) (decode_eq_ok.1 decoded)
    exact decode_eq_ok.2 (whole.append (absorbs fields record)).whole
  · intro what bytes unknown record decoded fields
    have whole := Absorbs.of_read (defines.steady depthLimit) (decode_eq_ok.1 decoded)
    exact decode_eq_ok.2 ((absorbs fields default).append whole).whole

theorem defines_database : Defines Database 5 where
  steady := steady_database
  passes := by
    intro budget record ⟨number, form⟩ above
    obtain ⟨more, rfl⟩ := Nat.exists_eq_add_of_le' above
    rfl

theorem defines_table : Defines Table 8 where
  steady := steady_table
  passes := by
    intro budget record ⟨number, form⟩ above
    obtain ⟨more, rfl⟩ := Nat.exists_eq_add_of_le' above
    rfl

theorem defines_partition : Defines Partition 7 where
  steady := steady_partition
  passes := by
    intro budget record ⟨number, form⟩ above
    obtain ⟨more, rfl⟩ := Nat.exists_eq_add_of_le' above
    rfl

/-- Databases have the fields one to five, tables one to eight and partitions one to seven. -/
theorem unknown_fields_tolerated :
    Tolerates Database 5 ∧ Tolerates Table 8 ∧ Tolerates Partition 7 :=
  ⟨defines_database.tolerates, defines_table.tolerates, defines_partition.tolerates⟩

theorem SpellsNumber.byte {byte : UInt8} (low : byte < 128) : SpellsNumber [byte] byte.toNat where
  spells := .last low
  short := by simp
  fits := Nat.lt_trans byte.toNat_lt (by decide)

theorem SpellsKey.byte {byte : UInt8} {number : Nat} {form : Form}
    (valid : FieldNumber number) (low : byte < 128) (same : byte.toNat = number * 8 + form.code) :
    SpellsKey [byte] number form :=
  ⟨valid, same ▸ .byte low⟩

/-- A field of every form, with numbers above those of a partition. The bytes behind the length are
no text and look like an end mark. The group holds a field that a partition would define, its value
in more bytes than it needs, and a group with nothing in it. -/
def laterFields : Bytes :=
  [0x40] ++ [0x96, 0x01] ++
    ([0x49] ++ [1, 2, 3, 4, 5, 6, 7, 8] ++
    ([0x52] ++ ([0x02] ++ [0xff, 0x64]) ++
    ([0x5d] ++ [1, 2, 3, 4] ++
    ([0x63] ++ ([0x08] ++ [0x81, 0x00] ++ ([0x13] ++ ([] ++ [0x14]) ++ []) ++ [0x64]) ++ []))))

theorem unknown_laterFields : UnknownFields 7 laterFields := by
  have varint : SpellsNumber [0x96, 0x01] 150 :=
    ⟨.more (by decide) (.last (by decide)), by decide, by decide⟩
  have padded : SpellsNumber [0x81, 0x00] 1 :=
    ⟨.more (by decide) (.last (by decide)), by decide, by decide⟩
  have group : SpellsFields 99 (fun _ => True) ([0x13] ++ ([] ++ [0x14]) ++ []) :=
    .group trivial (.byte (by decide) (by decide) rfl : SpellsKey [0x13] 2 .groupStart) .nil
      (.byte (by decide) (by decide) rfl) .nil
  have inner : SpellsFields 99 (fun _ => True)
      ([0x08] ++ [0x81, 0x00] ++ ([0x13] ++ ([] ++ [0x14]) ++ [])) :=
    .plain trivial (.byte (by decide) (by decide) rfl : SpellsKey [0x08] 1 .varint)
      (.varint padded) group
  apply SpellsFields.plain (by decide)
    (.byte (by decide) (by decide) rfl : SpellsKey [0x40] 8 .varint) (.varint varint)
  apply SpellsFields.plain (by decide)
    (.byte (by decide) (by decide) rfl : SpellsKey [0x49] 9 .fixed64) (.fixed64 rfl)
  apply SpellsFields.plain (by decide) (.byte (by decide) (by decide) rfl : SpellsKey
      [0x52] 10 .delimited) (.delimited (.byte (by decide)))
  apply SpellsFields.plain (by decide)
    (.byte (by decide) (by decide) rfl : SpellsKey [0x5d] 11 .fixed32) (.fixed32 rfl)
  exact .group (by decide) (.byte (by decide) (by decide) rfl : SpellsKey [0x63] 12 .groupStart)
    inner (.byte (by decide) (by decide) rfl) .nil

theorem unknown_fields_tolerated_later :
    UnknownFields 7 laterFields ∧ decode "partition" (Message.encode assorted) = .ok assorted ∧
    decode "partition" (Message.encode assorted ++ laterFields) = .ok assorted ∧
    decode "partition" (laterFields ++ Message.encode assorted) = .ok assorted := by
  have readable : decode "partition" (Message.encode assorted) = .ok assorted :=
    (FitsPartition.of_length (by decide +kernel)).readable.decode "partition"
  have tolerates := unknown_fields_tolerated.2.2
  exact ⟨unknown_laterFields, readable, tolerates.behind _ _ _ _ readable unknown_laterFields,
    tolerates.before _ _ _ _ readable unknown_laterFields⟩

end TableCatalog.Wire

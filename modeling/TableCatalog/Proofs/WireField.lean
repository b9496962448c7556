import TableCatalog.Wire.Message
import TableCatalog.Proofs.ByteRange
import TableCatalog.Proofs.MapContents

/-! Fields read back as they were written. A field absorbed by a reader of records changes the
record and leaves what follows to the reader, so the fields of a message are absorbed one after
another. Lengths are written as words of 64 bits, which is all that bounds the size of a value. -/

namespace TableCatalog.Wire

theorem Varint.readFrom_writeNat {n index : Nat} (fits : n * Nat.pow 128 index < UInt64.size)
    (inside : index ≤ 9) (rest : Bytes) :
    readFrom index (writeNat n ++ rest) = some (n, rest) := by
  have powers : Nat.pow 128 9 = 9223372036854775808 := rfl
  induction n using Nat.strongRecOn generalizing index with
  | ind n ih =>
    rw [writeNat]
    split
    next small =>
      have value : (UInt8.ofNat n).toNat = n := by simp; omega
      have low : UInt8.ofNat n < 128 := by rw [UInt8.lt_iff_toNat_lt, value]; exact small
      have last : ¬ (index = 9 ∧ 2 ≤ UInt8.ofNat n) := by
        rintro ⟨rfl, large⟩
        rw [UInt8.le_iff_toNat_le, value, powers] at *
        have : UInt64.size = 18446744073709551616 := rfl
        have : (2 : UInt8).toNat = 2 := rfl
        omega
      simp only [List.cons_append, List.nil_append, readFrom, low, if_true, last, if_false, value]
    next large =>
      have value : (UInt8.ofNat (n % 128 + 128)).toNat = n % 128 + 128 := by simp; omega
      have high : ¬ UInt8.ofNat (n % 128 + 128) < 128 := by
        rw [UInt8.lt_iff_toNat_lt, value]
        have : (128 : UInt8).toNat = 128 := rfl
        omega
      have step : n / 128 * Nat.pow 128 (index + 1) ≤ n * Nat.pow 128 index := by
        have : Nat.pow 128 (index + 1) = 128 * Nat.pow 128 index := Nat.mul_comm _ _
        rw [this, ← Nat.mul_assoc]
        exact Nat.mul_le_mul_right _ (Nat.div_mul_le_self n 128)
      have early : index ≠ 9 := by
        rintro rfl
        rw [powers] at fits
        have : UInt64.size = 18446744073709551616 := rfl
        omega
      have joined : n % 128 + 128 - 128 + 128 * (n / 128) = n := by omega
      simp only [List.cons_append, readFrom, high, if_false, early,
        ih (n / 128) (by omega) (Nat.lt_of_le_of_lt step fits) (by omega),
        Option.map_some, value, joined]

theorem readNumber_writeNat {n : Nat} (fits : n < UInt64.size) (rest : Bytes) :
    readNumber (Varint.writeNat n ++ rest) = .ok (.ofNat n, rest) := by
  have unit : n * Nat.pow 128 0 < UInt64.size := (Nat.mul_one n).symm ▸ fits
  simp only [readNumber, Varint.read, Varint.readFrom_writeNat unit (Nat.zero_le 9),
    Option.map_some]

theorem readNumber_write (n : UInt64) (rest : Bytes) :
    readNumber (Varint.write n ++ rest) = .ok (n, rest) := by
  rw [Varint.write, readNumber_writeNat n.toNat_lt_size, UInt64.ofNat_toNat]

/-- The numbers of fields that a key has room for. -/
def FieldNumber (number : Nat) : Prop := 0 < number ∧ number < 536870912

instance (number : Nat) : Decidable (FieldNumber number) := inferInstanceAs (Decidable (_ ∧ _))

theorem readKey_writeKey {number : Nat} (valid : FieldNumber number) (form : Form) (rest : Bytes) :
    readKey (writeKey number form ++ rest) = .ok (⟨number, form⟩, rest) := by
  obtain ⟨positive, small⟩ := valid
  have code : form.code < 8 := by cases form <;> decide
  have form? : Form.ofCode? form.code = some form := by cases form <;> rfl
  have fits : number * 8 + form.code < UInt32.size := by
    have : UInt32.size = 4294967296 := rfl
    omega
  have wide : UInt32.size < UInt64.size := by decide
  have value : (UInt64.ofNat (number * 8 + form.code)).toNat = number * 8 + form.code :=
    UInt64.toNat_ofNat_of_lt' (Nat.lt_trans fits wide)
  have remainder : (number * 8 + form.code) % 8 = form.code := by omega
  have quotient : (number * 8 + form.code) / 8 = number := by omega
  simp only [readKey, writeKey, readNumber_writeNat (Nat.lt_trans fits wide),
    bind, Except.bind, value,
    Nat.not_le_of_lt fits, if_false, remainder, form?, quotient, Nat.ne_of_gt positive]
  rfl

theorem writeKey_ne_nil (number : Nat) (form : Form) : writeKey number form ≠ [] := by
  rw [writeKey, Varint.writeNat]
  split <;> simp

theorem readDelimited_write {body : Bytes} (fits : body.length < UInt64.size) (rest : Bytes) :
    readDelimited (Varint.writeNat body.length ++ body ++ rest) = .ok (body, rest) := by
  have value : (UInt64.ofNat body.length).toNat = body.length := UInt64.toNat_ofNat_of_lt' fits
  have room : ¬ (body ++ rest).length < body.length := by rw [List.length_append]; omega
  simp only [readDelimited, List.append_assoc, readNumber_writeNat fits,
    bind, Except.bind, value, readBytes, if_neg room,
    List.take_left, List.drop_left]

/-- Reading these bytes turns one record into the other, whatever follows them. -/
def Absorbs (merge : Merge α) (bytes : Bytes) (before after : α) : Prop :=
  ∀ left rest, left ≤ rest.length →
  readFields merge before left (bytes ++ rest) = readFields merge after left rest

theorem readFields_end (merge : Merge α) (record : α) (rest : Bytes) :
    readFields merge record rest.length rest = .ok (record, rest) := by
  rw [readFields]
  simp

namespace Absorbs

variable {merge : Merge α} {before middle after : α} {first second : Bytes}

theorem nil : Absorbs merge [] before before := fun _ _ _ => rfl

theorem append (head : Absorbs merge first before middle)
    (tail : Absorbs merge second middle after) :
    Absorbs merge (first ++ second) before after := by
  intro left rest inside
  have deeper : left ≤ (second ++ rest).length := by rw [List.length_append]; omega
  rw [List.append_assoc, head left _ deeper, tail left rest inside]

/-- A field whose value the record takes in. Its key may be
written in any way that is read as that key. -/
theorem keyed {key : Key} {spelled value : Bytes} (some : spelled ≠ [])
    (read : ∀ rest, readKey (spelled ++ rest) = .ok (key, rest))
    (taken : ∀ rest, merge before key (value ++ rest) = .ok (after, rest)) :
    Absorbs merge (spelled ++ value) before after := by
  intro left rest inside
  have positive := List.length_pos_iff.2 some
  have longer : ¬ (spelled ++ value ++ rest).length ≤ left := by
    simp only [List.length_append]
    omega
  have shorter : rest.length < (spelled ++ value ++ rest).length := by
    simp only [List.length_append]
    omega
  rw [readFields, if_neg longer]
  simp only [List.append_assoc] at shorter ⊢
  simp only [read, taken, shorter, if_true]

theorem field {number : Nat} {form : Form} {value : Bytes} (valid : FieldNumber number)
    (taken : ∀ rest, merge before ⟨number, form⟩ (value ++ rest) = .ok (after, rest)) :
    Absorbs merge (writeKey number form ++ value) before after :=
  keyed (writeKey_ne_nil number form) (readKey_writeKey valid form) taken

theorem whole (absorbs : Absorbs merge first before after) :
    readFields merge before 0 first = .ok (after, []) := by
  have := absorbs 0 [] (Nat.le_refl 0)
  rw [List.append_nil] at this
  exact this.trans (readFields_end merge after [])

/-- A message with its length in front. -/
theorem message (absorbs : Absorbs merge first before after)
    (fits : first.length < UInt64.size) (rest : Bytes) :
    readMessage merge before (Varint.writeNat first.length ++ first ++ rest) =
      .ok (after, rest) := by
  have value : (UInt64.ofNat first.length).toNat = first.length := UInt64.toNat_ofNat_of_lt' fits
  have room : ¬ (first ++ rest).length < first.length := by rw [List.length_append]; omega
  have remains : (first ++ rest).length - first.length = rest.length := by
    rw [List.length_append]; omega
  simp only [readMessage, List.append_assoc, readNumber_writeNat fits,
    bind, Except.bind, value, if_neg room, remains]
  rw [absorbs _ _ (Nat.le_refl _), readFields_end]

end Absorbs

/-- What a reader finds in a field goes into the record. -/
def Takes (merge : Merge α) (record : α) (key : Key) (read : Bytes → Reading β)
    (set : β → α) : Prop :=
  ∀ bytes value rest, read bytes = .ok (value, rest) →
  merge record key bytes = .ok (set value, rest)

section Fields

variable {merge : Merge α} {record : α} {key : Key} {number : Nat}

theorem Takes.into {read : Bytes → Reading β} {set : β → α} {name : String}
    (merges : ∀ bytes, merge record key bytes = into name set (read bytes)) :
    Takes merge record key read set := by
  intro bytes value rest found
  rw [merges, found]
  rfl

theorem Takes.map {read : Bytes → Reading β} {set : β → α}
    (merges : ∀ bytes, merge record key bytes = (read bytes).map fun (value, rest) =>
      (set value, rest)) :
    Takes merge record key read set := by
  intro bytes value rest found
  rw [merges, found]
  rfl

theorem absorbs_delimited {before after : α} {body : Bytes} (valid : FieldNumber number)
    (taken : ∀ rest, merge before ⟨number, .delimited⟩
        (Varint.writeNat body.length ++ body ++ rest) = .ok (after, rest)) :
    Absorbs merge (writeDelimited number body) before after := by
  rw [writeDelimited, List.append_assoc]
  exact .field valid taken

theorem readText_write {text : String} (fits : text.utf8ByteSize < UInt64.size) (rest : Bytes) :
    readText ⟨number, .delimited⟩ (Varint.writeNat (Bytes.ofText text).length ++
      Bytes.ofText text ++ rest) = .ok (text, rest) := by
  have found : readDelimited (Varint.writeNat (Bytes.ofText text).length ++
    Bytes.ofText text ++ rest) = .ok (Bytes.ofText text, rest) :=
    readDelimited_write fits rest
  simp only [readText, expect, if_true, readText.readBody, found,
    bind, Except.bind, Bytes.text?_ofText]
  rfl

theorem absorbs_textItem {before : α} (set : String → α) (valid : FieldNumber number)
    {text : String} (fits : text.utf8ByteSize < UInt64.size)
    (takes : Takes merge before ⟨number, .delimited⟩ (readText ⟨number, .delimited⟩) set) :
    Absorbs merge (writeTextItem number text) before (set text) :=
  absorbs_delimited valid fun rest => takes _ _ _ (readText_write fits rest)

/-- A field that holds its default is left out, so the record has to hold that default before. -/
theorem absorbs_text (set : String → α) (valid : FieldNumber number)
    {text : String} (fits : text.utf8ByteSize < UInt64.size)
    (takes : Takes merge (set "") ⟨number, .delimited⟩ (readText ⟨number, .delimited⟩) set) :
    Absorbs merge (writeText number text) (set "") (set text) := by
  unfold writeText
  split
  next empty => exact empty ▸ .nil
  next => exact absorbs_textItem set valid fits takes

theorem absorbs_uint64 (set : UInt64 → α) (valid : FieldNumber number) (n : UInt64)
    (takes : Takes merge (set 0) ⟨number, .varint⟩ (readUInt64 ⟨number, .varint⟩) set) :
    Absorbs merge (writeUInt64 number n) (set 0) (set n) := by
  unfold writeUInt64
  split
  next zero => exact zero ▸ .nil
  next =>
    refine .field valid fun rest => takes _ _ _ ?_
    rw [readUInt64, expect, if_pos rfl, readNumber_write]

theorem absorbs_int32 (set : Int32 → α) (valid : FieldNumber number) (n : Int32)
    (takes : Takes merge (set 0) ⟨number, .varint⟩ (readInt32 ⟨number, .varint⟩) set) :
    Absorbs merge (writeInt32 number n) (set 0) (set n) := by
  have back : n.toInt64.toUInt64.toInt64.toInt32 = n := by simp
  have absorbs := absorbs_uint64 (fun word => set word.toInt64.toInt32) valid n.toInt64.toUInt64
    fun bytes word rest found => takes bytes _ rest (by rw [readInt32, found]; rfl)
  rwa [back] at absorbs

theorem absorbs_bool (set : Bool → α) (valid : FieldNumber number) (b : Bool)
    (takes : Takes merge (set false) ⟨number, .varint⟩ (readBool ⟨number, .varint⟩) set) :
    Absorbs merge (writeBool number b) (set false) (set b) := by
  have back : ((if b then 1 else 0 : UInt64) != 0) = b := by cases b <;> rfl
  have absorbs := absorbs_uint64 (fun word => set (word != 0)) valid (if b then 1 else 0)
    fun bytes word rest found => takes bytes _ rest (by rw [readBool, found]; rfl)
  rwa [back] at absorbs

end Fields

section Parts

variable {merge : Merge α} {number : Nat} {budget : Nat}

/-- Fields that stand for the items of a list, absorbed one by one. -/
theorem absorbs_list {write : β → Bytes} (set : List β → α) (items : List β)
    (item : ∀ item ∈ items, ∀ done, Absorbs merge (write item) (set done) (set (done ++ [item]))) :
    Absorbs merge (items.flatMap write) (set []) (set items) := by
  suffices absorbs :
      ∀ done, Absorbs merge (items.flatMap write) (set done) (set (done ++ items)) from absorbs []
  induction items with
  | nil => exact fun done => (List.append_nil done).symm ▸ .nil
  | cons head rest ih =>
    intro done
    rw [List.flatMap_cons]
    refine (item head List.mem_cons_self done).append ?_
    have tail := ih (fun other held => item other (List.mem_cons_of_mem _ held)) (done ++ [head])
    rwa [List.append_assoc] at tail

theorem absorbs_textItems (set : List String → α) (valid : FieldNumber number) {items : List String}
    (fits : ∀ item ∈ items, item.utf8ByteSize < UInt64.size)
    (takes : ∀ done, Takes merge (set done) ⟨number, .delimited⟩
        (readTextItem done ⟨number, .delimited⟩) set) :
    Absorbs merge (writeTextItems number items) (set []) (set items) :=
  absorbs_list set items fun item held done =>
    absorbs_textItem (fun text => set (done ++ [text])) valid (fits item held)
      fun bytes text rest found => takes done bytes _ rest (by rw [readTextItem, found]; rfl)

/-- A message with these bytes fills in all that the record holds, at whatever depth it stands. -/
def Fills [Message β] (bytes : Bytes) (record : β) : Prop :=
  ∀ budget, Absorbs (Message.merge budget) bytes default record

def Readable [Message β] (record : β) : Prop := Fills (Message.encode record) record

theorem absorbs_items [Message β] (set : List β → α) (valid : FieldNumber number) {items : List β}
    (readable : ∀ item ∈ items, Readable item)
    (fits : ∀ item ∈ items, (Message.encode item).length < UInt64.size)
    (takes : ∀ done, Takes merge (set done) ⟨number, .delimited⟩
        (readItem budget done ⟨number, .delimited⟩) set) :
    Absorbs merge (writeItems number items) (set []) (set items) := by
  refine absorbs_list set items fun item held done => absorbs_delimited valid fun rest =>
    takes done _ _ _ ?_
  rw [readItem, expect, if_pos rfl, (readable item held (budget - 1)).message (fits item held)]
  rfl

theorem absorbs_body [Message β] (set : Option β → α) (valid : FieldNumber number)
    {body : Bytes} {record : β} (fills : Fills body record) (fits : body.length < UInt64.size)
    (takes : Takes merge (set none) ⟨number, .delimited⟩
        (readPart budget none ⟨number, .delimited⟩) set) :
    Absorbs merge (writeDelimited number body) (set none) (set (some record)) := by
  refine absorbs_delimited valid fun rest => takes _ _ _ ?_
  rw [readPart, expect, if_pos rfl, Option.getD_none, (fills (budget - 1)).message fits]
  rfl

theorem absorbs_part [Message β] (set : Option β → α) (valid : FieldNumber number) {part : Option β}
    (readable : ∀ record, part = some record → Readable record)
    (fits : ∀ record, part = some record → (Message.encode record).length < UInt64.size)
    (takes : Takes merge (set none) ⟨number, .delimited⟩
        (readPart budget none ⟨number, .delimited⟩) set) :
    Absorbs merge (writePart number part) (set none) (set part) := by
  cases part with
  | none => exact .nil
  | some record => exact absorbs_body set valid (readable record rfl) (fits record rfl) takes

/-- The message of a map entry. -/
def entryBody (entry : String × String) : Bytes := writeText 1 entry.1 ++ writeText 2 entry.2

theorem size_le_writeText (number : Nat) (text : String) :
    text.utf8ByteSize ≤ (writeText number text).length := by
  unfold writeText
  split
  next empty => exact empty ▸ Nat.zero_le _
  next =>
    simp only [writeTextItem, writeDelimited, List.length_append, Bytes.length_ofText]
    omega

theorem absorbs_entry {entry : String × String} (fits : (entryBody entry).length < UInt64.size) :
    Absorbs (mergeEntry budget) (entryBody entry) ("", "") entry := by
  have first := size_le_writeText 1 entry.1
  have second := size_le_writeText 2 entry.2
  rw [entryBody, List.length_append] at fits
  refine Absorbs.append ?_
    (absorbs_text (fun value => (entry.1, value)) (by decide) (by omega) (.map fun _ => rfl))
  exact absorbs_text (fun name => (name, "")) (by decide) (by omega) (.map fun _ => rfl)

/-- Every entry is short enough for its length to be written. -/
def EntriesFit (params : Params) : Prop :=
  ∀ entry ∈ params.toList, (entryBody entry).length < UInt64.size

/-- The entries have names of their own, so putting them in
one by one builds the map in whatever order they come. -/
theorem absorbs_entries (set : Params → α) (valid : FieldNumber number) {params : Params}
    {rows : List (String × String)} (shuffled : rows.Perm params.toList) (fits : EntriesFit params)
    (takes : ∀ done, Takes merge (set done) ⟨number, .delimited⟩ (readParam budget done) set) :
    Absorbs merge (rows.flatMap fun entry => writeDelimited number (entryBody entry))
      (set ∅) (set params) := by
  let fill (rows : List (String × String)) : Params :=
    rows.foldl (fun m row => m.insert row.1 row.2) ∅
  have absorbs : Absorbs merge (rows.flatMap fun entry => writeDelimited number (entryBody entry))
      (set (fill [])) (set (fill rows)) := by
    refine absorbs_list (fun rows => set (fill rows)) rows fun entry held done => ?_
    have short := fits entry (shuffled.subset held)
    refine absorbs_delimited valid fun rest => takes (fill done) _ _ _ ?_
    simp only [fill, List.foldl_append]
    rw [readParam, (absorbs_entry short).message short]
    rfl
  have filled : fill rows = params := SortedMap.foldl_insert_perm shuffled
  rwa [filled] at absorbs

end Parts
end TableCatalog.Wire

import TableCatalog.Region.Path
import TableCatalog.Proofs.ByteRange

/-! Storage keys reflect the tree. As long as the length of every segment fits its four bytes, the
key of a path starts the keys of the paths below it and of their entries, and of nothing else. -/

namespace TableCatalog.Region.Path

/-- Every segment is short enough for its length to be written. -/
def Short (path : Path) : Prop := ∀ segment ∈ path.segments, Bytes.Short segment

instance (path : Path) : Decidable path.Short :=
  inferInstanceAs (Decidable (∀ segment ∈ path.segments, Bytes.Short segment))

/-- The path is `top` or leads on from it. -/
def Within (path top : Path) : Prop := top.segments <+: path.segments

instance (path top : Path) : Decidable (path.Within top) := inferInstanceAs (Decidable (_ <+: _))

theorem segments_injective {p q : Path} (same : p.segments = q.segments) : p = q := by
  cases p; cases q
  simpa [segments] using same

private theorem encodeSegment_cancel {s t : String} {x y : Bytes} (first : Bytes.Short s)
    (second : Bytes.Short t) (same : encodeSegment s ++ x = encodeSegment t ++ y) :
    s = t ∧ x = y := by
  simp only [encodeSegment, List.cons_append, List.append_assoc, List.cons.injEq, true_and] at same
  have readable {text : String} (short : Bytes.Short text) (rest : Bytes) :
      Bytes.readBigEndian32 (Bytes.bigEndian32 (Bytes.ofText text).length ++ rest) =
        some ((Bytes.ofText text).length, rest) :=
    Bytes.readBigEndian32_bigEndian32 short rest
  have lengths := congrArg Bytes.readBigEndian32 same
  rw [readable first, readable second] at lengths
  obtain ⟨sizes, bodies⟩ := Prod.mk.inj (Option.some.inj lengths)
  obtain ⟨texts, rests⟩ := List.append_inj bodies sizes
  exact ⟨Bytes.ofText_injective texts, rests⟩

private theorem encodeSegments_cons (segment : String) (rest : List String) :
    encodeSegments (segment :: rest) = encodeSegment segment ++ encodeSegments rest :=
  List.flatMap_cons

/-- What follows the segments of a key: the end, or the mark of an entry. -/
private def Ends (left : Bytes) : Prop := ∀ rest, left ≠ segmentMark :: rest

private theorem ends_nil : Ends [] := fun _ same => by cases same

private theorem ends_entry (key : Bytes) : Ends (entryMark :: key) := fun _ same => by cases same

private theorem encodeSegments_start {p q : List String} {left x : Bytes} (ends : Ends left)
    (first : ∀ s ∈ p, Bytes.Short s) (second : ∀ s ∈ q, Bytes.Short s)
    (same : encodeSegments p ++ x = encodeSegments q ++ left) : p <+: q := by
  induction p generalizing q with
  | nil => exact List.nil_prefix
  | cons s p ih =>
    cases q with
    | nil =>
      rw [encodeSegments_cons, List.append_assoc] at same
      exact absurd same.symm (ends _)
    | cons t q =>
      simp only [encodeSegments_cons, List.append_assoc] at same
      obtain ⟨rfl, rests⟩ :=
        encodeSegment_cancel (first s List.mem_cons_self) (second t List.mem_cons_self) same
      rw [List.cons_prefix_cons]
      exact ⟨rfl, ih (fun u held => first u (List.mem_cons_of_mem _ held))
        (fun u held => second u (List.mem_cons_of_mem _ held)) rests⟩

private theorem encodeSegments_start_iff {p q : List String} {left : Bytes} (ends : Ends left)
    (first : ∀ s ∈ p, Bytes.Short s) (second : ∀ s ∈ q, Bytes.Short s) :
    encodeSegments p <+: encodeSegments q ++ left ↔ p <+: q := by
  constructor
  · intro ⟨_, same⟩
    exact encodeSegments_start ends first second same
  · intro ⟨more, same⟩
    rw [← same, encodeSegments, encodeSegments, List.flatMap_append, List.append_assoc]
    exact List.prefix_append _ _

theorem encode_start_encode_iff {p q : Path} (first : p.Short) (second : q.Short) :
    p.encode <+: q.encode ↔ q.Within p := by
  have := encodeSegments_start_iff ends_nil first second
  rwa [List.append_nil] at this

theorem encode_start_entryKey_iff {p q : Path} (first : p.Short) (second : q.Short) (key : Bytes) :
    p.encode <+: q.entryKey key ↔ q.Within p := by
  have := encodeSegments_start_iff (ends_entry key) first second
  rwa [entryKey, entryStem, List.append_assoc]

theorem encode_inj {p q : Path} (first : p.Short) (second : q.Short) :
    p.encode = q.encode ↔ p = q := by
  constructor
  · intro same
    have forth := (encode_start_encode_iff first second).1 (same ▸ List.prefix_rfl)
    have back := (encode_start_encode_iff second first).1 (same ▸ List.prefix_rfl)
    exact segments_injective (forth.eq_of_length_le back.length_le)
  · exact congrArg _

private theorem encodeSegments_entry {p q : List String} {x y : Bytes}
    (first : ∀ s ∈ p, Bytes.Short s) (second : ∀ s ∈ q, Bytes.Short s)
    (same : encodeSegments p ++ entryMark :: x = encodeSegments q ++ entryMark :: y) :
    p = q ∧ x = y := by
  have forth := encodeSegments_start (ends_entry y) first second same
  have back := encodeSegments_start (ends_entry x) second first same.symm
  obtain rfl := forth.eq_of_length_le back.length_le
  exact ⟨rfl, (List.cons.inj (List.append_cancel_left same)).2⟩

theorem entryKey_inj {p q : Path} (first : p.Short) (second : q.Short) {key other : Bytes} :
    p.entryKey key = q.entryKey other ↔ p = q ∧ key = other := by
  constructor
  · intro same
    simp only [entryKey, entryStem, encode, List.append_assoc, List.singleton_append] at same
    obtain ⟨paths, keys⟩ := encodeSegments_entry first second same
    exact ⟨segments_injective paths, keys⟩
  · rintro ⟨rfl, rfl⟩
    rfl

/-- Behind the mark of an entry, a key belongs to one region alone. -/
theorem entryStem_start_entryKey_iff {p q : Path} (first : p.Short)
    (second : q.Short) (key : Bytes) :
    q.entryStem <+: p.entryKey key ↔ p = q := by
  constructor
  · rintro ⟨other, same⟩
    exact ((entryKey_inj second first).1 same).1.symm
  · rintro rfl
    exact List.prefix_append _ _

/-- A region is no entry: were the stem in front of its key, the path of the stem would lead to it
by segments, and the mark would have to begin the next one. -/
theorem not_entryStem_start_encode {p q : Path} (first : p.Short) (second : q.Short) :
    ¬ q.entryStem <+: p.encode := by
  rintro ⟨rest, same⟩
  have within : q.segments <+: p.segments :=
    (encode_start_encode_iff second first).1
      ⟨entryMark :: rest, by rw [← same, entryStem, List.append_assoc]; rfl⟩
  obtain ⟨more, spelled⟩ := within
  have follows : encodeSegments more = entryMark :: rest := by
    rw [encode, ← spelled, encodeSegments, List.flatMap_append,
      entryStem, List.append_assoc] at same
    exact (List.append_cancel_left same).symm
  cases more with
  | nil => cases follows
  | cons segment more => cases follows

/-- Where two paths part at segments that are short, they share
no entries, however long the segments before and after. -/
theorem entryKey_ne_of_parting (root : String) (above : List String)
    {s t : String} (first : Bytes.Short s) (second : Bytes.Short t)
    (apart : s ≠ t) (p q : List String) (key other : Bytes) :
    (⟨root, above ++ s :: p⟩ : Path).entryKey key ≠
      (⟨root, above ++ t :: q⟩ : Path).entryKey other := by
  intro same
  have parted (u : String) (rest : List String) (entry : Bytes) :
      (⟨root, above ++ u :: rest⟩ : Path).entryKey entry =
      encodeSegments (root :: above) ++
        (encodeSegment u ++ (encodeSegments rest ++ entryMark :: entry)) := by
    simp [entryKey, entryStem, encode, segments, encodeSegments]
  rw [parted, parted] at same
  exact apart (encodeSegment_cancel first second (List.append_cancel_left same)).1

theorem drop_entryKey (path : Path) (key : Bytes) :
    (path.entryKey key).drop path.entryStem.length = key := by
  simp [entryKey]

theorem entryKey_lt_iff (path : Path) (key other : Bytes) :
    path.entryKey key < path.entryKey other ↔ key < other := by
  unfold entryKey
  induction path.entryStem with
  | nil => rfl
  | cons byte rest ih => simp [ih]

theorem keys_reflect_tree {p q : Path} (first : p.Short) (second : q.Short) (key other : Bytes) :
    (p.encode <+: q.encode ↔ p.segments <+: q.segments) ∧
    (q.encode <+: p.entryKey key ↔ q.segments <+: p.segments) ∧
    (q.entryStem <+: p.entryKey key ↔ p = q) ∧
    ¬ q.entryStem <+: p.encode ∧
    (p.entryKey key = q.entryKey other → p = q ∧ key = other) :=
  ⟨encode_start_encode_iff first second, encode_start_entryKey_iff second first key,
    entryStem_start_entryKey_iff first second key,
    not_entryStem_start_encode first second, (entryKey_inj first second).1⟩

/-- Segments that hold the marks, nothing at all, or what
looks like another segment are told apart all the same. -/
theorem keys_reflect_tree_marks :
    let inner : Path := ⟨"", ["a\x00\x00\x00\x00\x01b", "\x01"]⟩
    let outer : Path := ⟨"", ["a"]⟩
    (inner.Short ∧ outer.Short) ∧ ¬ outer.encode <+: inner.encode ∧
      ¬ outer.encode <+: inner.entryKey [0x01] ∧ inner.entryKey [0x01] ≠ outer.entryKey [0x00] := by
  intro inner outer
  have short : inner.Short ∧ outer.Short := by decide
  have apart : ¬ outer.segments <+: inner.segments := by decide
  obtain ⟨-, below, -, -, one⟩ := keys_reflect_tree short.1 short.2 [0x01] [0x00]
  exact ⟨short, mt (keys_reflect_tree short.2 short.1 [] []).1.1 apart,
    mt below.1 apart, fun same => absurd (one same).1 (by decide)⟩

end TableCatalog.Region.Path

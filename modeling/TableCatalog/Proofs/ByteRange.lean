import TableCatalog.Bytes

/-! The half-open range that bounds a prefix holds exactly the strings that start with it, and ends
at the least string above them all. A length written in four bytes reads back. -/

namespace TableCatalog.Bytes

/-- The texts whose length four bytes can hold. -/
def Short (text : String) : Prop := text.utf8ByteSize < UInt32.size

instance (text : String) : Decidable (Short text) := inferInstanceAs (Decidable (_ < _))

theorem length_ofText (text : String) : (ofText text).length = text.utf8ByteSize := rfl

theorem ofText_inj {s t : String} : ofText s = ofText t ↔ s = t := ⟨ofText_injective, congrArg _⟩

private theorem lt_succ_iff_not_lt {a b : UInt8} (room : a < 255) : b < a + 1 ↔ ¬ a < b := by
  rw [UInt8.lt_iff_toNat_lt] at room
  have bound : a.toNat < 255 := room
  rw [UInt8.lt_iff_toNat_lt, UInt8.lt_iff_toNat_lt, UInt8.toNat_add, UInt8.toNat_one]
  omega

private theorem not_top_lt {a b : UInt8} (top : ¬ a < 255) : ¬ a < b := by
  rw [UInt8.lt_iff_toNat_lt] at top ⊢
  have bound : ¬ a.toNat < 255 := top
  have := b.toNat_lt
  omega

/-- A string that lies between a prefix and its upper bound starts with the prefix. The bound of a
longer prefix is the bound of its tail, or else its first byte raised by one. -/
theorem inPrefixRange_iff {start key : Bytes} : inPrefixRange start key = true ↔ start <+: key := by
  induction start generalizing key with
  | nil => simp [inPrefixRange, prefixEnd]
  | cons first rest ih =>
    cases key with
    | nil => simp [inPrefixRange]
    | cons head tail =>
      have inner := @ih tail
      simp only [inPrefixRange, Bool.and_eq_true, Bool.not_eq_true',
        decide_eq_false_iff_not] at inner
      simp only [inPrefixRange, Bool.and_eq_true, Bool.not_eq_true', decide_eq_false_iff_not,
        List.cons_lt_cons_iff, List.cons_prefix_cons, prefixEnd, not_or, not_and]
      rw [← inner]
      cases prefixEnd rest with
      | some limit =>
        simp only [Option.all_some, decide_eq_true_eq, List.cons_lt_cons_iff]
        grind
      | none =>
        by_cases room : first < 255
        · have := lt_succ_iff_not_lt (b := head) room
          simp only [room, if_true, Option.all_some, decide_eq_true_eq,
            List.cons_lt_cons_iff, List.not_lt_nil,
            and_false, or_false, this, Option.all_none]
          grind
        · have := not_top_lt (b := head) room
          simp only [room, if_false, Option.all_none]
          grind

/-- Nothing bounds a string of which no byte can grow. -/
theorem prefixEnd_eq_none_iff {start : Bytes} :
    prefixEnd start = none ↔ ∀ byte ∈ start, byte = 0xFF := by
  induction start with
  | nil => simp [prefixEnd]
  | cons first rest ih =>
    rw [List.forall_mem_cons, ← ih, prefixEnd]
    cases prefixEnd rest with
    | some limit => simp
    | none =>
      have top : first = 0xFF ↔ ¬ first < 255 := by
        rw [UInt8.not_lt, UInt8.le_iff_toNat_le, ← UInt8.toNat_inj]
        have := first.toNat_lt
        have full : (255 : UInt8).toNat = 255 := rfl
        omega
      rw [top]
      split <;> simp_all

/-- In the half-open range from a string to its end lie the strings that start with it. -/
theorem startsWith_iff {start key : Bytes} :
    start <+: key ↔ start ≤ key ∧ ∀ bound, prefixEnd start = some bound → key < bound := by
  rw [← inPrefixRange_iff, inPrefixRange, Bool.and_eq_true, Bool.not_eq_true',
    decide_eq_false_iff_not, List.not_lt]
  simp only [Option.all_eq_true, decide_eq_true_eq]

/-- A string above all that start with a given one is no less than the end of that one: it is not in
the range, and not below it. -/
theorem prefixEnd_le {start bound other : Bytes} (ends : prefixEnd start = some bound)
    (above : ∀ key, start <+: key → key < other) : bound ≤ other := by
  have beyond : start < other := above start List.prefix_rfl
  apply List.not_lt.1
  intro short
  have within : start <+: other := startsWith_iff.2 ⟨Std.le_of_lt beyond,
    fun limit same => Option.some.inj (ends.symm.trans same) ▸ short⟩
  exact Std.lt_irrefl (above other within)

theorem prefixEnd_exact (start : Bytes) :
    (prefixEnd start = none ↔ ∀ byte ∈ start, byte = 0xFF) ∧
    (∀ key, start <+: key ↔ start ≤
        key ∧ (prefixEnd start = none ∨ ∃ bound, prefixEnd start = some bound ∧ key < bound)) ∧
    ∀ bound, prefixEnd start = some bound →
      (∀ key, start <+: key → key < bound) ∧
      ∀ other, (∀ key, start <+: key → key < other) → bound ≤ other := by
  refine ⟨prefixEnd_eq_none_iff, fun key => ?range,
    fun bound ends => ⟨?above, fun other => prefixEnd_le ends⟩⟩
  case range =>
    rw [startsWith_iff]
    cases prefixEnd start <;> simp
  case above =>
    intro key within
    exact (startsWith_iff.1 within).2 bound ends

private theorem toNat_byte (n : Nat) : (UInt8.ofNat n).toNat = n % 256 := by simp

theorem readBigEndian32_bigEndian32 {n : Nat} (short : n < UInt32.size) (rest : Bytes) :
    readBigEndian32 (bigEndian32 n ++ rest) = some (n, rest) := by
  have bound : n < 4294967296 := short
  simp only [bigEndian32, List.cons_append, List.nil_append, readBigEndian32, toNat_byte,
    Nat.shiftRight_eq_div_pow, Nat.reducePow]
  congr 2
  omega

end TableCatalog.Bytes

import TableCatalog.Numeral

/-! Digits stand for the number they are written from. A run of digits ends where no digit follows,
so a numeral is read off the front of a text up to the first other character. -/

namespace TableCatalog.Numeral

variable {base n : Nat} {c : Char} {rest : List Char}

/-- A character of a class is none of those that are not in it. -/
theorem not_mem_of_all {p : Char → Bool} {others : List Char}
    (member : p c = true) (apart : others.all (fun d => !p d) = true) : c ∉ others := by
  intro held
  have other := List.all_eq_true.1 apart c held
  rw [member] at other
  cases other

theorem digitValue_digitChar : ∀ digit < 36, digitValue (digitChar digit) = some digit := by decide

theorem isDigit_digitChar {digit : Nat} (small : digit < base) (known : base ≤ 36) :
    isDigit base (digitChar digit) = true := by
  rw [isDigit, digitValue_digitChar digit (by omega)]
  exact decide_eq_true small

theorem value_concat (base : Nat) (digits : List Char) (c : Char) :
    value base (digits ++ [c]) = value base digits * base + (digitValue c).getD 0 := by
  rw [value, List.foldl_append]
  rfl

theorem digits_ne_nil (base n : Nat) : digits base n ≠ [] := by
  rw [digits]
  split
  · exact List.cons_ne_nil _ _
  · exact List.append_ne_nil_of_right_ne_nil _ (List.cons_ne_nil _ _)

theorem isDigit_of_value? {digits : List Char} (known : value? base digits = some n) :
    ∀ c ∈ digits, isDigit base c = true := by
  unfold value? at known
  split at known
  next => cases known
  next digital =>
    simp only [Bool.or_eq_true, Bool.not_eq_true', not_or, Bool.not_eq_false,
      List.all_eq_true] at digital
    exact digital.2

section Base

variable (several : 2 ≤ base) (known : base ≤ 36)
include several known

theorem isDigit_of_mem_digits (held : c ∈ digits base n) : isDigit base c = true := by
  induction n using Nat.strongRecOn with
  | ind n ih =>
    rw [digits] at held
    split at held
    next small =>
      rw [List.mem_singleton.1 held]
      exact isDigit_digitChar (by omega) known
    next large =>
      rcases List.mem_append.1 held with front | last
      · exact ih (n / base) (Nat.div_lt_self (by omega) several) front
      · rw [List.mem_singleton.1 last]
        exact isDigit_digitChar (Nat.mod_lt n (by omega)) known

theorem value_digits (n : Nat) : value base (digits base n) = n := by
  induction n using Nat.strongRecOn with
  | ind n ih =>
    rw [digits]
    split
    next small =>
      rw [← List.nil_append [digitChar n], value_concat, digitValue_digitChar n (by omega)]
      exact (congrArg (· + n) (Nat.zero_mul base)).trans (Nat.zero_add n)
    next large =>
      have digit : n % base < base := Nat.mod_lt n (by omega)
      rw [value_concat, ih (n / base) (Nat.div_lt_self (by omega) several),
        digitValue_digitChar (n % base) (by omega), Option.getD_some]
      exact Nat.div_add_mod' n base

/-- Only the number zero starts with a zero. -/
theorem head?_digits (positive : n ≠ 0) : ∃ c, (digits base n).head? = some c ∧ c ≠ '0' := by
  induction n using Nat.strongRecOn with
  | ind n ih =>
    rw [digits]
    split
    next small =>
      refine ⟨digitChar n, rfl, fun zero => positive ?_⟩
      have known := digitValue_digitChar n (by omega)
      rw [zero] at known
      exact (Option.some.inj known).symm
    next large =>
      have front : n / base ≠ 0 := by
        have := Nat.div_pos (a := n) (b := base) (by omega) (by omega)
        omega
      obtain ⟨c, first, other⟩ := ih (n / base) (Nat.div_lt_self (by omega) several) front
      exact ⟨c, by rw [List.head?_append, first]; rfl, other⟩

end Base

theorem isDigit_of_mem_decimal (held : c ∈ decimal n) : isDigit 10 c = true :=
  isDigit_of_mem_digits (by decide) (by decide) held

theorem decimal_first (n : Nat) : ∃ c front, decimal n = c :: front ∧ isDigit 10 c = true := by
  obtain ⟨c, front, spelled⟩ := List.exists_cons_of_ne_nil (digits_ne_nil 10 n)
  exact ⟨c, front, spelled, isDigit_of_mem_decimal (spelled ▸ List.mem_cons_self)⟩

theorem decimal_whole (n : Nat) :
    decimal n = ['0'] ∨ ∃ c front, decimal n = c :: front ∧ c ≠ '0' := by
  by_cases zero : n = 0
  · rw [zero, decimal, digits]
    exact .inl rfl
  · obtain ⟨c, first, other⟩ := head?_digits (by decide : 2 ≤ 10) (by decide) zero
    obtain ⟨front, spelled⟩ := List.head?_eq_some_iff.1 first
    exact .inr ⟨c, front, spelled, other⟩

theorem value_decimal (n : Nat) : value 10 (decimal n) = n := value_digits (by decide) (by decide) n

/-- No digit comes first. -/
def Stops (base : Nat) (rest : List Char) : Prop := ∀ c ∈ rest.head?, isDigit base c = false

theorem takeWhile_digits {digits : List Char} (all : ∀ c ∈ digits, isDigit base c = true)
    (stops : Stops base rest) :
    (digits ++ rest).takeWhile (isDigit base) = digits ∧
    (digits ++ rest).dropWhile (isDigit base) = rest := by
  rw [List.takeWhile_append_of_pos all, List.dropWhile_append_of_pos all]
  cases rest with
  | nil => exact ⟨List.append_nil digits, rfl⟩
  | cons c rest =>
    have other : ¬ isDigit base c = true := by simp [stops c rfl]
    rw [List.takeWhile_cons_of_neg other, List.dropWhile_cons_of_neg other, List.append_nil]
    exact ⟨rfl, rfl⟩

theorem value?_four {a b c d : Char} {w x y z : Nat} (first : digitValue a = some w)
    (second : digitValue b = some x) (third : digitValue c = some y)
    (fourth : digitValue d = some z) (small : w < 16 ∧ x < 16 ∧ y < 16 ∧ z < 16) :
    value? 16 [a, b, c, d] = some (((w * 16 + x) * 16 + y) * 16 + z) := by
  simp [value?, value, isDigit, first, second, third, fourth, small]

/-- Capitals stand for the same digits. -/
theorem digitValue_toUpper :
    ∀ digit < 16, digitValue (digitChar digit).toUpper = some digit := by decide

section Hex

variable (small : n < 65536)
include small

private theorem hex4_joined :
    ((n / 4096 % 16 * 16 + n / 256 % 16) * 16 + n / 16 % 16) * 16 + n % 16 = n := by omega

theorem value?_hex4 : value? 16 (hex4 n) = some n := by
  have digits := value?_four (digitValue_digitChar (n / 4096 % 16) (by omega))
    (digitValue_digitChar (n / 256 % 16) (by omega)) (digitValue_digitChar (n / 16 % 16) (by omega))
    (digitValue_digitChar (n % 16) (by omega)) (by omega)
  rwa [hex4_joined small] at digits

theorem value?_hex4_toUpper : value? 16 ((hex4 n).map Char.toUpper) = some n := by
  have digits := value?_four (digitValue_toUpper (n / 4096 % 16) (by omega))
    (digitValue_toUpper (n / 256 % 16) (by omega)) (digitValue_toUpper (n / 16 % 16) (by omega))
    (digitValue_toUpper (n % 16) (by omega)) (by omega)
  rwa [hex4_joined small] at digits

end Hex
end TableCatalog.Numeral

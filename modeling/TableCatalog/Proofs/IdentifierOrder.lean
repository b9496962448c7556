import TableCatalog.Identifier
import TableCatalog.Proofs.RegionFrame

/-! Identifiers sort in the order in which they are drawn. The generator orders numbers, while an
index of identifiers is in the order of their texts: as all texts are equally long and the letters
ascend, the two orders are one. -/

namespace TableCatalog

open Region

namespace Bytes

theorem ofText_append (s t : String) : ofText (s ++ t) = ofText s ++ ofText t := by
  simp [ofText, String.toByteArray_append]

/-- What follows strings of one length does not change their order. -/
theorem append_lt_append {front other : Bytes} (equal : front.length = other.length)
    (less : front < other) (x y : Bytes) :
    front ++ x < other ++ y := by
  induction front generalizing other with
  | nil =>
    rw [List.eq_nil_of_length_eq_zero equal.symm] at less
    exact absurd less (List.not_lt_nil [])
  | cons a front ih =>
    cases other with
    | nil => cases equal
    | cons b other =>
      rw [List.cons_append, List.cons_append, List.cons_lt_cons_iff]
      rcases List.cons_lt_cons_iff.1 less with first | ⟨same, rest⟩
      · exact .inl first
      · exact .inr ⟨same, ih (Nat.succ.inj equal) rest⟩

/-- Strictly ascending lists with the same members are one list. -/
theorem eq_of_ascending {keys others : List Bytes} (ascending : keys.Pairwise (· < ·))
    (othersAscending : others.Pairwise (· < ·)) (same : ∀ key, key ∈ keys ↔ key ∈ others) :
    keys = others := by
  have distinct {l : List Bytes} (ascending : l.Pairwise (· < ·)) : l.Nodup :=
    ascending.imp Std.ne_of_lt
  have shuffled :=
    (List.perm_ext_iff_of_nodup (distinct ascending) (distinct othersAscending)).2 same
  exact shuffled.eq_of_pairwise (fun a b _ _ less more =>
    absurd (Std.lt_trans less more) Std.lt_irrefl) ascending othersAscending

end Bytes

namespace Identifier

/-- Every letter is one byte. -/
def letterByte (digit : Nat) : UInt8 := UInt8.ofNat (letter digit).toNat

theorem ofText_letter :
    ∀ digit < 32, Bytes.ofText (String.ofList [letter digit]) = [letterByte digit] := by decide

theorem letterByte_lt : ∀ digit < 32, ∀ below < digit, letterByte below < letterByte digit := by
  decide +kernel

theorem letter_mem_alphabet : ∀ digit < 32, letter digit ∈ alphabet := by decide

theorem length_letters (count n : Nat) : (letters count n).length = count := by
  induction count generalizing n with
  | zero => rfl
  | succ count ih => rw [letters, List.length_append, ih, List.length_singleton]

theorem letters_in_alphabet {count n : Nat} {c : Char} (held : c ∈ letters count n) :
    c ∈ alphabet := by
  induction count generalizing n with
  | zero => cases held
  | succ count ih =>
    rcases List.mem_append.1 held with front | last
    · exact ih front
    · rw [List.mem_singleton.1 last]
      exact letter_mem_alphabet _ (Nat.mod_lt n (by decide))

theorem ofText_letters_succ (count n : Nat) :
    Bytes.ofText (String.ofList (letters (count + 1) n)) =
      Bytes.ofText (String.ofList (letters count (n / 32))) ++ [letterByte (n % 32)] := by
  rw [letters, String.ofList_append, Bytes.ofText_append,
    ofText_letter _ (Nat.mod_lt n (by decide))]

theorem length_ofText_letters (count n : Nat) :
    (Bytes.ofText (String.ofList (letters count n))).length = count := by
  induction count generalizing n with
  | zero => rfl
  | succ count ih => rw [ofText_letters_succ, List.length_append, ih, List.length_singleton]

/-- Numbers that fit into so many letters are in the order of these: they differ in front of the
last letter, or else in it. -/
theorem ofText_letters_lt {count n m : Nat} (fits : m >>> (5 * count) = 0) (less : n < m) :
    Bytes.ofText (String.ofList (letters count n)) <
      Bytes.ofText (String.ofList (letters count m)) := by
  induction count generalizing n m with
  | zero => exact absurd fits (by rw [Nat.mul_zero, Nat.shiftRight_zero]; omega)
  | succ count ih =>
    rw [ofText_letters_succ, ofText_letters_succ]
    by_cases front : n / 32 < m / 32
    · have shorter : (m / 32) >>> (5 * count) = 0 := by
        rwa [Nat.mul_succ, Nat.add_comm, Nat.shiftRight_add, Nat.shiftRight_eq_div_pow m 5] at fits
      exact Bytes.append_lt_append (by rw [length_ofText_letters, length_ofText_letters])
        (ih shorter front) _ _
    · have same : n / 32 = m / 32 :=
        Nat.le_antisymm (Nat.div_le_div_right (Nat.le_of_lt less)) (Nat.le_of_not_lt front)
      rw [same]
      apply List.append_left_lt
      rw [List.cons_lt_cons_iff]
      exact .inl (letterByte_lt _ (Nat.mod_lt m (by decide)) _ (by omega))

variable {identifier other previous next : Identifier} {moment : Moment}

theorem value_fits (identifier : Identifier) : identifier.value >>> (5 * length) = 0 := by
  have time := identifier.millis.isLt
  have chance := identifier.chance.isLt
  rw [value, length, Nat.shiftRight_eq_zero]
  omega

theorem ofText_text_lt (less : identifier.value < other.value) :
    Bytes.ofText identifier.text < Bytes.ofText other.text :=
  ofText_letters_lt other.value_fits less

theorem value_lt_of_millis (later : previous.millis.toNat < next.millis.toNat) :
    previous.value < next.value := by
  have first := previous.chance.isLt
  rw [value, value]
  omega

theorem next?_ascends (given : previous.next? = some next) : previous.value < next.value := by
  unfold next? at given
  split at given
  next => cases given
  next room =>
    cases given
    have bound := previous.chance.isLt
    have full : (BitVec.allOnes 80).toNat = 1208925819614629174706175 := rfl
    have one : (1 : BitVec 80).toNat = 1 := rfl
    have raised : (previous.chance + 1).toNat = previous.chance.toNat + 1 := by
      rw [← BitVec.toNat_inj, full] at room
      rw [BitVec.toNat_add, one, Nat.mod_eq_of_lt (by omega)]
    show previous.millis.toNat <<< 80 + previous.chance.toNat <
      previous.millis.toNat <<< 80 + (previous.chance + 1).toNat
    omega

/-- A generator that gives the next number of its millisecond or one of a later millisecond gives a
greater one, as long as the clock has not run past 48 bits. -/
theorem follow?_ascends (within : moment.millis < 1 <<< 48)
    (given : previous.follow? moment = some next) : previous.value < next.value := by
  unfold follow? at given
  split at given
  next => exact next?_ascends given
  next later =>
    cases given
    apply value_lt_of_millis
    have kept : (BitVec.ofNat 48 moment.millis).toNat = moment.millis := Nat.mod_eq_of_lt within
    show previous.millis.toNat < (BitVec.ofNat 48 moment.millis).toNat
    omega

theorem value_le (identifier : Identifier) :
    identifier.value ≤ (⟨.allOnes 48, .allOnes 80⟩ : Identifier).value := by
  have time := identifier.millis.isLt
  have chance := identifier.chance.isLt
  have last : (⟨.allOnes 48, .allOnes 80⟩ : Identifier).value = (1 <<< 128) - 1 := rfl
  rw [last, value]
  omega

end Identifier

/-- What is expected of a generator at a moment: it gives a
greater number than the one before, unless it has none left. -/
def Moment.Ascends (moment : Moment) : Prop :=
  ∀ previous next, Identifier.follow? previous moment = some next → previous.value < next.value

/-- The expectation is met until the clock needs more than
48 bits; then its reading starts again at zero. -/
theorem Moment.ascends_iff {moment : Moment} : moment.Ascends ↔ moment.millis < 1 <<< 48 := by
  constructor
  · intro ascends
    apply Nat.lt_of_not_le
    intro beyond
    let last : Identifier := ⟨.allOnes 48, .allOnes 80⟩
    have later : ¬ moment.millis ≤ last.millis.toNat := by
      have full : last.millis.toNat = (1 <<< 48) - 1 := rfl
      omega
    have given : last.follow? moment = some (.ofMoment moment) := if_neg later
    exact absurd (ascends last _ given) (Nat.not_lt.2 (Identifier.value_le _))
  · intro within previous next given
    exact Identifier.follow?_ascends within given

namespace Generator

variable {generator : Generator} {moment spare : Moment} {draws : List (Moment × Moment)}

/-- At no draw has the millisecond run out of numbers. -/
def lasts (generator : Generator) : List (Moment × Moment) → Bool
  | [] => true
  | (moment, spare) :: rest =>
    (generator.previous.follow? moment).isSome && (generator.draw moment spare).2.lasts rest

/-- A draw gives a greater identifier than the one before and keeps it. -/
theorem draw_ascends (followed : (generator.previous.follow? moment).isSome = true)
    (ascends : moment.Ascends) (spare : Moment) :
    generator.previous.value < (generator.draw moment spare).1.value ∧
    (generator.draw moment spare).2.previous = (generator.draw moment spare).1 := by
  obtain ⟨next, given⟩ := Option.isSome_iff_exists.1 followed
  simp only [draw, given]
  exact ⟨ascends _ next given, trivial⟩

theorem drawAll_cons (moment spare : Moment) (rest : List (Moment × Moment)) :
    generator.drawAll ((moment, spare) :: rest) =
      (generator.draw moment spare).1 :: (generator.draw moment spare).2.drawAll rest := rfl

/-- Whatever is drawn is above the last identifier before and below all that is drawn after it. -/
theorem drawAll_ascends (lasts : generator.lasts draws = true)
    (ascends : ∀ draw ∈ draws, draw.1.Ascends) :
    (generator.previous :: generator.drawAll draws).Pairwise (·.value < ·.value) := by
  induction draws generalizing generator with
  | nil => exact List.pairwise_singleton _ _
  | cons draw rest ih =>
    obtain ⟨moment, spare⟩ := draw
    obtain ⟨followed, lasts⟩ := Bool.and_eq_true_iff.1 lasts
    obtain ⟨now, later⟩ := List.forall_mem_cons.1 ascends
    obtain ⟨above, kept⟩ := draw_ascends followed now spare
    have run := ih lasts later
    rw [kept] at run
    rw [drawAll_cons]
    refine List.pairwise_cons.2 ⟨?_, run⟩
    intro identifier held
    rcases List.mem_cons.1 held with rfl | drawn
    · exact above
    · exact Nat.lt_trans above ((List.pairwise_cons.1 run).1 identifier drawn)

theorem length_drawAll (generator : Generator) (draws : List (Moment × Moment)) :
    (generator.drawAll draws).length = draws.length := by
  induction draws generalizing generator with
  | nil => rfl
  | cons draw rest ih => rw [drawAll_cons, List.length_cons, ih, List.length_cons]

end Generator

/-- The keys of a region that are among some ascending ones stand in their order. -/
theorem scan_in_order {keys : List Bytes} (ascending : keys.Pairwise (· < ·))
    (store : Store) (region : Path) :
    ((store.scan region).map (·.1)).filter (fun key => decide (key ∈ keys)) = keys.filter fun key =>
      (store.get? region key).isSome := by
  refine Bytes.eq_of_ascending ((List.pairwise_map.2 (store.scan_sorted region)).filter _)
    (ascending.filter _) fun key => ?_
  simp only [List.mem_filter, List.mem_map, decide_eq_true_eq, Option.isSome_iff_exists]
  constructor
  · rintro ⟨⟨⟨_, value⟩, held, rfl⟩, drawn⟩
    exact ⟨drawn, value, (store.mem_scan region _ value).1 held⟩
  · rintro ⟨drawn, value, held⟩
    exact ⟨⟨(key, value), (store.mem_scan region key value).2 held, rfl⟩, drawn⟩

theorem drawn_in_order (generator : Generator) (draws : List (Moment × Moment))
    (lasts : generator.lasts draws = true) (ascends : ∀ draw ∈ draws, draw.1.Ascends) :
    let texts := (generator.drawAll draws).map Identifier.text
    let keys := texts.map Bytes.ofText
    texts.length = draws.length ∧
    (∀ text ∈ texts, text.length = 26 ∧ ∀ c ∈ text.toList, c ∈ Identifier.alphabet) ∧
    keys.Pairwise (· < ·) ∧
    texts.Nodup ∧
    ∀ (store : Store) (region : Path),
      ((store.scan region).map (·.1)).filter (fun key => decide (key ∈ keys)) =
        keys.filter fun key => (store.get? region key).isSome := by
  intro texts keys
  have numbers := (List.pairwise_cons.1 (Generator.drawAll_ascends lasts ascends)).2
  have ascending : keys.Pairwise (· < ·) := by
    refine List.pairwise_map.2 (List.pairwise_map.2 (numbers.imp ?_))
    exact fun less => Identifier.ofText_text_lt less
  refine ⟨?count, ?letters, ascending, ?distinct, scan_in_order ascending⟩
  case count => rw [List.length_map, Generator.length_drawAll]
  case letters =>
    intro text held
    obtain ⟨identifier, -, rfl⟩ := List.mem_map.1 held
    rw [Identifier.text, String.length_ofList, String.toList_ofList]
    exact ⟨Identifier.length_letters _ _, fun c => Identifier.letters_in_alphabet⟩
  case distinct =>
    refine (List.pairwise_map.1 ascending).imp ?_
    rintro earlier _ less rfl
    exact Std.lt_irrefl less

/-- Four draws: the second falls into the millisecond of the first, in the third the clock stands
behind them, in the fourth it has gone on. -/
def unsteadyClock : List (Moment × Moment) :=
  [(⟨5, 31⟩, ⟨5, 0⟩), (⟨5, 7⟩, ⟨5, 0⟩), (⟨3, 900⟩, ⟨3, 0⟩), (⟨6, 2⟩, ⟨6, 0⟩)]

/-- Behind the last letter of the alphabet the next place goes up by one. -/
theorem drawn_in_order_unsteady :
    (({} : Generator).lasts unsteadyClock = true ∧ ∀ draw ∈ unsteadyClock, draw.1.Ascends) ∧
    (({} : Generator).drawAll unsteadyClock).map Identifier.text =
      ["0000000005000000000000000Z", "00000000050000000000000010",
        "00000000050000000000000011", "00000000060000000000000002"] ∧
    ((({} : Generator).drawAll unsteadyClock).map Identifier.text).Nodup := by
  have lasts : ({} : Generator).lasts unsteadyClock = true := by decide
  have ascends : ∀ draw ∈ unsteadyClock, draw.1.Ascends := by
    intro draw held
    have within : ∀ draw ∈ unsteadyClock, draw.1.millis < 1 <<< 48 := by decide
    exact Moment.ascends_iff.2 (within draw held)
  exact ⟨⟨lasts, ascends⟩, by decide, (drawn_in_order {} unsteadyClock lasts ascends).2.2.2.1⟩

end TableCatalog

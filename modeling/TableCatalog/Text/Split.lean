/-! Splitting a text at a character. -/

namespace TableCatalog.Text

/-- Splits at the first occurrence of a character; nothing if it does not occur. -/
def splitFirst (sep : Char) : List Char → Option (List Char × List Char)
  | [] => none
  | c :: rest =>
    if c = sep then some ([], rest)
    else (splitFirst sep rest).map fun (front, back) => (c :: front, back)

/-- Splits at every occurrence of a character; what it splits into is never empty. -/
def splitAll (sep : Char) : List Char → List (List Char)
  | [] => [[]]
  | c :: rest =>
    if c = sep then [] :: splitAll sep rest
    else
      match splitAll sep rest with
      | part :: parts => (c :: part) :: parts
      | [] => [[c]]

theorem splitAll_ne_nil (sep : Char) (text : List Char) : splitAll sep text ≠ [] := by
  cases text with
  | nil => simp [splitAll]
  | cons c rest =>
    unfold splitAll
    split
    · simp
    · split <;> simp

/-- Joining the parts gives the text back. -/
theorem intercalate_splitAll (sep : Char) (text : List Char) : [sep].intercalate (splitAll sep text) = text := by
  induction text with
  | nil => rfl
  | cons c rest ih =>
    unfold splitAll
    match parts : splitAll sep rest with
    | [] => exact absurd parts (splitAll_ne_nil sep rest)
    | part :: more =>
      rw [parts] at ih
      split
      · next equal =>
        simp only [List.intercalate, List.intersperse, List.flatten_cons, List.nil_append] at ih ⊢
        rw [ih, equal, List.singleton_append]
      · cases more <;> simp_all [List.intercalate, List.intersperse]

end TableCatalog.Text

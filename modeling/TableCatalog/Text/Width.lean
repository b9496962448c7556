import TableCatalog.Text.Ranges

/-! The room a text takes on a display with columns of equal width. Most characters take one column,
wide ones two and combining ones none; a few sequences are shown as one sign and take the room of
that sign. -/

namespace TableCatalog.Text

/-- The columns that a character takes by itself. -/
def charWidth (c : Char) : Nat :=
  if c.toNat < 0x7F then 1
  else if c = '\u17D8' then 3
  else if inRanges zeroWidth c then 0
  else if inRanges doubleWidth c then 2
  else 1

def textMark : Char := '\uFE0E'

def pictureMark : Char := '\uFE0F'

/-- Joins two pictures into one. -/
def joiner : Char := '\u200D'

/-- Keeps two letters apart. -/
def nonJoiner : Char := '\u200C'

def isSkinTone (c : Char) : Bool := 0x1F3FB ≤ c.toNat && c.toNat ≤ 0x1F3FF

/-- Reads one picture off the front: a character shown as one, with the mark that makes it so or with a
skin tone. -/
def readPicture : List Char → Option (List Char)
  | [] => none
  | c :: rest =>
    match rest with
    | d :: more =>
      if isSkinTone d && inRanges modifierBase c then some more
      else if d = pictureMark && (inRanges emojiOnRequest c || inRanges emojiByDefault c) then some more
      else if inRanges emojiByDefault c && d ≠ textMark then some rest
      else none
    | [] => if inRanges emojiByDefault c then some [] else none

/-- Reads on through pictures joined to the one before. -/
def skipJoined : Nat → List Char → List Char
  | fuel + 1, c :: rest =>
    if c = joiner then
      match readPicture rest with
      | some rest => skipJoined fuel rest
      | none => c :: rest
    else c :: rest
  | _, rest => rest

/-- After a letter of the lam group: what follows the alef it joins with, past marks between them. -/
def skipAlef : List Char → Option (List Char)
  | [] => none
  | c :: rest =>
    if inRanges alefGroup c then some rest
    else if inRanges zeroWidth c && c ≠ joiner && c ≠ nonJoiner then skipAlef rest
    else none

/-- The columns that a text takes, read with so much fuel. -/
def widthFrom : Nat → List Char → Nat
  | 0, _ => 0
  | _, [] => 0
  | fuel + 1, c :: rest =>
    if c.toNat < 0x7F && rest.head? != some pictureMark then 1 + widthFrom fuel rest
    else
      match readPicture (c :: rest) with
      | some rest => 2 + widthFrom fuel (skipJoined fuel rest)
      | none =>
        if rest.head? = some textMark && inRanges textOnRequest c then 1 + widthFrom fuel rest.tail
        else if inRanges lamGroup c then
          match skipAlef rest with
          | some rest => 1 + widthFrom fuel rest
          | none => charWidth c + widthFrom fuel rest
        else charWidth c + widthFrom fuel rest

/-- The columns that a line of text takes. -/
def width (line : List Char) : Nat := widthFrom line.length line

end TableCatalog.Text

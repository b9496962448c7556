/-! Identifiers of databases, tables and partitions: numbers of 128 bits, the time of their making in the
high 48 and chance in the low 80, written with 26 letters of an alphabet of 32. Since all texts are
equally long and the alphabet is in order, texts are ordered as the numbers are. -/

namespace TableCatalog

structure Identifier where
  millis : BitVec 48
  chance : BitVec 80
deriving DecidableEq, Repr

/-- A reading of the clock, in milliseconds, and of a source of chance. -/
structure Moment where
  millis : Nat
  chance : Nat
deriving DecidableEq, Repr

namespace Identifier

def length : Nat := 26

/-- The digits and letters without those that are easily taken for another. -/
def alphabet : List Char := "0123456789ABCDEFGHJKMNPQRSTVWXYZ".toList

def letter (digit : Nat) : Char := alphabet.getD digit '0'

/-- The last `count` digits of a number in base 32, the most significant first. -/
def letters : Nat → Nat → List Char
  | 0, _ => []
  | count + 1, n => letters count (n / 32) ++ [letter (n % 32)]

def value (identifier : Identifier) : Nat := identifier.millis.toNat <<< 80 + identifier.chance.toNat

def text (identifier : Identifier) : String := String.ofList (letters length identifier.value)

/-- An identifier made of a moment alone. -/
def ofMoment (moment : Moment) : Identifier := ⟨.ofNat 48 moment.millis, .ofNat 80 moment.chance⟩

/-- The next number of the same millisecond, if there is one. -/
def next? (identifier : Identifier) : Option Identifier :=
  if identifier.chance = .allOnes 80 then none else some { identifier with chance := identifier.chance + 1 }

/-- The identifier to follow this one: made of the moment if its millisecond is a later one, and the next
number otherwise. -/
def follow? (previous : Identifier) (moment : Moment) : Option Identifier :=
  if moment.millis ≤ previous.millis.toNat then previous.next? else some (ofMoment moment)

end Identifier

/-- Where identifiers come from: it keeps the last one it gave. -/
structure Generator where
  previous : Identifier := ⟨0, 0⟩
deriving DecidableEq, Repr

namespace Generator

/-- Draws an identifier. If the millisecond has no number left, one is made of the spare moment and not
kept. -/
def draw (generator : Generator) (moment spare : Moment) : Identifier × Generator :=
  match generator.previous.follow? moment with
  | some identifier => (identifier, ⟨identifier⟩)
  | none => (.ofMoment spare, generator)

/-- Draws an identifier for every moment, each with its spare. -/
def drawAll (generator : Generator) : List (Moment × Moment) → List Identifier
  | [] => []
  | (moment, spare) :: rest =>
    let (identifier, generator) := generator.draw moment spare
    identifier :: generator.drawAll rest

end Generator
end TableCatalog

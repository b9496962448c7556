/-! Byte strings, in the order in which storage keeps its keys: lexicographic, a shorter string
before its extensions. `prefixEnd` bounds the strings that start with a given one, so a scan over
them is a half-open range. -/

namespace TableCatalog

abbrev Bytes := List UInt8

instance : Std.LawfulOrderLT Bytes := inferInstance

namespace Bytes

/-- The UTF-8 bytes of a text. -/
def ofText (text : String) : Bytes := text.toUTF8.data.toList

/-- The text that has these UTF-8 bytes, if there is one. -/
def text? (bytes : Bytes) : Option String := String.fromUTF8? ⟨⟨bytes⟩⟩

/-- Reading back the bytes of a text gives the text. -/
theorem text?_ofText (text : String) : text? (ofText text) = some text := by
  have same : (⟨⟨ofText text⟩⟩ : ByteArray) = text.toByteArray := rfl
  unfold text? String.fromUTF8?
  rw [same, dif_pos text.isValidUTF8]
  rfl

theorem ofText_injective {s t : String} (same : ofText s = ofText t) : s = t :=
  Option.some.inj (by rw [← text?_ofText s, ← text?_ofText t, same])

/-- A number of 32 bits in four bytes, the most significant first. -/
def bigEndian32 (n : Nat) : Bytes :=
  [UInt8.ofNat (n >>> 24), UInt8.ofNat (n >>> 16), UInt8.ofNat (n >>> 8), UInt8.ofNat n]

/-- Reads a number from the first four bytes, the most significant first. -/
def readBigEndian32 : Bytes → Option (Nat × Bytes)
  | a :: b :: c :: d :: rest =>
    some (((a.toNat * 256 + b.toNat) * 256 + c.toNat) * 256 + d.toNat, rest)
  | _ => none

theorem length_of_readBigEndian32 {bytes rest : Bytes} {n : Nat}
    (read : readBigEndian32 bytes = some (n, rest)) : rest.length < bytes.length := by
  unfold readBigEndian32 at read
  split at read
  · cases read; simp only [List.length_cons]; omega
  · cases read

/-- The least string above every string that starts with the given one. Trailing bytes 0xFF
cannot grow, so the last byte that can is raised by one; if none can, nothing lies above. -/
def prefixEnd : Bytes → Option Bytes
  | [] => none
  | first :: rest =>
    match prefixEnd rest with
    | some bound => some (first :: bound)
    | none => if first < 255 then some [first + 1] else none

/-- The half-open range of all strings that start with `start`. -/
def inPrefixRange (start : Bytes) (key : Bytes) : Bool :=
  !decide (key < start) && (prefixEnd start).all fun bound => decide (key < bound)

end Bytes
end TableCatalog

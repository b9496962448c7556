import TableCatalog.Bytes

/-! A region is addressed by the segments of its path, from the root down. Storage keys are byte
strings: every segment is written with its length in front, so the bytes of a path start the bytes
of every path below it and of no other, and a mark that no segment starts with sets the entries of
a region apart from the regions inside it. -/

namespace TableCatalog.Region

/-- The address of a region: the root it belongs to and the segments below that root. -/
structure Path where
  root : String
  below : List String := []
deriving DecidableEq, Repr

namespace Path

def segments (path : Path) : List String := path.root :: path.below

/-- The path with these segments; a path has at least one. -/
def ofSegments? : List String → Option Path
  | [] => none
  | root :: below => some ⟨root, below⟩

/-- The region directly inside this one that goes by `segment`. -/
def child (path : Path) (segment : String) : Path := { path with below := path.below ++ [segment] }

/-- The path as people read it. -/
def text (path : Path) : String := "/".intercalate path.segments

/-- The byte in front of a segment. -/
def segmentMark : UInt8 := 0x00

/-- The byte between a path and the key of an entry. -/
def entryMark : UInt8 := 0x01

/-- A segment in a storage key: the mark, the length in four bytes, the text. -/
def encodeSegment (segment : String) : Bytes :=
  let body := Bytes.ofText segment
  segmentMark :: (Bytes.bigEndian32 body.length ++ body)

def encodeSegments (segments : List String) : Bytes := segments.flatMap encodeSegment

/-- The storage key of the region itself. -/
def encode (path : Path) : Bytes := encodeSegments path.segments

/-- What the storage keys of all entries of the region start with. -/
def entryStem (path : Path) : Bytes := path.encode ++ [entryMark]

/-- The storage key of one entry of the region. -/
def entryKey (path : Path) (key : Bytes) : Bytes := path.entryStem ++ key

/-- Reads segments off the front of a storage key and returns them with what is left: nothing, or
an entry mark and the key of an entry. -/
def readSegments : Bytes → Option (List String × Bytes)
  | [] => some ([], [])
  | mark :: rest =>
    if mark ≠ segmentMark then some ([], mark :: rest)
    else match _read : Bytes.readBigEndian32 rest with
      | none => none
      | some (size, rest) =>
        if rest.length < size then none
        else match Bytes.text? (rest.take size) with
          | none => none
          | some segment => (readSegments (rest.drop size)).map fun (more, left) => (segment :: more, left)
termination_by key => key.length
decreasing_by
  have shorter := Bytes.length_of_readBigEndian32 _read
  simp only [List.length_drop, List.length_cons]
  omega

/-- The region that a storage key belongs to, and the key of its entry if it is an entry's. -/
def decode? (key : Bytes) : Option (Path × Option Bytes) :=
  match readSegments key with
  | some (root :: below, []) => some (⟨root, below⟩, none)
  | some (root :: below, mark :: entry) => if mark = entryMark then some (⟨root, below⟩, some entry) else none
  | _ => none

end Path
end TableCatalog.Region

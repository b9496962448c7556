import TableCatalog.Proofs.Contents
import TableCatalog.Proofs.RegionFrame

/-! Where the contents of a catalog lie in the tree of regions. A
layout tells what the regions at and below some place hold, so a change
inside one entity is told by the layout of that entity alone. -/

namespace TableCatalog.Region

namespace Path

/-- The region reached from this one by more segments. -/
def extend (path : Path) (more : List String) : Path := { path with below := path.below ++ more }

theorem extend_inj (path : Path) {x y : List String} : path.extend x = path.extend y ↔ x = y := by
  simp [extend]

theorem extend_within_iff (path : Path) {x y : List String} :
    (path.extend x).Within (path.extend y) ↔ y <+: x := by
  simp [Within, extend, segments, List.prefix_append_right_inj]

theorem extend_extend (path : Path) (x y : List String) :
    (path.extend x).extend y = path.extend (x ++ y) := by
  simp [extend]

theorem within_refl (path : Path) : path.Within path := List.prefix_rfl

theorem Within.trans {path middle top : Path} (inner : path.Within middle)
    (outer : middle.Within top) : path.Within top :=
  List.IsPrefix.trans outer inner

theorem extend_within (path : Path) (more : List String) : (path.extend more).Within path := by
  simp [Within, extend, segments]

theorem Short.extend {path : Path} (short : path.Short) (more : List String)
    (others : ∀ segment ∈ more, Bytes.Short segment) :
    (path.extend more).Short := by
  intro segment held
  simp only [segments, Path.extend, List.mem_cons, List.mem_append] at held
  rcases held with rfl | inside | inside
  · exact short _ (by simp [segments])
  · exact short _ (by simp [segments, inside])
  · exact others _ inside

end Path

/-- All that differs lies at or below a path. -/
structure ChangesWithin (top : Path) (store after : Store) : Prop where
  keyed : store.Keyed → after.Keyed
  counter : ∀ path : Path, path.Short → ¬ path.Within top →
    after.counter? path = store.counter? path
  get : ∀ (path : Path) key, path.Short → ¬ path.Within top →
    after.get? path key = store.get? path key

namespace ChangesWithin

variable {top wider path : Path} {store middle after : Store}

theorem refl (top : Path) (store : Store) : ChangesWithin top store store :=
  ⟨id, fun _ _ _ => rfl, fun _ _ _ _ => rfl⟩

theorem trans (first : ChangesWithin top store middle) (second : ChangesWithin top middle after) :
    ChangesWithin top store after where
  keyed keyed := second.keyed (first.keyed keyed)
  counter path short apart :=
    (second.counter path short apart).trans (first.counter path short apart)
  get path key short apart :=
    (second.get path key short apart).trans (first.get path key short apart)

theorem widen (changed : ChangesWithin top store after) (inside : top.Within wider) :
    ChangesWithin wider store after where
  keyed := changed.keyed
  counter path short apart := changed.counter path short fun held => apart (held.trans inside)
  get path key short apart := changed.get path key short fun held => apart (held.trans inside)

private theorem ne_of_within {other : Path} (inside : path.Within top)
    (apart : ¬ other.Within top) : other ≠ path := by
  rintro rfl
  exact apart inside

theorem setCounter (short : path.Short) (inside : path.Within top) (count : UInt64) :
    ChangesWithin top store (store.setCounter path count) where
  keyed keyed := keyed.setCounter short count
  counter other otherShort apart := by
    rw [Store.counter?_setCounter short otherShort, if_neg (ne_of_within inside apart)]
  get _ _ _ _ := rfl

theorem createRegion (short : path.Short) (inside : path.Within top) :
    ChangesWithin top store (store.createRegion path) := by
  rw [Store.createRegion_eq]
  split
  · exact refl top store
  · exact setCounter short inside 0

theorem put (short : path.Short) (inside : path.Within top) (key value : Bytes) :
    ChangesWithin top store (store.put path key value) where
  keyed keyed := keyed.put short key value
  counter _ _ _ := rfl
  get other otherKey otherShort apart := by
    rw [Store.get?_put short otherShort, if_neg fun same => ne_of_within inside apart same.1]

theorem delete (short : path.Short) (inside : path.Within top) (key : Bytes) :
    ChangesWithin top store (store.delete path key) where
  keyed keyed := keyed.delete path key
  counter _ _ _ := rfl
  get other otherKey otherShort apart := by
    rw [Store.get?_delete short otherShort, if_neg fun same => ne_of_within inside apart same.1]

theorem deleteRegion (short : path.Short) (inside : path.Within top) :
    ChangesWithin top store (store.deleteRegion path) where
  keyed keyed := keyed.deleteRegion path
  counter other otherShort apart := by
    rw [Store.counter?_deleteRegion short otherShort, if_neg fun held => apart (held.trans inside)]
  get other key otherShort apart := by
    rw [Store.get?_deleteRegion short otherShort, if_neg fun held => apart (held.trans inside)]

end ChangesWithin
end TableCatalog.Region

namespace TableCatalog

open Region

/-- The counters and entries of the regions reached from one place by some segments. -/
structure Layout where
  counter? : List String → Option UInt64
  get? : List String → Bytes → Option Bytes

def Layout.nothing : Layout := ⟨fun _ => none, fun _ _ => none⟩

/-- What is stored of an entity: a record in its level, and what lies in its own region. -/
class Node (ε : Type) (ρ : outParam Type) [Wire.Message ρ] where
  record : ε → ρ
  ident : ε → Option Ident
  below : ε → Layout

def Shelf.layout (shelf : Option Shelf) : Layout where
  counter?
    | [] => shelf.map (·.count)
    | _ :: _ => none
  get?
    | [], key => (shelf.bind fun shelf => shelf.rows.find? key).map Wire.Message.encode
    | _ :: _, _ => none

/-- A table without partitions has no region of its own. -/
theorem Shelf.layout_none : Shelf.layout none = .nothing := by
  simp only [Shelf.layout, Layout.nothing, Layout.mk.injEq]
  exact ⟨funext fun below => by cases below <;> rfl,
    funext fun below => funext fun key => by cases below <;> rfl⟩

instance : Node TableNode Table where
  record node := node.record
  ident node := node.record.ident
  below node := Shelf.layout node.shelf

namespace Index

variable {ε ρ : Type} [Wire.Message ρ] [Node ε ρ]

/-- What lies in the region of the entity with an identifier. -/
def below (index : Index ε) (id : String) : Layout := (index.node? id).elim .nothing Node.below

def layout (index : Index ε) (inside : String) : Layout where
  counter?
    | [] => some index.count
    | [segment] => if segment = "BYNAME" ∨ segment = "BYID" ∨ segment = inside then some 0 else none
    | segment :: id :: rest => if segment = inside then (index.below id).counter? rest else none
  get?
    | [], _ => none
    | [segment], key =>
      if segment = "BYNAME" then (index.names.find? key).map Bytes.ofText
      else if segment = "BYID" then (index.entries.find? key).map fun node =>
        Wire.Message.encode (Node.record node)
      else none
    | segment :: id :: rest, key =>
      if segment = inside then (index.below id).get? rest key else none

end Index

instance : Node DatabaseNode Database where
  record node := node.record
  ident node := node.record.ident
  below node := node.tables.layout "TBLS"

def Contents.layout (contents : Contents) (catalog : String) : Layout :=
  (contents.find? catalog).elim .nothing (·.layout "DB")

/-- From a path on, the store is laid out like this. -/
def Shows (store : Store) (root : Path) (layout : Layout) : Prop :=
  ∀ below, (root.extend below).Short →
    store.counter? (root.extend below) = layout.counter? below ∧
    ∀ key, store.get? (root.extend below) key = layout.get? below key

/-- The store holds these contents and nothing else. -/
structure Holds (store : Store) (contents : Contents) : Prop where
  keyed : store.Keyed
  shows : ∀ catalog, Shows store ⟨catalog, []⟩ (contents.layout catalog)

end TableCatalog

/-
A loaded map: its tile sets, its layers and its objects.

The fields are those of the source, with exact numbers for coordinates.
-/
import Exolon.CoreGraphics

namespace Exolon.Tmx

/-- `[String: String]` -/
abbrev Properties := String → Option String

/-- `properties[name] = value` -/
def Properties.set (p : Properties) (name value : String) : Properties :=
  Function.update p name (some value)

structure TMXTileset where
  firstGID : UInt32
  name : String
  tileWidth : Int
  tileHeight : Int
  imageSource : String := ""
  imageWidth : Int := 0
  imageHeight : Int := 0
  deriving DecidableEq

structure TMXLayer where
  name : String
  width : Int
  height : Int
  gids : List UInt32
  deriving DecidableEq

structure TMXImageLayer where
  name : String
  imageSource : String
  imageWidth : Int
  imageHeight : Int
  deriving DecidableEq

structure TMXObject where
  name : String
  gid : Option UInt32
  x : Rat
  y : Rat
  width : Rat
  height : Rat
  properties : Properties := fun _ => none

structure TMXObjectGroup where
  name : String
  objects : List TMXObject

structure TMXMapData where
  width : Int
  height : Int
  tileWidth : Int
  tileHeight : Int
  properties : Properties
  tilesets : List TMXTileset
  imageLayers : List TMXImageLayer
  layers : List TMXLayer
  objectGroups : List TMXObjectGroup

namespace TMXMapData

variable (m : TMXMapData)

def pixelHeight : Rat := (m.height * m.tileHeight : Int)

/-- `object(named:)` -/
def object (name : String) : Option TMXObject :=
  (m.objectGroups.flatMap TMXObjectGroup.objects).find? fun o =>
    o.name == name

/-- `worldBottomLeft(for:)` -/
def worldBottomLeft (o : TMXObject) : CGPoint :=
  if o.properties "coordinateMode" = some "tiledRect" then
    ⟨o.x, m.pixelHeight - o.y - o.height⟩
  else ⟨o.x, m.pixelHeight - o.y⟩

end TMXMapData

-- ============================================================ ranges

/-- `0..<n`; a range that ends before it starts is a trap. -/
def upTo (n : Int) : Option (List Int) :=
  if n < 0 then none else some ((List.range n.toNat).map Int.ofNat)

/-- `array[i]`, a trap outside of the array. -/
def subscript {α : Type} (array : List α) (i : Int) : Option α :=
  if i < 0 then none else array[i.toNat]?

theorem mapM_some {α β : Type} {f : α → Option β} {g : α → β} {l : List α}
    (h : ∀ a ∈ l, f a = some (g a)) : l.mapM f = some (l.map g) := by
  induction l with
  | nil => rfl
  | cons a l ih =>
      rw [List.forall_mem_cons] at h
      rw [List.mapM_cons, h.1, ih h.2]
      rfl

theorem mem_ofNat_range {n : Int} {c : Int} :
    c ∈ (List.range n.toNat).map Int.ofNat ↔ 0 ≤ c ∧ c < n := by
  rw [List.mem_map]
  constructor
  · rintro ⟨k, hk, rfl⟩
    rw [List.mem_range] at hk
    exact ⟨Int.natCast_nonneg k, by show (k : Int) < n; omega⟩
  · rintro ⟨h0, hn⟩
    exact ⟨c.toNat, List.mem_range.mpr (by omega), Int.toNat_of_nonneg h0⟩

end Exolon.Tmx

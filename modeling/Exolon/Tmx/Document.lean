/-
The document: the tree of elements, and what it says.

`Node.events` is what the parser tells about a tree. `read` is the direct
reading of a map element: each property, image and data with the element
it stands in. What stands in an element are its `elements`: those of the
loader's vocabulary inside of it, outermost ones only, each with the other
elements on the way down (`Element.path`).

`InMap` is the nesting of a map, `Confined` the condition under which the
events are read as the tree is.
-/
import Exolon.Tmx.Loader

namespace Exolon.Tmx

/-- A node of the tree. -/
inductive Node
  | text (characters : Text)
  | element (name : String) (attributes : Attributes) (children : List Node)

mutual

/-- The events of a node, in document order. -/
def Node.events : Node → List Event
  | .text characters => [.foundCharacters characters]
  | .element name attributes children =>
      .didStartElement name attributes
        :: (eventsAll children ++ [.didEndElement name])

def eventsAll : List Node → List Event
  | [] => []
  | node :: nodes => node.events ++ eventsAll nodes

end

/-- The elements the delegate knows. -/
def vocabulary : List String :=
  ["map", "tileset", "imagelayer", "image", "layer", "data", "objectgroup",
    "object", "property"]

/-- An element the delegate knows, inside of another one; `path` has the
unknown elements between the two. -/
structure Element where
  path : List String
  name : String
  attributes : Attributes
  children : List Node

mutual

/-- The known elements of a node, outermost ones only. -/
def Node.elements (path : List String) : Node → List Element
  | .text _ => []
  | .element name attributes children =>
      if vocabulary.contains name then [⟨path, name, attributes, children⟩]
      else elementsAll (path ++ [name]) children

def elementsAll (path : List String) : List Node → List Element
  | [] => []
  | node :: nodes => node.elements path ++ elementsAll path nodes

end

mutual

/-- The characters inside of a node. -/
def Node.characters : Node → Text
  | .text characters => characters
  | .element _ _ children => charactersAll children

def charactersAll : List Node → Text
  | [] => []
  | node :: nodes => node.characters ++ charactersAll nodes

end

namespace Element

def events (p : Element) : List Event :=
  .didStartElement p.name p.attributes
    :: (eventsAll p.children ++ [.didEndElement p.name])

/-- The elements inside of an element. -/
def elements (p : Element) : List Element := elementsAll [] p.children

def named (name : String) (elements : List Element) : List Element :=
  elements.filter fun p => p.name = name

-- ============================================================ the nesting

/-- An element that has no elements. -/
def Leaf (name : String) (p : Element) : Prop := p.name = name ∧ p.elements = []

/-- A property of an element's own block of properties. -/
def Own (p : Element) : Prop := p.Leaf "property" ∧ p.path = ["properties"]

def IsObject (p : Element) : Prop :=
  p.name = "object" ∧ ∀ q ∈ p.elements, q.Own

def IsObjectGroup (p : Element) : Prop :=
  p.name = "objectgroup" ∧ ∀ q ∈ p.elements, q.Leaf "property" ∨ q.IsObject

def IsImageLayer (p : Element) : Prop :=
  p.name = "imagelayer" ∧
    ∀ q ∈ p.elements, q.Leaf "property" ∨ (q.Leaf "image" ∧ q.path = [])

def IsLayer (p : Element) : Prop :=
  p.name = "layer" ∧ (∀ q ∈ p.elements, q.Leaf "property" ∨ q.Leaf "data")
    ∧ (named "data" p.elements).length ≤ 1

def IsTileset (p : Element) : Prop :=
  p.name = "tileset" ∧
    ∀ q ∈ p.elements, q.Leaf "property" ∨ q.Leaf "image" ∨ q.IsObjectGroup

/-- What a map has: properties, tile sets, layers, image layers and object
groups, in any order, also inside of groups. -/
def InMap (p : Element) : Prop :=
  p.Leaf "property" ∨ p.IsTileset ∨ p.IsImageLayer ∨ p.IsLayer
    ∨ p.IsObjectGroup

-- ============================================================ the reading

/-- A name and a value. -/
def pair (p : Element) : String × String :=
  ((p.attributes "name").getD "", (p.attributes "value").getD "")

/-- The pairs of some properties. -/
def pairs (elements : List Element) : List (String × String) :=
  (named "property" elements).map pair

/-- The pairs of an element's own block. -/
def ownPairs (elements : List Element) : List (String × String) :=
  pairs (elements.filter fun p => p.path = ["properties"])

/-- What an image element says. -/
def image (p : Element) : String × Int × Int :=
  ((p.attributes "source").getD "",
    TMXParserDelegate.int (p.attributes "width"),
    TMXParserDelegate.int (p.attributes "height"))

/-- The last image among some elements. -/
def lastImage (elements : List Element) : String × Int × Int :=
  ((named "image" elements).map image).getLastD ("", 0, 0)

/-- The image that is a child of an element. -/
def ownImage (elements : List Element) : String × Int × Int :=
  lastImage (elements.filter fun p => p.path = [])

end Element

/-- Properties set one after another. -/
def Properties.setAll (p : Properties) (pairs : List (String × String)) :
    Properties :=
  pairs.foldl (fun p pair => p.set pair.1 pair.2) p

def Properties.ofPairs (pairs : List (String × String)) : Properties :=
  Properties.setAll (fun _ => none) pairs

open Element TMXParserDelegate

/-- The text of a data element, and how it is written. -/
structure LayerText where
  text : Text := []
  encoding : String := ""
  compression : String := ""

def LayerText.of (data : Element) : LayerText where
  text := charactersAll data.children
  encoding := (data.attributes "encoding").getD ""
  compression := (data.attributes "compression").getD ""

/-- A layer's own data. -/
def ownData (layer : Element) : LayerText :=
  match (named "data" layer.elements).head? with
  | none => {}
  | some data => .of data

section Read

variable (f : Foundation)

def readObject (p : Element) : TMXObject where
  name := (p.attributes "name").getD ""
  gid := (p.attributes "gid").map fun value => uint (some value)
  x := cgfloat f (p.attributes "x")
  y := cgfloat f (p.attributes "y")
  width := cgfloat f (p.attributes "width")
  height := cgfloat f (p.attributes "height")
  properties := .ofPairs (ownPairs p.elements)

def readObjectGroup (p : Element) : TMXObjectGroup where
  name := (p.attributes "name").getD "objects"
  objects := (named "object" p.elements).map (readObject f)

/-- A tile set with some image. -/
def readTileset (image : String × Int × Int) (p : Element) : TMXTileset where
  firstGID := uint (p.attributes "firstgid")
  name := (p.attributes "name").getD "tileset"
  tileWidth := int (p.attributes "tilewidth")
  tileHeight := int (p.attributes "tileheight")
  imageSource := image.1
  imageWidth := image.2.1
  imageHeight := image.2.2

def readImageLayer (p : Element) : TMXImageLayer where
  name := (p.attributes "name").getD "image"
  imageSource := (ownImage p.elements).1
  imageWidth := (ownImage p.elements).2.1
  imageHeight := (ownImage p.elements).2.2

/-- A layer with the numbers of some text, if these are returned. -/
def readLayer (p : Element) (d : LayerText) : Option TMXLayer :=
  let width := int (p.attributes "width")
  let height := int (p.attributes "height")
  let name := (p.attributes "name").getD "layer"
  match decodeLayer f d.text d.encoding d.compression width height name with
  | .returned gids => some ⟨name, width, height, gids⟩
  | _ => none

/-- A map element with these layers. -/
def readMap (attributes : Attributes) (elements : List Element)
    (layers : List TMXLayer) : TMXMapData where
  width := int (attributes "width")
  height := int (attributes "height")
  tileWidth := int (attributes "tilewidth")
  tileHeight := int (attributes "tileheight")
  properties := .ofPairs (ownPairs elements)
  tilesets := (named "tileset" elements).map fun p =>
    readTileset (ownImage p.elements) p
  imageLayers := ((named "imagelayer" elements).map readImageLayer).filter
    fun l => l.imageSource ≠ ""
  layers := layers
  objectGroups := (named "objectgroup" elements).map (readObjectGroup f)

/-- The direct reading of a map element, if its layers can be decoded. -/
def read (attributes : Attributes) (elements : List Element) :
    Option TMXMapData :=
  ((named "layer" elements).mapM fun p => readLayer f p (ownData p)).map
    (readMap f attributes elements)

end Read

-- ========================================================== the condition

/-- The properties that are in no object, layer or tile set: the map's own
ones, and those of groups, image layers and object groups. -/
def loosePairs (elements : List Element) : List (String × String) :=
  elements.flatMap fun p =>
    if p.name = "property" then [p.pair]
    else if p.name = "imagelayer" ∨ p.name = "objectgroup" then pairs p.elements
    else []

/-- The layers with the data the delegate has at their ends: their own, or
no text in the encoding and compression of the last data before. -/
def keptData (encoding compression : String) :
    List Element → List (Element × LayerText)
  | [] => []
  | p :: layers =>
      match (named "data" p.elements).head? with
      | none =>
          (p, ⟨[], encoding, compression⟩)
            :: keptData encoding compression layers
      | some data =>
          (p, .of data) :: keptData (LayerText.of data).encoding
            (LayerText.of data).compression layers

/-- Nothing of one element shows in another one. -/
structure NoLeak (elements : List Element) : Prop where
  properties : ∀ name, Properties.ofPairs (loosePairs elements) name
    = Properties.ofPairs (ownPairs elements) name
  images : ∀ p ∈ named "tileset" elements,
    lastImage p.elements = ownImage p.elements
  groups : ∀ p ∈ named "tileset" elements, named "objectgroup" p.elements = []

/-- Where every layer's own data is decoded, nothing leaks; where some
layer's is not, some layer is not decoded with the data kept for it. -/
def Confined (f : Foundation) (elements : List Element) : Prop :=
  ((∀ p ∈ named "layer" elements, (readLayer f p (ownData p)).isSome) →
    NoLeak elements)
    ∧ ((∃ p ∈ named "layer" elements, (readLayer f p (ownData p)).isNone) →
      ∃ e ∈ keptData "" "" (named "layer" elements),
        (readLayer f e.1 e.2).isNone)

end Exolon.Tmx

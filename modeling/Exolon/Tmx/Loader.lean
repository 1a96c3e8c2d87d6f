/-
The loader: what each event of the parser does to the delegate.

The delegate keeps what it has read and what is open, in fields of its own:
there is no stack. `handle` is one event, `parse` a list of them up to the
first error, `load` the answer. `none` is a trap.

`layer_data_exact` is the end of a layer: its data is taken where it is
well formed, and everything else is an error that ends the load.
-/
import Exolon.Tmx.LayerData

namespace Exolon.Tmx

/-- `[String: String]`, the attributes of an element. -/
abbrev Attributes := String → Option String

/-- What the parser tells its delegate. -/
inductive Event
  | didStartElement (elementName : String) (attributes : Attributes)
  | foundCharacters (string : Text)
  | didEndElement (elementName : String)

structure TMXParserDelegate where
  mapWidth : Int := 0
  mapHeight : Int := 0
  mapTileWidth : Int := 0
  mapTileHeight : Int := 0
  mapProperties : Properties := fun _ => none
  tilesets : List TMXTileset := []
  imageLayers : List TMXImageLayer := []
  layers : List TMXLayer := []
  objectGroups : List TMXObjectGroup := []
  currentTileset : Option TMXTileset := none
  currentImageLayer : Option TMXImageLayer := none
  currentLayerName : Option String := none
  currentLayerWidth : Int := 0
  currentLayerHeight : Int := 0
  currentDataEncoding : String := ""
  currentDataCompression : String := ""
  currentDataText : Text := []
  collectingData : Bool := false
  currentObjectGroupName : Option String := none
  currentObjects : List TMXObject := []
  currentObject : Option TMXObject := none
  error : Option TMXMapLoaderError := none

namespace TMXParserDelegate

/-- `makeMap` -/
def makeMap (s : TMXParserDelegate) : TMXMapData where
  width := s.mapWidth
  height := s.mapHeight
  tileWidth := s.mapTileWidth
  tileHeight := s.mapTileHeight
  properties := s.mapProperties
  tilesets := s.tilesets
  imageLayers := s.imageLayers
  layers := s.layers
  objectGroups := s.objectGroups

/-- `int(_:)` -/
def int (value : Option String) : Int :=
  (fixedWidth (-2 ^ 63) (2 ^ 63 - 1) (value.getD "").toList).getD 0

/-- `uint(_:)` -/
def uint (value : Option String) : UInt32 :=
  (parseUInt32 (value.getD "").toList).getD 0

variable (f : Foundation)

/-- `cgfloat(_:)` -/
def cgfloat (value : Option String) : Rat :=
  (value.bind f.double).getD 0

/-- `parser(_:didStartElement:...)` -/
def didStartElement (s : TMXParserDelegate) (elementName : String)
    (attributes : Attributes) : TMXParserDelegate :=
  match elementName with
  | "map" =>
      { s with
        mapWidth := int (attributes "width")
        mapHeight := int (attributes "height")
        mapTileWidth := int (attributes "tilewidth")
        mapTileHeight := int (attributes "tileheight") }
  | "tileset" =>
      { s with
        currentTileset := some {
          firstGID := uint (attributes "firstgid")
          name := (attributes "name").getD "tileset"
          tileWidth := int (attributes "tilewidth")
          tileHeight := int (attributes "tileheight") } }
  | "imagelayer" =>
      { s with
        currentImageLayer := some {
          name := (attributes "name").getD "image"
          imageSource := ""
          imageWidth := 0
          imageHeight := 0 } }
  | "image" =>
      match s.currentTileset, s.currentImageLayer with
      | some tileset, _ =>
          { s with
            currentTileset := some { tileset with
              imageSource := (attributes "source").getD ""
              imageWidth := int (attributes "width")
              imageHeight := int (attributes "height") } }
      | none, some imageLayer =>
          { s with
            currentImageLayer := some { imageLayer with
              imageSource := (attributes "source").getD ""
              imageWidth := int (attributes "width")
              imageHeight := int (attributes "height") } }
      | none, none => s
  | "layer" =>
      { s with
        currentLayerName := some ((attributes "name").getD "layer")
        currentLayerWidth := int (attributes "width")
        currentLayerHeight := int (attributes "height") }
  | "data" =>
      { s with
        currentDataEncoding := (attributes "encoding").getD ""
        currentDataCompression := (attributes "compression").getD ""
        currentDataText := []
        collectingData := true }
  | "objectgroup" =>
      { s with
        currentObjectGroupName := some ((attributes "name").getD "objects")
        currentObjects := [] }
  | "object" =>
      { s with
        currentObject := some {
          name := (attributes "name").getD ""
          gid := (attributes "gid").map fun value => uint (some value)
          x := cgfloat f (attributes "x")
          y := cgfloat f (attributes "y")
          width := cgfloat f (attributes "width")
          height := cgfloat f (attributes "height") } }
  | "property" =>
      let name := (attributes "name").getD ""
      let value := (attributes "value").getD ""
      match s.currentObject with
      | some object =>
          { s with
            currentObject := some { object with
              properties := object.properties.set name value } }
      | none =>
          if s.currentLayerName.isNone && s.currentTileset.isNone then
            { s with mapProperties := s.mapProperties.set name value }
          else s
  | _ => s

/-- `parser(_:foundCharacters:)` -/
def foundCharacters (s : TMXParserDelegate) (string : Text) :
    TMXParserDelegate :=
  if s.collectingData then
    { s with currentDataText := s.currentDataText ++ string }
  else s

/-- The end of a layer. -/
def didEndLayer (s : TMXParserDelegate) : Option TMXParserDelegate :=
  match s.error, s.currentLayerName with
  | none, some name =>
      let s' : Option TMXParserDelegate :=
        match decodeLayer f s.currentDataText s.currentDataEncoding
          s.currentDataCompression s.currentLayerWidth s.currentLayerHeight
          name with
        | .returned gids => some { s with
            layers := s.layers
              ++ [⟨name, s.currentLayerWidth, s.currentLayerHeight, gids⟩] }
        | .thrown error => some { s with error := some error }
        | .trapped => none
      s'.map fun s => { s with currentLayerName := none, currentDataText := [] }
  | _, _ => some s

/-- `parser(_:didEndElement:...)` -/
def didEndElement (s : TMXParserDelegate) (elementName : String) :
    Option TMXParserDelegate :=
  match elementName with
  | "tileset" =>
      some { s with
        tilesets := s.tilesets ++ s.currentTileset.toList
        currentTileset := none }
  | "imagelayer" =>
      some { s with
        imageLayers := s.imageLayers ++ (s.currentImageLayer.filter fun l =>
          l.imageSource ≠ "").toList
        currentImageLayer := none }
  | "data" => some { s with collectingData := false }
  | "layer" => s.didEndLayer f
  | "object" =>
      some { s with
        currentObjects := s.currentObjects ++ s.currentObject.toList
        currentObject := none }
  | "objectgroup" =>
      some { s with
        objectGroups := s.objectGroups
          ++ (s.currentObjectGroupName.map fun name =>
            (⟨name, s.currentObjects⟩ : TMXObjectGroup)).toList
        currentObjectGroupName := none
        currentObjects := [] }
  | _ => some s

/-- One event. -/
def handle (s : TMXParserDelegate) : Event → Option TMXParserDelegate
  | .didStartElement elementName attributes =>
      some (s.didStartElement f elementName attributes)
  | .foundCharacters string => some (s.foundCharacters string)
  | .didEndElement elementName => s.didEndElement f elementName

/-- `parse()`: an error aborts it. -/
def parse (s : TMXParserDelegate) : List Event → Option TMXParserDelegate
  | [] => some s
  | event :: events =>
      if s.error.isSome then some s
      else (s.handle f event).bind fun s => s.parse events

/-- What `load` answers when the parser is done. -/
def finish : Option TMXParserDelegate → Outcome TMXMapData
  | none => .trapped
  | some s =>
      match s.error with
      | some error => .thrown error
      | none => .returned s.makeMap

/-- `load`, of a file whose text parses to these events. -/
def load (events : List Event) : Outcome TMXMapData :=
  finish (parse f {} events)

-- =============================================================== parsing

variable {f} {s : TMXParserDelegate}

@[simp] theorem parse_nil : s.parse f [] = some s := rfl

theorem parse_of_error (h : s.error.isSome) (events : List Event) :
    s.parse f events = some s := by
  cases events with
  | nil => rfl
  | cons event events =>
      rw [parse, if_pos h]

theorem parse_cons (h : s.error = none) (event : Event)
    (events : List Event) :
    s.parse f (event :: events) =
      (s.handle f event).bind fun s => s.parse f events := by
  rw [parse, if_neg (by simp [h])]

theorem parse_append (l l' : List Event) :
    s.parse f (l ++ l') = (s.parse f l).bind fun s => s.parse f l' := by
  induction l generalizing s with
  | nil => rfl
  | cons event l ih =>
      by_cases h : s.error.isSome
      · rw [parse_of_error h, parse_of_error h]
        exact (parse_of_error h l').symm
      · rw [List.cons_append, parse, parse, if_neg h, if_neg h,
          Option.bind_assoc]
        congr 1
        funext s'
        exact ih

-- ===================================================== the end of a layer

/-- A layer is open, with this data. -/
structure AtLayer (s : TMXParserDelegate) (text : Text)
    (encoding compression : String) (width height : Int)
    (layerName : String) : Prop where
  error : s.error = none
  name : s.currentLayerName = some layerName
  text : s.currentDataText = text
  encoding : s.currentDataEncoding = encoding
  compression : s.currentDataCompression = compression
  width : s.currentLayerWidth = width
  height : s.currentLayerHeight = height

/-- What is thrown at the end of a layer ends the load with that error. -/
def Aborts (f : Foundation) (text : Text) (encoding compression : String)
    (width height : Int) (layerName : String) : Prop :=
  ∀ e, decodeLayer f text encoding compression width height layerName
      = .thrown e →
    ∀ s : TMXParserDelegate,
      s.AtLayer text encoding compression width height layerName →
      ∀ events, finish (s.parse f (.didEndElement "layer" :: events))
        = .thrown e

theorem aborts (f : Foundation) (text : Text) (encoding compression : String)
    (width height : Int) (layerName : String) :
    Aborts f text encoding compression width height layerName := by
  intro e hthrown s h events
  have hend : s.handle f (.didEndElement "layer") = some { s with
      error := some e, currentLayerName := none, currentDataText := [] } := by
    show s.didEndLayer f = _
    simp only [didEndLayer, h.error, h.name, h.text, h.encoding,
      h.compression, h.width, h.height, hthrown, Option.map_some]
  rw [parse_cons h.error, hend, Option.bind_some, parse_of_error rfl]
  rfl

end TMXParserDelegate

/-- The data of a layer is taken exactly where it is well formed, and any
other data ends the load with an error, where the sizes are in range, the
bytes are not too many and no token is passed over. -/
theorem layer_data_exact (f : Foundation) (text : Text)
    (encoding compression : String) (width height : Int)
    (layerName : String) :
    (Exact f text encoding compression width height
        (decodeLayer f text encoding compression width height layerName)
      ∧ TMXParserDelegate.Aborts f text encoding compression width height
        layerName) ↔
      Decodable f text encoding compression width height := by
  rw [exact_iff]
  exact and_iff_left
    (TMXParserDelegate.aborts f text encoding compression width height
      layerName)

/-- A library that splits a text into its scalars and reads no base64. -/
def plainText : Foundation where
  characters := fun text => text.map fun c => [c]
  whitespacesAndNewlines := fun c => c = ' ' ∨ c = '\n'
  base64Encoded := fun _ => none
  double := fun _ => none

/-- Two numbers for two cells, and a word between them. -/
theorem layer_data_skipped :
    decodeLayer plainText ['1', ',', 'x', ',', '2'] "csv" "" 2 1 "Collision"
        = .returned [1, 2]
      ∧ ¬Exact plainText ['1', ',', 'x', ',', '2'] "csv" "" 2 1
        (decodeLayer plainText ['1', ',', 'x', ',', '2'] "csv" "" 2 1
          "Collision") := by
  have hdecoded : decodeLayer plainText ['1', ',', 'x', ',', '2'] "csv" ""
      2 1 "Collision" = .returned [1, 2] := by
    decide +kernel
  refine ⟨hdecoded, ?_⟩
  rw [hdecoded]
  refine not_exact_returned ?_
  intro h
  obtain ⟨_, _, ⟨hencoding, _⟩ | ⟨_, htokens⟩⟩ := h
  · exact absurd hencoding (by decide)
  · have hlength := congrArg List.length htokens
    have hthree : (tokens plainText ['1', ',', 'x', ',', '2']).length = 3 := by
      decide +kernel
    rw [List.length_map, List.length_map, hthree] at hlength
    exact absurd hlength (by decide)

end Exolon.Tmx

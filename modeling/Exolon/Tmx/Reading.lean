/-
What the events of a map are read as.

`parse_elements` leaves out what the delegate does not know; from there on
a document is a list of elements. Each kind has one lemma that says what
its events do to the delegate (`parse_object` to `parse_layer`), and
`parse_map` goes along the elements of a map. `load_reads_iff` compares
the result with the direct reading.
-/
import Exolon.Tmx.Document

namespace Exolon.Tmx

open Element TMXParserDelegate

-- ================================================== what is not known

section Unknown

variable {f : Foundation} {s s' : TMXParserDelegate} {name : String}

theorem didStartElement_unknown (h : vocabulary.contains name = false)
    (attributes : Attributes) : s.didStartElement f name attributes = s := by
  unfold didStartElement
  split
  all_goals first | rfl | exact absurd h (by decide)

theorem didEndElement_unknown (h : vocabulary.contains name = false) :
    s.didEndElement f name = some s := by
  unfold didEndElement
  split
  all_goals first | rfl | exact absurd h (by decide)

/-- No text is being collected, unless the load has failed. -/
def Settled (s : TMXParserDelegate) : Prop :=
  s.error = none → s.collectingData = false

theorem didStartElement_error (attributes : Attributes) :
    (s.didStartElement f name attributes).error = s.error := by
  unfold didStartElement
  split
  all_goals try rfl
  · split
    · rfl
    · rfl
    · rfl
  · split
    · rfl
    · split
      · rfl
      · rfl

theorem didStartElement_collecting (h : name ≠ "data")
    (attributes : Attributes) :
    (s.didStartElement f name attributes).collectingData
      = s.collectingData := by
  unfold didStartElement
  split
  all_goals try rfl
  · split
    · rfl
    · rfl
    · rfl
  · exact absurd rfl h
  · split
    · rfl
    · split
      · rfl
      · rfl

theorem settled_didEndElement (hs : Settled s)
    (h : s.didEndElement f name = some s') : Settled s' := by
  unfold didEndElement at h
  split at h
  case h_4 =>
    unfold didEndLayer at h
    split at h
    · rename_i herror hname
      have hcollecting := hs herror
      split at h
      · cases h
        exact fun _ => hcollecting
      · cases h
        exact fun _ => hcollecting
      · cases h
    · cases h
      exact hs
  all_goals
    cases h
    first | exact hs | exact fun _ => rfl

theorem parse_end (herror : s.error = none) (name : String) :
    s.parse f [.didEndElement name] = s.didEndElement f name := by
  rw [parse_cons herror]
  exact Option.bind_fun_some _

/-- An element ends where its children end, if these do not fail. -/
theorem parse_element_inv {attributes : Attributes} {events : List Event}
    (h : s.parse f (.didStartElement name attributes
      :: (events ++ [.didEndElement name])) = some s') :
    s'.error.isSome ∨ ∃ s₁,
      (s.didStartElement f name attributes).parse f events = some s₁
        ∧ s₁.didEndElement f name = some s' := by
  by_cases herror : s.error.isSome
  · rw [parse_of_error herror] at h
    cases h
    exact .inl herror
  · have hnone : s.error = none := by simpa using herror
    have hstart : s.handle f (.didStartElement name attributes)
        = some (s.didStartElement f name attributes) := rfl
    rw [parse_cons hnone, hstart, Option.bind_some, parse_append] at h
    obtain ⟨s₁, hchildren, hend⟩ := Option.bind_eq_some_iff.mp h
    by_cases hfailed : s₁.error.isSome
    · rw [parse_of_error hfailed] at hend
      cases hend
      exact .inl hfailed
    · rw [parse_cons (by simpa using hfailed)] at hend
      obtain ⟨s₂, hlast, hnil⟩ := Option.bind_eq_some_iff.mp hend
      cases hnil
      exact .inr ⟨s₁, hchildren, hlast⟩

mutual

/-- After a whole node no text is being collected. -/
theorem settled_node (node : Node) {s s' : TMXParserDelegate}
    (hs : Settled s) (h : s.parse f node.events = some s') : Settled s' := by
  cases node with
  | text characters =>
      rw [Node.events] at h
      by_cases herror : s.error = none
      · rw [parse_cons herror] at h
        cases h
        intro _
        show (s.foundCharacters characters).collectingData = false
        rw [foundCharacters, if_neg (by simp [hs herror])]
        exact hs herror
      · rw [parse_of_error (by simpa [Option.isSome_iff_ne_none])] at h
        cases h
        exact hs
  | element name attributes children =>
      rw [Node.events] at h
      rcases parse_element_inv h with hfailed | ⟨s₁, hchildren, hend⟩
      · intro hnone
        rw [hnone] at hfailed
        cases hfailed
      · by_cases hdata : name = "data"
        · rw [hdata] at hend
          cases hend
          exact fun _ => rfl
        · have hstart : Settled (s.didStartElement f name attributes) := by
            unfold Settled
            rw [didStartElement_error, didStartElement_collecting hdata]
            exact hs
          exact settled_didEndElement (settled_nodes children hstart hchildren)
            hend

theorem settled_nodes (nodes : List Node) {s s' : TMXParserDelegate}
    (hs : Settled s) (h : s.parse f (eventsAll nodes) = some s') :
    Settled s' := by
  cases nodes with
  | nil =>
      cases h
      exact hs
  | cons node nodes =>
      rw [eventsAll, parse_append] at h
      obtain ⟨s₁, hnode, hnodes⟩ := Option.bind_eq_some_iff.mp h
      exact settled_nodes nodes (settled_node node hs hnode) hnodes

end

mutual

/-- The delegate sees the known elements of a node only. -/
theorem parse_node (node : Node) (path : List String)
    {s : TMXParserDelegate} (hs : Settled s) :
    s.parse f node.events
      = s.parse f ((node.elements path).flatMap Element.events) := by
  cases node with
  | text characters =>
      rw [Node.events, Node.elements]
      by_cases herror : s.error = none
      · have hquiet : s.handle f (.foundCharacters characters) = some s := by
          show some (s.foundCharacters characters) = _
          rw [foundCharacters, if_neg (by simp [hs herror])]
        rw [parse_cons herror, hquiet]
        rfl
      · exact parse_of_error (by simpa [Option.isSome_iff_ne_none]) _
  | element name attributes children =>
      rw [Node.events, Node.elements]
      by_cases hknown : vocabulary.contains name = true
      · rw [if_pos hknown, List.flatMap_singleton]
        rfl
      · rw [if_neg hknown]
        have hunknown : vocabulary.contains name = false := by
          simpa using hknown
        by_cases herror : s.error = none
        · have hstart : s.handle f (.didStartElement name attributes)
              = some s := congrArg some (didStartElement_unknown hunknown _)
          rw [parse_cons herror, hstart, Option.bind_some, parse_append,
            parse_elements children (path ++ [name]) hs]
          -- the end of an unknown element changes nothing either
          have hend (s₁ : TMXParserDelegate) :
              s₁.parse f [.didEndElement name] = some s₁ := by
            by_cases hfailed : s₁.error.isSome
            · exact parse_of_error hfailed _
            · have hnone : s₁.error = none := by simpa using hfailed
              exact (parse_end hnone name).trans
                (didEndElement_unknown hunknown)
          simp only [hend, Option.bind_fun_some]
        · rw [parse_of_error (by simpa [Option.isSome_iff_ne_none]),
            parse_of_error (by simpa [Option.isSome_iff_ne_none])]

theorem parse_elements (nodes : List Node) (path : List String)
    {s : TMXParserDelegate} (hs : Settled s) :
    s.parse f (eventsAll nodes)
      = s.parse f ((elementsAll path nodes).flatMap Element.events) := by
  cases nodes with
  | nil => rfl
  | cons node nodes =>
      rw [eventsAll, elementsAll, List.flatMap_append, parse_append,
        parse_append, ← parse_node node path hs]
      cases hnode : s.parse f node.events with
      | none => rfl
      | some s₁ =>
          exact parse_elements nodes path (settled_node node hs hnode)

end

mutual

theorem elements_nil (node : Node) {path path' : List String}
    (h : node.elements path = []) : node.elements path' = [] := by
  cases node with
  | text characters => rfl
  | element name attributes children =>
      rw [Node.elements] at h ⊢
      by_cases hknown : vocabulary.contains name = true
      · rw [if_pos hknown] at h
        cases h
      · rw [if_neg hknown] at h ⊢
        exact elementsAll_nil children h

theorem elementsAll_nil (nodes : List Node) {path path' : List String}
    (h : elementsAll path nodes = []) : elementsAll path' nodes = [] := by
  cases nodes with
  | nil => rfl
  | cons node nodes =>
      rw [elementsAll, List.append_eq_nil_iff] at h ⊢
      exact ⟨elements_nil node h.1, elementsAll_nil nodes h.2⟩

end

/-- More text for the data. -/
def collect (s : TMXParserDelegate) (text : Text) : TMXParserDelegate :=
  { s with currentDataText := s.currentDataText ++ text }

mutual

/-- The characters of a node without known elements are collected. -/
theorem parse_characters (node : Node) {path : List String}
    {s : TMXParserDelegate} (h : node.elements path = [])
    (herror : s.error = none) (hcollecting : s.collectingData = true) :
    s.parse f node.events = some (collect s node.characters) := by
  cases node with
  | text characters =>
      have hcollected : s.handle f (.foundCharacters characters)
          = some (collect s characters) := congrArg some (if_pos hcollecting)
      rw [Node.events, parse_cons herror, hcollected]
      rfl
  | element name attributes children =>
      rw [Node.elements] at h
      by_cases hknown : vocabulary.contains name = true
      · rw [if_pos hknown] at h
        cases h
      · rw [if_neg hknown] at h
        have hunknown : vocabulary.contains name = false := by
          simpa using hknown
        have hstart : s.handle f (.didStartElement name attributes)
            = some s := congrArg some (didStartElement_unknown hunknown _)
        have hend : (collect s (charactersAll children)).error = none := herror
        rw [Node.events, parse_cons herror, hstart, Option.bind_some,
          parse_append, parse_charactersAll children h herror hcollecting,
          Option.bind_some, parse_end hend]
        exact didEndElement_unknown hunknown

theorem parse_charactersAll (nodes : List Node) {path : List String}
    {s : TMXParserDelegate} (h : elementsAll path nodes = [])
    (herror : s.error = none) (hcollecting : s.collectingData = true) :
    s.parse f (eventsAll nodes) = some (collect s (charactersAll nodes)) := by
  cases nodes with
  | nil =>
      rw [eventsAll, charactersAll, collect, List.append_nil]
      rfl
  | cons node nodes =>
      rw [elementsAll, List.append_eq_nil_iff] at h
      have hrest := parse_charactersAll nodes (s := collect s node.characters)
        h.2 herror hcollecting
      rw [eventsAll, parse_append, parse_characters node h.1 herror hcollecting,
        Option.bind_some, hrest, charactersAll, collect, collect, collect,
        List.append_assoc]

end

end Unknown

-- ======================================================= one known element

section Known

variable {f : Foundation} {s : TMXParserDelegate}

/-- Where the delegate is between two elements: nothing failed, no text
collected. -/
structure Ready (s : TMXParserDelegate) : Prop where
  error : s.error = none
  collecting : s.collectingData = false

theorem Ready.settled (h : Ready s) : Settled s := fun _ => h.collecting

theorem Ready.start (h : Ready s) {name : String} (hdata : name ≠ "data")
    (attributes : Attributes) :
    Ready (s.didStartElement f name attributes) :=
  ⟨(didStartElement_error _).trans h.error,
    (didStartElement_collecting hdata _).trans h.collecting⟩

/-- An element that is no data: its start, its elements, its end. -/
theorem parse_element (h : Ready s) {p : Element} (hdata : p.name ≠ "data") :
    s.parse f p.events =
      ((s.didStartElement f p.name p.attributes).parse f
        (p.elements.flatMap Element.events)).bind fun s =>
          s.parse f [.didEndElement p.name] := by
  have hstart : s.handle f (.didStartElement p.name p.attributes)
      = some (s.didStartElement f p.name p.attributes) := rfl
  rw [Element.events, parse_cons h.error, hstart, Option.bind_some,
    parse_append, Element.elements,
    parse_elements p.children [] (h.start hdata p.attributes).settled]

/-- A leaf that is no data: its start and its end. -/
theorem parse_leaf (h : Ready s) {p : Element} {name : String}
    (hleaf : p.Leaf name) (hdata : name ≠ "data") :
    s.parse f p.events =
      (s.didStartElement f name p.attributes).didEndElement f name := by
  obtain ⟨rfl, hempty⟩ := hleaf
  rw [parse_element h hdata, hempty, List.flatMap_nil, parse_nil,
    Option.bind_some]
  exact parse_end ((didStartElement_error _).trans h.error) _

/-- Data: its characters, in its encoding. -/
theorem parse_data (h : Ready s) {p : Element} (hleaf : p.Leaf "data") :
    s.parse f p.events = some { s with
      currentDataEncoding := (LayerText.of p).encoding
      currentDataCompression := (LayerText.of p).compression
      currentDataText := (LayerText.of p).text } := by
  obtain ⟨hname, hempty⟩ := hleaf
  have hstart : s.handle f (.didStartElement "data" p.attributes)
      = some (s.didStartElement f "data" p.attributes) := rfl
  have hchildren := parse_charactersAll p.children (f := f)
    (s := s.didStartElement f "data" p.attributes) hempty h.error rfl
  have hend : (collect (s.didStartElement f "data" p.attributes)
      (charactersAll p.children)).error = none := h.error
  rw [Element.events, hname, parse_cons h.error, hstart, Option.bind_some,
    parse_append, hchildren, Option.bind_some, parse_end hend]
  show some _ = some _
  rw [← h.collecting]
  rfl

end Known

-- ============================================================ properties

section Properties

variable {f : Foundation} {s : TMXParserDelegate}

/-- Another open object. -/
def withObject (s : TMXParserDelegate) (object : Option TMXObject) :
    TMXParserDelegate :=
  { s with currentObject := object }

/-- Other properties of the map, other objects in the open group. -/
def withMembers (s : TMXParserDelegate) (properties : Properties)
    (objects : List TMXObject) : TMXParserDelegate :=
  { s with mapProperties := properties, currentObjects := objects }

theorem Ready.withObject (h : Ready s) (object : Option TMXObject) :
    Ready (withObject s object) := ⟨h.error, h.collecting⟩

theorem Ready.withMembers (h : Ready s) (properties : Properties)
    (objects : List TMXObject) : Ready (withMembers s properties objects) :=
  ⟨h.error, h.collecting⟩

/-- No layer and no tile set is open. -/
def loose (s : TMXParserDelegate) : Bool :=
  s.currentLayerName.isNone && s.currentTileset.isNone

/-- The map's properties behind some properties outside of any object. -/
def loosened (s : TMXParserDelegate) (pairs : List (String × String)) :
    Properties :=
  if loose s then s.mapProperties.setAll pairs else s.mapProperties

/-- A property of the open object. -/
theorem parse_property_object (h : Ready s) {o : TMXObject}
    (hobject : s.currentObject = some o) {p : Element}
    (hp : p.Leaf "property") :
    s.parse f p.events = some (withObject s (some { o with
      properties := o.properties.set p.pair.1 p.pair.2 })) := by
  rw [parse_leaf h hp (by decide)]
  have hstart : s.didStartElement f "property" p.attributes
      = withObject s (some { o with
        properties := o.properties.set p.pair.1 p.pair.2 }) := by
    unfold didStartElement
    simp only [hobject]
    rfl
  rw [hstart]
  rfl

/-- A property outside of any object. -/
theorem parse_property (h : Ready s) (hobject : s.currentObject = none)
    {p : Element} (hp : p.Leaf "property") :
    s.parse f p.events
      = some (withMembers s (loosened s [p.pair]) s.currentObjects) := by
  rw [parse_leaf h hp (by decide)]
  have hstart : s.didStartElement f "property" p.attributes
      = withMembers s (loosened s [p.pair]) s.currentObjects := by
    clear h hp
    cases s
    cases hobject
    show (if _ then _ else _) = _
    unfold loosened loose
    split
    · rfl
    · rfl
  rw [hstart]
  rfl

theorem named_cons (name : String) (p : Element) (l : List Element) :
    named name (p :: l) =
      if p.name = name then p :: named name l else named name l := by
  unfold named
  rw [List.filter_cons]
  by_cases h : p.name = name
  · rw [if_pos h, if_pos (decide_eq_true h)]
  · rw [if_neg h, if_neg (by simpa using h)]

/-- The properties of an object, one after another. -/
theorem parse_properties (l : List Element) (hl : ∀ p ∈ l, p.Own)
    {s : TMXParserDelegate} (h : Ready s) {o : TMXObject}
    (hobject : s.currentObject = some o) :
    s.parse f (l.flatMap Element.events) = some (withObject s (some { o with
      properties := o.properties.setAll (ownPairs l) })) := by
  induction l generalizing s o with
  | nil =>
      rw [List.flatMap_nil, parse_nil]
      congr 1
      cases s
      cases hobject
      rfl
  | cons p l ih =>
      rw [List.forall_mem_cons] at hl
      obtain ⟨⟨hleaf, hpath⟩, hl⟩ := hl
      have hpairs : ownPairs (p :: l) = p.pair :: ownPairs l := by
        unfold ownPairs pairs
        rw [List.filter_cons, if_pos (decide_eq_true hpath), named_cons,
          if_pos hleaf.1, List.map_cons]
      rw [List.flatMap_cons, parse_append,
        parse_property_object h hobject hleaf, Option.bind_some, hpairs]
      exact ih hl (h.withObject _) rfl

/-- An object, with its own properties. -/
theorem parse_object (h : Ready s) (hobject : s.currentObject = none)
    {p : Element} (hp : p.IsObject) :
    s.parse f p.events = some (withMembers s s.mapProperties
      (s.currentObjects ++ [readObject f p])) := by
  obtain ⟨hname, hown⟩ := hp
  have hdata : p.name ≠ "data" := by
    rw [hname]
    decide
  have hstart := h.start (f := f) hdata p.attributes
  rw [hname] at hstart
  rw [parse_element h hdata, hname, parse_properties p.elements hown hstart rfl,
    Option.bind_some, parse_end (hstart.withObject _).error]
  show some _ = some _
  congr 1
  clear h hstart
  cases s
  cases hobject
  rfl

end Properties

-- ========================================================= object groups

section Groups

variable {f : Foundation}

theorem loosened_cons (s : TMXParserDelegate) (pair : String × String)
    (pairs : List (String × String)) (objects : List TMXObject) :
    loosened (withMembers s (loosened s [pair]) objects) pairs
      = loosened s (pair :: pairs) := by
  unfold loosened
  show (if loose s then _ else _) = _
  by_cases h : loose s
  · simp only [if_pos h, withMembers]
    rfl
  · simp only [if_neg h, withMembers]

/-- What stands in an object group. -/
theorem parse_members (l : List Element)
    (hl : ∀ p ∈ l, p.Leaf "property" ∨ p.IsObject) {s : TMXParserDelegate}
    (h : Ready s) (hobject : s.currentObject = none) :
    s.parse f (l.flatMap Element.events) = some (withMembers s
      (loosened s (pairs l))
      (s.currentObjects ++ (named "object" l).map (readObject f))) := by
  induction l generalizing s with
  | nil =>
      show some s = _
      congr 1
      unfold loosened
      simp [named, pairs, Properties.setAll, withMembers]
  | cons p l ih =>
      rw [List.forall_mem_cons] at hl
      obtain ⟨hp, hl⟩ := hl
      have hnext (properties : Properties) (objects : List TMXObject) :=
        ih hl (h.withMembers properties objects) hobject
      rw [List.flatMap_cons, parse_append]
      rcases hp with hleaf | hobj
      · have hnot : p.name ≠ "object" := by
          rw [hleaf.1]
          decide
        rw [parse_property h hobject hleaf, Option.bind_some,
          hnext, loosened_cons, pairs, pairs, named_cons, if_pos hleaf.1,
          named_cons, if_neg hnot]
        rfl
      · have hnot : p.name ≠ "property" := by
          rw [hobj.1]
          decide
        rw [parse_object h hobject hobj, Option.bind_some,
          hnext, pairs, pairs, named_cons, if_neg hnot, named_cons,
          if_pos hobj.1, List.map_cons]
        simp only [withMembers, List.append_assoc, List.singleton_append]
        rfl

/-- Other properties of the map, another group behind the others. -/
def withGroup (s : TMXParserDelegate) (properties : Properties)
    (group : TMXObjectGroup) : TMXParserDelegate :=
  { s with
    mapProperties := properties
    objectGroups := s.objectGroups ++ [group] }

/-- An object group, in a map or in a tile set. -/
theorem parse_objectGroup {s : TMXParserDelegate} (h : Ready s)
    (hobject : s.currentObject = none)
    (hgroup : s.currentObjectGroupName = none)
    (hobjects : s.currentObjects = []) {p : Element} (hp : p.IsObjectGroup) :
    s.parse f p.events = some (withGroup s (loosened s (pairs p.elements))
      (readObjectGroup f p)) := by
  obtain ⟨hname, hmembers⟩ := hp
  have hdata : p.name ≠ "data" := by
    rw [hname]
    decide
  have hstart := h.start (f := f) hdata p.attributes
  rw [hname] at hstart
  rw [parse_element h hdata, hname,
    parse_members p.elements hmembers hstart hobject, Option.bind_some,
    parse_end (hstart.withMembers _ _).error]
  show some _ = some _
  congr 1
  clear h hstart
  cases s
  cases hgroup
  cases hobjects
  rfl

end Groups

-- =========================================================== image layers

section ImageLayers

variable {f : Foundation}

/-- The last image of some elements, behind another one. -/
def imageFrom (image : String × Int × Int) (l : List Element) :
    String × Int × Int :=
  ((named "image" l).map Element.image).getLastD image

theorem imageFrom_cons_image {p : Element} (hp : p.name = "image")
    (image : String × Int × Int) (l : List Element) :
    imageFrom image (p :: l) = imageFrom p.image l := by
  unfold imageFrom
  rw [named_cons, if_pos hp, List.map_cons, List.getLastD_cons]

theorem imageFrom_cons_other {p : Element} (hp : p.name ≠ "image")
    (image : String × Int × Int) (l : List Element) :
    imageFrom image (p :: l) = imageFrom image l := by
  unfold imageFrom
  rw [named_cons, if_neg hp]

/-- An image layer with some image. -/
def imageLayerOf (image : String × Int × Int) (p : Element) :
    TMXImageLayer where
  name := (p.attributes "name").getD "image"
  imageSource := image.1
  imageWidth := image.2.1
  imageHeight := image.2.2

/-- Other properties of the map, another open image layer. -/
def withImageLayer (s : TMXParserDelegate) (properties : Properties)
    (imageLayer : Option TMXImageLayer) : TMXParserDelegate :=
  { s with mapProperties := properties, currentImageLayer := imageLayer }

theorem Ready.withImageLayer {s : TMXParserDelegate} (h : Ready s)
    (properties : Properties) (imageLayer : Option TMXImageLayer) :
    Ready (withImageLayer s properties imageLayer) :=
  ⟨h.error, h.collecting⟩

theorem loosened_open {s : TMXParserDelegate} (h : loose s = true)
    (pairs : List (String × String)) :
    loosened s pairs = s.mapProperties.setAll pairs := if_pos h

theorem parse_image_layer {s : TMXParserDelegate} (h : Ready s)
    (htileset : s.currentTileset = none) {image : String × Int × Int}
    {t : Element} (hlayer : s.currentImageLayer = some (imageLayerOf image t))
    {p : Element} (hp : p.Leaf "image") :
    s.parse f p.events = some (withImageLayer s s.mapProperties
      (some (imageLayerOf p.image t))) := by
  rw [parse_leaf h hp (by decide)]
  have hstart : s.didStartElement f "image" p.attributes
      = withImageLayer s s.mapProperties (some (imageLayerOf p.image t)) := by
    clear h
    cases s
    cases htileset
    cases hlayer
    rfl
  rw [hstart]
  rfl

/-- What stands in an image layer. -/
theorem parse_imageMembers (l : List Element)
    (hl : ∀ p ∈ l, p.Leaf "property" ∨ (p.Leaf "image" ∧ p.path = []))
    {s : TMXParserDelegate} (h : Ready s) (hobject : s.currentObject = none)
    (hname : s.currentLayerName = none) (htileset : s.currentTileset = none)
    {image : String × Int × Int} {t : Element}
    (hlayer : s.currentImageLayer = some (imageLayerOf image t)) :
    s.parse f (l.flatMap Element.events) = some (withImageLayer s
      (s.mapProperties.setAll (pairs l))
      (some (imageLayerOf (imageFrom image l) t))) := by
  induction l generalizing s image with
  | nil =>
      rw [List.flatMap_nil, parse_nil]
      congr 1
      cases s
      cases hlayer
      rfl
  | cons p l ih =>
      rw [List.forall_mem_cons] at hl
      obtain ⟨hp, hl⟩ := hl
      rw [List.flatMap_cons, parse_append]
      rcases hp with hleaf | ⟨himage, _⟩
      · have hnot : p.name ≠ "image" := by
          rw [hleaf.1]
          decide
        have hloose : loose s = true := by
          unfold loose
          rw [hname, htileset]
          rfl
        have hnext := ih hl (h.withMembers (loosened s [p.pair])
          s.currentObjects) hobject hname htileset hlayer
        rw [parse_property h hobject hleaf, Option.bind_some, hnext,
          imageFrom_cons_other hnot, pairs, pairs, named_cons,
          if_pos hleaf.1, loosened_open hloose]
        rfl
      · have hnot : p.name ≠ "property" := by
          rw [himage.1]
          decide
        have hnext := ih hl (h.withImageLayer s.mapProperties
          (some (imageLayerOf p.image t))) hobject hname htileset rfl
        rw [parse_image_layer h htileset hlayer himage, Option.bind_some,
          hnext, imageFrom_cons_image himage.1, pairs, pairs, named_cons,
          if_neg hnot]
        rfl

theorem filter_images {l : List Element}
    (hl : ∀ p ∈ l, p.Leaf "property" ∨ (p.Leaf "image" ∧ p.path = [])) :
    ownImage l = imageFrom ("", 0, 0) l := by
  unfold ownImage lastImage imageFrom named
  rw [List.filter_filter]
  congr 2
  refine List.filter_congr ?_
  intro p hp
  rcases hl p hp with hleaf | ⟨_, hpath⟩
  · simp [hleaf.1]
  · simp [hpath]

end ImageLayers

-- ============================================================== tile sets

section Tilesets

variable {f : Foundation}

/-- Another open tile set, other object groups. -/
def withTileset (s : TMXParserDelegate) (tileset : Option TMXTileset)
    (groups : List TMXObjectGroup) : TMXParserDelegate :=
  { s with currentTileset := tileset, objectGroups := groups }

theorem Ready.withTileset {s : TMXParserDelegate} (h : Ready s)
    (tileset : Option TMXTileset) (groups : List TMXObjectGroup) :
    Ready (withTileset s tileset groups) := ⟨h.error, h.collecting⟩

theorem parse_image_tileset {s : TMXParserDelegate} (h : Ready s)
    {image : String × Int × Int} {t : Element}
    (htileset : s.currentTileset = some (readTileset image t))
    {p : Element} (hp : p.Leaf "image") :
    s.parse f p.events = some (withTileset s (some (readTileset p.image t))
      s.objectGroups) := by
  rw [parse_leaf h hp (by decide)]
  have hstart : s.didStartElement f "image" p.attributes
      = withTileset s (some (readTileset p.image t)) s.objectGroups := by
    unfold didStartElement
    simp only [htileset]
    rfl
  rw [hstart]
  rfl

/-- Where the delegate is inside of a map: no object and no object group
is open. -/
structure Outside (s : TMXParserDelegate) : Prop extends Ready s where
  object : s.currentObject = none
  group : s.currentObjectGroupName = none
  objects : s.currentObjects = []

/-- What stands in a tile set. -/
theorem parse_tilesetMembers (l : List Element)
    (hl : ∀ p ∈ l,
      p.Leaf "property" ∨ p.Leaf "image" ∨ p.IsObjectGroup)
    {s : TMXParserDelegate} (h : Outside s) {image : String × Int × Int}
    {t : Element} (htileset : s.currentTileset = some (readTileset image t)) :
    s.parse f (l.flatMap Element.events) = some (withTileset s
      (some (readTileset (imageFrom image l) t))
      (s.objectGroups
        ++ (named "objectgroup" l).map (readObjectGroup f))) := by
  induction l generalizing s image with
  | nil =>
      rw [List.flatMap_nil, parse_nil]
      congr 1
      have hgroups : s.objectGroups
          ++ (named "objectgroup" []).map (readObjectGroup f)
          = s.objectGroups := List.append_nil _
      rw [hgroups]
      clear h
      cases s
      cases htileset
      rfl
  | cons p l ih =>
      rw [List.forall_mem_cons] at hl
      obtain ⟨hp, hl⟩ := hl
      have hclosed (pairs : List (String × String)) :
          loosened s pairs = s.mapProperties := by
        unfold loosened loose
        rw [htileset]
        simp
      rw [List.flatMap_cons, parse_append]
      rcases hp with hleaf | himage | hgroup
      · have hnot : p.name ≠ "image" := by
          rw [hleaf.1]
          decide
        have hnot' : p.name ≠ "objectgroup" := by
          rw [hleaf.1]
          decide
        rw [parse_property h.toReady h.object hleaf, hclosed,
          Option.bind_some, imageFrom_cons_other hnot, named_cons,
          if_neg hnot']
        exact ih hl h htileset
      · have hnot : p.name ≠ "objectgroup" := by
          rw [himage.1]
          decide
        have hopen : Outside (withTileset s (some (readTileset p.image t))
            s.objectGroups) :=
          ⟨h.toReady.withTileset _ _, h.object, h.group, h.objects⟩
        rw [parse_image_tileset h.toReady htileset himage, Option.bind_some,
          ih hl hopen rfl, imageFrom_cons_image himage.1, named_cons,
          if_neg hnot]
        rfl
      · have hnot : p.name ≠ "image" := by
          rw [hgroup.1]
          decide
        have hopen : Outside (withGroup s s.mapProperties
            (readObjectGroup f p)) :=
          ⟨⟨h.error, h.collecting⟩, h.object, h.group, h.objects⟩
        rw [parse_objectGroup h.toReady h.object h.group h.objects hgroup,
          hclosed, Option.bind_some, ih hl hopen htileset,
          imageFrom_cons_other hnot, named_cons, if_pos hgroup.1,
          List.map_cons]
        simp only [withTileset, withGroup, List.append_assoc,
          List.singleton_append]

end Tilesets

-- ================================================================ layers

section Layers

variable {f : Foundation}

/-- Other data at the end of the layer. -/
def withData (s : TMXParserDelegate) (d : LayerText) : TMXParserDelegate :=
  { s with
    currentDataText := d.text
    currentDataEncoding := d.encoding
    currentDataCompression := d.compression }

/-- The data the delegate has after some elements. -/
def dataFrom (d : LayerText) (l : List Element) : LayerText :=
  ((named "data" l).map LayerText.of).getLastD d

/-- What stands in a layer. -/
theorem parse_layerMembers (l : List Element)
    (hl : ∀ p ∈ l, p.Leaf "property" ∨ p.Leaf "data")
    {s : TMXParserDelegate} {d : LayerText} (h : Ready (withData s d))
    (hobject : s.currentObject = none) (hname : s.currentLayerName ≠ none) :
    (withData s d).parse f (l.flatMap Element.events)
      = some (withData s (dataFrom d l)) := by
  induction l generalizing d with
  | nil => rfl
  | cons p l ih =>
      rw [List.forall_mem_cons] at hl
      obtain ⟨hp, hl⟩ := hl
      rw [List.flatMap_cons, parse_append]
      rcases hp with hleaf | hdata
      · have hnot : p.name ≠ "data" := by
          rw [hleaf.1]
          decide
        have hclosed : loosened (withData s d) [p.pair]
            = (withData s d).mapProperties := by
          have hnone : loose (withData s d) = false := by
            show (s.currentLayerName.isNone && _) = false
            rw [Option.isNone_eq_false_iff.mpr
              (Option.isSome_iff_ne_none.mpr hname), Bool.false_and]
          unfold loosened
          rw [hnone]
          rfl
        rw [parse_property h hobject hleaf, hclosed, Option.bind_some,
          dataFrom, named_cons, if_neg hnot]
        exact ih hl h
      · have hnext : Ready (withData s (.of p)) := ⟨h.error, h.collecting⟩
        rw [parse_data h hdata, Option.bind_some, dataFrom, named_cons,
          if_pos hdata.1, List.map_cons, List.getLastD_cons]
        exact ih hl hnext

/-- The data of a layer that has no data of its own. -/
def kept (s : TMXParserDelegate) : LayerText :=
  ⟨[], s.currentDataEncoding, s.currentDataCompression⟩

/-- Of one data element at most, the last one is the first one. -/
theorem dataFrom_eq {l : List Element} (h : (named "data" l).length ≤ 1)
    (d : LayerText) :
    dataFrom d l = match (named "data" l).head? with
      | none => d
      | some data => .of data := by
  unfold dataFrom
  match named "data" l, h with
  | [], _ => rfl
  | [_], _ => rfl
  | _ :: _ :: _, h => simp at h

/-- A layer behind the others, with the data it was decoded from. -/
def withLayer (s : TMXParserDelegate) (p : Element) (d : LayerText)
    (layer : TMXLayer) : TMXParserDelegate :=
  { s with
    layers := s.layers ++ [layer]
    currentLayerWidth := int (p.attributes "width")
    currentLayerHeight := int (p.attributes "height")
    currentDataEncoding := d.encoding
    currentDataCompression := d.compression }

/-- No map is built from here. -/
def Fails (s : Option TMXParserDelegate) : Prop :=
  s = none ∨ ∃ s', s = some s' ∧ s'.error.isSome

/-- The end of an open layer. -/
theorem didEndLayer_at {s : TMXParserDelegate} {text : Text}
    {encoding compression layerName : String} {width height : Int}
    (h : s.AtLayer text encoding compression width height layerName) :
    s.didEndLayer f =
      match decodeLayer f text encoding compression width height layerName with
      | .returned gids => some { s with
          layers := s.layers ++ [⟨layerName, width, height, gids⟩]
          currentLayerName := none
          currentDataText := [] }
      | .thrown error => some { s with
          error := some error
          currentLayerName := none
          currentDataText := [] }
      | .trapped => none := by
  unfold didEndLayer
  simp only [h.error, h.name, h.text, h.encoding, h.compression, h.width,
    h.height]
  cases decodeLayer f text encoding compression width height layerName with
  | returned gids => rfl
  | thrown error => rfl
  | trapped => rfl

/-- A layer is read with the data at its end, or the load fails there. -/
theorem parse_layer {s : TMXParserDelegate} (h : Outside s)
    (hname : s.currentLayerName = none) (htext : s.currentDataText = [])
    {p : Element} (hp : p.IsLayer) {d : LayerText}
    (hd : d = match (named "data" p.elements).head? with
      | none => kept s
      | some data => .of data) :
    match readLayer f p d with
    | some layer => s.parse f p.events = some (withLayer s p d layer)
    | none => Fails (s.parse f p.events) := by
  obtain ⟨hlayer, hmembers, hone⟩ := hp
  have hdata : p.name ≠ "data" := by
    rw [hlayer]
    decide
  have hstart := h.toReady.start (f := f) hdata p.attributes
  rw [hlayer] at hstart
  have hkept : s.didStartElement f "layer" p.attributes
      = withData (s.didStartElement f "layer" p.attributes) (kept s) := by
    clear h hstart hd
    cases s
    cases htext
    rfl
  have hinside := parse_layerMembers p.elements hmembers (f := f)
    (s := s.didStartElement f "layer" p.attributes) (d := kept s)
    (hkept ▸ hstart) h.object (by simp [didStartElement])
  rw [← hkept, dataFrom_eq hone, ← hd] at hinside
  have hat : (withData (s.didStartElement f "layer" p.attributes) d).AtLayer
      d.text d.encoding d.compression (int (p.attributes "width"))
      (int (p.attributes "height")) ((p.attributes "name").getD "layer") :=
    ⟨hstart.error, rfl, rfl, rfl, rfl, rfl, rfl⟩
  have hend : s.parse f p.events
      = (withData (s.didStartElement f "layer" p.attributes) d).didEndLayer
        f := by
    rw [parse_element h.toReady hdata, hlayer, hinside, Option.bind_some]
    exact parse_end hat.error "layer"
  rw [hend, didEndLayer_at hat]
  cases hdecoded : decodeLayer f d.text d.encoding d.compression
      (int (p.attributes "width")) (int (p.attributes "height"))
      ((p.attributes "name").getD "layer") with
  | returned gids =>
      simp only [readLayer, hdecoded]
      clear h hstart hkept hinside hend hat hd
      cases s
      cases hname
      cases htext
      rfl
  | thrown e =>
      simp only [readLayer, hdecoded]
      exact .inr ⟨_, rfl, rfl⟩
  | trapped =>
      simp only [readLayer, hdecoded]
      exact .inl rfl

end Layers

-- ==================================================== the elements of a map

section Members

variable {f : Foundation}

/-- Nothing is open: where the delegate is between the elements of a map. -/
structure Idle (s : TMXParserDelegate) : Prop extends Outside s where
  layerName : s.currentLayerName = none
  dataText : s.currentDataText = []
  tileset : s.currentTileset = none
  imageLayer : s.currentImageLayer = none

/-- Other properties of the map, another image layer behind the others. -/
def withImages (s : TMXParserDelegate) (properties : Properties)
    (imageLayers : List TMXImageLayer) : TMXParserDelegate :=
  { s with
    mapProperties := properties
    imageLayers := s.imageLayers ++ imageLayers }

/-- An image layer: its properties are set in the map. -/
theorem parse_imageLayer {s : TMXParserDelegate} (h : Idle s) {p : Element}
    (hp : p.IsImageLayer) :
    s.parse f p.events = some (withImages s
      (s.mapProperties.setAll (pairs p.elements))
      ([readImageLayer p].filter fun l => l.imageSource ≠ "")) := by
  obtain ⟨hname, hmembers⟩ := hp
  have hdata : p.name ≠ "data" := by
    rw [hname]
    decide
  have hstart := h.toReady.start (f := f) hdata p.attributes
  rw [hname] at hstart
  have himage : readImageLayer p
      = imageLayerOf (imageFrom ("", 0, 0) p.elements) p := by
    rw [← filter_images hmembers]
    rfl
  have hlayer : (s.didStartElement f "imagelayer"
      p.attributes).currentImageLayer
      = some (imageLayerOf ("", 0, 0) p) := rfl
  rw [parse_element h.toReady hdata, hname,
    parse_imageMembers p.elements hmembers hstart h.object h.layerName
      h.tileset hlayer, Option.bind_some,
    parse_end (hstart.withImageLayer _ _).error, himage]
  generalize imageLayerOf (imageFrom ("", 0, 0) p.elements) p = l
  show some _ = some _
  have hone : (Option.filter (fun l : TMXImageLayer =>
      decide (l.imageSource ≠ "")) (some l)).toList
      = [l].filter fun l => l.imageSource ≠ "" := by
    by_cases hsource : l.imageSource = ""
    · simp [hsource]
    · simp [hsource]
  unfold withImages
  rw [← hone]
  have hnone := h.imageLayer
  clear h hstart himage hone hlayer
  cases s
  cases hnone
  rfl

/-- Another tile set behind the others, and its object groups. -/
def withTiles (s : TMXParserDelegate) (tileset : TMXTileset)
    (groups : List TMXObjectGroup) : TMXParserDelegate :=
  { s with
    tilesets := s.tilesets ++ [tileset]
    objectGroups := s.objectGroups ++ groups }

/-- A tile set: any image in it is its image, any object group in it is
one of the map. -/
theorem parse_tileset {s : TMXParserDelegate} (h : Idle s) {p : Element}
    (hp : p.IsTileset) :
    s.parse f p.events = some (withTiles s
      (readTileset (lastImage p.elements) p)
      ((named "objectgroup" p.elements).map (readObjectGroup f))) := by
  obtain ⟨hname, hmembers⟩ := hp
  have hdata : p.name ≠ "data" := by
    rw [hname]
    decide
  have hstart := h.toReady.start (f := f) hdata p.attributes
  rw [hname] at hstart
  have hopen : Outside (s.didStartElement f "tileset" p.attributes) :=
    ⟨hstart, h.object, h.group, h.objects⟩
  have htile : (s.didStartElement f "tileset" p.attributes).currentTileset
      = some (readTileset ("", 0, 0) p) := rfl
  rw [parse_element h.toReady hdata, hname,
    parse_tilesetMembers p.elements hmembers hopen htile, Option.bind_some,
    parse_end (hstart.withTileset _ _).error]
  show some _ = some _
  congr 1
  have htileset := h.tileset
  clear h hstart hopen htile
  cases s
  cases htileset
  rfl

/-- The object groups an element leaves in the map. -/
def groupsOf (f : Foundation) (p : Element) : List TMXObjectGroup :=
  if p.name = "objectgroup" then [readObjectGroup f p]
  else if p.name = "tileset" then
    (named "objectgroup" p.elements).map (readObjectGroup f)
  else []

/-- A map behind some elements, with these layers. -/
def extended (f : Foundation) (m : TMXMapData) (l : List Element)
    (layers : List TMXLayer) : TMXMapData :=
  { m with
    properties := m.properties.setAll (loosePairs l)
    tilesets := m.tilesets ++ (named "tileset" l).map fun p =>
      readTileset (lastImage p.elements) p
    imageLayers := m.imageLayers
      ++ ((named "imagelayer" l).map readImageLayer).filter fun l =>
        l.imageSource ≠ ""
    layers := m.layers ++ layers
    objectGroups := m.objectGroups ++ l.flatMap (groupsOf f) }

theorem named_append (name : String) (l l' : List Element) :
    named name (l ++ l') = named name l ++ named name l' :=
  List.filter_append ..

theorem extended_append (m : TMXMapData) (l l' : List Element)
    (layers layers' : List TMXLayer) :
    extended f (extended f m l layers) l' layers'
      = extended f m (l ++ l') (layers ++ layers') := by
  unfold extended
  simp only [named_append, loosePairs, List.flatMap_append, List.map_append,
    List.filter_append, List.append_assoc, Properties.setAll,
    List.foldl_append]

/-- Where the delegate is behind one element: nothing is open, the map has
the element, and the last data was written so. -/
structure Behind (f : Foundation) (s : TMXParserDelegate) (p : Element)
    (encoding compression : String) (layers : List TMXLayer)
    (s' : TMXParserDelegate) : Prop where
  idle : Idle s'
  encoding : s'.currentDataEncoding = encoding
  compression : s'.currentDataCompression = compression
  map : s'.makeMap = extended f s.makeMap [p] layers

/-- Every element but a layer is read. -/
theorem parse_member {s : TMXParserDelegate} (h : Idle s) {p : Element}
    (hp : p.InMap) (hlayer : p.name ≠ "layer") :
    ∃ s', s.parse f p.events = some s' ∧ Behind f s p s.currentDataEncoding
      s.currentDataCompression [] s' := by
  have hloose : loose s = true := by
    unfold loose
    rw [h.layerName, h.tileset]
    rfl
  rcases hp with hprop | htile | himage | hlay | hgroup
  · refine ⟨_, parse_property h.toReady h.object hprop, ?_⟩
    refine ⟨⟨⟨h.toReady.withMembers _ _, h.object, h.group, h.objects⟩,
      h.layerName, h.dataText, h.tileset, h.imageLayer⟩, rfl, rfl, ?_⟩
    unfold extended
    rw [loosened_open hloose]
    simp [withMembers, makeMap, loosePairs, named, groupsOf, hprop.1]
  · refine ⟨_, parse_tileset h htile, ?_⟩
    refine ⟨⟨⟨⟨h.error, h.collecting⟩, h.object, h.group, h.objects⟩,
      h.layerName, h.dataText, h.tileset, h.imageLayer⟩, rfl, rfl, ?_⟩
    unfold extended
    simp [withTiles, makeMap, loosePairs, named, groupsOf, htile.1,
      Properties.setAll]
  · refine ⟨_, parse_imageLayer h himage, ?_⟩
    refine ⟨⟨⟨⟨h.error, h.collecting⟩, h.object, h.group, h.objects⟩,
      h.layerName, h.dataText, h.tileset, h.imageLayer⟩, rfl, rfl, ?_⟩
    unfold extended
    simp [withImages, makeMap, loosePairs, named, groupsOf, himage.1]
  · exact absurd hlay.1 hlayer
  · refine ⟨_, parse_objectGroup h.toReady h.object h.group h.objects hgroup,
      ?_⟩
    refine ⟨⟨⟨⟨h.error, h.collecting⟩, h.object, h.group, h.objects⟩,
      h.layerName, h.dataText, h.tileset, h.imageLayer⟩, rfl, rfl, ?_⟩
    unfold extended
    rw [loosened_open hloose]
    simp [withGroup, makeMap, loosePairs, named, groupsOf, hgroup.1]

/-- A layer that is decoded is read. -/
theorem behind_withLayer {s : TMXParserDelegate} (h : Idle s) {p : Element}
    (hp : p.name = "layer") (d : LayerText) (layer : TMXLayer) :
    Behind f s p d.encoding d.compression [layer] (withLayer s p d layer) := by
  refine ⟨⟨⟨⟨h.error, h.collecting⟩, h.object, h.group, h.objects⟩,
    h.layerName, h.dataText, h.tileset, h.imageLayer⟩, rfl, rfl, ?_⟩
  unfold extended
  simp [withLayer, makeMap, loosePairs, named, groupsOf, hp,
    Properties.setAll]

/-- The data a layer is read with, behind data written so. -/
def layerData (encoding compression : String) (p : Element) : LayerText :=
  match (named "data" p.elements).head? with
  | none => ⟨[], encoding, compression⟩
  | some data => .of data

theorem keptData_cons (encoding compression : String) (p : Element)
    (l : List Element) :
    keptData encoding compression (p :: l) =
      (p, layerData encoding compression p)
        :: keptData (layerData encoding compression p).encoding
          (layerData encoding compression p).compression l := by
  unfold layerData
  rw [keptData]
  cases (named "data" p.elements).head? with
  | none => rfl
  | some data => rfl

theorem finish_of_fails {s : Option TMXParserDelegate} (h : Fails s)
    (events : List Event) (m : TMXMapData) :
    finish (s.bind fun s => s.parse f events) ≠ .returned m := by
  rcases h with rfl | ⟨s', rfl, herror⟩
  · intro heq
    cases heq
  · rw [Option.bind_some, parse_of_error herror]
    obtain ⟨e, he⟩ := Option.isSome_iff_exists.mp herror
    unfold finish
    simp only [he]
    intro heq
    cases heq

/-- The layers read with the data kept for them. -/
def keptLayers (f : Foundation) (encoding compression : String)
    (l : List Element) : Option (List TMXLayer) :=
  (keptData encoding compression (named "layer" l)).mapM fun e =>
    readLayer f e.1 e.2

/-- What the elements of a map are read as, from any delegate with nothing
open: by induction along them, each one behind the others. -/
theorem parse_map (l : List Element) (hl : ∀ p ∈ l, p.InMap)
    {s : TMXParserDelegate} (h : Idle s) (m : TMXMapData) :
    finish (s.parse f (l.flatMap Element.events)) = .returned m ↔
      ∃ layers, keptLayers f s.currentDataEncoding s.currentDataCompression l
        = some layers ∧ m = extended f s.makeMap l layers := by
  induction l generalizing s m with
  | nil =>
      have hmap : extended f s.makeMap [] [] = s.makeMap := by
        unfold extended
        simp [loosePairs, named, Properties.setAll]
      have hfinish : finish (some s) = .returned s.makeMap := by
        unfold finish
        simp only [h.error]
      show finish (some s) = _ ↔ ∃ layers, some [] = some layers ∧ _
      rw [hfinish]
      constructor
      · intro heq
        cases heq
        exact ⟨[], rfl, hmap.symm⟩
      · intro hex
        obtain ⟨layers, hlayers, rfl⟩ := hex
        cases hlayers
        rw [hmap]
  | cons p l ih =>
      rw [List.forall_mem_cons] at hl
      obtain ⟨hp, hl⟩ := hl
      rw [List.flatMap_cons, parse_append]
      by_cases hlayer : p.name = "layer"
      · have hislayer : p.IsLayer := by
          rcases hp with hq | hq | hq | hq | hq
          · exact absurd (hq.1.symm.trans hlayer) (by decide)
          · exact absurd (hq.1.symm.trans hlayer) (by decide)
          · exact absurd (hq.1.symm.trans hlayer) (by decide)
          · exact hq
          · exact absurd (hq.1.symm.trans hlayer) (by decide)
        have hread := parse_layer (f := f) h.toOutside h.layerName h.dataText
          hislayer (d := layerData s.currentDataEncoding
            s.currentDataCompression p) rfl
        unfold keptLayers
        rw [named_cons, if_pos hlayer, keptData_cons, List.mapM_cons]
        cases hone : readLayer f p (layerData s.currentDataEncoding
            s.currentDataCompression p) with
        | none =>
            rw [hone] at hread
            refine iff_of_false (finish_of_fails hread _ m) ?_
            intro hex
            obtain ⟨layers, hlayers, _⟩ := hex
            cases hlayers
        | some layer =>
            rw [hone] at hread
            have hbehind := behind_withLayer (f := f) h hlayer
              (layerData s.currentDataEncoding s.currentDataCompression p)
              layer
            rw [hread, Option.bind_some, ih hl hbehind.idle, hbehind.encoding,
              hbehind.compression, hbehind.map]
            constructor
            · intro hex
              obtain ⟨layers, hlayers, rfl⟩ := hex
              refine ⟨layer :: layers, ?_,
                extended_append s.makeMap [p] l [layer] layers⟩
              unfold keptLayers at hlayers
              rw [hlayers]
              rfl
            · intro hex
              obtain ⟨all, hall, rfl⟩ := hex
              obtain ⟨layer', hlayer', hrest⟩ := Option.bind_eq_some_iff.mp hall
              obtain ⟨layers, hlayers, hcons⟩ :=
                Option.bind_eq_some_iff.mp hrest
              cases hlayer'
              cases hcons
              exact ⟨layers, hlayers,
                (extended_append s.makeMap [p] l [layer] layers).symm⟩
      · obtain ⟨s', hread, hbehind⟩ := parse_member (f := f) h hp hlayer
        rw [hread, Option.bind_some, ih hl hbehind.idle, hbehind.encoding,
          hbehind.compression, hbehind.map]
        have hlayers : keptLayers f s.currentDataEncoding
            s.currentDataCompression (p :: l)
            = keptLayers f s.currentDataEncoding s.currentDataCompression
              l := by
          unfold keptLayers
          rw [named_cons, if_neg hlayer]
        rw [hlayers]
        simp only [extended_append, List.singleton_append, List.nil_append]

end Members

-- ================================================================ the map

section Reading

variable {f : Foundation} {l : List Element}

theorem mapM_isSome {α β : Type} {g : α → Option β} (l : List α) :
    (l.mapM g).isSome ↔ ∀ a ∈ l, (g a).isSome := by
  induction l with
  | nil => simp
  | cons a l ih =>
      rw [List.mapM_cons, List.forall_mem_cons, ← ih]
      cases g a with
      | none => simp
      | some b =>
          cases l.mapM g with
          | none => simp
          | some bs => simp

/-- No layer is read without data. -/
theorem readLayer_empty (p : Element) : readLayer f p {} = none := by
  cases hdecoded : decodeLayer f [] "" "" (int (p.attributes "width"))
      (int (p.attributes "height")) ((p.attributes "name").getD "layer") with
  | returned gids =>
      unfold decodeLayer at hdecoded
      split at hdecoded
      · cases hdecoded
      · simp [decodeLayerData] at hdecoded
  | thrown e => simp only [readLayer, hdecoded]
  | trapped => simp only [readLayer, hdecoded]

/-- Where every layer's own data is decoded, it is the data kept. -/
theorem keptData_own {layers : List Element}
    (h : ∀ p ∈ layers, (readLayer f p (ownData p)).isSome)
    (encoding compression : String) :
    keptData encoding compression layers
      = layers.map fun p => (p, ownData p) := by
  induction layers generalizing encoding compression with
  | nil => rfl
  | cons p layers ih =>
      rw [List.forall_mem_cons] at h
      obtain ⟨hp, h⟩ := h
      rw [keptData_cons, ih h, List.map_cons]
      congr 2
      unfold layerData ownData
      cases hhead : (named "data" p.elements).head? with
      | some data => rfl
      | none =>
          unfold ownData at hp
          rw [hhead] at hp
          rw [readLayer_empty] at hp
          cases hp

theorem readTileset_injective {image image' : String × Int × Int}
    {p : Element} (h : readTileset image p = readTileset image' p) :
    image = image' := by
  obtain ⟨source, width, height⟩ := image
  obtain ⟨source', width', height'⟩ := image'
  have hsource := congrArg TMXTileset.imageSource h
  have hwidth := congrArg TMXTileset.imageWidth h
  have hheight := congrArg TMXTileset.imageHeight h
  cases hsource
  cases hwidth
  cases hheight
  rfl

theorem groupsOf_group {p : Element} (hp : p.name = "objectgroup") :
    groupsOf f p = [readObjectGroup f p] := if_pos hp

theorem groupsOf_tileset {p : Element} (hp : p.name = "tileset") :
    groupsOf f p = (named "objectgroup" p.elements).map
      (readObjectGroup f) := by
  unfold groupsOf
  rw [if_neg (by rw [hp]; decide), if_pos hp]

theorem groupsOf_other {p : Element} (hgroup : p.name ≠ "objectgroup")
    (htile : p.name ≠ "tileset") : groupsOf f p = [] := by
  unfold groupsOf
  rw [if_neg hgroup, if_neg htile]

theorem length_groups (l : List Element) :
    ((named "objectgroup" l).map (readObjectGroup f)).length
      ≤ (l.flatMap (groupsOf f)).length := by
  induction l with
  | nil => simp [named]
  | cons p l ih =>
      rw [List.flatMap_cons, List.length_append, named_cons]
      by_cases hgroup : p.name = "objectgroup"
      · rw [groupsOf_group hgroup, if_pos hgroup, List.map_cons,
          List.length_cons, List.length_singleton]
        omega
      · rw [if_neg hgroup]
        omega

/-- The object groups are those of the map itself if no tile set has one. -/
theorem groups_iff (l : List Element) :
    l.flatMap (groupsOf f) = (named "objectgroup" l).map (readObjectGroup f)
      ↔ ∀ p ∈ named "tileset" l, named "objectgroup" p.elements = [] := by
  induction l with
  | nil => simp [named]
  | cons p l ih =>
      rw [List.flatMap_cons, named_cons, named_cons]
      by_cases hgroup : p.name = "objectgroup"
      · have hnot : p.name ≠ "tileset" := by
          rw [hgroup]
          decide
        rw [groupsOf_group hgroup, if_pos hgroup, if_neg hnot, List.map_cons,
          List.singleton_append, List.cons_inj_right]
        exact ih
      · by_cases htile : p.name = "tileset"
        · rw [groupsOf_tileset htile, if_neg hgroup, if_pos htile,
            List.forall_mem_cons, ← ih]
          constructor
          · intro heq
            have hlength := congrArg List.length heq
            have hle := length_groups (f := f) l
            rw [List.length_append] at hlength
            have hzero : ((named "objectgroup" p.elements).map
                (readObjectGroup f)).length = 0 := by omega
            have hnil := List.length_eq_zero_iff.mp hzero
            rw [hnil, List.nil_append] at heq
            exact ⟨List.map_eq_nil_iff.mp hnil, heq⟩
          · intro h
            rw [h.1, List.map_nil, List.nil_append]
            exact h.2
        · rw [groupsOf_other hgroup htile, if_neg hgroup, if_neg htile,
            List.nil_append]
          exact ih

/-- The start of a map element. -/
def mapStart (f : Foundation) (attributes : Attributes) :
    TMXParserDelegate :=
  TMXParserDelegate.didStartElement f {} "map" attributes

/-- The two maps of the same layers are one map where nothing leaks. -/
theorem extended_eq_iff (attributes : Attributes) (layers : List TMXLayer) :
    extended f (mapStart f attributes).makeMap l layers
        = readMap f attributes l layers
      ↔ NoLeak l := by
  constructor
  · intro heq
    have hproperties := congrArg TMXMapData.properties heq
    have htilesets := congrArg TMXMapData.tilesets heq
    have hgroups := congrArg TMXMapData.objectGroups heq
    refine ⟨congrFun hproperties, ?_, (groups_iff (f := f) l).mp hgroups⟩
    intro p hp
    exact readTileset_injective (List.map_inj_left.mp htilesets p hp)
  · intro h
    have hproperties : Properties.ofPairs (loosePairs l)
        = Properties.ofPairs (ownPairs l) := funext h.properties
    have htilesets : (named "tileset" l).map (fun p =>
        readTileset (lastImage p.elements) p)
        = (named "tileset" l).map fun p =>
          readTileset (ownImage p.elements) p := by
      refine List.map_congr_left ?_
      intro p hp
      rw [h.images p hp]
    have hgroups := (groups_iff (f := f) l).mpr h.groups
    unfold readMap
    rw [← hproperties, ← htilesets, ← hgroups]
    rfl

/-- What is loaded is the map with the layers of the data kept. -/
theorem load_iff (attributes : Attributes) (children : List Node)
    (h : ∀ p ∈ elementsAll [] children, p.InMap) (m : TMXMapData) :
    load f (Node.element "map" attributes children).events = .returned m ↔
      ∃ layers, keptLayers f "" "" (elementsAll [] children) = some layers
        ∧ m = extended f (mapStart f attributes).makeMap
          (elementsAll [] children) layers := by
  have hready : Ready {} := ⟨rfl, rfl⟩
  have hidle : Idle (mapStart f attributes) :=
    ⟨⟨⟨rfl, rfl⟩, rfl, rfl, rfl⟩, rfl, rfl, rfl, rfl⟩
  have hevents : (Node.element "map" attributes children).events
      = (Element.mk [] "map" attributes children).events := by
    rw [Node.events]
    rfl
  have hend (s : TMXParserDelegate) :
      s.parse f [.didEndElement "map"] = some s := by
    by_cases herror : s.error.isSome
    · exact parse_of_error herror _
    · exact parse_end (by simpa using herror) _
  have hparse := parse_element (f := f) hready
    (p := ⟨[], "map", attributes, children⟩) (by
      show "map" ≠ "data"
      decide)
  simp only [hend, Option.bind_fun_some] at hparse
  unfold load
  rw [hevents, hparse]
  exact parse_map (elementsAll [] children) h hidle m

end Reading

-- ========================================================== a map that leaks

/-- An object group that says of what kind it is. -/
def groupNodes : List Node :=
  [.element "objectgroup" (fun _ => none)
    [.element "properties" (fun _ => none)
      [.element "property"
        (fun key => if key = "name" then some "kind" else some "spikes")
        []]]]

end Exolon.Tmx

/-
Every line is one JSON object, read back by the reader of Lib.Json.

A line is assembled from fragments: the envelope's members, the payload's
members, each after a comma, a closing brace and a line break. `Field.text`
is one member as it is appended and `Field.member` what it means;
`lineText_parses` says a line is read as its members, in order, whatever
free text they carry.

# Where a line is not one object

Two things the assembly cannot rule out. `log.rotate` has a member `rot`
in its payload beside the envelope's, so its names are not distinct and a
reader that keeps one member a name loses the other. And the two kinds
that derive the next level have no line on the last zone. Every other line
is one unambiguous object (`unambiguous_iff`).
-/
import Exolon.EventLog.Flush
import Exolon.EventLog.Stream
import Exolon.Lib.Json

namespace Exolon

-- ============================================================= escaping

/-- An escaped scalar spells the scalar. -/
theorem escapedScalar_spells (c : Char) {body s : Text}
    (h : Json.Spells body s) :
    Json.Spells (escapedScalar c ++ body) (c :: s) := by
  unfold escapedScalar
  by_cases hquote : c = '"'
  · rw [if_pos hquote, hquote]
    exact .escape (by decide) rfl h
  rw [if_neg hquote]
  by_cases hslash : c = '\\'
  · rw [if_pos hslash, hslash]
    exact .escape (by decide) rfl h
  rw [if_neg hslash]
  by_cases hline : c = '\n'
  · rw [if_pos hline, hline]
    exact .escape (by decide) rfl h
  rw [if_neg hline]
  by_cases hreturn : c = '\r'
  · rw [if_pos hreturn, hreturn]
    exact .escape (by decide) rfl h
  rw [if_neg hreturn]
  by_cases htab : c = '\t'
  · rw [if_pos htab, htab]
    exact .escape (by decide) rfl h
  rw [if_neg htab]
  by_cases hcontrol : c.toNat < 0x20
  · rw [if_pos hcontrol]
    obtain ⟨h₃, h₂, h₁, h₀, hdigits, hunit, _⟩ :=
      Json.paddedHexText_codeUnit c.toNat hcontrol
    have hspells := Json.Spells.unicode hunit (by omega) h
    rw [Char.ofNat_toNat] at hspells
    rw [hdigits]
    exact hspells
  · rw [if_neg hcontrol]
    exact .plain hquote hslash (by omega) h

/-- An escaped text spells the text. -/
theorem escaped_spells (value : Text) :
    Json.Spells (value.flatMap escapedScalar) value := by
  induction value with
  | nil => exact .nil
  | cons c value ih =>
      rw [List.flatMap_cons]
      exact escapedScalar_spells c ih

/-- No scalar is escaped to a line break. -/
theorem newline_not_mem_escapedScalar (c : Char) : '\n' ∉ escapedScalar c := by
  unfold escapedScalar
  split
  · decide
  split
  · decide
  split
  · decide
  case isFalse hline =>
    split
    · decide
    split
    · decide
    split
    case isTrue hcontrol =>
      obtain ⟨_, _, _, _, _, _, hdigits⟩ :=
        Json.paddedHexText_codeUnit c.toNat hcontrol
      simpa using hdigits
    case isFalse => simpa using Ne.symm hline

-- ============================================================== members

/-- A scalar that stands for itself between quotes. -/
def isPlain (c : Char) : Bool := c != '"' && c != '\\' && decide (0x20 ≤ c.toNat)

theorem isPlain_of_isLabelChar {c : Char} (h : isLabelChar c = true) :
    isPlain c = true := by
  have hcontrol : ∀ n < 0x20, isLabelChar (Char.ofNat n) = false := by decide
  have hquote : c ≠ '"' := by
    rintro rfl
    exact absurd h (by decide)
  have hslash : c ≠ '\\' := by
    rintro rfl
    exact absurd h (by decide)
  have hprinted : 0x20 ≤ c.toNat := by
    by_contra hlt
    have hfalse := hcontrol c.toNat (by omega)
    rw [Char.ofNat_toNat, h] at hfalse
    cases hfalse
  simp [isPlain, hquote, hslash, hprinted]

theorem spells_of_isPlain {s : Text} (h : ∀ c ∈ s, isPlain c = true) :
    Json.Spells s s := by
  apply Json.Spells.of_plain
  intro c hc
  have hplain := h c hc
  simp only [isPlain, Bool.and_eq_true, bne_iff_ne, ne_eq, decide_eq_true_eq]
    at hplain
  exact ⟨hplain.1.1, hplain.1.2, hplain.2⟩

/-- A name and a value as they are appended. -/
def memberText (name value : Text) : Text :=
  '"' :: name ++ '"' :: ':' :: value

namespace Field

/-- The value as a line appends it. -/
def valueText : Field → Text
  | number _ value => intText value
  | flag _ value =>
      if value then ['t', 'r', 'u', 'e'] else ['f', 'a', 'l', 's', 'e']
  | label _ value => '"' :: value ++ ['"']
  | string _ value => escapedJSONString value
  | point _ x y => '{' :: memberText ['x'] (intText x)
      ++ [memberText ['y'] (intText y)].flatMap (fun t => ',' :: t)
      ++ ['}']

/-- What the value means. -/
def value : Field → Json
  | number _ value => .int value
  | flag _ value => .bool value
  | label _ value | string _ value => .str value
  | point _ x y => .obj [(['x'], .int x), (['y'], .int y)]

/-- The member as a line appends it, after its comma. -/
def text (f : Field) : Text := memberText f.name.toList f.valueText

/-- What the member means. -/
def member (f : Field) : Text × Json := (f.name.toList, f.value)

/-- A label of label scalars, or no label. -/
def Clean : Field → Prop
  | label _ value => ∀ c ∈ value, isLabelChar c = true
  | _ => True

/-- The value of a clean member is read back. -/
theorem reads_value {f : Field} (h : f.Clean) :
    Json.Reads f.valueText f.value := by
  cases f with
  | number name value => exact .int value
  | flag name value =>
      cases value with
      | true => exact .true
      | false => exact .false
  | label name value =>
      apply Json.Reads.str
      exact spells_of_isPlain fun c hc => isPlain_of_isLabelChar (h c hc)
  | string name value => exact .str (escaped_spells value)
  | point name x y =>
      refine .obj ⟨['x'], intText x, rfl, ?_, .int x⟩
        (.cons ⟨['y'], intText y, rfl, ?_, .int y⟩ .nil) <;>
      · exact spells_of_isPlain (by decide)

/-- A clean member with a plain name is read back. -/
theorem reads {f : Field} (hname : ∀ c ∈ f.name.toList, isPlain c = true)
    (h : f.Clean) : Json.ReadsMember f.text f.member :=
  ⟨f.name.toList, f.valueText, rfl, spells_of_isPlain hname, reads_value h⟩

end Field

theorem newline_not_plain {s : Text} (h : ∀ c ∈ s, isPlain c = true) :
    '\n' ∉ s := by
  intro hmem
  exact absurd (h _ hmem) (by decide)

theorem newline_not_mem_intText (z : Int) : '\n' ∉ intText z := by
  intro hmem
  rcases intText_char hmem with h | h
  · cases h
  · exact absurd h (by decide)

namespace Field

/-- A clean member with a plain name has no line break. -/
theorem newline_not_mem {f : Field}
    (hname : ∀ c ∈ f.name.toList, isPlain c = true) (h : f.Clean) :
    '\n' ∉ f.text := by
  have hvalue : '\n' ∉ f.valueText := by
    cases f with
    | number name value => exact newline_not_mem_intText value
    | flag name value => cases value <;> simp [valueText]
    | label name value =>
        have hlabel := newline_not_plain fun c hc =>
          isPlain_of_isLabelChar (h c hc)
        simp [valueText, hlabel]
    | string name value =>
        simp [valueText, escapedJSONString, newline_not_mem_escapedScalar]
    | point name x y =>
        simp [valueText, memberText, newline_not_mem_intText]
  have hplain := newline_not_plain hname
  simp [text, memberText, hvalue, hplain]

end Field

-- ================================================================ a line

namespace Envelope

/-- The envelope as members. -/
def fields (e : Envelope) : List Field := [
  .number "schema_version" e.schemaVersion,
  .number "seq" e.seq,
  .number "tick" e.tick,
  .number "frame" e.frame,
  .number "rot" e.rot,
  .number "ts_us" (GameplayEvent.microseconds e.tick),
  .label "name" e.name]

end Envelope

theorem Line.add_text (line : Line) (f : Field) :
    (line.add f).text = line.text ++ ',' :: f.text := by
  cases f <;>
    simp [Line.add, Line.number, Line.flag, Line.label, Line.string,
      Line.point, Line.key, Line.append, Field.text, Field.valueText,
      Field.name, memberText]

theorem Line.addAll_text (line : Line) (fields : List Field) :
    (line.addAll fields).text
      = line.text ++ fields.flatMap fun f => ',' :: f.text := by
  induction fields generalizing line with
  | nil => exact (List.append_nil _).symm
  | cons f fields ih =>
      rw [Line.addAll, List.foldl_cons, ← Line.addAll, ih, Line.add_text,
        List.flatMap_cons, List.append_assoc]

/-- A line is its members between braces, and a line break. -/
theorem lineText_eq (e : Envelope) (fields : List Field) :
    lineText e fields
      = '{' :: (Field.number "schema_version" e.schemaVersion).text
        ++ ((e.fields.tail ++ fields).map Field.text).flatMap (',' :: ·)
        ++ ['}'] ++ ['\n'] := by
  rw [lineText, Line.finish, Line.addAll_text]
  simp [Line.envelope, Line.empty, Line.append, Envelope.fields, Field.text,
    Field.valueText, Field.name, memberText, List.flatMap_map]

/-- The names every line starts with. -/
def Envelope.names : List String :=
  ["schema_version", "seq", "tick", "frame", "rot", "ts_us", "name"]

theorem Envelope.fields_names (e : Envelope) :
    e.fields.map Field.name = Envelope.names := rfl

/-- A payload's names are plain, pairwise distinct, and no envelope
name. -/
theorem payload_names {kind : GameplayEventKind} {record : GameplayEvent}
    {fields : List Field} (h : payload kind record = some fields) :
    (Envelope.names ++ fields.map Field.name).Nodup
      ∧ ∀ name ∈ fields.map Field.name, ∀ c ∈ name.toList,
        isPlain c = true := by
  cases kind with
  | stateZoneExit =>
      obtain ⟨nextLevel, _, rfl⟩ := Option.map_eq_some_iff.mp h
      simp only [List.map_cons, List.map_nil, Field.name]
      decide
  | stateContentComplete =>
      obtain ⟨nextLevel, _, rfl⟩ := Option.map_eq_some_iff.mp h
      simp only [List.map_cons, List.map_nil, Field.name]
      decide
  | _ =>
      obtain rfl := Option.some.inj h
      simp only [List.map_cons, List.map_nil, Field.name]
      decide

theorem Field.clean_labelFor {α : Type} [GameplayWireEnum α] (name : String)
    (bits : UInt16) : (Field.label name (labelFor α bits)).Clean :=
  fun _ hc => labelFor_char hc

/-- A payload's labels are labels. -/
theorem payload_clean {kind : GameplayEventKind} {record : GameplayEvent}
    {fields : List Field} (h : payload kind record = some fields) :
    ∀ f ∈ fields, f.Clean := by
  cases kind with
  | stateZoneExit =>
      obtain ⟨nextLevel, _, rfl⟩ := Option.map_eq_some_iff.mp h
      simp [Field.Clean]
  | stateContentComplete =>
      obtain ⟨nextLevel, _, rfl⟩ := Option.map_eq_some_iff.mp h
      simp [Field.Clean]
  | playerMotion =>
      obtain rfl := Option.some.inj h
      simp only [List.forall_mem_cons]
      refine ⟨trivial, trivial, trivial, trivial, trivial, trivial,
        fun _ hc => GameplayWire.motionLabel_char hc, Field.clean_labelFor _ _, trivial,
        nofun⟩
  | playerThrowGrenade =>
      obtain rfl := Option.some.inj h
      simp only [List.forall_mem_cons]
      refine ⟨trivial, trivial, Field.clean_labelFor _ _, trivial, trivial,
        ?_, nofun⟩
      cases GameplayEvent.bitAt record.entity 1 <;>
        simp only [Field.Clean] <;> decide
  | entityLauncherFire =>
      obtain rfl := Option.some.inj h
      simp only [List.forall_mem_cons]
      refine ⟨trivial, ?_, trivial, trivial, trivial, nofun⟩
      simp only [Field.Clean]
      decide
  | logBegin | logRotate | logEventsDropped | logEnd =>
      obtain rfl := Option.some.inj h
      nofun
  | _ =>
      -- no member, a number or a flag, or the label of a wire code
      obtain rfl := Option.some.inj h
      simp only [List.forall_mem_cons]
      repeat' constructor
      all_goals first
        | exact Field.clean_labelFor _ _
        | nofun

-- ============================================================ whole lines

/-- What holds of members that make one object. -/
structure Field.Readable (fields : List Field) : Prop where
  plain : ∀ f ∈ fields, ∀ c ∈ f.name.toList, isPlain c = true
  clean : ∀ f ∈ fields, f.Clean

/-- The envelope is readable when its name is a label. -/
theorem Envelope.readable {e : Envelope}
    (hname : ∀ c ∈ e.name, isLabelChar c = true) :
    Field.Readable e.fields where
  plain := by
    have hnames : ∀ name ∈ Envelope.names, ∀ c ∈ name.toList,
        isPlain c = true := by decide
    intro f hf
    apply hnames
    rw [← e.fields_names]
    exact List.mem_map_of_mem hf
  clean := by
    intro f hf
    simp only [Envelope.fields, List.mem_cons, List.not_mem_nil, or_false]
      at hf
    rcases hf with rfl | rfl | rfl | rfl | rfl | rfl | rfl
    case inr.inr.inr.inr.inr.inr => exact hname
    all_goals trivial

theorem Field.Readable.append {xs ys : List Field} (hxs : Readable xs)
    (hys : Readable ys) : Readable (xs ++ ys) where
  plain := List.forall_mem_append.mpr ⟨hxs.plain, hys.plain⟩
  clean := List.forall_mem_append.mpr ⟨hxs.clean, hys.clean⟩

/-- A readable line is read as its members, in order. -/
theorem lineText_parses {e : Envelope} {fields : List Field}
    (he : Field.Readable e.fields) (hfields : Field.Readable fields) :
    Json.parse (lineText e fields)
      = some (.obj ((e.fields ++ fields).map Field.member)) := by
  have hall := he.append hfields
  have hmembers : List.Forall₂ Json.ReadsMember
      ((e.fields ++ fields).map Field.text)
      ((e.fields ++ fields).map Field.member) := by
    rw [List.forall₂_map_left_iff, List.forall₂_map_right_iff,
      List.forall₂_same]
    intro f hf
    exact Field.reads (hall.plain f hf) (hall.clean f hf)
  rw [lineText_eq]
  cases hmembers with
  | cons hfirst hrest => exact (Json.Reads.obj hfirst hrest).parse rfl

/-- A readable line breaks once, at its end. -/
theorem lineText_oneLine {e : Envelope} {fields : List Field}
    (he : Field.Readable e.fields) (hfields : Field.Readable fields) :
    ∃ body, lineText e fields = body ++ ['\n'] ∧ '\n' ∉ body := by
  have hall := he.append hfields
  have hnone (f : Field) (hf : f ∈ e.fields ++ fields) : '\n' ∉ f.text :=
    Field.newline_not_mem (hall.plain f hf) (hall.clean f hf)
  refine ⟨_, lineText_eq e fields, ?_⟩
  have hfirst := hnone _ (List.mem_append_left _ List.mem_cons_self)
  have hrest (f : Field) (hf : f ∈ e.fields.tail ++ fields) :
      '\n' ∉ f.text := by
    apply hnone
    rcases List.mem_append.mp hf with h | h
    · exact List.mem_append_left _ (List.mem_of_mem_tail h)
    · exact List.mem_append_right _ h
  simp only [List.mem_append, List.mem_cons, List.mem_flatMap, List.mem_map,
    not_or]
  refine ⟨⟨⟨by decide, hfirst⟩, ?_⟩, by decide, nofun⟩
  rintro ⟨_, ⟨f, hf, rfl⟩, hmem⟩
  rcases hmem with hmem | hmem
  · cases hmem
  · exact hrest f (List.mem_append.mpr hf) hmem

-- ====================================================== lines of the log

namespace LogLine

/-- The rotation index a line is written with. -/
def rot : LogLine → Int
  | .begin _ _ _ rot .. | .eventsDropped _ _ _ rot .. | .ended _ _ _ rot ..
  | .record _ rot _ => rot
  | .rotate _ _ _ retired .. => retired

/-- The dotted name of a line. -/
def name : LogLine → Text
  | .begin .. => GameplayEventKind.logBegin.label.toList
  | .rotate .. => GameplayEventKind.logRotate.label.toList
  | .eventsDropped .. => GameplayEventKind.logEventsDropped.label.toList
  | .ended .. => GameplayEventKind.logEnd.label.toList
  | .record _ _ event => GameplayEventKind.nameText event.kind

def envelope (line : LogLine) : Envelope where
  schemaVersion := 1
  seq := line.seq
  tick := line.tick.toNat
  frame := line.frame.toNat
  rot := line.rot
  name := line.name

/-- The members beyond the envelope; `none` is a trap. -/
def fields? (cfg : Configuration) : LogLine → Option (List Field)
  | .begin _ _ _ _ wallUTC path flow =>
      some (beginFields cfg.runToken cfg.build wallUTC cfg.seed
        cfg.emissionLevel flow path)
  | .rotate _ tick _ retired fromPath toPath =>
      some (rotateFields tick.toNat retired fromPath toPath)
  | .eventsDropped _ _ _ _ drops last first total count =>
      some (dropFields drops last first total count)
  | .ended _ _ _ _ reason events => some (endFields reason events)
  | .record _ _ event => appendPayload event

/-- The free-form strings of a line, by member. -/
def strings (cfg : Configuration) (line : LogLine) : List (Text × Text) :=
  ((line.fields? cfg).getD []).filterMap fun
    | .string name value => some (name.toList, value)
    | _ => none

/-- A line is one object: one line of text, read back as members with
distinct names, its strings the strings it was written with. -/
def Unambiguous (cfg : Configuration) (line : LogLine) : Prop :=
  ∃ text members, line.text? cfg = some text
    ∧ (∃ body, text = body ++ ['\n'] ∧ '\n' ∉ body)
    ∧ Json.parse text = some (.obj members)
    ∧ (members.map Prod.fst).Nodup
    ∧ ∀ name value, (name, value) ∈ line.strings cfg →
      (name, Json.str value) ∈ members

/-- A record that names the level after the last zone. -/
def BeyondLastZone : LogLine → Prop
  | .record _ _ event => event.zone = 65535
      ∧ ((GameplayEventKind.ofRawValue event.kind = some .stateZoneExit
          ∧ event.entity ≠ 0)
        ∨ (GameplayEventKind.ofRawValue event.kind = some .stateContentComplete
          ∧ GameplayEvent.bitAt event.entity 1 = true))
  | _ => False

theorem text?_eq (cfg : Configuration) (line : LogLine) :
    line.text? cfg = (line.fields? cfg).map (lineText line.envelope) := by
  cases line <;> rfl

theorem name_char (line : LogLine) : ∀ c ∈ line.name, isLabelChar c = true := by
  cases line with
  | record seq rot event => exact fun c => GameplayEventKind.nameText_char
  | _ => exact GameplayEventKind.label_char _

/-- The members of a line are readable. -/
theorem fields?_readable {cfg : Configuration} {line : LogLine}
    {fields : List Field} (h : line.fields? cfg = some fields) :
    Field.Readable fields := by
  cases line with
  | begin =>
      obtain rfl := Option.some.inj h
      refine ⟨?_, ?_⟩ <;>
        simp only [beginFields, List.forall_mem_cons, Field.name, Field.Clean]
      · decide
      · simp
  | rotate =>
      obtain rfl := Option.some.inj h
      refine ⟨?_, ?_⟩ <;>
        simp only [rotateFields, List.forall_mem_cons, Field.name, Field.Clean]
      · decide
      · simp
  | eventsDropped =>
      obtain rfl := Option.some.inj h
      refine ⟨?_, ?_⟩ <;>
        simp only [dropFields, List.forall_mem_cons, Field.name, Field.Clean]
      · decide
      · simp
  | ended =>
      obtain rfl := Option.some.inj h
      refine ⟨?_, ?_⟩ <;>
        simp only [endFields, List.forall_mem_cons, Field.name, Field.Clean]
      · decide
      · simp
  | record seq rot event =>
      simp only [fields?, appendPayload] at h
      split at h
      case h_1 kind _ =>
        refine ⟨?_, payload_clean h⟩
        intro f hf
        exact (payload_names h).2 f.name (List.mem_map_of_mem hf)
      case h_2 =>
        obtain rfl := Option.some.inj h
        exact ⟨nofun, nofun⟩

/-- A line's names are distinct unless it is a rotation. -/
theorem names_nodup {cfg : Configuration} {line : LogLine}
    {fields : List Field} (h : line.fields? cfg = some fields)
    (hrotates : line.rotates = false) :
    (Envelope.names ++ fields.map Field.name).Nodup := by
  cases line with
  | rotate => cases hrotates
  | record seq rot event =>
      simp only [fields?, appendPayload] at h
      split at h
      case h_1 kind _ => exact (payload_names h).1
      case h_2 =>
        obtain rfl := Option.some.inj h
        decide
  | _ =>
      obtain rfl := Option.some.inj h
      simp only [beginFields, dropFields, endFields, List.map_cons,
        List.map_nil, Field.name]
      decide

/-- A line has no text exactly when it names a level beyond the last
zone. -/
theorem fields?_eq_none_iff (cfg : Configuration) (line : LogLine) :
    line.fields? cfg = none ↔ line.BeyondLastZone := by
  cases line with
  | record seq rot event =>
      simp only [fields?, appendPayload, BeyondLastZone]
      have hnext : GameplayWire.nextResource? event.zone = none
          ↔ event.zone = 65535 := by
        unfold GameplayWire.nextResource?
        rw [← UInt16.toNat_inj]
        have := event.zone.toNat_lt
        split <;> simp <;> omega
      cases hkind : GameplayEventKind.ofRawValue event.kind with
      | none => simp
      | some kind =>
          cases kind with
          | stateZoneExit =>
              by_cases hentity : event.entity = 0
              · simp [payload, GameplayWire.nextLevel?, hentity]
              · simp [payload, GameplayWire.nextLevel?, hentity, hnext]
          | stateContentComplete =>
              cases hbit : GameplayEvent.bitAt event.entity 1 with
              | true => simp [payload, GameplayWire.nextLevel?, hbit, hnext]
              | false => simp [payload, GameplayWire.nextLevel?, hbit]
          | _ =>
              apply iff_of_false
              · exact Option.some_ne_none _
              · rintro ⟨_, ⟨h, _⟩ | ⟨h, _⟩⟩ <;> cases h
  | _ => simp [fields?, BeyondLastZone]

/-- Every line is one unambiguous object, except a rotation, which names
`rot` twice, and a record that names a level beyond the last zone, which
has no line at all. -/
theorem unambiguous_iff (cfg : Configuration) (line : LogLine) :
    line.Unambiguous cfg
      ↔ line.rotates = false ∧ ¬line.BeyondLastZone := by
  have henvelope : Field.Readable line.envelope.fields :=
    Envelope.readable line.name_char
  constructor
  · rintro ⟨text, members, htext, _, hparse, hnodup, _⟩
    rw [text?_eq] at htext
    obtain ⟨fields, hfields, rfl⟩ := Option.map_eq_some_iff.mp htext
    constructor
    · -- the members of a rotation are known, and name `rot` twice
      cases line with
      | rotate =>
          rw [lineText_parses henvelope (fields?_readable hfields)] at hparse
          injection hparse with hparse
          injection hparse with hparse
          obtain rfl := Option.some.inj hfields
          subst hparse
          simp only [Field.member, Envelope.fields, rotateFields,
            List.map_append, List.map_cons, List.map_nil, Field.name]
            at hnodup
          exact absurd hnodup (by decide)
      | _ => rfl
    · rw [← fields?_eq_none_iff cfg, hfields]
      nofun
  · rintro ⟨hrotates, hzone⟩
    cases hfields : line.fields? cfg with
    | none => exact absurd ((fields?_eq_none_iff cfg line).mp hfields) hzone
    | some fields =>
        have hreadable := fields?_readable hfields
        refine ⟨lineText line.envelope fields,
          (line.envelope.fields ++ fields).map Field.member, ?_,
          lineText_oneLine henvelope hreadable,
          lineText_parses henvelope hreadable, ?_, ?_⟩
        · rw [text?_eq, hfields]
          rfl
        · have hnames := names_nodup hfields hrotates
          have hinj := List.Nodup.map
            (fun _ _ h => String.toList_injective h) hnames
          rw [← Envelope.fields_names line.envelope, ← List.map_append,
            List.map_map] at hinj
          rw [List.map_map]
          exact hinj
        · intro name value hstring
          rw [strings, hfields, Option.getD_some, List.mem_filterMap]
            at hstring
          obtain ⟨f, hf, heq⟩ := hstring
          cases f with
          | string name' value' =>
              simp only [Option.some.injEq, Prod.mk.injEq] at heq
              obtain ⟨rfl, rfl⟩ := heq
              exact List.mem_map.mpr ⟨.string name' value',
                List.mem_append_right _ hf, rfl⟩
          | _ => cases heq

/-- A rotation names `rot` twice; so not every line is one object. -/
theorem rotation_ambiguous :
    ¬ ∀ (cfg : Configuration) (line : LogLine), line.Unambiguous cfg := by
  intro h
  obtain ⟨text, members, htext, _, hparse, hnodup, _⟩ :=
    h { runToken := "run".toList } (.rotate 3 60 60 0 "a".toList "b".toList)
  have hvalue : ((LogLine.text? { runToken := "run".toList }
      (.rotate 3 60 60 0 "a".toList "b".toList)).bind Json.parse).map
        (fun json => decide json.names.Nodup) = some false := by
    decide +kernel
  rw [htext, Option.bind_some, hparse, Option.map_some,
    Option.some.injEq, decide_eq_false_iff_not] at hvalue
  exact hvalue hnodup

end LogLine

end Exolon

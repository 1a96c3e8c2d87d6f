/-
The data of a layer: the numbers in its text, or an error.

`decodeLayerData` is the decoder, `decodeLayer` its call with the product
of the declared sizes. Three things can happen to a text: it is returned,
thrown away with an error, or the program traps. What the standard library
answers about a text (`Foundation`) is a parameter.

`Exact` is a decoder that takes exactly the texts that are well formed and
throws at every other one. `layer_data_exact_iff` is where it does.
-/
import Exolon.Lib.Text
import Exolon.Tmx.Map

namespace Exolon.Tmx

inductive TMXMapLoaderError
  | resourceNotFound (name : String)
  | unreadableResource (name : String)
  | invalidXML (message : String)
  | unsupportedEncoding (value : String)
  | unsupportedCompression (value : String)
  | invalidLayerData (name : String)
  deriving DecidableEq

/-- How a call ends. -/
inductive Outcome (α : Type)
  | returned (value : α)
  | thrown (error : TMXMapLoaderError)
  | trapped
  deriving DecidableEq

/-- What the standard library answers about a text. -/
structure Foundation where
  /-- The characters of a text, each with its scalars. -/
  characters : Text → List Text
  /-- `CharacterSet.whitespacesAndNewlines` -/
  whitespacesAndNewlines : Char → Bool
  /-- `Data(base64Encoded:)` -/
  base64Encoded : Text → Option (List UInt8)
  /-- `Double(_:)` -/
  double : String → Option Rat

/-- `FixedWidthInteger.init?(_:)`: a sign or none, decimal digits, and a
value of the type. -/
def fixedWidth (least greatest : Int) (text : Text) : Option Int :=
  let (negative, digits) := match text with
    | '-' :: digits => (true, digits)
    | '+' :: digits => (false, digits)
    | digits => (false, digits)
  if digits = [] ∨ digits.any fun c => !c.isDigit then none
  else
    let magnitude : Int := Nat.ofDigitChars 10 digits 0
    let value := if negative then -magnitude else magnitude
    if least ≤ value ∧ value ≤ greatest then some value else none

/-- `UInt32(_:)` -/
def parseUInt32 (text : Text) : Option UInt32 :=
  (fixedWidth 0 (2 ^ 32 - 1) text).map fun value => UInt32.ofNat value.toNat

/-- An `Int`, or a trap where it overflows. -/
def int64 (n : Int) : Option Int :=
  if -2 ^ 63 ≤ n ∧ n < 2 ^ 63 then some n else none

/-- A number from its bytes, the lowest one first. -/
def joined (byte0 byte1 byte2 byte3 : UInt8) : UInt32 :=
  byte0.toUInt32 ||| (byte1.toUInt32 <<< 8) ||| (byte2.toUInt32 <<< 16)
    ||| (byte3.toUInt32 <<< 24)

/-- The number at four bytes of `data`. -/
def gidAt (data : List UInt8) (i : Int) : Option UInt32 := do
  let offset := i * 4
  let byte0 ← subscript data offset
  let byte1 ← subscript data (offset + 1)
  let byte2 ← subscript data (offset + 2)
  let byte3 ← subscript data (offset + 3)
  return joined byte0 byte1 byte2 byte3

section Decode

variable (f : Foundation)

/-- What the tokens of a text stand between. -/
def isSeparator (character : Text) : Bool :=
  character == [','] || character == ['\n'] || character == ['\r']
    || character == ['\t'] || character == [' ']

/-- `text.split { ... }`, each token a text again. -/
def tokens (text : Text) : List Text :=
  (((f.characters text).splitOnP isSeparator).filter
    fun token => !token.isEmpty).map List.flatten

/-- `components(separatedBy: .whitespacesAndNewlines).joined()` -/
def compact (text : Text) : Text :=
  text.filter fun c => !f.whitespacesAndNewlines c

/-- `decodeLayerData` -/
def decodeLayerData (text : Text) (encoding compression : String)
    (expectedCount : Int) (layerName : String) : Outcome (List UInt32) :=
  if compression ≠ "" then .thrown (.unsupportedCompression compression)
  else if encoding = "base64" then
    match f.base64Encoded (compact f text) with
    | none => .thrown (.invalidLayerData layerName)
    | some data =>
        match int64 (expectedCount * 4) with
        | none => .trapped
        | some needed =>
            if (data.length : Int) ≥ needed then
              match (upTo expectedCount).bind fun is =>
                is.mapM (gidAt data) with
              | none => .trapped
              | some result => .returned result
            else .thrown (.invalidLayerData layerName)
  else if encoding = "csv" then
    let values := (tokens f text).filterMap parseUInt32
    if (values.length : Int) = expectedCount then .returned values
    else .thrown (.invalidLayerData layerName)
  else .thrown (.unsupportedEncoding encoding)

/-- The call at the end of a layer; its count is the product of the
declared sizes. -/
def decodeLayer (text : Text) (encoding compression : String)
    (width height : Int) (layerName : String) : Outcome (List UInt32) :=
  match int64 (width * height) with
  | none => .trapped
  | some expectedCount =>
      decodeLayerData f text encoding compression expectedCount layerName

end Decode

-- ========================================================= what it is for

/-- A number as bytes, the lowest one first. -/
def bytesOf (gid : UInt32) : List UInt8 :=
  [gid.toUInt8, (gid >>> 8).toUInt8, (gid >>> 16).toUInt8,
    (gid >>> 24).toUInt8]

section Exact

variable (f : Foundation) (text : Text) (encoding compression : String)
  (width height : Int)

/-- A well-formed text, and its numbers. -/
def WellFormed (gids : List UInt32) : Prop :=
  compression = "" ∧ (gids.length : Int) = width * height
    ∧ ((encoding = "base64" ∧ ∃ data,
        f.base64Encoded (compact f text) = some data
          ∧ data = gids.flatMap bytesOf)
      ∨ (encoding = "csv"
        ∧ (tokens f text).map parseUInt32 = gids.map some))

/-- Exactly the well-formed texts are taken, and there is no trap. -/
def Exact (outcome : Outcome (List UInt32)) : Prop :=
  (∀ gids, outcome = .returned gids ↔
    WellFormed f text encoding compression width height gids)
    ∧ outcome ≠ .trapped

/-- A count in range; base64 of no more bytes than declared, and these in
range as well; no text with as many numbers as declared and something
else besides. -/
def Decodable : Prop :=
  (int64 (width * height)).isSome ∧ (compression = "" →
    (encoding = "base64" →
      ∀ data, f.base64Encoded (compact f text) = some data →
        (int64 (width * height * 4)).isSome
          ∧ (data.length : Int) ≤ width * height * 4)
    ∧ (encoding = "csv" → (∃ token ∈ tokens f text, parseUInt32 token = none)
      → (((tokens f text).filterMap parseUInt32).length : Int)
        ≠ width * height))

end Exact

-- ============================================================ the bytes

theorem bytesOf_joined (byte0 byte1 byte2 byte3 : UInt8) :
    bytesOf (joined byte0 byte1 byte2 byte3) = [byte0, byte1, byte2, byte3] := by
  simp only [bytesOf, joined, List.cons.injEq, and_true]
  have hge (byte : UInt8) {i : Nat} (hi : 8 ≤ i) :
      byte.toBitVec.getLsbD i = false := BitVec.getLsbD_of_ge _ _ hi
  refine ⟨?_, ?_, ?_, ?_⟩
  all_goals
    apply UInt8.eq_of_toBitVec_eq
    ext i hi
    rw [← BitVec.getLsbD_eq_getElem, ← BitVec.getLsbD_eq_getElem]
    simp
    try grind

theorem joined_bytesOf (gid : UInt32) :
    joined gid.toUInt8 (gid >>> 8).toUInt8 (gid >>> 16).toUInt8
      (gid >>> 24).toUInt8 = gid := by
  apply UInt32.eq_of_toBitVec_eq
  ext i hi
  rw [← BitVec.getLsbD_eq_getElem, ← BitVec.getLsbD_eq_getElem]
  simp [joined, -UInt32.toUInt32_toUInt8]
  grind

theorem length_flatMap_bytesOf (gids : List UInt32) :
    (gids.flatMap bytesOf).length = 4 * gids.length := by
  induction gids with
  | nil => rfl
  | cons gid gids ih =>
      rw [List.flatMap_cons, List.length_append, ih, List.length_cons]
      show 4 + _ = _
      omega

/-- Every text of bytes starts with as many numbers as it has room for. -/
theorem exists_gids (n : Nat) (data : List UInt8) (h : 4 * n ≤ data.length) :
    ∃ (gids : List UInt32) (extra : List UInt8),
      gids.length = n ∧ data = gids.flatMap bytesOf ++ extra := by
  induction n generalizing data with
  | zero => exact ⟨[], data, rfl, rfl⟩
  | succ n ih =>
      match data, h with
      | byte0 :: byte1 :: byte2 :: byte3 :: rest, h =>
          obtain ⟨gids, extra, hlength, hrest⟩ := ih rest (by
            simp only [List.length_cons] at h
            omega)
          refine ⟨joined byte0 byte1 byte2 byte3 :: gids, extra, ?_, ?_⟩
          · rw [List.length_cons, hlength]
          · rw [List.flatMap_cons, bytesOf_joined, hrest]
            rfl
      | [], h => simp at h
      | [_], h => simp at h; omega
      | [_, _], h => simp at h; omega
      | [_, _, _], h => simp at h; omega

theorem gidAt_flatMap {gids : List UInt32} (extra : List UInt8) {i : Nat}
    (hi : i < gids.length) :
    gidAt (gids.flatMap bytesOf ++ extra) i = some gids[i] := by
  induction gids generalizing i with
  | nil => simp at hi
  | cons gid gids ih =>
      cases i with
      | zero =>
          show some (joined _ _ _ _) = _
          rw [joined_bytesOf]
          rfl
      | succ i =>
          have hshift : gidAt ((gid :: gids).flatMap bytesOf ++ extra)
              ((i + 1 : Nat) : Int)
              = gidAt (gids.flatMap bytesOf ++ extra) i := by
            have hat (j : Nat) : subscript
                ((gid :: gids).flatMap bytesOf ++ extra)
                (((i + 1 : Nat) : Int) * 4 + j)
                = subscript (gids.flatMap bytesOf ++ extra) ((i : Int) * 4 + j)
                := by
              unfold subscript
              rw [if_neg (by omega), if_neg (by omega)]
              have hindex : (((i + 1 : Nat) : Int) * 4 + j).toNat
                  = ((i : Int) * 4 + j).toNat + 4 := by omega
              rw [hindex]
              rfl
            have h0 := hat 0
            have h1 := hat 1
            have h2 := hat 2
            have h3 := hat 3
            simp only [Nat.cast_zero, Nat.cast_one, Nat.cast_ofNat,
              add_zero] at h0 h1 h2 h3
            simp only [gidAt, h0, h1, h2, h3]
          rw [hshift, ih (by simpa using hi)]
          rfl

/-- The loop over the numbers reads them from the bytes. -/
theorem mapM_gidAt (gids : List UInt32) (extra : List UInt8) :
    ((upTo gids.length).bind fun is =>
      is.mapM (gidAt (gids.flatMap bytesOf ++ extra))) = some gids := by
  unfold upTo
  rw [if_neg (by omega), Option.bind_some]
  have hone : ∀ i ∈ (List.range (gids.length : Int).toNat).map Int.ofNat,
      gidAt (gids.flatMap bytesOf ++ extra) i = some (gids.getD i.toNat 0) := by
    intro i hi
    obtain ⟨h0, h1⟩ := mem_ofNat_range.mp hi
    obtain ⟨k, rfl⟩ := Int.eq_ofNat_of_zero_le h0
    have hk : k < gids.length := by omega
    rw [gidAt_flatMap extra hk, Int.toNat_natCast, List.getD_eq_getElem _ _ hk]
  rw [mapM_some hone, List.map_map, Int.toNat_natCast]
  congr 1
  refine List.ext_getElem (by simp) ?_
  intro i h0 h1
  simp [h1]

-- =========================================================== the tokens

theorem filterMap_of_map {α β : Type} {g : α → Option β} {l : List α}
    {values : List β} (h : l.map g = values.map some) :
    l.filterMap g = values := by
  have hid := congrArg (List.filterMap id) h
  rw [List.filterMap_map, List.filterMap_map] at hid
  simpa using hid

theorem map_of_forall {α β : Type} {g : α → Option β} {l : List α}
    (h : ∀ a ∈ l, g a ≠ none) : l.map g = (l.filterMap g).map some := by
  induction l with
  | nil => rfl
  | cons a l ih =>
      rw [List.forall_mem_cons] at h
      obtain ⟨b, hb⟩ := Option.ne_none_iff_exists'.mp h.1
      rw [List.map_cons, List.filterMap_cons, hb, ih h.2]
      rfl

-- ============================================================ the decoder

section Decoder

variable {f : Foundation} {text : Text} {encoding compression : String}
  {width height : Int} {layerName : String}

theorem int64_cases (n : Int) :
    int64 n = some n ∨ int64 n = none := by
  unfold int64
  split
  · exact .inl rfl
  · exact .inr rfl

/-- Base64 is read as far as declared. -/
theorem decodeLayerData_base64 {data : List UInt8} {count : Int}
    (hcompression : compression = "") (hencoding : encoding = "base64")
    (hdata : f.base64Encoded (compact f text) = some data)
    (hrange : int64 (count * 4) = some (count * 4)) :
    decodeLayerData f text encoding compression count layerName =
      if (data.length : Int) ≥ count * 4 then
        match (upTo count).bind fun is => is.mapM (gidAt data) with
        | none => .trapped
        | some result => .returned result
      else .thrown (.invalidLayerData layerName) := by
  unfold decodeLayerData
  rw [if_neg (by simp [hcompression]), if_pos hencoding]
  simp only [hdata, hrange]

/-- Base64 of no fewer bytes than declared, in range. -/
theorem decodeLayerData_returned {gids : List UInt32} {extra : List UInt8}
    (hcompression : compression = "") (hencoding : encoding = "base64")
    (hdata : f.base64Encoded (compact f text)
      = some (gids.flatMap bytesOf ++ extra))
    (hrange : int64 ((gids.length : Int) * 4)
      = some ((gids.length : Int) * 4)) :
    decodeLayerData f text encoding compression gids.length layerName
      = .returned gids := by
  have hlong : ((gids.flatMap bytesOf ++ extra).length : Int)
      ≥ (gids.length : Int) * 4 := by
    rw [List.length_append, length_flatMap_bytesOf]
    push_cast
    omega
  rw [decodeLayerData_base64 hcompression hencoding hdata hrange,
    if_pos hlong, mapM_gidAt]

theorem decodeLayerData_csv {count : Int} (hcompression : compression = "")
    (hencoding : encoding = "csv") :
    decodeLayerData f text encoding compression count layerName =
      if (((tokens f text).filterMap parseUInt32).length : Int) = count then
        .returned ((tokens f text).filterMap parseUInt32)
      else .thrown (.invalidLayerData layerName) := by
  unfold decodeLayerData
  rw [if_neg (by simp [hcompression]), if_neg (by simp [hencoding]),
    if_pos hencoding]

-- ============================================================ exactness

theorem not_exact_trapped :
    ¬Exact f text encoding compression width height .trapped :=
  fun h => h.2 rfl

theorem exact_thrown {e : TMXMapLoaderError}
    (h : ∀ gids, ¬WellFormed f text encoding compression width height gids) :
    Exact f text encoding compression width height (.thrown e) := by
  refine ⟨?_, by simp⟩
  intro gids
  constructor
  · intro heq
    cases heq
  · intro hgids
    exact absurd hgids (h gids)

theorem exact_returned {gids : List UInt32}
    (h : WellFormed f text encoding compression width height gids)
    (hunique : ∀ other,
      WellFormed f text encoding compression width height other →
      other = gids) :
    Exact f text encoding compression width height (.returned gids) := by
  refine ⟨?_, by simp⟩
  intro other
  constructor
  · intro heq
    cases heq
    exact h
  · intro hother
    rw [hunique other hother]

theorem not_exact_returned {gids : List UInt32}
    (h : ¬WellFormed f text encoding compression width height gids) :
    ¬Exact f text encoding compression width height (.returned gids) :=
  fun hexact => h ((hexact.1 gids).mp rfl)

theorem length_of_bytes {data : List UInt8} {gids : List UInt32}
    (h : data = gids.flatMap bytesOf) :
    (data.length : Int) = gids.length * 4 := by
  rw [h, length_flatMap_bytesOf]
  push_cast
  omega

/-- Base64: the bytes are as many as declared. -/
theorem exact_base64 (hcompression : compression = "")
    (hencoding : encoding = "base64") :
    Exact f text encoding compression width height
        (decodeLayerData f text encoding compression (width * height)
          layerName) ↔
      ∀ data, f.base64Encoded (compact f text) = some data →
        (int64 (width * height * 4)).isSome
          ∧ (data.length : Int) ≤ width * height * 4 := by
  have hcsv : encoding ≠ "csv" := by simp [hencoding]
  cases hdata : f.base64Encoded (compact f text) with
  | none =>
      have hthrown : decodeLayerData f text encoding compression
          (width * height) layerName
          = .thrown (.invalidLayerData layerName) := by
        unfold decodeLayerData
        rw [if_neg (by simp [hcompression]), if_pos hencoding]
        simp only [hdata]
      rw [hthrown]
      refine iff_of_true (exact_thrown ?_) (by simp)
      intro gids hgids
      obtain ⟨_, _, ⟨_, data, hsome, _⟩ | ⟨h, _⟩⟩ := hgids
      · rw [hdata] at hsome
        cases hsome
      · exact hcsv h
  | some data =>
      simp only [Option.some.injEq, forall_eq']
      -- what a well-formed text has for its bytes
      have hbytes {gids : List UInt32}
          (h : WellFormed f text encoding compression width height gids) :
          (gids.length : Int) = width * height
            ∧ data = gids.flatMap bytesOf := by
        obtain ⟨_, hlength, ⟨_, data', hsome, heq⟩ | ⟨h, _⟩⟩ := h
        · rw [hdata] at hsome
          cases hsome
          exact ⟨hlength, heq⟩
        · exact absurd h hcsv
      rcases int64_cases (width * height * 4) with hrange | hrange
      · rw [decodeLayerData_base64 hcompression hencoding hdata hrange]
        by_cases hlong : (data.length : Int) ≥ width * height * 4
        · rw [if_pos hlong, hrange]
          by_cases hneg : width * height < 0
          · have htrap : ((upTo (width * height)).bind fun is =>
                is.mapM (gidAt data)) = none := by
              unfold upTo
              rw [if_pos hneg]
              rfl
            rw [htrap]
            exact iff_of_false not_exact_trapped (by
              rintro ⟨_, hle⟩
              omega)
          · obtain ⟨n, hn⟩ := Int.eq_ofNat_of_zero_le (not_lt.mp hneg)
            obtain ⟨gids, extra, hlength, hsplit⟩ :=
              exists_gids n data (by omega)
            have hread : ((upTo (width * height)).bind fun is =>
                is.mapM (gidAt data)) = some gids := by
              rw [hn, hsplit, ← hlength]
              exact mapM_gidAt gids extra
            rw [hread]
            have hcount : (data.length : Int)
                = gids.length * 4 + extra.length := by
              rw [hsplit, List.length_append, length_flatMap_bytesOf]
              push_cast
              omega
            by_cases hshort : (data.length : Int) ≤ width * height * 4
            · have hnil : extra = [] :=
                List.length_eq_zero_iff.mp (by omega)
              rw [hnil, List.append_nil] at hsplit
              refine iff_of_true (exact_returned ?_ ?_) ⟨rfl, hshort⟩
              · exact ⟨hcompression, by omega, .inl
                  ⟨hencoding, data, hdata, hsplit⟩⟩
              · intro other hother
                obtain ⟨hlength', heq⟩ := hbytes hother
                have hread' := mapM_gidAt other []
                rw [List.append_nil, ← heq, hlength', hread] at hread'
                cases hread'
                rfl
            · refine iff_of_false (not_exact_returned ?_) fun h => hshort h.2
              intro hgids
              have hbytes' := length_of_bytes (hbytes hgids).2
              have hlength' := (hbytes hgids).1
              omega
        · rw [if_neg hlong, hrange]
          refine iff_of_true (exact_thrown ?_) ⟨rfl, by omega⟩
          intro gids hgids
          have hbytes' := length_of_bytes (hbytes hgids).2
          have hlength' := (hbytes hgids).1
          omega
      · have htrap : decodeLayerData f text encoding compression
            (width * height) layerName = .trapped := by
          unfold decodeLayerData
          rw [if_neg (by simp [hcompression]), if_pos hencoding]
          simp only [hdata, hrange]
        rw [htrap, hrange]
        exact iff_of_false not_exact_trapped (by simp)

/-- CSV: not as many numbers as declared and something else besides. -/
theorem exact_csv (hcompression : compression = "")
    (hencoding : encoding = "csv") :
    Exact f text encoding compression width height
        (decodeLayerData f text encoding compression (width * height)
          layerName) ↔
      ((∃ token ∈ tokens f text, parseUInt32 token = none) →
        (((tokens f text).filterMap parseUInt32).length : Int)
          ≠ width * height) := by
  have hnot : encoding ≠ "base64" := by simp [hencoding]
  have htokens {gids : List UInt32}
      (h : WellFormed f text encoding compression width height gids) :
      (gids.length : Int) = width * height
        ∧ (tokens f text).map parseUInt32 = gids.map some := by
    obtain ⟨_, hlength, ⟨h, _⟩ | ⟨_, heq⟩⟩ := h
    · exact absurd h hnot
    · exact ⟨hlength, heq⟩
  rw [decodeLayerData_csv hcompression hencoding]
  by_cases hcount : (((tokens f text).filterMap parseUInt32).length : Int)
      = width * height
  · rw [if_pos hcount]
    by_cases hinvalid : ∃ token ∈ tokens f text, parseUInt32 token = none
    · refine iff_of_false (not_exact_returned ?_) fun h => h hinvalid hcount
      intro hgids
      obtain ⟨token, hmem, hnone⟩ := hinvalid
      have hin := List.mem_map_of_mem (f := parseUInt32) hmem
      rw [(htokens hgids).2, hnone] at hin
      simp at hin
    · refine iff_of_true (exact_returned ?_ ?_) fun h => absurd h hinvalid
      · refine ⟨hcompression, hcount, .inr ⟨hencoding, map_of_forall ?_⟩⟩
        intro token hmem hnone
        exact hinvalid ⟨token, hmem, hnone⟩
      · intro other hother
        exact (filterMap_of_map (htokens hother).2).symm
  · rw [if_neg hcount]
    refine iff_of_true (exact_thrown ?_) fun _ => hcount
    intro gids hgids
    obtain ⟨hlength, heq⟩ := htokens hgids
    rw [filterMap_of_map heq] at hcount
    exact hcount hlength

/-- Where the decoder is exact. -/
theorem exact_iff :
    Exact f text encoding compression width height
        (decodeLayer f text encoding compression width height layerName) ↔
      Decodable f text encoding compression width height := by
  unfold Decodable decodeLayer
  rcases int64_cases (width * height) with hrange | hrange
  · simp only [hrange, Option.isSome_some, true_and]
    by_cases hcompression : compression = ""
    · simp only [hcompression, forall_const]
      by_cases hbase64 : encoding = "base64"
      · have hcsv : encoding ≠ "csv" := by simp [hbase64]
        rw [exact_base64 rfl hbase64]
        simp only [hbase64, forall_const]
        exact ⟨fun h => ⟨h, fun hc => absurd hc (by simp)⟩, And.left⟩
      · by_cases hcsv : encoding = "csv"
        · rw [exact_csv rfl hcsv]
          exact ⟨fun h => ⟨fun hb => absurd hb hbase64, fun _ => h⟩,
            fun h => h.2 hcsv⟩
        · refine iff_of_true ?_ ⟨fun h => absurd h hbase64,
            fun h => absurd h hcsv⟩
          unfold decodeLayerData
          rw [if_neg (by simp), if_neg hbase64, if_neg hcsv]
          refine exact_thrown ?_
          intro gids hgids
          obtain ⟨_, _, ⟨h, _⟩ | ⟨h, _⟩⟩ := hgids
          · exact hbase64 h
          · exact hcsv h
    · refine iff_of_true ?_ fun h => absurd h hcompression
      unfold decodeLayerData
      rw [if_pos hcompression]
      exact exact_thrown fun gids hgids => hcompression hgids.1
  · simp only [hrange]
    exact iff_of_false not_exact_trapped (by simp)

end Decoder

end Exolon.Tmx

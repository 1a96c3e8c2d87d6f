/-
What a landing input may be: the shape of an uploaded payload.

`validateShape` looks at an audio or image payload with a scanner of its own
for each format. Each scanner here reads the rest of the payload from the
source's offset on; it is total, since each turn drops at least one byte of
the rest.

# What is left open

`Others` has the checks of text, PDF and DOCX payloads. A quotient of two
integers is compared with 900 exactly: both are below 2^64 and the divisor
below 2^32, so the source's rounded quotient compares alike.
-/
import Exolon.Lib.Transaction

namespace Exolon.Landing.Media

abbrev Bytes := List UInt8

/-- `LandingContractError` -/
structure LandingContractError where
  code : String
  deriving DecidableEq

def refuse {α : Type} (code : String) : Except LandingContractError α :=
  .error ⟨code⟩

/-- `payload[offset : offset + size]` -/
def slice (payload : Bytes) (offset size : Nat) : Bytes :=
  (payload.drop offset).take size

/-- An unsigned integer, its lowest byte first. -/
def littleEndian : Bytes → Nat
  | [] => 0
  | b :: bs => b.toNat + 256 * littleEndian bs

/-- An unsigned integer, its highest byte first. -/
def bigEndian (bytes : Bytes) : Nat :=
  bytes.foldl (fun n b => 256 * n + b.toNat) 0

/-- The bytes of an ASCII literal. -/
def ascii (s : String) : Bytes := s.toList.map fun c => UInt8.ofNat c.toNat

def maxAudioSeconds : Nat := 900

def maxImagePixels : Nat := 40000000

-- =================================================================== WAV

/-- What the loop over the chunks has read. -/
structure WavScan where
  byteRate : Option Nat := none
  dataSize : Option Nat := none

/-- A chunk, read by its kind. -/
def WavScan.read (scan : WavScan) (kind body : Bytes) : WavScan :=
  if kind = ascii "fmt " ∧ 16 ≤ body.length then
    { scan with byteRate := some (littleEndian (slice body 8 4)) }
  else if kind = ascii "data" then
    { scan with dataSize := some body.length }
  else scan

/-- The loop over the chunks. -/
def wavChunks (rest : Bytes) (scan : WavScan) :
    Except LandingContractError WavScan :=
  if rest.length < 8 then .ok scan
  else
    let size := littleEndian (slice rest 4 4)
    if rest.length < 8 + size then refuse "audio_shape"
    else
      wavChunks (rest.drop (8 + size + size % 2))
        (scan.read (rest.take 4) (slice rest 8 size))
termination_by rest.length
decreasing_by
  rw [List.length_drop]
  omega

/-- `data_size / byte_rate > MAX_AUDIO_SECONDS`, and what comes before. -/
def WavScan.check : WavScan → Except LandingContractError Unit
  | ⟨some byteRate, some dataSize⟩ =>
      if byteRate = 0 ∨ maxAudioSeconds * byteRate < dataSize then
        refuse "audio_duration"
      else .ok ()
  | _ => refuse "audio_duration"

/-- `_validate_audio` of `audio/wav` -/
def validateWav (payload : Bytes) : Except LandingContractError Unit :=
  if payload.length < 44 ∨ payload.take 4 ≠ ascii "RIFF"
      ∨ slice payload 8 4 ≠ ascii "WAVE" then refuse "media_signature"
  else do
    let scan ← wavChunks (payload.drop 12) {}
    scan.check

-- =================================================================== MP3

/-- `_MP3_BITRATES_MPEG1` -/
def mp3BitratesMpeg1 : Nat → List Nat
  | 1 => [32, 64, 96, 128, 160, 192, 224, 256, 288, 320, 352, 384, 416, 448]
  | 2 => [32, 48, 56, 64, 80, 96, 112, 128, 160, 192, 224, 256, 320, 384]
  | _ => [32, 40, 48, 56, 64, 80, 96, 112, 128, 160, 192, 224, 256, 320]

/-- `_MP3_BITRATES_MPEG2` -/
def mp3BitratesMpeg2 : Nat → List Nat
  | 1 => [32, 48, 56, 64, 80, 96, 112, 128, 144, 160, 176, 192, 224, 256]
  | _ => [8, 16, 24, 32, 40, 48, 56, 64, 80, 96, 112, 128, 144, 160]

/-- What the header of a frame says. -/
structure Mp3Frame where
  size : Nat
  samples : Nat
  sampleRate : Nat
  deriving DecidableEq

/-- The header of a frame, of its four bytes. -/
def mp3Frame (header : Nat) : Option Mp3Frame :=
  let version := header >>> 19 &&& 0x3
  let layerBits := header >>> 17 &&& 0x3
  let bitrateIndex := header >>> 12 &&& 0xF
  let sampleIndex := header >>> 10 &&& 0x3
  if header >>> 21 ≠ 0x7FF ∨ version = 1 ∨ layerBits = 0
      ∨ bitrateIndex = 0 ∨ bitrateIndex = 15 ∨ sampleIndex = 3 then none
  else
    let layer := 4 - layerBits
    let sampleRate := [44100, 48000, 32000].getD sampleIndex 0
      / (if version = 3 then 1 else if version = 2 then 2 else 4)
    let table := if version = 3 then mp3BitratesMpeg1 else mp3BitratesMpeg2
    let bitrate := (table layer).getD (bitrateIndex - 1) 0 * 1000
    let padding := header >>> 9 &&& 1
    if layer = 1 then
      some ⟨(12 * bitrate / sampleRate + padding) * 4, 384, sampleRate⟩
    else if layer = 3 ∧ version ≠ 3 then
      some ⟨72 * bitrate / sampleRate + padding, 576, sampleRate⟩
    else some ⟨144 * bitrate / sampleRate + padding, 1152, sampleRate⟩

/-- The time a frame plays. -/
def Mp3Frame.duration (frame : Mp3Frame) : ℚ := frame.samples / frame.sampleRate

/-- A tag of 128 bytes at the end. -/
def isTrailer (rest : Bytes) : Bool :=
  rest.length = 128 && rest.take 3 = ascii "TAG"

/-- The frame at the front of the rest. -/
def mp3Next (rest : Bytes) : Option Mp3Frame :=
  if rest.length < 4 then none
  else
    (mp3Frame (bigEndian (rest.take 4))).filter fun frame =>
      4 ≤ frame.size && frame.size ≤ rest.length

theorem frame_of_mp3Next {rest : Bytes} {frame : Mp3Frame}
    (h : mp3Next rest = some frame) :
    mp3Frame (bigEndian (rest.take 4)) = some frame := by
  unfold mp3Next at h
  split at h
  · cases h
  · exact (Option.filter_eq_some_iff.mp h).1

theorem le_of_mp3Next {rest : Bytes} {frame : Mp3Frame}
    (h : mp3Next rest = some frame) :
    4 ≤ frame.size ∧ frame.size ≤ rest.length := by
  unfold mp3Next at h
  split at h
  · cases h
  · rw [Option.filter_eq_some_iff, Bool.and_eq_true, decide_eq_true_iff,
      decide_eq_true_iff] at h
    exact h.2

/-- The loop over the frames, and how many there are. -/
def mp3Frames (rest : Bytes) (duration : ℚ) (frames : Nat) :
    Except LandingContractError Nat :=
  if rest = [] ∨ isTrailer rest = true then .ok frames
  else
    match _h : mp3Next rest with
    | none => refuse "audio_shape"
    | some frame =>
        if maxAudioSeconds < duration + frame.duration then
          refuse "audio_duration"
        else
          mp3Frames (rest.drop frame.size) (duration + frame.duration)
            (frames + 1)
termination_by rest.length
decreasing_by
  have hsize := le_of_mp3Next _h
  rw [List.length_drop]
  omega

/-- The four bytes of a tag's size, of seven bits each. -/
def synchsafe (bytes : Bytes) : Nat :=
  bytes.foldl (fun n b => 128 * n + b.toNat) 0

/-- Where the frames begin, after a tag. -/
def mp3Offset (payload : Bytes) : Except LandingContractError Nat :=
  if payload.take 3 ≠ ascii "ID3" then .ok 0
  else if payload.length < 10
      ∨ (slice payload 6 4).any (fun b => 0x80 ≤ b) then refuse "audio_shape"
  else
    .ok (10 + synchsafe (slice payload 6 4)
      + if (payload.getD 5 0) &&& 0x10 ≠ 0 then 10 else 0)

/-- `_validate_mp3` -/
def validateMp3 (payload : Bytes) : Except LandingContractError Unit := do
  let offset ← mp3Offset payload
  let frames ← mp3Frames (payload.drop offset) 0 0
  if frames = 0 then refuse "audio_duration" else .ok ()

-- =================================================================== Ogg

/-- A page of an Ogg stream. -/
structure OggPage where
  headerType : UInt8
  granule : Nat
  serial : Nat
  sequence : Nat
  body : Bytes
  deriving DecidableEq

/-- The granule of a page on which no packet ends. -/
def noGranule : Nat := 2 ^ 64 - 1

/-- The page at the front of the rest, and where it ends. -/
def oggPage (rest : Bytes) : Option (OggPage × Nat) :=
  let segments := (rest.getD 26 0).toNat
  let bodyEnd := 27 + segments
    + ((slice rest 27 segments).map UInt8.toNat).sum
  if rest.length < 27 ∨ rest.take 5 ≠ ascii "OggS\x00"
      ∨ rest.length < 27 + segments ∨ rest.length < bodyEnd then none
  else
    some (⟨rest.getD 5 0, littleEndian (slice rest 6 8),
      littleEndian (slice rest 14 4), littleEndian (slice rest 18 4),
      slice rest (27 + segments) (bodyEnd - (27 + segments))⟩, bodyEnd)

/-- The sample rate of a stream, of the body of its first page. -/
def oggSampleRate (body : Bytes) : Option Nat :=
  if body.take 7 = 1 :: ascii "vorbis" ∧ 16 ≤ body.length then
    some (littleEndian (slice body 12 4))
  else if body.take 8 = ascii "OpusHead" ∧ 19 ≤ body.length then some 48000
  else none

/-- What the loop over the pages has read; the stream is its serial and its
sample rate. -/
structure OggScan where
  stream : Option (Nat × Nat) := none
  sequence : Nat := 0
  granule : Option Nat := none
  sawEnd : Bool := false

/-- The stream after a page: its first one begins it. -/
def OggScan.streamOf (scan : OggScan) (page : OggPage) :
    Option (Nat × Nat) :=
  match scan.stream with
  | none =>
      if page.headerType &&& 0x02 = 0 ∨ page.headerType &&& 0x01 ≠ 0 then none
      else (oggSampleRate page.body).map fun rate => (page.serial, rate)
  | some stream =>
      if page.serial ≠ stream.1 ∨ page.headerType &&& 0x02 ≠ 0 then none
      else some stream

/-- The granule after a page, which may not go back. -/
def OggScan.granuleOf (scan : OggScan) (page : OggPage) :
    Option (Option Nat) :=
  if page.granule = noGranule then some scan.granule
  else if scan.granule.any (page.granule < ·) then none
  else some (some page.granule)

/-- A page, if it may come next. -/
def OggScan.read (scan : OggScan) (page : OggPage) : Option OggScan := do
  let stream ← scan.streamOf page
  let granule ← scan.granuleOf page
  if page.sequence ≠ scan.sequence then none
  else some ⟨some stream, scan.sequence + 1, granule,
    page.headerType &&& 0x04 ≠ 0⟩

theorem le_of_oggPage {rest : Bytes} {page : OggPage} {bodyEnd : Nat}
    (h : oggPage rest = some (page, bodyEnd)) :
    27 ≤ bodyEnd ∧ bodyEnd ≤ rest.length := by
  unfold oggPage at h
  dsimp only at h
  split at h
  · cases h
  · next hshape =>
      simp only [not_or, Nat.not_lt] at hshape
      cases Option.some.inj h
      omega

/-- The loop over the pages. -/
def oggPages (rest : Bytes) (scan : OggScan) :
    Except LandingContractError OggScan :=
  if rest = [] then .ok scan
  else
    match _h : oggPage rest with
    | none => refuse "audio_shape"
    | some (page, bodyEnd) =>
        match scan.read page with
        | none => refuse "audio_shape"
        | some scan => oggPages (rest.drop bodyEnd) scan
termination_by rest.length
decreasing_by
  have hend := le_of_oggPage _h
  rw [List.length_drop]
  omega

/-- What is asked of the whole stream. -/
def OggScan.check : OggScan → Except LandingContractError Unit
  | ⟨some (_, sampleRate), _, some granule, true⟩ =>
      if sampleRate = 0 ∨ maxAudioSeconds * sampleRate < granule then
        refuse "audio_duration"
      else .ok ()
  | _ => refuse "audio_duration"

/-- `_validate_ogg` -/
def validateOgg (payload : Bytes) : Except LandingContractError Unit := do
  let scan ← oggPages payload {}
  scan.check

-- ================================================================ images

/-- The size of a PNG image. -/
def pngDimensions (payload : Bytes) :
    Except LandingContractError (Nat × Nat) :=
  if payload.length < 24
      ∨ payload.take 8 ≠ 0x89 :: ascii "PNG\x0d\n\x1a\n" then
    refuse "media_signature"
  else .ok (bigEndian (slice payload 16 4), bigEndian (slice payload 20 4))

/-- The loop over the markers. A rest of nine bytes always has a length
after its marker. -/
def jpegMarkers : Bytes → Option (Nat × Nat)
  | first :: marker :: rest =>
      if rest.length < 7 then none
      else if first ≠ 0xFF then jpegMarkers (marker :: rest)
      else if marker = 0xD8 ∨ marker = 0xD9 then jpegMarkers rest
      else
        let length := bigEndian (rest.take 2)
        if length < 2 ∨ rest.length < length then none
        else if (marker = 0xC0 ∨ marker = 0xC1 ∨ marker = 0xC2)
            ∧ 7 ≤ length then
          some (bigEndian (slice rest 5 2), bigEndian (slice rest 3 2))
        else jpegMarkers (rest.drop length)
  | _ => none
termination_by rest => rest.length
decreasing_by
  all_goals
    simp only [List.length_cons, List.length_drop]
    omega

/-- `_jpeg_dimensions` -/
def jpegDimensions (payload : Bytes) :
    Except LandingContractError (Nat × Nat) :=
  if payload.length < 4 ∨ payload.take 2 ≠ [0xFF, 0xD8] then
    refuse "media_signature"
  else
    match jpegMarkers (payload.drop 2) with
    | none => refuse "image_shape"
    | some size => .ok size

/-- `_webp_dimensions` -/
def webpDimensions (payload : Bytes) :
    Except LandingContractError (Nat × Nat) :=
  if payload.length < 30 ∨ payload.take 4 ≠ ascii "RIFF"
      ∨ slice payload 8 4 ≠ ascii "WEBP" then refuse "media_signature"
  else if slice payload 12 4 = ascii "VP8X" then
    .ok (1 + littleEndian (slice payload 24 3),
      1 + littleEndian (slice payload 27 3))
  else refuse "image_shape"

/-- The size of an image, of its media type. -/
def imageDimensions (mediaType : String) (payload : Bytes) :
    Except LandingContractError (Nat × Nat) :=
  if mediaType = "image/png" then pngDimensions payload
  else if mediaType = "image/jpeg" then jpegDimensions payload
  else if mediaType = "image/webp" then webpDimensions payload
  else refuse "media_signature"

/-- `_validate_image` -/
def validateImage (mediaType : String) (payload : Bytes) :
    Except LandingContractError Unit := do
  let (width, height) ← imageDimensions mediaType payload
  if width = 0 ∨ height = 0 ∨ maxImagePixels < width * height then
    refuse "image_pixels"
  else .ok ()

-- ================================================================= shape

/-- `_validate_audio` -/
def validateAudio (mediaType : String) (payload : Bytes) :
    Except LandingContractError Unit :=
  if mediaType = "audio/wav" then validateWav payload
  else if mediaType = "audio/mpeg" then validateMp3 payload
  else if mediaType = "audio/ogg" then validateOgg payload
  else refuse "media_signature"

/-- The checks of the other kinds. -/
structure Others where
  validateText : Bytes → Except LandingContractError Unit
  validatePdf : Bytes → Except LandingContractError Unit
  validateDocx : Bytes → Except LandingContractError Unit

/-- `_validate_shape` -/
def validateShape (others : Others) (mediaKind mediaType : String)
    (payload : Bytes) : Except LandingContractError Unit :=
  if mediaKind = "text" then others.validateText payload
  else if mediaKind = "audio" then validateAudio mediaType payload
  else if mediaKind = "image" then validateImage mediaType payload
  else if mediaKind = "pdf" then others.validatePdf payload
  else if mediaKind = "docx" then others.validateDocx payload
  else refuse "media_kind"

end Exolon.Landing.Media

/-
How large an accepted image is, and what `_validate_shape` promises.

`Sized` reads the size of an image by the grammar of its format: the first
chunk of a PNG file, the frame header of a JPEG file, the `VP8X` chunk of a
WebP file. A JPEG header may have fill bytes before a marker, markers that
stand alone, and a frame header of any of thirteen kinds; the scanner reads a
length after every marker and knows three kinds. `PlainHeader` is a header
in which that makes no difference.
-/
import Exolon.Landing.Playing

namespace Exolon.Landing.Media

open Transaction (bind_eq_ok)

-- ==================================================================== JPEG

/-- The markers `SOF0` to `SOF15` of a frame header. -/
def isFrameMarker (m : UInt8) : Bool :=
  0xC0 ≤ m && m ≤ 0xCF && m ≠ 0xC4 && m ≠ 0xC8 && m ≠ 0xCC

/-- The markers that nothing belongs to: `TEM` and `RST0` to `RST7`. -/
def isStandalone (m : UInt8) : Bool := m = 0x01 || 0xD0 ≤ m && m ≤ 0xD7

/-- The markers of the other segments that may come before a frame. -/
def isSegmentMarker (m : UInt8) : Bool :=
  !isFrameMarker m && !isStandalone m && m ≠ 0x00 && m ≠ 0xD8 && m ≠ 0xD9
    && m ≠ 0xDA && m ≠ 0xFF

/-- What comes after `SOI`, up to the frame header, with the width and the
height of the frame. -/
inductive JpegHeader : Bytes → Nat → Nat → Prop
  | fill {rest : Bytes} {w h : Nat} (hrest : JpegHeader (0xFF :: rest) w h) :
      JpegHeader (0xFF :: 0xFF :: rest) w h
  | standalone {m : UInt8} {rest : Bytes} {w h : Nat}
      (hm : isStandalone m = true) (hrest : JpegHeader rest w h) :
      JpegHeader (0xFF :: m :: rest) w h
  | segment {m : UInt8} {length body rest : Bytes} {w h : Nat}
      (hm : isSegmentMarker m = true) (hlength : length.length = 2)
      (hbody : 2 + body.length = bigEndian length)
      (hrest : JpegHeader rest w h) :
      JpegHeader (0xFF :: m :: (length ++ (body ++ rest))) w h
  | frame {m : UInt8} {length precision height width body rest : Bytes}
      (hm : isFrameMarker m = true) (hlength : length.length = 2)
      (hprecision : precision.length = 1) (hheight : height.length = 2)
      (hwidth : width.length = 2)
      (hbody : 7 + body.length = bigEndian length) :
      JpegHeader (0xFF :: m :: (length ++ (precision
        ++ (height ++ (width ++ (body ++ rest))))))
        (bigEndian width) (bigEndian height)

/-- A header without fill bytes and standalone markers, and a frame of one
of the first three kinds. -/
inductive PlainHeader : Bytes → Nat → Nat → Prop
  | segment {m : UInt8} {length body rest : Bytes} {w h : Nat}
      (hm : isSegmentMarker m = true) (hlength : length.length = 2)
      (hbody : 2 + body.length = bigEndian length)
      (hrest : PlainHeader rest w h) :
      PlainHeader (0xFF :: m :: (length ++ (body ++ rest))) w h
  | frame {m : UInt8} {length precision height width body rest : Bytes}
      (hm : m = 0xC0 ∨ m = 0xC1 ∨ m = 0xC2) (hlength : length.length = 2)
      (hprecision : precision.length = 1) (hheight : height.length = 2)
      (hwidth : width.length = 2)
      (hbody : 7 + body.length = bigEndian length) :
      PlainHeader (0xFF :: m :: (length ++ (precision
        ++ (height ++ (width ++ (body ++ rest))))))
        (bigEndian width) (bigEndian height)

theorem PlainHeader.length_le {bytes : Bytes} {w h : Nat}
    (hplain : PlainHeader bytes w h) : 9 ≤ bytes.length := by
  induction hplain with
  | segment hm hlength hbody hrest ih =>
      simp only [List.length_cons, List.length_append]
      omega
  | frame hm hlength hprecision hheight hwidth hbody =>
      simp only [List.length_cons, List.length_append]
      omega

/-- What is neither a marker of its own nor a frame is passed over. -/
theorem jpegMarkers_skip {m : UInt8} {length body rest : Bytes}
    (hends : ¬ (m = 0xD8 ∨ m = 0xD9))
    (hframe : ¬ (m = 0xC0 ∨ m = 0xC1 ∨ m = 0xC2)) (hlength : length.length = 2)
    (hbody : 2 + body.length = bigEndian length) (hrest : 5 ≤ rest.length) :
    jpegMarkers (0xFF :: m :: (length ++ (body ++ rest)))
      = jpegMarkers rest := by
  have htotal : (length ++ (body ++ rest)).length
      = bigEndian length + rest.length := by
    simp only [List.length_append]
    omega
  have hdrop : (length ++ (body ++ rest)).drop (bigEndian length) = rest := by
    rw [← List.append_assoc]
    apply drop_left
    rw [List.length_append]
    omega
  rw [jpegMarkers, if_neg (by omega), if_neg (not_not.mpr rfl), if_neg hends]
  dsimp only
  rw [take_left hlength, if_neg (by omega), if_neg (fun h => hframe h.1),
    hdrop]

/-- A segment is passed over. -/
theorem jpegMarkers_segment {m : UInt8} {length body rest : Bytes}
    (hm : isSegmentMarker m = true) (hlength : length.length = 2)
    (hbody : 2 + body.length = bigEndian length) (hrest : 5 ≤ rest.length) :
    jpegMarkers (0xFF :: m :: (length ++ (body ++ rest)))
      = jpegMarkers rest := by
  apply jpegMarkers_skip _ _ hlength hbody hrest
  · rintro (rfl | rfl)
    · exact absurd hm (by decide)
    · exact absurd hm (by decide)
  · rintro (rfl | rfl | rfl)
    · exact absurd hm (by decide)
    · exact absurd hm (by decide)
    · exact absurd hm (by decide)

/-- A frame of one of the first three kinds is read. -/
theorem jpegMarkers_frame {m : UInt8}
    {length precision height width body rest : Bytes}
    (hm : m = 0xC0 ∨ m = 0xC1 ∨ m = 0xC2) (hlength : length.length = 2)
    (hprecision : precision.length = 1) (hheight : height.length = 2)
    (hwidth : width.length = 2) (hbody : 7 + body.length = bigEndian length) :
    jpegMarkers (0xFF :: m :: (length ++ (precision
      ++ (height ++ (width ++ (body ++ rest))))))
      = some (bigEndian width, bigEndian height) := by
  have hends : ¬ (m = 0xD8 ∨ m = 0xD9) := by
    rcases hm with rfl | rfl | rfl <;> decide
  have htotal : (length ++ (precision ++ (height ++ (width
      ++ (body ++ rest))))).length = bigEndian length + rest.length := by
    simp only [List.length_append]
    omega
  have hheightRead : slice (length ++ (precision ++ (height ++ (width
      ++ (body ++ rest))))) 3 2 = height := by
    rw [← List.append_assoc length]
    apply slice_middle _ hheight
    rw [List.length_append]
    omega
  have hwidthRead : slice (length ++ (precision ++ (height ++ (width
      ++ (body ++ rest))))) 5 2 = width := by
    rw [← List.append_assoc length, ← List.append_assoc (length ++ precision)]
    apply slice_middle _ hwidth
    simp only [List.length_append]
    omega
  rw [jpegMarkers, if_neg (by omega), if_neg (not_not.mpr rfl), if_neg hends]
  dsimp only
  rw [take_left hlength, if_neg (by omega), if_pos ⟨hm, by omega⟩,
    hheightRead, hwidthRead]

/-- The scanner reads the frame of a plain header. -/
theorem jpegMarkers_of_plain {bytes : Bytes} {w h : Nat}
    (hplain : PlainHeader bytes w h) : jpegMarkers bytes = some (w, h) := by
  induction hplain with
  | segment hm hlength hbody hrest ih =>
      have hlong := hrest.length_le
      rw [jpegMarkers_segment hm hlength hbody (by omega)]
      exact ih
  | frame hm hlength hprecision hheight hwidth hbody =>
      exact jpegMarkers_frame hm hlength hprecision hheight hwidth hbody

-- =================================================================== images

/-- The size of an image, by the grammar of its format. -/
inductive Sized (mediaType : String) : Bytes → Nat → Nat → Prop
  | png {signature length width height rest : Bytes}
      (htype : mediaType = "image/png") (hsignature : signature.length = 8)
      (hlength : length.length = 4) (hwidth : width.length = 4)
      (hheight : height.length = 4) :
      Sized mediaType (signature ++ (length ++ (ascii "IHDR"
        ++ (width ++ (height ++ rest))))) (bigEndian width) (bigEndian height)
  | jpeg {rest : Bytes} {w h : Nat} (htype : mediaType = "image/jpeg")
      (hheader : JpegHeader rest w h) :
      Sized mediaType (0xFF :: 0xD8 :: rest) w h
  | webp {size chunkSize flags width height rest : Bytes}
      (htype : mediaType = "image/webp") (hsize : size.length = 4)
      (hchunk : chunkSize.length = 4) (hflags : flags.length = 4)
      (hwidth : width.length = 3) (hheight : height.length = 3) :
      Sized mediaType (ascii "RIFF" ++ (size ++ (ascii "WEBP"
        ++ (ascii "VP8X" ++ (chunkSize ++ (flags
        ++ (width ++ (height ++ rest))))))))
        (1 + littleEndian width) (1 + littleEndian height)

/-- What the scanner of a format says is what the grammar says. -/
theorem dimensions_of_sized {mediaType : String} {payload : Bytes}
    {w h w' h' : Nat} (hsized : Sized mediaType payload w h)
    (hplain : mediaType = "image/jpeg" → ∀ rest w h,
      payload = 0xFF :: 0xD8 :: rest → JpegHeader rest w h →
        PlainHeader rest w h)
    (hread : imageDimensions mediaType payload = .ok (w', h')) :
    w' = w ∧ h' = h := by
  unfold imageDimensions at hread
  cases hsized with
  | @png signature length width height rest htype hsignature hlength hwidth
      hheight =>
      have hihdr : (ascii "IHDR").length = 4 := rfl
      rw [if_pos htype] at hread
      unfold pngDimensions at hread
      split at hread
      · cases hread
      · cases Except.ok.inj hread
        rw [slice_at (signature ++ (length ++ ascii "IHDR")) width
            (height ++ rest) (by simp only [List.append_assoc])
            (by simp only [List.length_append]; omega) hwidth,
          slice_at (signature ++ (length ++ (ascii "IHDR" ++ width))) height
            rest (by simp only [List.append_assoc])
            (by simp only [List.length_append]; omega) hheight]
        exact ⟨rfl, rfl⟩
  | @jpeg rest w h htype hheader =>
      have hpng : mediaType ≠ "image/png" := by
        rw [htype]
        decide
      rw [if_neg hpng, if_pos htype] at hread
      unfold jpegDimensions at hread
      split at hread
      · cases hread
      · have hmarkers := jpegMarkers_of_plain
          (hplain htype rest w h rfl hheader)
        rw [List.drop_succ_cons, List.drop_succ_cons, List.drop_zero,
          hmarkers] at hread
        cases Except.ok.inj hread
        exact ⟨rfl, rfl⟩
  | @webp size chunkSize flags width height rest htype hsize hchunk hflags
      hwidth hheight =>
      have hpng : mediaType ≠ "image/png" := by
        rw [htype]
        decide
      have hjpeg : mediaType ≠ "image/jpeg" := by
        rw [htype]
        decide
      have hriff : (ascii "RIFF").length = 4 := rfl
      have hwebp : (ascii "WEBP").length = 4 := rfl
      have hvp8x : (ascii "VP8X").length = 4 := rfl
      rw [if_neg hpng, if_neg hjpeg, if_pos htype] at hread
      unfold webpDimensions at hread
      split at hread
      · cases hread
      split at hread
      · cases Except.ok.inj hread
        rw [slice_at (ascii "RIFF" ++ (size ++ (ascii "WEBP"
            ++ (ascii "VP8X" ++ (chunkSize ++ flags))))) width
            (height ++ rest) (by simp only [List.append_assoc])
            (by simp only [List.length_append]; omega) hwidth,
          slice_at (ascii "RIFF" ++ (size ++ (ascii "WEBP"
            ++ (ascii "VP8X" ++ (chunkSize ++ (flags ++ width)))))) height
            rest (by simp only [List.append_assoc])
            (by simp only [List.length_append]; omega) hheight]
        exact ⟨rfl, rfl⟩
      · cases hread

-- =================================================================== shape

/-- A payload whose format the scanners read as it is: a WAV file has one
format and one run of data, and a JPEG file a plain header. -/
structure Plain (mediaType : String) (payload : Bytes) : Prop where
  wav : mediaType = "audio/wav" → ∀ chunks,
    RiffChunks (payload.drop 12) chunks → Single chunks
  jpeg : mediaType = "image/jpeg" → ∀ rest w h,
    payload = 0xFF :: 0xD8 :: rest → JpegHeader rest w h →
      PlainHeader rest w h

/-- What an accepted payload promises. -/
structure Bounded (mediaKind mediaType : String) (payload : Bytes) :
    Prop where
  audio : mediaKind = "audio" → Within mediaType payload
  image : mediaKind = "image" → ∀ w h, Sized mediaType payload w h →
    w * h ≤ maxImagePixels

theorem validateAudio_within {mediaType : String} {payload : Bytes}
    (hplain : Plain mediaType payload)
    (h : validateAudio mediaType payload = .ok ()) :
    Within mediaType payload := by
  unfold validateAudio at h
  split at h
  · next htype =>
      have hsingle := hplain.wav htype
      subst htype
      exact validateWav_plays h hsingle
  split at h
  · next htype =>
      subst htype
      exact validateMp3_plays h
  split at h
  · next htype =>
      subst htype
      exact validateOgg_plays h
  · cases h

theorem validateImage_sized {mediaType : String} {payload : Bytes} {w h : Nat}
    (hplain : Plain mediaType payload)
    (hvalid : validateImage mediaType payload = .ok ())
    (hsized : Sized mediaType payload w h) : w * h ≤ maxImagePixels := by
  unfold validateImage at hvalid
  obtain ⟨⟨w', h'⟩, hread, hcheck⟩ := bind_eq_ok.mp hvalid
  dsimp only at hcheck
  split at hcheck
  · cases hcheck
  · next hsmall =>
      obtain ⟨rfl, rfl⟩ := dimensions_of_sized hsized hplain.jpeg hread
      simp only [not_or, Nat.not_lt] at hsmall
      exact hsmall.2.2

/-- An accepted payload that is plain keeps the bounds. -/
theorem validateShape_bounded (others : Others) {mediaKind mediaType : String}
    {payload : Bytes} (hplain : Plain mediaType payload)
    (h : validateShape others mediaKind mediaType payload = .ok ()) :
    Bounded mediaKind mediaType payload := by
  unfold validateShape at h
  constructor
  · rintro rfl
    exact validateAudio_within hplain h
  · rintro rfl w h' hsized
    exact validateImage_sized hplain h hsized

-- =============================================================== samples

/-- Other kinds are refused. -/
def noOthers : Others :=
  ⟨fun _ => refuse "text", fun _ => refuse "pdf", fun _ => refuse "docx"⟩

/-- Eight bits of one channel, at 8000 bytes a second. -/
def wavFormat : Chunk := {
  kind := ascii "fmt "
  body := [1, 0, 1, 0, 0x40, 0x1F, 0, 0, 0x40, 0x1F, 0, 0, 1, 0, 8, 0] }

/-- A chunk of data. -/
def wavData (body : Bytes) : Chunk := ⟨ascii "data", body⟩

/-- A WAV file of a format and some more bytes. -/
def wavFile (size rest : Bytes) : Bytes :=
  ascii "RIFF" ++ (size ++ (ascii "WAVE" ++ (wavFormat.kind
    ++ ([16, 0, 0, 0] ++ (wavFormat.body ++ ([] ++ rest))))))

/-- A chunk of data with an even size, and what comes after it. -/
def dataChunk (size body rest : Bytes) : Bytes :=
  ascii "data" ++ (size ++ (body ++ ([] ++ rest)))

section Samples

variable {size body rest : Bytes} {chunks : List Chunk}

theorem riff_dataChunk (hsize : size.length = 4)
    (hbody : body.length = littleEndian size) (heven : body.length % 2 = 0)
    (hrest : RiffChunks rest chunks) :
    RiffChunks (dataChunk size body rest) (wavData body :: chunks) :=
  .chunk rfl hsize hbody (.inl heven.symm) hrest

theorem riff_wavFile (hsize : size.length = 4)
    (hrest : RiffChunks rest chunks) :
    RiffChunks ((wavFile size rest).drop 12) (wavFormat :: chunks) := by
  have hdrop : (wavFile size rest).drop 12 = wavFormat.kind
      ++ ([16, 0, 0, 0] ++ (wavFormat.body ++ ([] ++ rest))) := by
    unfold wavFile
    rw [← List.append_assoc (ascii "RIFF"), ← List.append_assoc _ (ascii "WAVE")]
    apply drop_left
    rw [List.length_append, List.length_append, hsize]
    rfl
  rw [hdrop]
  exact .chunk rfl rfl rfl (.inl rfl) hrest

/-- A file with the format and some data is valid as its last chunk is. -/
theorem validateWav_wavFile (hsize : size.length = 4) (hlong : 8 ≤ rest.length)
    (hrest : RiffChunks rest chunks) :
    validateWav (wavFile size rest)
      = (WavScan.readAll {} (wavFormat :: chunks)).check := by
  have hriff : (ascii "RIFF").length = 4 := rfl
  have hwave : (ascii "WAVE").length = 4 := rfl
  have hformat : (wavFormat.kind ++ ([16, 0, 0, 0]
      ++ (wavFormat.body ++ ([] ++ rest)))).length = 24 + rest.length := by
    simp only [List.length_append]
    show 4 + (4 + (16 + (0 + rest.length))) = _
    omega
  have hlength : 44 ≤ (wavFile size rest).length := by
    unfold wavFile
    simp only [List.length_append] at hformat ⊢
    omega
  have hsignature : (wavFile size rest).take 4 = ascii "RIFF" :=
    take_left hriff
  have hkind : slice (wavFile size rest) 8 4 = ascii "WAVE" := by
    refine slice_at (ascii "RIFF" ++ size) (ascii "WAVE") _
      (List.append_assoc _ _ _).symm ?_ hwave
    rw [List.length_append]
    omega
  unfold validateWav
  rw [if_neg, wavChunks_of_riff (riff_wavFile hsize hrest)]
  · rfl
  · rw [hsignature, hkind]
    simp only [ne_eq, not_true_eq_false, or_false, Nat.not_lt]
    exact hlength

end Samples

/-- A file with one run of two bytes. -/
def oneRun : Bytes :=
  wavFile [38, 0, 0, 0] (dataChunk [2, 0, 0, 0] [128, 128] [])

theorem riff_oneRun :
    RiffChunks (oneRun.drop 12) [wavFormat, wavData [128, 128]] :=
  riff_wavFile rfl (riff_dataChunk rfl rfl rfl (.done (by decide)))

/-- One run of data. -/
theorem validateShape_bounded_oneRun : Bounded "audio" "audio/wav" oneRun := by
  apply validateShape_bounded noOthers
  · constructor
    · intro _ chunks hchunks
      rw [hchunks.unique riff_oneRun]
      exact ⟨by decide, by decide⟩
    · intro htype
      exact absurd htype (by decide)
  · show validateWav oneRun = .ok ()
    unfold oneRun
    rw [validateWav_wavFile rfl (by decide)
      (riff_dataChunk rfl rfl rfl (.done (by decide)))]
    rfl

/-- A file with two runs of four million bytes, 500 seconds each. -/
def twoRuns (body : Bytes) : Bytes :=
  wavFile [0x2C, 0x12, 0x7A, 0] (dataChunk [0, 0x09, 0x3D, 0] body
    (dataChunk [0, 0x09, 0x3D, 0] body []))

section Runs

variable {body : Bytes}

theorem riff_twoRuns (h : body.length = 4000000) :
    RiffChunks (dataChunk [0, 0x09, 0x3D, 0] body
      (dataChunk [0, 0x09, 0x3D, 0] body [])) [wavData body, wavData body] := by
  have hsize : body.length = littleEndian [0, 0x09, 0x3D, 0] := by
    rw [h]
    rfl
  have heven : body.length % 2 = 0 := by omega
  exact riff_dataChunk rfl hsize heven
    (riff_dataChunk rfl hsize heven (.done (by decide)))

theorem length_le_dataChunk {size rest : Bytes} (hsize : size.length = 4) :
    8 ≤ (dataChunk size body rest).length := by
  have hdata : (ascii "data").length = 4 := rfl
  unfold dataChunk
  rw [List.length_append, List.length_append, hdata, hsize]
  omega

/-- The scanner counts the last run. -/
theorem validateWav_twoRuns (h : body.length = 4000000) :
    validateWav (twoRuns body) = .ok () := by
  have hread : WavScan.readAll {} [wavFormat, wavData body, wavData body]
      = ⟨some 8000, some body.length⟩ := rfl
  unfold twoRuns
  rw [validateWav_wavFile rfl (length_le_dataChunk rfl) (riff_twoRuns h),
    hread, h]
  rfl

theorem validateShape_twoRuns (h : body.length = 4000000) :
    validateShape noOthers "audio" "audio/wav" (twoRuns body) = .ok () :=
  validateWav_twoRuns h

/-- The file plays both. -/
theorem plays_twoRuns (h : body.length = 4000000) :
    Plays "audio/wav" (twoRuns body) 1000 := by
  have hrate : declaredRate [wavFormat, wavData body, wavData body]
      = some 8000 := rfl
  have hbytes : dataBytes [wavFormat, wavData body, wavData body]
      = 8000000 := by
    show body.length + (body.length + 0) = 8000000
    omega
  have htime : (dataBytes [wavFormat, wavData body, wavData body] : ℚ)
      / (8000 : ℕ) = 1000 := by
    rw [hbytes]
    norm_num
  rw [← htime]
  exact .wav rfl (riff_wavFile rfl (riff_twoRuns h)) hrate

end Runs

/-- Four million bytes of silence. -/
def silence : Bytes := List.replicate 4000000 128

/-- A baseline frame of one pixel. -/
def smallFrame : Bytes :=
  0xFF :: 0xC0 :: ([0, 11] ++ ([8] ++ ([0, 1] ++ ([0, 1]
    ++ ([1, 1, 0x11, 0] ++ [])))))

/-- A lossless frame of 65535 by 65535, and one of one pixel. -/
def twoFrames : Bytes :=
  0xFF :: 0xD8 :: 0xFF :: 0xC3 :: ([0, 11] ++ ([8] ++ ([0xFF, 0xFF]
    ++ ([0xFF, 0xFF] ++ ([1, 1, 0x11, 0] ++ smallFrame)))))

/-- The grammar reads the first frame. -/
theorem sized_twoFrames : Sized "image/jpeg" twoFrames
    (bigEndian [0xFF, 0xFF]) (bigEndian [0xFF, 0xFF]) :=
  .jpeg rfl (.frame (by decide) rfl rfl rfl rfl rfl)

/-- The scanner reads the second. -/
theorem validateImage_twoFrames :
    validateImage "image/jpeg" twoFrames = .ok () := by
  have hmarkers : jpegMarkers (twoFrames.drop 2)
      = some (bigEndian [0, 1], bigEndian [0, 1]) := by
    show jpegMarkers (0xFF :: 0xC3 :: ([0, 11]
      ++ ([8, 0xFF, 0xFF, 0xFF, 0xFF, 1, 1, 0x11, 0] ++ smallFrame))) = _
    rw [jpegMarkers_skip (by decide) (by decide) rfl rfl (by decide)]
    exact jpegMarkers_frame (.inl rfl) rfl rfl rfl rfl rfl
  have hsize : jpegDimensions twoFrames = .ok (1, 1) := by
    unfold jpegDimensions
    rw [hmarkers]
    rfl
  show (jpegDimensions twoFrames >>= _) = _
  rw [hsize]
  rfl

/-- Two runs of data count as the last one, and a frame of another kind is
passed over for the next. -/
theorem unbounded_twoRuns :
    (validateShape noOthers "audio" "audio/wav" (twoRuns silence) = .ok ()
        ∧ ¬ Bounded "audio" "audio/wav" (twoRuns silence))
      ∧ validateShape noOthers "image" "image/jpeg" twoFrames = .ok ()
        ∧ ¬ Bounded "image" "image/jpeg" twoFrames := by
  have hsilence : silence.length = 4000000 := List.length_replicate
  refine ⟨⟨validateShape_twoRuns hsilence, fun hbounded => ?_⟩,
    validateImage_twoFrames, fun hbounded => ?_⟩
  · have hle := (hbounded.audio rfl).2 1000 (plays_twoRuns hsilence)
    unfold maxAudioSeconds at hle
    norm_num at hle
  · have hle := hbounded.image rfl _ _ sized_twoFrames
    revert hle
    decide

end Exolon.Landing.Media

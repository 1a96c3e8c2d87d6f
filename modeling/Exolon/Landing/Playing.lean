/-
How long an accepted payload plays.

`Plays` reads the playing time off a payload by the structure of its format:
the chunks of a RIFF file, the frames of an MP3 file, the pages of an Ogg
stream. The scanners of MP3 and Ogg count what the format counts
(`validateMp3_plays`, `validateOgg_plays`). The scanner of WAV keeps the last
`fmt ` chunk and the last `data` chunk only, so it does where there is one of
each (`validateWav_plays`).
-/
import Exolon.Landing.Media

namespace Exolon.Landing.Media

open Transaction (bind_eq_ok)

-- ================================================================== slices

section Slices

variable {a b c : Bytes} {i n : Nat}

theorem slice_middle (ha : a.length = i) (hb : b.length = n) :
    slice (a ++ (b ++ c)) i n = b := by
  unfold slice
  rw [← ha, List.drop_left, ← hb, List.take_left]

theorem slice_at {p : Bytes} (a b c : Bytes) (hp : p = a ++ (b ++ c))
    (ha : a.length = i) (hb : b.length = n) : slice p i n = b := by
  rw [hp]
  exact slice_middle ha hb

theorem take_left (ha : a.length = i) : (a ++ b).take i = a := by
  rw [← ha, List.take_left]

theorem drop_left (ha : a.length = i) : (a ++ b).drop i = b := by
  rw [← ha, List.drop_left]

theorem length_slice (h : i + n ≤ a.length) : (slice a i n).length = n := by
  unfold slice
  rw [List.length_take, List.length_drop]
  omega

/-- What is left of a slice, the slice, and the rest. -/
theorem drop_eq_slice (a : Bytes) (i n : Nat) :
    a.drop i = slice a i n ++ a.drop (i + n) := by
  unfold slice
  rw [← List.drop_drop, List.take_append_drop]

end Slices

-- ===================================================================== WAV

structure Chunk where
  kind : Bytes
  body : Bytes

/-- The chunks of a RIFF file: a kind, a size, that many bytes, and a byte
more where they are odd, except at the end. -/
inductive RiffChunks : Bytes → List Chunk → Prop
  | done {bytes : Bytes} (h : bytes.length < 8) : RiffChunks bytes []
  | chunk {kind size body pad rest : Bytes} {chunks : List Chunk}
      (hkind : kind.length = 4) (hsize : size.length = 4)
      (hbody : body.length = littleEndian size)
      (hpad : pad.length = body.length % 2 ∨ pad = [] ∧ rest = [])
      (hrest : RiffChunks rest chunks) :
      RiffChunks (kind ++ (size ++ (body ++ (pad ++ rest))))
        (⟨kind, body⟩ :: chunks)

/-- A chunk with the format. -/
def Chunk.isFormat (c : Chunk) : Bool :=
  c.kind = ascii "fmt " && 16 ≤ c.body.length

def Chunk.isData (c : Chunk) : Bool := c.kind = ascii "data"

/-- The byte rate that a file declares. -/
def declaredRate (chunks : List Chunk) : Option Nat :=
  (chunks.filter Chunk.isFormat).head?.map fun c =>
    littleEndian (slice c.body 8 4)

/-- The bytes of all data chunks. -/
def dataBytes (chunks : List Chunk) : Nat :=
  ((chunks.filter Chunk.isData).map fun c => c.body.length).sum

/-- One format, and one run of data. -/
def Single (chunks : List Chunk) : Prop :=
  (chunks.filter Chunk.isFormat).length ≤ 1
    ∧ (chunks.filter Chunk.isData).length ≤ 1

/-- The scan after some chunks. -/
def WavScan.readAll (scan : WavScan) (chunks : List Chunk) : WavScan :=
  chunks.foldl (fun scan c => scan.read c.kind c.body) scan

/-- The scanner reads the chunks of the file. -/
theorem wavChunks_of_riff {bytes : Bytes} {chunks : List Chunk}
    (h : RiffChunks bytes chunks) (scan : WavScan) :
    wavChunks bytes scan = .ok (scan.readAll chunks) := by
  induction h generalizing scan with
  | done h =>
      rw [wavChunks, if_pos h]
      rfl
  | @chunk kind size body pad rest chunks hkind hsize hbody hpad hrest ih =>
      have hlength : (kind ++ (size ++ (body ++ (pad ++ rest)))).length
          = 8 + body.length + pad.length + rest.length := by
        simp only [List.length_append]
        omega
      have hread : slice (kind ++ (size ++ (body ++ (pad ++ rest)))) 4 4
          = size := slice_middle hkind hsize
      have hbodyread : slice (kind ++ (size ++ (body ++ (pad ++ rest)))) 8
          body.length = body := by
        rw [← List.append_assoc kind size]
        exact slice_middle (by rw [List.length_append]; omega) rfl
      have hdrop : (kind ++ (size ++ (body ++ (pad ++ rest)))).drop
          (8 + body.length + body.length % 2) = rest := by
        have hall : kind ++ (size ++ (body ++ (pad ++ rest)))
            = (kind ++ size ++ body ++ pad) ++ rest := by
          simp only [List.append_assoc]
        rcases hpad with hpad | ⟨rfl, rfl⟩
        · rw [hall]
          apply drop_left
          simp only [List.length_append]
          omega
        · apply List.drop_eq_nil_of_le
          rw [hlength]
          simp only [List.length_nil]
          omega
      rw [wavChunks, if_neg (by rw [hlength]; omega)]
      dsimp only
      rw [hread, ← hbody, if_neg (by rw [hlength]; omega), hbodyread, hdrop,
        take_left hkind, ih]
      rfl

/-- What the scanner reads are the chunks of the file. -/
theorem riff_of_wavChunks {bytes : Bytes} {scan scan' : WavScan}
    (h : wavChunks bytes scan = .ok scan') :
    ∃ chunks, RiffChunks bytes chunks := by
  fun_induction wavChunks bytes scan with
  | case1 bytes scan hshort => exact ⟨[], .done hshort⟩
  | case2 bytes scan hlong size hcut => cases h
  | case3 bytes scan hlong size hcut ih =>
      obtain ⟨chunks, hchunks⟩ := ih h
      refine ⟨⟨slice bytes 0 4, slice bytes 8 size⟩ :: chunks, ?_⟩
      have hbytes : bytes = slice bytes 0 4 ++ (slice bytes 4 4
          ++ (slice bytes 8 size ++ (slice bytes (8 + size) (size % 2)
          ++ bytes.drop (8 + size + size % 2)))) := by
        rw [← drop_eq_slice, ← drop_eq_slice, ← drop_eq_slice bytes 4 4,
          ← drop_eq_slice bytes 0 4]
        rfl
      have hbody : (slice bytes 8 size).length = size :=
        length_slice (by omega)
      conv => arg 1; rw [hbytes]
      apply RiffChunks.chunk (length_slice (by omega))
        (length_slice (by omega)) hbody _ hchunks
      rw [hbody]
      by_cases hend : 8 + size + size % 2 ≤ bytes.length
      · exact .inl (length_slice hend)
      · refine .inr ⟨?_, List.drop_eq_nil_of_le (by omega)⟩
        unfold slice
        rw [List.drop_eq_nil_of_le (by omega), List.take_nil]

/-- A file has one list of chunks. -/
theorem RiffChunks.unique {bytes : Bytes} {chunks chunks' : List Chunk}
    (h : RiffChunks bytes chunks) (h' : RiffChunks bytes chunks') :
    chunks = chunks' := by
  induction h generalizing chunks' with
  | done hshort =>
      cases h' with
      | done => rfl
      | chunk hkind hsize =>
          simp only [List.length_append] at hshort
          omega
  | @chunk kind size body pad rest chunks hkind hsize hbody hpad hrest ih =>
      generalize hbytes : kind ++ (size ++ (body ++ (pad ++ rest))) = bytes
        at h'
      cases h' with
      | done hshort =>
          rw [← hbytes] at hshort
          simp only [List.length_append] at hshort
          omega
      | @chunk kind' size' body' pad' rest' chunks' hkind' hsize' hbody' hpad'
          hrest' =>
          obtain ⟨rfl, hsizes⟩ := List.append_inj hbytes
            (hkind.trans hkind'.symm)
          obtain ⟨rfl, hbodies⟩ := List.append_inj hsizes
            (hsize.trans hsize'.symm)
          obtain ⟨rfl, hpads⟩ := List.append_inj hbodies
            (hbody.trans hbody'.symm)
          have hsame : rest = rest' := by
            rcases hpad with hpad | ⟨rfl, rfl⟩
            · rcases hpad' with hpad' | ⟨rfl, rfl⟩
              · exact (List.append_inj hpads (hpad.trans hpad'.symm)).2
              · exact (List.append_eq_nil_iff.mp hpads).2
            · exact (List.append_eq_nil_iff.mp hpads.symm).2.symm
          subst hsame
          rw [ih hrest']

/-- The last chunk of a kind is what the scanner keeps of it. -/
theorem readAll_eq (scan : WavScan) (chunks : List Chunk) :
    (scan.readAll chunks).byteRate
        = (chunks.filter Chunk.isFormat).foldl
          (fun _ c => some (littleEndian (slice c.body 8 4))) scan.byteRate
      ∧ (scan.readAll chunks).dataSize
        = (chunks.filter Chunk.isData).foldl
          (fun _ c => some c.body.length) scan.dataSize := by
  induction chunks generalizing scan with
  | nil => exact ⟨rfl, rfl⟩
  | cons c chunks ih =>
      have hstep : scan.readAll (c :: chunks)
          = (scan.read c.kind c.body).readAll chunks := rfl
      have hkinds : ascii "fmt " ≠ ascii "data" := by decide
      rw [hstep, (ih _).1, (ih _).2, List.filter_cons, List.filter_cons]
      unfold WavScan.read
      by_cases hformat : c.kind = ascii "fmt " ∧ 16 ≤ c.body.length
      · have hisFormat : c.isFormat = true := by
          simpa [Chunk.isFormat] using hformat
        have hisData : c.isData = false := by
          unfold Chunk.isData
          rw [hformat.1]
          exact decide_eq_false hkinds
        rw [if_pos hformat, hisFormat, hisData]
        exact ⟨rfl, rfl⟩
      · have hisFormat : c.isFormat = false := by
          rw [← Bool.not_eq_true]
          intro htrue
          exact hformat (by simpa [Chunk.isFormat] using htrue)
        rw [if_neg hformat, hisFormat]
        by_cases hdata : c.kind = ascii "data"
        · have hisData : c.isData = true := decide_eq_true hdata
          rw [if_pos hdata, hisData]
          exact ⟨rfl, rfl⟩
        · have hisData : c.isData = false := decide_eq_false hdata
          rw [if_neg hdata, hisData]
          exact ⟨rfl, rfl⟩

/-- Of one format and one run of data the scanner keeps what the file
says. -/
theorem readAll_single {chunks : List Chunk} (h : Single chunks) :
    (WavScan.readAll {} chunks).byteRate = declaredRate chunks
      ∧ ((WavScan.readAll {} chunks).dataSize = none
        ∨ (WavScan.readAll {} chunks).dataSize = some (dataBytes chunks)) := by
  obtain ⟨hrate, hdata⟩ := readAll_eq {} chunks
  rw [hrate, hdata]
  unfold declaredRate dataBytes
  constructor
  · rcases hlist : chunks.filter Chunk.isFormat with _ | ⟨c, _ | ⟨c', rest⟩⟩
    · rfl
    · rfl
    · have hone := h.1
      rw [hlist, List.length_cons, List.length_cons] at hone
      omega
  · rcases hlist : chunks.filter Chunk.isData with _ | ⟨c, _ | ⟨c', rest⟩⟩
    · exact .inl rfl
    · exact .inr rfl
    · have hone := h.2
      rw [hlist, List.length_cons, List.length_cons] at hone
      omega

-- ===================================================================== MP3

/-- The frames of an MP3 file, up to its end or a trailer. -/
inductive Mp3Frames : Bytes → List Mp3Frame → Prop
  | done : Mp3Frames [] []
  | trailer {bytes : Bytes} (h : isTrailer bytes = true) : Mp3Frames bytes []
  | frame {header body rest : Bytes} {frame : Mp3Frame}
      {frames : List Mp3Frame}
      (htrailer : isTrailer (header ++ (body ++ rest)) = false)
      (hheader : header.length = 4)
      (hframe : mp3Frame (bigEndian header) = some frame)
      (hsize : 4 + body.length = frame.size)
      (hrest : Mp3Frames rest frames) :
      Mp3Frames (header ++ (body ++ rest)) (frame :: frames)

/-- The time that frames play. -/
def playingTime (frames : List Mp3Frame) : ℚ :=
  (frames.map Mp3Frame.duration).sum

/-- The scanner has counted each frame, and found no sum above the bound. -/
theorem le_of_mp3Frames {bytes : Bytes} {frames : List Mp3Frame}
    (h : Mp3Frames bytes frames) {duration : ℚ} {n m : Nat}
    (hscan : mp3Frames bytes duration n = .ok m) :
    m = n + frames.length
      ∧ (frames ≠ [] → duration + playingTime frames ≤ maxAudioSeconds) := by
  induction h generalizing duration n with
  | done =>
      rw [mp3Frames, if_pos (.inl rfl)] at hscan
      exact ⟨(Except.ok.inj hscan).symm, fun hne => absurd rfl hne⟩
  | trailer h =>
      rw [mp3Frames, if_pos (.inr h)] at hscan
      exact ⟨(Except.ok.inj hscan).symm, fun hne => absurd rfl hne⟩
  | @frame header body rest frame frames htrailer hheader hframe hsize hrest
      ih =>
      have hne : ¬ (header ++ (body ++ rest) = []
          ∨ isTrailer (header ++ (body ++ rest)) = true) := by
        rintro (hnil | htrue)
        · rw [List.append_eq_nil_iff] at hnil
          rw [hnil.1] at hheader
          cases hheader
        · rw [htrailer] at htrue
          cases htrue
      have hlength : (header ++ (body ++ rest)).length
          = frame.size + rest.length := by
        simp only [List.length_append]
        omega
      have hnext : mp3Next (header ++ (body ++ rest)) = some frame := by
        unfold mp3Next
        rw [if_neg (by rw [hlength]; omega), take_left hheader, hframe,
          Option.filter_some, if_pos]
        rw [Bool.and_eq_true, decide_eq_true_iff, decide_eq_true_iff, hlength]
        omega
      have hdrop : (header ++ (body ++ rest)).drop frame.size = rest := by
        rw [← List.append_assoc]
        apply drop_left
        rw [List.length_append]
        omega
      rw [mp3Frames, if_neg hne] at hscan
      split at hscan
      · next hnone =>
          rw [hnext] at hnone
          cases hnone
      · next frame' hsome =>
          rw [hnext] at hsome
          cases Option.some.inj hsome
          split at hscan
          · cases hscan
          · next hbound =>
              rw [hdrop] at hscan
              obtain ⟨hcount, hrestbound⟩ := ih hscan
              refine ⟨by rw [hcount, List.length_cons]; omega, fun _ => ?_⟩
              have htime : playingTime (frame :: frames)
                  = frame.duration + playingTime frames := by
                unfold playingTime
                rw [List.map_cons, List.sum_cons]
              rw [htime, ← add_assoc]
              by_cases hlast : frames = []
              · rw [hlast]
                unfold playingTime
                rw [List.map_nil, List.sum_nil, add_zero]
                exact not_lt.mp hbound
              · exact hrestbound hlast

/-- What the scanner counts are the frames of the file. -/
theorem mp3_of_mp3Frames {bytes : Bytes} {duration : ℚ} {n m : Nat}
    (h : mp3Frames bytes duration n = .ok m) :
    ∃ frames, Mp3Frames bytes frames := by
  fun_induction mp3Frames bytes duration n with
  | case1 bytes duration n hend =>
      rcases hend with rfl | htrailer
      · exact ⟨[], .done⟩
      · exact ⟨[], .trailer htrailer⟩
  | case2 => cases h
  | case3 => cases h
  | case4 bytes duration n hgoes frame hnext hbound ih =>
      obtain ⟨frames, hframes⟩ := ih h
      obtain ⟨hfour, hlength⟩ := le_of_mp3Next hnext
      refine ⟨frame :: frames, ?_⟩
      have hend : 4 + (frame.size - 4) = frame.size := by omega
      have hbytes : bytes = slice bytes 0 4
          ++ (slice bytes 4 (frame.size - 4) ++ bytes.drop frame.size) := by
        have hrest := drop_eq_slice bytes 4 (frame.size - 4)
        rw [hend] at hrest
        rw [← hrest]
        exact drop_eq_slice bytes 0 4
      have htrailer : isTrailer bytes = false := by
        rw [← Bool.not_eq_true]
        exact (not_or.mp hgoes).2
      conv => arg 1; rw [hbytes]
      refine .frame ?_ (length_slice (by omega)) (frame_of_mp3Next hnext) ?_
        hframes
      · rw [← hbytes]
        exact htrailer
      · rw [length_slice (by omega), hend]

-- ===================================================================== Ogg

/-- The pages of an Ogg stream. -/
inductive OggPages : Bytes → List OggPage → Prop
  | done : OggPages [] []
  | page {bytes : Bytes} {page : OggPage} {bodyEnd : Nat}
      {pages : List OggPage} (hpage : oggPage bytes = some (page, bodyEnd))
      (hrest : OggPages (bytes.drop bodyEnd) pages) :
      OggPages bytes (page :: pages)

/-- The granules of the pages on which a packet ends. -/
def granules (pages : List OggPage) : List Nat :=
  (pages.map OggPage.granule).filter (· ≠ noGranule)

/-- The pages may be read one after the other. -/
theorem ogg_of_oggPages {bytes : Bytes} {scan scan' : OggScan}
    (h : oggPages bytes scan = .ok scan') :
    ∃ pages, OggPages bytes pages := by
  fun_induction oggPages bytes scan with
  | case1 scan => exact ⟨[], .done⟩
  | case2 => cases h
  | case3 => cases h
  | case4 bytes scan hne page bodyEnd hpage scan' hread ih =>
      obtain ⟨pages, hpages⟩ := ih h
      exact ⟨page :: pages, .page hpage hpages⟩

theorem read_eq {scan scan' : OggScan} {page : OggPage}
    (h : scan.read page = some scan') :
    scan'.stream = scan.streamOf page ∧ scan.streamOf page ≠ none
      ∧ scan'.granule = if page.granule = noGranule then scan.granule
        else some page.granule := by
  unfold OggScan.read at h
  obtain ⟨stream, hstream, h⟩ := Option.bind_eq_some_iff.mp h
  obtain ⟨granule, hgranule, h⟩ := Option.bind_eq_some_iff.mp h
  split at h
  · cases h
  · cases Option.some.inj h
    refine ⟨hstream.symm, by rw [hstream]; exact Option.some_ne_none _, ?_⟩
    unfold OggScan.granuleOf at hgranule
    split at hgranule
    · next hnone =>
        rw [if_pos hnone]
        exact (Option.some.inj hgranule).symm
    · next hsome =>
        rw [if_neg hsome]
        split at hgranule
        · cases hgranule
        · exact (Option.some.inj hgranule).symm

/-- A page is read, and then the rest. -/
theorem next_of_oggPages {bytes : Bytes} {page : OggPage} {bodyEnd : Nat}
    (hpage : oggPage bytes = some (page, bodyEnd)) {scan scan' : OggScan}
    (hscan : oggPages bytes scan = .ok scan') :
    ∃ next, scan.read page = some next
      ∧ oggPages (bytes.drop bodyEnd) next = .ok scan' := by
  have hend := le_of_oggPage hpage
  have hne : bytes ≠ [] := by
    rintro rfl
    rw [List.length_nil] at hend
    omega
  rw [oggPages, if_neg hne] at hscan
  split at hscan
  · next hnone =>
      rw [hpage] at hnone
      cases hnone
  · next page' bodyEnd' hsome =>
      rw [hpage] at hsome
      cases Option.some.inj hsome
      split at hscan
      · cases hscan
      · next next hread => exact ⟨next, hread, hscan⟩

/-- The scanner ends with the last granule. -/
theorem granule_of_oggPages {bytes : Bytes} {pages : List OggPage}
    (h : OggPages bytes pages) {scan scan' : OggScan}
    (hscan : oggPages bytes scan = .ok scan') :
    scan'.granule = (granules pages).getLast?.or scan.granule := by
  induction h generalizing scan with
  | done =>
      rw [oggPages, if_pos rfl] at hscan
      rw [← Except.ok.inj hscan]
      rfl
  | @page bytes page bodyEnd pages hpage hrest ih =>
      obtain ⟨next, hread, hnext⟩ := next_of_oggPages hpage hscan
      obtain ⟨_, _, hgranule⟩ := read_eq hread
      rw [ih hnext, hgranule]
      unfold granules
      rw [List.map_cons, List.filter_cons]
      by_cases hnone : page.granule = noGranule
      · rw [if_pos hnone, if_neg (by simpa using hnone)]
      · rw [if_neg hnone, if_pos (by simpa using hnone), List.getLast?_cons]
        cases (List.filter _ (pages.map OggPage.granule)).getLast? <;> rfl

/-- A stream that has begun is the stream at the end. -/
theorem stream_of_oggPages {bytes : Bytes} {pages : List OggPage}
    (h : OggPages bytes pages) {scan scan' : OggScan}
    (hscan : oggPages bytes scan = .ok scan') {stream : Nat × Nat}
    (hstream : scan.stream = some stream) :
    scan'.stream = some stream := by
  induction h generalizing scan with
  | done =>
      rw [oggPages, if_pos rfl] at hscan
      rw [← Except.ok.inj hscan]
      exact hstream
  | @page bytes page bodyEnd pages hpage hrest ih =>
      obtain ⟨next, hread, hnext⟩ := next_of_oggPages hpage hscan
      obtain ⟨hkept, hsome, _⟩ := read_eq hread
      apply ih hnext
      rw [hkept]
      unfold OggScan.streamOf at hsome ⊢
      rw [hstream] at hsome ⊢
      dsimp only at hsome ⊢
      split at hsome
      · exact absurd rfl hsome
      · next hsame => rw [if_neg hsame]

/-- The first page begins the stream. -/
theorem rate_of_oggPages {bytes : Bytes} {page : OggPage}
    {pages : List OggPage} (h : OggPages bytes (page :: pages))
    {scan : OggScan} (hscan : oggPages bytes {} = .ok scan) :
    ∃ rate, oggSampleRate page.body = some rate
      ∧ scan.stream = some (page.serial, rate) := by
  cases h with
  | @page _ _ bodyEnd _ hpage hrest =>
      obtain ⟨next, hread, hnext⟩ := next_of_oggPages hpage hscan
      obtain ⟨hkept, hsome, _⟩ := read_eq hread
      cases hrate : oggSampleRate page.body with
      | none =>
          unfold OggScan.streamOf at hsome
          dsimp only at hsome
          rw [hrate] at hsome
          split at hsome
          · exact absurd rfl hsome
          · exact absurd rfl hsome
      | some rate =>
          refine ⟨rate, rfl, stream_of_oggPages hrest hnext ?_⟩
          rw [hkept]
          unfold OggScan.streamOf at hsome ⊢
          dsimp only at hsome ⊢
          rw [hrate] at hsome ⊢
          split at hsome
          · exact absurd rfl hsome
          · next hbegins =>
              rw [if_neg hbegins]
              rfl

-- =================================================================== audio

/-- The time a payload plays, by the structure of its format. -/
inductive Plays (mediaType : String) (payload : Bytes) : ℚ → Prop
  | wav {chunks : List Chunk} {rate : Nat} (htype : mediaType = "audio/wav")
      (hchunks : RiffChunks (payload.drop 12) chunks)
      (hrate : declaredRate chunks = some rate) :
      Plays mediaType payload (dataBytes chunks / rate)
  | mp3 {offset : Nat} {frames : List Mp3Frame}
      (htype : mediaType = "audio/mpeg")
      (hoffset : mp3Offset payload = .ok offset)
      (hframes : Mp3Frames (payload.drop offset) frames) :
      Plays mediaType payload (playingTime frames)
  | ogg {page : OggPage} {pages : List OggPage} {rate granule : Nat}
      (htype : mediaType = "audio/ogg")
      (hpages : OggPages payload (page :: pages))
      (hrate : oggSampleRate page.body = some rate)
      (hgranule : (granules (page :: pages)).getLast? = some granule) :
      Plays mediaType payload (granule / rate)

/-- The payload plays, and no longer than the bound. -/
def Within (mediaType : String) (payload : Bytes) : Prop :=
  (∃ seconds, Plays mediaType payload seconds)
    ∧ ∀ seconds, Plays mediaType payload seconds → seconds ≤ maxAudioSeconds

theorem div_le_of_not_lt {bytes rate : Nat} (hrate : rate ≠ 0)
    (h : ¬ maxAudioSeconds * rate < bytes) :
    (bytes / rate : ℚ) ≤ maxAudioSeconds := by
  have hpos : (0 : ℚ) < rate := by exact_mod_cast Nat.pos_of_ne_zero hrate
  rw [div_le_iff₀ hpos]
  exact_mod_cast Nat.le_of_not_lt h

theorem WavScan.check_ok {scan : WavScan} (h : scan.check = .ok ()) :
    ∃ rate size, scan = ⟨some rate, some size⟩ ∧ rate ≠ 0
      ∧ ¬ maxAudioSeconds * rate < size := by
  obtain ⟨byteRate, dataSize⟩ := scan
  cases byteRate with
  | none => cases h
  | some rate =>
      cases dataSize with
      | none => cases h
      | some size =>
          unfold WavScan.check at h
          dsimp only at h
          split at h
          · cases h
          · next hsmall =>
              rw [not_or] at hsmall
              exact ⟨rate, size, rfl, hsmall⟩

/-- A WAV payload with one format and one run of data plays as it was
measured. -/
theorem validateWav_plays {payload : Bytes}
    (h : validateWav payload = .ok ())
    (hsingle : ∀ chunks, RiffChunks (payload.drop 12) chunks →
      Single chunks) : Within "audio/wav" payload := by
  unfold validateWav at h
  split at h
  · cases h
  obtain ⟨scan, hscan, hcheck⟩ := bind_eq_ok.mp h
  obtain ⟨rate, size, rfl, hrate, hsize⟩ := WavScan.check_ok hcheck
  have hread : ∀ chunks, RiffChunks (payload.drop 12) chunks →
      declaredRate chunks = some rate ∧ dataBytes chunks = size := by
    intro chunks hchunks
    rw [wavChunks_of_riff hchunks, Except.ok.injEq] at hscan
    have hkept := readAll_single (hsingle chunks hchunks)
    rw [hscan] at hkept
    rcases hkept.2 with hnone | hsome
    · cases hnone
    · exact ⟨hkept.1.symm, (Option.some.inj hsome).symm⟩
  constructor
  · obtain ⟨chunks, hchunks⟩ := riff_of_wavChunks hscan
    exact ⟨_, .wav rfl hchunks (hread chunks hchunks).1⟩
  · intro seconds hplays
    cases hplays with
    | @wav chunks rate' htype hchunks hrate' =>
        obtain ⟨hdeclared, hbytes⟩ := hread chunks hchunks
        rw [hdeclared, Option.some.injEq] at hrate'
        rw [← hrate', hbytes]
        exact div_le_of_not_lt hrate hsize
    | mp3 htype => exact absurd htype (by decide)
    | ogg htype => exact absurd htype (by decide)

theorem validateMp3_plays {payload : Bytes}
    (h : validateMp3 payload = .ok ()) : Within "audio/mpeg" payload := by
  unfold validateMp3 at h
  obtain ⟨offset, hoffset, h⟩ := bind_eq_ok.mp h
  obtain ⟨count, hcount, h⟩ := bind_eq_ok.mp h
  have hpos : count ≠ 0 := by
    intro hzero
    rw [if_pos hzero] at h
    cases h
  constructor
  · obtain ⟨frames, hframes⟩ := mp3_of_mp3Frames hcount
    exact ⟨_, .mp3 rfl hoffset hframes⟩
  · intro seconds hplays
    cases hplays with
    | @mp3 offset' frames htype hoffset' hframes =>
        rw [hoffset, Except.ok.injEq] at hoffset'
        rw [← hoffset'] at hframes
        obtain ⟨hlength, hbound⟩ := le_of_mp3Frames hframes hcount
        have hne : frames ≠ [] := by
          rintro rfl
          exact hpos hlength
        rw [← zero_add (playingTime frames)]
        exact hbound hne
    | wav htype => exact absurd htype (by decide)
    | ogg htype => exact absurd htype (by decide)

theorem OggScan.check_ok {scan : OggScan} (h : scan.check = .ok ()) :
    ∃ serial rate sequence granule,
      scan = ⟨some (serial, rate), sequence, some granule, true⟩ ∧ rate ≠ 0
        ∧ ¬ maxAudioSeconds * rate < granule := by
  obtain ⟨stream, sequence, granule, sawEnd⟩ := scan
  cases stream with
  | none => cases h
  | some stream =>
      cases granule with
      | none => cases h
      | some granule =>
          cases sawEnd with
          | false => cases h
          | true =>
              unfold OggScan.check at h
              dsimp only at h
              split at h
              · cases h
              · next hsmall =>
                  rw [not_or] at hsmall
                  exact ⟨stream.1, stream.2, sequence, granule, rfl, hsmall⟩

theorem validateOgg_plays {payload : Bytes}
    (h : validateOgg payload = .ok ()) : Within "audio/ogg" payload := by
  unfold validateOgg at h
  obtain ⟨scan, hscan, hcheck⟩ := bind_eq_ok.mp h
  obtain ⟨serial, rate, sequence, granule, rfl, hrate, hsize⟩ :=
    OggScan.check_ok hcheck
  have hread : ∀ page pages, OggPages payload (page :: pages) →
      oggSampleRate page.body = some rate
        ∧ (granules (page :: pages)).getLast? = some granule := by
    intro page pages hpages
    obtain ⟨rate', hrate', hstream⟩ := rate_of_oggPages hpages hscan
    cases hstream
    have hlast := granule_of_oggPages hpages hscan
    rw [Option.or_none] at hlast
    exact ⟨hrate', hlast.symm⟩
  constructor
  · obtain ⟨pages, hpages⟩ := ogg_of_oggPages hscan
    cases pages with
    | nil =>
        have hlast := granule_of_oggPages hpages hscan
        cases hlast
    | cons page pages =>
        obtain ⟨hdeclared, hlast⟩ := hread page pages hpages
        exact ⟨_, .ogg rfl hpages hdeclared hlast⟩
  · intro seconds hplays
    cases hplays with
    | @ogg page pages rate' granule' htype hpages hrate' hgranule' =>
        obtain ⟨hdeclared, hlast⟩ := hread page pages hpages
        rw [hdeclared, Option.some.injEq] at hrate'
        rw [hlast, Option.some.injEq] at hgranule'
        rw [← hrate', ← hgranule']
        exact div_le_of_not_lt hrate hsize
    | wav htype => exact absurd htype (by decide)
    | mp3 htype => exact absurd htype (by decide)

end Exolon.Landing.Media

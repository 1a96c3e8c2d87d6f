/-
The writer a log hands its text to, and what it was handed.

`GameplayEventWriter` is the source's protocol as a record of functions on
the writer's own state: whether an open or a rotation succeeds is the
writer's answer, so "every writer" is every such record.

`Archive` is the protocol read from outside: the files closed so far, and
the file held open, if one is. It follows the calls and their answers
only; what is written while no file is held is in no file. The file
writer of the product is an instance, and its handle is open exactly when
the archive holds a file (`GameplayEventFileWriter.tracks_calls`).
-/
import Exolon.Lib.Text

namespace Exolon

-- ============================================================ protocol

/-- The writer protocol. A call that changes the writer answers its next
state. -/
structure GameplayEventWriter (W : Type) where
  bytesInCurrentFile : W → Int
  rotationIndex : W → Int
  currentPath : W → Text
  nextFilePath : W → Text
  openFirstFile : W → Bool × W
  write : W → Text → W
  synchronize : W → W
  rotateToNextFile : W → Bool × W
  closeFile : W → W

-- ============================================================= archive

/-- What a writer was handed, file by file. -/
structure Archive (α : Type) where
  retired : List (List α)
  current : Option (List α)

namespace Archive

variable {α : Type}

def empty : Archive α := ⟨[], none⟩

/-- Every file, oldest first. -/
def files (archive : Archive α) : List (List α) :=
  archive.retired ++ archive.current.toList

/-- A file is held open. -/
def holds (archive : Archive α) : Bool := archive.current.isSome

/-- The first open was answered. -/
def opened (archive : Archive α) (answer : Bool) : Archive α :=
  { archive with current := if answer then some [] else none }

/-- Text goes to the file held open; without one it is discarded. -/
def write (archive : Archive α) (lines : List α) : Archive α :=
  { archive with current := archive.current.map (· ++ lines) }

/-- The file held open is retired and the rotation was answered. -/
def rotated (archive : Archive α) (answer : Bool) : Archive α where
  retired := archive.files
  current := if answer then some [] else none

/-- The file held open is retired for good. -/
def closed (archive : Archive α) : Archive α := ⟨archive.files, none⟩

/-- Everything written into a file, in order. -/
def stream (archive : Archive α) : List α := archive.files.flatten

@[simp] theorem holds_opened (archive : Archive α) (answer : Bool) :
    (archive.opened answer).holds = answer := by
  cases answer <;> rfl

@[simp] theorem holds_write (archive : Archive α) (lines : List α) :
    (archive.write lines).holds = archive.holds := by
  cases archive with
  | mk retired current => cases current <;> rfl

@[simp] theorem holds_rotated (archive : Archive α) (answer : Bool) :
    (archive.rotated answer).holds = answer := by
  cases answer <;> rfl

@[simp] theorem holds_closed (archive : Archive α) :
    archive.closed.holds = false := rfl

/-- Writing into a held file appends to the stream. -/
theorem stream_write {archive : Archive α} (hheld : archive.holds = true)
    (lines : List α) :
    (archive.write lines).stream = archive.stream ++ lines := by
  cases archive with
  | mk retired current =>
      cases current with
      | none => cases hheld
      | some file => simp [stream, files, write]

/-- Without a held file the stream does not change. -/
theorem stream_write_discarded {archive : Archive α}
    (hheld : archive.holds = false) (lines : List α) :
    (archive.write lines).stream = archive.stream := by
  cases archive with
  | mk retired current =>
      cases current with
      | none => rfl
      | some file => cases hheld

theorem stream_opened {archive : Archive α} (hheld : archive.holds = false)
    (answer : Bool) : (archive.opened answer).stream = archive.stream := by
  cases archive with
  | mk retired current =>
      cases current with
      | none => cases answer <;> simp [stream, files, opened]
      | some file => cases hheld

@[simp] theorem stream_rotated (archive : Archive α) (answer : Bool) :
    (archive.rotated answer).stream = archive.stream := by
  cases answer <;> simp [stream, rotated, files]

@[simp] theorem stream_closed (archive : Archive α) :
    archive.closed.stream = archive.stream := by
  simp [stream, closed, files]

end Archive

-- =============================================================== calls

/-- One call a log makes. -/
inductive WriterCall where
  | openFirstFile
  | write (text : Text)
  | synchronize
  | rotateToNextFile
  | closeFile

/-- A call's effect on the writer, and on the archive of its texts. -/
def GameplayEventWriter.call {W : Type} (writer : GameplayEventWriter W)
    (state : W × Archive Text) : WriterCall → W × Archive Text
  | .openFirstFile =>
      let (answer, w) := writer.openFirstFile state.1
      (w, state.2.opened answer)
  | .write text => (writer.write state.1 text, state.2.write [text])
  | .synchronize => (writer.synchronize state.1, state.2)
  | .rotateToNextFile =>
      let (answer, w) := writer.rotateToNextFile state.1
      (w, state.2.rotated answer)
  | .closeFile => (writer.closeFile state.1, state.2.closed)

-- ========================================================= file writer

/-- The size of a text in UTF-8. -/
def utf8Count (text : Text) : Int := (text.map fun c => (c.utf8Size : Int)).sum

@[simp] theorem utf8Count_append (xs ys : Text) :
    utf8Count (xs ++ ys) = utf8Count xs + utf8Count ys := by
  simp [utf8Count]

/-- The product's writer. `opens` is the file system: its answers to the
opens to come, granting every open past the list's end; `onDisk` is what
the open file holds there. -/
structure GameplayEventFileWriter where
  directoryPath : Text
  filePrefix : Text
  runToken : Text
  bufferBytes : Int
  opens : List Bool
  fileHandle : Bool
  buffer : Text
  onDisk : Text
  bytesOnDisk : Int
  rotation : Int
  currentPath : Text

namespace GameplayEventFileWriter

/-- A writer before its first call. The buffer bound is clamped. -/
def init (directoryPath filePrefix runToken : Text) (bufferBytes : Int)
    (opens : List Bool) : GameplayEventFileWriter where
  directoryPath := directoryPath
  filePrefix := filePrefix
  runToken := runToken
  bufferBytes := max 1024 bufferBytes
  opens := opens
  fileHandle := false
  buffer := []
  onDisk := []
  bytesOnDisk := 0
  rotation := 0
  currentPath := []

def path (w : GameplayEventFileWriter) (rot : Int) : Text :=
  w.directoryPath ++ '/' :: w.filePrefix ++ w.runToken ++ '-' :: intText rot
    ++ ".jsonl".toList

def flushBuffer (w : GameplayEventFileWriter) : GameplayEventFileWriter :=
  if w.fileHandle ∧ w.buffer ≠ [] then
    { w with
      onDisk := w.onDisk ++ w.buffer
      bytesOnDisk := w.bytesOnDisk + utf8Count w.buffer
      buffer := [] }
  else w

def closeHandle (w : GameplayEventFileWriter) : GameplayEventFileWriter :=
  { w with fileHandle := false }

/-- Create and open a generation's file. -/
def openRotation (w : GameplayEventFileWriter) (rot : Int) :
    Bool × GameplayEventFileWriter :=
  let answer := w.opens.headD true
  (answer, { w with
    opens := w.opens.tail
    buffer := []
    onDisk := []
    bytesOnDisk := 0
    currentPath := w.path rot
    fileHandle := answer })

def write (w : GameplayEventFileWriter) (text : Text) :
    GameplayEventFileWriter :=
  if w.fileHandle then
    let w := { w with buffer := w.buffer ++ text }
    if utf8Count w.buffer ≥ w.bufferBytes then w.flushBuffer else w
  else w

def rotateToNextFile (w : GameplayEventFileWriter) :
    Bool × GameplayEventFileWriter :=
  let w := w.flushBuffer.closeHandle
  let w := { w with rotation := w.rotation + 1 }
  w.openRotation w.rotation

/-- Bytes of the file held, buffer included. -/
def bytesInCurrentFile (w : GameplayEventFileWriter) : Int :=
  w.bytesOnDisk + utf8Count w.buffer

/-- The file writer as a writer. -/
def writer : GameplayEventWriter GameplayEventFileWriter where
  bytesInCurrentFile := bytesInCurrentFile
  rotationIndex := rotation
  currentPath := currentPath
  nextFilePath w := w.path (w.rotation + 1)
  openFirstFile w := w.openRotation 0
  write := write
  synchronize := flushBuffer
  rotateToNextFile := rotateToNextFile
  closeFile w := w.flushBuffer.closeHandle

/-- The file writer is where the archive says: its handle is open exactly
when a file is held, which holds what was written, disk and buffer
together, and counts its bytes. -/
structure Tracks (w : GameplayEventFileWriter) (archive : Archive Text) :
    Prop where
  holds : w.fileHandle = archive.holds
  text : ∀ file, archive.current = some file →
    w.onDisk ++ w.buffer = file.flatten
  bytes : w.bytesOnDisk = utf8Count w.onDisk

/-- Pushing the buffer moves text, and changes nothing else. -/
theorem Tracks.flushBuffer {w : GameplayEventFileWriter}
    {archive : Archive Text} (h : Tracks w archive) :
    Tracks w.flushBuffer archive := by
  unfold GameplayEventFileWriter.flushBuffer
  split
  case isTrue =>
    refine ⟨h.holds, fun file hfile => ?_, ?_⟩
    · rw [← h.text file hfile, List.append_nil]
    · show w.bytesOnDisk + _ = utf8Count (w.onDisk ++ w.buffer)
      rw [utf8Count_append, h.bytes]
  case isFalse => exact h

theorem Tracks.opened {w : GameplayEventFileWriter} {archive : Archive Text}
    (rot : Int) :
    Tracks (w.openRotation rot).2 (archive.opened (w.openRotation rot).1) := by
  refine ⟨(archive.holds_opened _).symm, fun file hfile => ?_, rfl⟩
  cases hanswer : (w.openRotation rot).1 with
  | false =>
      rw [hanswer] at hfile
      cases hfile
  | true =>
      rw [hanswer] at hfile
      cases hfile
      rfl

theorem Tracks.write {w : GameplayEventFileWriter} {archive : Archive Text}
    (h : Tracks w archive) (text : Text) :
    Tracks (w.write text) (archive.write [text]) := by
  unfold GameplayEventFileWriter.write
  cases harchive : archive.current with
  | none =>
      -- no file is held: the writer discards, and so does the archive
      have hhandle : w.fileHandle = false := by
        rw [h.holds, Archive.holds, harchive]
        rfl
      rw [if_neg (by simp [hhandle])]
      refine ⟨by rw [h.holds, Archive.holds_write], ?_, h.bytes⟩
      intro file hfile
      rw [Archive.write, harchive] at hfile
      cases hfile
  | some file =>
      have hhandle : w.fileHandle = true := by
        rw [h.holds, Archive.holds, harchive]
        rfl
      have hbuffered : Tracks { w with buffer := w.buffer ++ text }
          (archive.write [text]) := by
        refine ⟨by rw [Archive.holds_write, ← h.holds], ?_, h.bytes⟩
        intro file' hfile'
        rw [Archive.write, harchive] at hfile'
        cases hfile'
        simp [← h.text file harchive]
      rw [if_pos hhandle]
      dsimp only
      split
      case isTrue => exact hbuffered.flushBuffer
      case isFalse => exact hbuffered

/-- Every call keeps the file writer where the archive says. -/
theorem Tracks.call {w : GameplayEventFileWriter} {archive : Archive Text}
    (h : Tracks w archive) (call : WriterCall) :
    Tracks (writer.call (w, archive) call).1
      (writer.call (w, archive) call).2 := by
  cases call with
  | openFirstFile => exact .opened 0
  | write text => exact h.write text
  | synchronize => exact h.flushBuffer
  | rotateToNextFile =>
      let flushed := w.flushBuffer.closeHandle
      have hopened : Tracks
          (({ flushed with rotation := flushed.rotation + 1 }).openRotation
            (flushed.rotation + 1)).2
          ((Archive.mk archive.files none).opened
            (({ flushed with rotation := flushed.rotation + 1 }).openRotation
              (flushed.rotation + 1)).1) := .opened _
      exact ⟨hopened.holds, hopened.text, hopened.bytes⟩
  | closeFile =>
      refine ⟨rfl, fun file hfile => ?_, h.flushBuffer.bytes⟩
      cases hfile

/-- Whatever a log calls, the file writer holds an open handle exactly
when the archive holds a file, and its byte count is that file's size. -/
theorem tracks_calls (directoryPath filePrefix runToken : Text)
    (bufferBytes : Int) (opens : List Bool) (calls : List WriterCall) :
    let state := calls.foldl writer.call
      (init directoryPath filePrefix runToken bufferBytes opens, .empty)
    state.1.fileHandle = state.2.holds
      ∧ ∀ file, state.2.current = some file →
        state.1.bytesInCurrentFile = utf8Count file.flatten := by
  have hrun : ∀ (calls : List WriterCall) (w : GameplayEventFileWriter)
      (archive : Archive Text), Tracks w archive →
      Tracks (calls.foldl writer.call (w, archive)).1
        (calls.foldl writer.call (w, archive)).2 := by
    intro calls
    induction calls with
    | nil => exact fun _ _ h => h
    | cons call calls ih => exact fun w archive h => ih _ _ (h.call call)
  have htracks := hrun calls
    (init directoryPath filePrefix runToken bufferBytes opens) .empty
    ⟨rfl, nofun, rfl⟩
  refine ⟨htracks.holds, fun file hfile => ?_⟩
  rw [← htracks.text file hfile, utf8Count_append, ← htracks.bytes]
  rfl

end GameplayEventFileWriter

-- ======================================================= memory writer

/-- The writer of tests and of the headless harness. -/
structure GameplayEventMemoryWriter where
  text : Text := []
  bytesInCurrentFileValue : Int := 0
  rotationValue : Int := 0
  synchronizeCalls : Nat := 0
  capacityLines : Option Nat := some 20000

namespace GameplayEventMemoryWriter

/-- The lines of a text, empty ones left out. -/
def lines (text : Text) : List Text :=
  (text.splitOn '\n').filter fun line => line ≠ []

/-- The oldest lines are dropped past the bound. -/
def write (w : GameplayEventMemoryWriter) (text : Text) :
    GameplayEventMemoryWriter :=
  let w := { w with
    text := w.text ++ text
    bytesInCurrentFileValue := w.bytesInCurrentFileValue + utf8Count text }
  match w.capacityLines with
  | none => w
  | some capacity =>
      let held := lines w.text
      if held.length > capacity then
        { w with
          text := (held.drop (held.length - capacity)).flatMap (· ++ ['\n']) }
      else w

/-- The memory writer as a writer. A rotation always succeeds; a test may
let the first open fail. -/
def writer (openFailure : Bool) :
    GameplayEventWriter GameplayEventMemoryWriter where
  bytesInCurrentFile := bytesInCurrentFileValue
  rotationIndex := rotationValue
  currentPath w := "memory://gameplay-events-".toList
    ++ intText w.rotationValue ++ ".jsonl".toList
  nextFilePath w := "memory://gameplay-events-".toList
    ++ intText (w.rotationValue + 1) ++ ".jsonl".toList
  openFirstFile w := (!openFailure, w)
  write := write
  synchronize w := { w with synchronizeCalls := w.synchronizeCalls + 1 }
  rotateToNextFile w :=
    (true, { w with
      rotationValue := w.rotationValue + 1, bytesInCurrentFileValue := 0 })
  closeFile w := w

end GameplayEventMemoryWriter

/-- A writer that grants every open and every rotation. -/
structure GameplayEventWriter.Grants {W : Type}
    (writer : GameplayEventWriter W) : Prop where
  opens : ∀ w, (writer.openFirstFile w).1 = true
  rotates : ∀ w, (writer.rotateToNextFile w).1 = true

theorem GameplayEventMemoryWriter.grants :
    (GameplayEventMemoryWriter.writer false).Grants :=
  ⟨fun _ => rfl, fun _ => rfl⟩

end Exolon

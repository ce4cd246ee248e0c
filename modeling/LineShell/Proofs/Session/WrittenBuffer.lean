import Mathlib
import LineShell.Proofs.Session.AppendedLines
import LineShell.Proofs.Session.EditMode

/-!
# The buffer in a file

A buffer is written as its lines, each ended by a newline, and they are read back from the
file.  There is one exception: the empty buffer is written as a line that is empty, so that
its file has a line too many and is the file of another buffer.
-/

namespace LineShell

namespace Text

theorem newline_mem_utf8EncodeChar_iff (c : Char) :
    10 ∈ String.utf8EncodeChar c ↔ c = '\n' := by
  constructor
  · intro h
    have hval : c.val.toNat = 10 := by
      simp only [String.utf8EncodeChar] at h
      split_ifs at h <;>
        simp only [List.mem_cons, List.not_mem_nil, or_false, ← UInt8.toNat_inj,
          UInt8.toNat_ofNat', UInt8.reduceToNat] at h <;> omega
    exact Char.ext (UInt32.toNat_inj.mp hval)
  · rintro rfl
    decide

theorem newline_mem_encode_iff (s : String) : 10 ∈ encode s ↔ '\n' ∈ s.toList := by
  simp [encode, newline_mem_utf8EncodeChar_iff]

theorem encode_append (s t : String) : encode (s ++ t) = encode s ++ encode t := by
  simp [encode]

/-- No two texts have the same bytes. -/
theorem encode_injective : Function.Injective encode := by
  intro s t h
  rw [← String.toByteArray_inj]
  have hbytes : ∀ u : String, u.toByteArray = (encode u).toByteArray := by
    intro u
    conv_lhs => rw [← String.ofList_toList (s := u)]
    rfl
  rw [hbytes, hbytes, h]

end Text

/-- The lines of a content that have their ends, without them. -/
def endedLines (bytes : List UInt8) : List (List UInt8) :=
  (bytes.splitOn 10).dropLast

theorem endedLines_append {l : List UInt8} (h : 10 ∉ l) (rest : List UInt8) :
    endedLines (l ++ 10 :: rest) = l :: endedLines rest := by
  have hrest : rest.splitOn 10 ≠ [] := List.splitOn_ne_nil 10 rest
  rw [endedLines, List.splitOn_append_cons_self_of_not_mem h, List.dropLast_cons_of_ne_nil hrest,
    endedLines]

namespace Session

/-- The lines that are in the file of a buffer. -/
def writtenLines (buffer : List String) : List String :=
  if buffer = [] then [""] else buffer

theorem encode_bufferText (buffer : List String) :
    Text.encode (bufferText buffer) = (writtenLines buffer).flatMap wholeLine := by
  cases buffer with
  | nil => decide
  | cons line rest =>
      rw [writtenLines, if_neg (by simp)]
      induction rest generalizing line with
      | nil =>
          have htext : bufferText [line] = line ++ "\n" := rfl
          rw [htext, Text.encode_append, List.flatMap_singleton]
          rfl
      | cons next rest ih =>
          have htext : bufferText (line :: next :: rest) =
              line ++ "\n" ++ bufferText (next :: rest) := by
            simp only [bufferText, Text.joinWith, String.append_assoc]
          rw [htext, Text.encode_append, Text.encode_append, ih]
          rfl

theorem endedLines_flatMap_wholeLine {lines : List String} (h : ∀ l ∈ lines, '\n' ∉ l.toList) :
    endedLines (lines.flatMap wholeLine) = lines.map Text.encode := by
  induction lines with
  | nil => decide
  | cons line lines ih =>
      obtain ⟨hline, hlines⟩ := List.forall_mem_cons.mp h
      have hended : 10 ∉ Text.encode line := fun hmem ↦
        hline ((Text.newline_mem_encode_iff line).mp hmem)
      rw [List.flatMap_cons, wholeLine, List.append_assoc, List.singleton_append,
        endedLines_append hended, ih hlines, List.map_cons]

/-- The lines that are read back from the file of a buffer. -/
theorem endedLines_encode_bufferText {buffer : List String}
    (h : ∀ l ∈ buffer, '\n' ∉ l.toList) :
    endedLines (Text.encode (bufferText buffer)) = (writtenLines buffer).map Text.encode := by
  rw [encode_bufferText]
  apply endedLines_flatMap_wholeLine
  intro l hl
  by_cases hbuffer : buffer = []
  · obtain rfl : l = "" := by simpa [writtenLines, hbuffer] using hl
    simp
  · exact h l (by simpa [writtenLines, hbuffer] using hl)

theorem writtenLines_eq_iff (buffer other : List String) :
    writtenLines buffer = writtenLines other ↔
      buffer = other ∨ buffer = [] ∧ other = [""] ∨ buffer = [""] ∧ other = [] := by
  unfold writtenLines
  by_cases hbuffer : buffer = [] <;> by_cases hother : other = [] <;>
    simp [hbuffer, hother, eq_comm]

/-- Two buffers have the same file if they are equal, or one of them is empty and the other
is an empty line. -/
theorem encode_bufferText_eq_iff {buffer other : List String}
    (hbuffer : ∀ l ∈ buffer, '\n' ∉ l.toList) (hother : ∀ l ∈ other, '\n' ∉ l.toList) :
    Text.encode (bufferText buffer) = Text.encode (bufferText other) ↔
      buffer = other ∨ buffer = [] ∧ other = [""] ∨ buffer = [""] ∧ other = [] := by
  rw [← writtenLines_eq_iff]
  constructor
  · intro h
    have hlines := congrArg endedLines h
    rw [endedLines_encode_bufferText hbuffer, endedLines_encode_bufferText hother] at hlines
    exact List.map_injective_iff.mpr Text.encode_injective hlines
  · intro h
    rw [encode_bufferText, encode_bufferText, h]

variable {s : Session} {line : String} {loc : Location} {content : Option (List UInt8)}

/-- With these lines in the buffer, the line writes a file with the bytes and changes nothing
else, and the message counts the lines. -/
def Writes (s : Session) (r : Runner) (line : String) (loc : Location) (buffer : List String)
    (bytes : List UInt8) : Prop :=
  let t : Session := { s with buffer := buffer }
  let target := Text.argument line
  ∃ w, t.run r line =
      ("Wrote " ++ toString buffer.length ++ " lines to " ++ target, t.setWorld w) ∧
    w.readBytes (s.resolvePath target) = .ok bytes ∧ s.world.DiffersAt loc w

theorem writes_bufferText (hmode : s.mode = .edit)
    (hword : Text.firstWord line ∈ EditCommand.write.spellings) (htarget : Text.argument line ≠ "")
    (hstores : s.world.Stores (s.resolvePath (Text.argument line)) loc content) (r : Runner)
    (buffer : List String) :
    s.Writes r line loc buffer (Text.encode (bufferText buffer)) := by
  let t : Session := { s with buffer := buffer }
  obtain ⟨w, hwrite, hread, hdiffers⟩ :=
    hstores.modifyFile fun _ ↦ Text.encode (bufferText buffer)
  refine ⟨w, ?_, hread.readBytes_eq, hdiffers⟩
  have hcommand : EditCommand.ofLine? line =
      some (.write, Text.argument line) := by
    rw [EditCommand.ofLine?_eq, EditCommand.ofWord?_eq_some_iff.mpr hword]
    rfl
  have hworld : t.world.write (t.resolvePath (Text.argument line))
      (Text.encode (bufferText t.buffer)) = .ok w := by
    rw [World.write]
    exact hwrite
  have hediting : t.mode = .edit := hmode
  have hrun : t.run r line = t.editLine line := run_of_edit hediting r line
  have hwritten : t.editLine line = t.writeBuffer (Text.argument line) := by
    delta editLine
    rw [hcommand]
  have hmessage : t.writeBuffer (Text.argument line) =
      ("Wrote " ++ toString buffer.length ++ " lines to " ++ Text.argument line, t.setWorld w) := by
    rw [writeBuffer, if_neg htarget, hworld]
  exact hrun.trans (hwritten.trans hmessage)

/-- A buffer whose lines hold no newline is written to a target that can be written.  The lines
of the file are the lines of the buffer, as many as the message says, exactly if the buffer is
not empty; an empty buffer leaves one line.  Another buffer leaves the same file exactly if
it is the same, or if one of the two is empty and the other is an empty line. -/
theorem written_lines_iff (hmode : s.mode = .edit)
    (hword : Text.firstWord line ∈ EditCommand.write.spellings) (htarget : Text.argument line ≠ "")
    (hstores : s.world.Stores (s.resolvePath (Text.argument line)) loc content) (r : Runner)
    {buffer : List String} (hbuffer : ∀ l ∈ buffer, '\n' ∉ l.toList) :
    ∃ bytes, s.Writes r line loc buffer bytes ∧
      bytes = (writtenLines buffer).flatMap wholeLine ∧
      (endedLines bytes = buffer.map Text.encode ↔ buffer ≠ []) ∧
      ((endedLines bytes).length = buffer.length ↔ buffer ≠ []) ∧
      ∀ other : List String, (∀ l ∈ other, '\n' ∉ l.toList) →
        ∃ bytes', s.Writes r line loc other bytes' ∧
          (bytes' = bytes ↔
            other = buffer ∨ other = [] ∧ buffer = [""] ∨ other = [""] ∧ buffer = []) := by
  have hwrites := writes_bufferText hmode hword htarget hstores r
  have hended := endedLines_encode_bufferText hbuffer
  refine ⟨_, hwrites buffer, encode_bufferText buffer, ?_, ?_, ?_⟩
  · rw [hended]
    by_cases hempty : buffer = []
    · simp [hempty, writtenLines]
    · simp [hempty, writtenLines]
  · rw [hended]
    by_cases hempty : buffer = []
    · simp [hempty, writtenLines]
    · simp [hempty, writtenLines]
  · intro other hother
    exact ⟨_, hwrites other, encode_bufferText_eq_iff hother hbuffer⟩

/-- A session that collects lines in an empty world. -/
def collecting : Session :=
  { inEmptyWorld with mode := .edit }

theorem stores_collecting :
    collecting.world.Stores (collecting.resolvePath "notes") ["notes"] none :=
  have hspot : FileTree.walk collecting.world.tree collecting.world.here .create
      (collecting.resolvePath "notes") = .ok (.absent [] "notes" false) := by decide +kernel
  .free hspot (by decide)

theorem written_lines_iff_blankLines :
    collecting.mode = .edit ∧ Text.firstWord " :w  notes " ∈ EditCommand.write.spellings ∧
      Text.argument " :w  notes " = "notes" ∧
      collecting.world.Stores (collecting.resolvePath "notes") ["notes"] none ∧
      (∀ l ∈ ["a", "", " ü\t"], '\n' ∉ l.toList) ∧
      ∃ bytes, collecting.Writes .silent " :w  notes " ["notes"] ["a", "", " ü\t"] bytes ∧
        bytes = [97, 10, 10, 32, 195, 188, 9, 10] ∧
        endedLines bytes = [[97], [], [32, 195, 188, 9]] := by
  have hword : Text.firstWord " :w  notes " ∈ EditCommand.write.spellings := by decide +kernel
  have htarget : Text.argument " :w  notes " = "notes" := by decide +kernel
  have hbuffer : ∀ l ∈ ["a", "", " ü\t"], '\n' ∉ l.toList := by decide
  have hstores : collecting.world.Stores
      (collecting.resolvePath (Text.argument " :w  notes ")) ["notes"] none :=
    htarget ▸ stores_collecting
  obtain ⟨bytes, hwrites, hbytes, hlines, -⟩ :=
    written_lines_iff rfl hword (by rw [htarget]; decide) hstores .silent hbuffer
  exact ⟨rfl, hword, htarget, stores_collecting, hbuffer, bytes, hwrites,
    hbytes.trans (by decide), (hlines.mpr (by simp)).trans (by decide)⟩

/-- The empty buffer, of which no line is said to be written, leaves a line, and the same file
as a buffer with one empty line. -/
theorem written_lines_emptyBuffer :
    collecting.mode = .edit ∧ collecting.buffer = [] ∧
      collecting.world.Stores (collecting.resolvePath "notes") ["notes"] none ∧
      (collecting.run .silent ":w notes").1 = "Wrote 0 lines to notes" ∧
      (collecting.run .silent ":w notes").2.world.readBytes "/notes" = .ok [10] ∧
      endedLines [10] ≠ collecting.buffer.map Text.encode ∧
      ({ collecting with buffer := [""] }.run .silent ":w notes").2.world.readBytes "/notes" =
        .ok [10] := by
  refine ⟨rfl, rfl, stores_collecting, ?_, ?_, ?_, ?_⟩
  · decide +kernel
  · decide +kernel
  · decide
  · decide +kernel

end Session
end LineShell

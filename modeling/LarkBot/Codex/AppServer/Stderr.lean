import Mathlib.Data.List.DropRight
import LarkBot.Core.Redaction
import LarkBot.Core.Utf8
import LarkBot.Foundation.Lines

/-! # The lines that the app-server writes to stderr

`_drain_stderr` keeps the start of the line that is being read and whether more of it came. Its
entries are those of the lines of the whole stream, however the stream is cut into chunks
(`LarkBot.drainStderr_eq`): the reader shows a reader of whole lines.
-/

namespace LarkBot

open Foundation

/-- `_STDERR_ENTRY_BYTES`. -/
def stderrEntryBytes : Nat := 4096

def newlineByte : UInt8 := 0x0A

/-- `_append_stderr_entry`, up to the entry that it appends. -/
def stderrEntryText (buffered : List UInt8) (truncated : Bool) : String :=
  let text := (decodeUtf8 buffered).rdropWhile (· == '\r')
  let redacted := redactText (String.ofList text)
  if truncated then redacted ++ " …[truncated]" else redacted

/-- `append`, on a deque with a maximal length. -/
def appendTail (tailLines : Nat) (tail : List String) (entry : String) : List String :=
  (tail ++ [entry]).rtake tailLines

/-- The variables of `_drain_stderr`, and `_stderr_tail`. -/
structure StderrReader where
  buffered : List UInt8
  truncated : Bool
  tail : List String
  bounded : buffered.length ≤ stderrEntryBytes

namespace StderrReader

def start (tail : List String) : StderrReader := ⟨[], false, tail, Nat.zero_le _⟩

/-- What is left to keep of a line. -/
def remaining (reader : StderrReader) : Nat := stderrEntryBytes - reader.buffered.length

/-- A reader that takes only as much as it has room for never holds more than one
entry's bytes. -/
theorem bounded_extend (reader : StderrReader) (part : List UInt8) :
    (if 0 < reader.remaining then reader.buffered ++ part.take reader.remaining
      else reader.buffered).length ≤ stderrEntryBytes := by
  have bounded := reader.bounded
  have taken := List.length_take_le reader.remaining part
  split
  next =>
    rw [List.length_append]
    unfold remaining at *
    omega
  next => exact bounded

/-- The body of the loop over the parts of a chunk, up to the end of a line. -/
def takePart (reader : StderrReader) (part : List UInt8) : StderrReader where
  buffered := if 0 < reader.remaining then reader.buffered ++ part.take reader.remaining
    else reader.buffered
  truncated := reader.truncated || decide (reader.remaining < part.length)
  tail := reader.tail
  bounded := reader.bounded_extend part

/-- The tail with an entry of what was kept. -/
def appendEntry (tailLines : Nat) (reader : StderrReader) : List String :=
  appendTail tailLines reader.tail (stderrEntryText reader.buffered reader.truncated)

def endLine (tailLines : Nat) (reader : StderrReader) : StderrReader :=
  start (reader.appendEntry tailLines)

/-- The loop over the parts of a chunk. -/
def drainParts (tailLines : Nat) : StderrReader → List (List UInt8) → StderrReader
  | reader, [] => reader
  | reader, [part] => reader.takePart part
  | reader, part :: next :: parts =>
      drainParts tailLines ((reader.takePart part).endLine tailLines) (next :: parts)

/-- The end of the stream. -/
def finish (tailLines : Nat) (reader : StderrReader) : List String :=
  if reader.buffered ≠ [] ∨ reader.truncated then reader.appendEntry tailLines else reader.tail

end StderrReader

/-- `_drain_stderr`, on the chunks that it reads: the tail at the end of the stream. -/
def drainStderr (tailLines : Nat) : StderrReader → List (List UInt8) → List String
  | reader, [] => reader.finish tailLines
  | reader, chunk :: chunks =>
      if chunk = [] then reader.finish tailLines
      else drainStderr tailLines (reader.drainParts tailLines (chunk.splitOn newlineByte)) chunks

section Entries

/-- The entry of a line. -/
def stderrEntry (line : List UInt8) : String :=
  stderrEntryText (line.take stderrEntryBytes) (decide (stderrEntryBytes < line.length))

variable {tailLines : Nat} {tail : List String}

/-- Keeping the end of a list before it grows keeps the end of the grown list. -/
theorem rtake_rtake_append {α : Type*} (count : Nat) (first second : List α) :
    (first.rtake count ++ second).rtake count = (first ++ second).rtake count := by
  unfold List.rtake
  rw [List.length_append, List.length_append, List.length_drop, List.drop_append, List.drop_append,
    List.drop_drop, List.length_drop]
  have before : first.length - count + (first.length - (first.length - count) +
      second.length - count) =
      first.length + second.length - count ∨ first.length ≤ first.length + second.length - count ∧
        first.length ≤
          first.length - count + (first.length - (first.length - count) + second.length - count) :=
            by
    omega
  have after : first.length - (first.length - count) + second.length - count -
      (first.length - (first.length - count)) =
      first.length + second.length - count - first.length := by
    omega
  rw [after]
  rcases before with same | ⟨all, also⟩
  · rw [same]
  · rw [List.drop_eq_nil_of_le all, List.drop_eq_nil_of_le also]

/-- What the reader keeps of the lines that were read. -/
structure StderrReader.Shows (tailLines : Nat) (tail : List String) (reader : StderrReader)
    (lines : LineReader UInt8) : Prop where
  buffered : reader.buffered = lines.line.take stderrEntryBytes
  truncated : reader.truncated = decide (stderrEntryBytes < lines.line.length)
  tail : reader.tail = (tail ++ lines.ended.map stderrEntry).rtake tailLines

namespace StderrReader.Shows

variable {reader : StderrReader} {lines : LineReader UInt8}

/-- A reader that has read nothing shows the tail that it began with. -/
theorem start (kept : tail.length ≤ tailLines) :
    (StderrReader.start tail).Shows tailLines tail LineReader.start := by
  refine ⟨rfl, rfl, ?_⟩
  have whole : tail.length - tailLines = 0 := Nat.sub_eq_zero_of_le kept
  rw [LineReader.start, List.map_nil, List.append_nil, List.rtake, whole]
  rfl

/-- A part of a line is taken as far as the reader has room, as the open line of the
stream grows. -/
theorem takePart (shows : reader.Shows tailLines tail lines) (part : List UInt8) :
    (reader.takePart part).Shows tailLines tail (lines.extend part) := by
  have remaining : reader.remaining = stderrEntryBytes - lines.line.length := by
    unfold StderrReader.remaining
    rw [shows.buffered, List.length_take]
    omega
  refine ⟨?_, ?_, shows.tail⟩
  · have taken : (reader.takePart part).buffered = reader.buffered ++ part.take
      reader.remaining := by
      unfold StderrReader.takePart
      dsimp only
      split
      next => rfl
      next full => rw [Nat.eq_zero_of_not_pos full, List.take_zero, List.append_nil]
    rw [taken, shows.buffered, remaining]
    exact List.take_append.symm
  · unfold StderrReader.takePart LineReader.extend
    dsimp only
    rw [shows.truncated, remaining, List.length_append, Bool.eq_iff_iff, Bool.or_eq_true,
      decide_eq_true_eq, decide_eq_true_eq, decide_eq_true_eq]
    omega

/-- The line at hand joins the tail, of which the oldest entries fall out. -/
theorem appendEntry (shows : reader.Shows tailLines tail lines) : reader.appendEntry tailLines =
    (tail ++ (lines.ended ++ [lines.line]).map stderrEntry).rtake tailLines := by
  unfold StderrReader.appendEntry appendTail
  rw [shows.tail, rtake_rtake_append, shows.buffered, shows.truncated, List.append_assoc,
    List.map_append]
  rfl

/-- The end of a line makes it an entry of the tail. -/
theorem endLine (shows : reader.Shows tailLines tail lines) :
    (reader.endLine tailLines).Shows tailLines tail lines.endLine :=
  ⟨rfl, rfl, shows.appendEntry⟩

/-- The parts of a chunk make entries of all lines but the last, by induction on the
parts. -/
theorem drainParts (shows : reader.Shows tailLines tail lines) (parts : List (List UInt8)) :
    (reader.drainParts tailLines parts).Shows tailLines tail (lines.readParts parts) := by
  induction parts generalizing reader lines with
  | nil => exact shows
  | cons part parts ih =>
      cases parts with
      | nil => exact shows.takePart part
      | cons next parts => exact ih (shows.takePart part).endLine

/-- The last line has an entry if it is not empty. -/
theorem finish (shows : reader.Shows tailLines tail lines) : reader.finish tailLines =
    (tail ++ (lines.ended ++ [lines.line].filter (· ≠ [])).map stderrEntry).rtake tailLines := by
  have read : reader.buffered ≠ [] ∨ reader.truncated ↔ lines.line ≠ [] := by
    rw [shows.buffered, shows.truncated, decide_eq_true_eq, Ne, List.take_eq_nil_iff]
    have positive : stderrEntryBytes ≠ 0 := by decide
    constructor
    · rintro (kept | long) empty
      · exact kept (.inr empty)
      · rw [empty] at long
        exact absurd long (Nat.not_lt_zero _)
    · intro nonempty
      refine .inl fun none => ?_
      rcases none with zero | empty
      · exact positive zero
      · exact nonempty empty
  unfold StderrReader.finish
  by_cases nonempty : lines.line ≠ []
  · have kept : [lines.line].filter (· ≠ []) = [lines.line] := by
      apply List.filter_eq_self.mpr
      intro line member
      rw [List.mem_singleton.mp member]
      exact decide_eq_true nonempty
    rw [if_pos (read.mpr nonempty), shows.appendEntry, kept]
  · have dropped : [lines.line].filter (· ≠ []) = [] := by
      apply List.filter_eq_nil_iff.mpr
      intro line member
      rw [List.mem_singleton.mp member, decide_eq_true_eq]
      exact nonempty
    rw [if_neg (mt read.mp nonempty), shows.tail, dropped, List.append_nil]

/-- At the end of the stream an open line that is not empty makes the last entry. -/
theorem drainStderr (shows : reader.Shows tailLines tail lines) {chunks : List (List UInt8)}
    (nonempty : ∀ chunk ∈ chunks, chunk ≠ []) : LarkBot.drainStderr tailLines reader chunks =
      (tail ++ ((chunks.foldl (LineReader.readChunk newlineByte) lines).ended ++
        [(chunks.foldl (LineReader.readChunk newlineByte) lines).line].filter (· ≠ [])).map
          stderrEntry).rtake tailLines := by
  induction chunks generalizing reader lines with
  | nil => exact shows.finish
  | cons chunk chunks ih =>
      rw [LarkBot.drainStderr, if_neg (nonempty chunk List.mem_cons_self)]
      exact ih (shows.drainParts _) fun other member =>
        nonempty other (List.mem_cons_of_mem _ member)

end StderrReader.Shows

end Entries

end LarkBot

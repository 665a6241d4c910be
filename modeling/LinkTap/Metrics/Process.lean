/-
What a process uses: resident memory and threads, read from the status text of the process.

The text is a list of lines, each a key, a colon and a value. Of several lines with one key the last
one counts.
-/
import LinkTap.Statistics
import LinkTap.Text.Line
import LinkTap.Text.Numeral

set_option autoImplicit false

namespace LinkTap.Metrics

/-- The value of a line that begins with `key`. -/
def valueOf? (key : List Char) (line : List Char) : Option (List Char) :=
  if key.isPrefixOf line then some (line.drop key.length) else none

/-- The first word of a text. -/
def firstWord (cs : List Char) : List Char :=
  (cs.dropWhile Line.isBlank).takeWhile fun c => !Line.isBlank c

/-- The value of the last line with the given key. -/
def lastValue? (key : String) (lines : List (List Char)) : Option (List Char) :=
  (lines.filterMap (valueOf? key.toList)).getLast?

/-- Resident memory in MiB and the number of threads. -/
def parseProcessStatus (text : String) : Option (Float × Nat) := do
  let lines := Line.splitOn '\n' text.toList
  let resident ← lastValue? "VmRSS:" lines
  let residentKb ← Numeral.word64? (firstWord resident)
  let threads ← lastValue? "Threads:" lines
  let threads ← Numeral.word64? (Line.trim threads)
  return (countToFloat residentKb / 1024, threads)

end LinkTap.Metrics

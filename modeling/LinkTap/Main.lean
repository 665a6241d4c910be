/-
The executable: it fetches what `Program.run` is a function of, and prints what comes out.

The host is described by its device files. It offers no packet sockets, so interfaces can be listed
and named, and a capture is refused.
-/
import LinkTap.Kernel.Devices
import LinkTap.Program

set_option autoImplicit false

namespace LinkTap

/-- The content of a file, if it can be read. -/
def readFile? (path : String) : IO (Option Bytes) := do
  try
    return some (← IO.FS.readBinFile path).toList
  catch _ => return none

/-- A kernel with the attribute files of the named devices. -/
def describeKernel (names : List String) : IO Kernel.Description := do
  let mut files : List (String × Bytes) := []
  for name in names do
    if Kernel.isDeviceName name then
      for field in Kernel.attributeNames do
        let path := Kernel.attributePath name field
        if let some content ← readFile? path then
          files := (path, content) :: files
  return { files }

/-- The host that the program runs on. -/
def describeHost : IO Platform := do
  let table := ((← readFile? Kernel.deviceTable).bind fun content =>
    String.fromUTF8? ⟨content.toArray⟩).getD ""
  let names := Kernel.deviceNames table
  let kernel ← describeKernel names
  return Platform.unsupported "linux" "linux" (names.map kernel.interface)

/-- The environment variables that stand in for options, as far as they are set. -/
def readVariables : IO (List (String × String)) := do
  let mut found : List (String × String) := []
  for name in CommandLine.Key.program.filterMap CommandLine.Key.environmentName? do
    if let some value ← IO.getEnv name then
      found := (name, value) :: found
  return found

/-- Run the program on this host. Times are shown as differences only, so any clock that never goes
back will do. -/
def runHere (arguments : List String) : IO UInt32 := do
  let now := Timestamp.sinceEpoch 0 (← IO.monoNanosNow)
  let outcome := Program.run (← describeHost) now (← readVariables) arguments
  IO.print outcome.output
  IO.eprint outcome.errors
  return outcome.code.toUInt32

end LinkTap

def main (arguments : List String) : IO UInt32 := LinkTap.runHere arguments

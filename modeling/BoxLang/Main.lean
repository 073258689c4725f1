import BoxLang.CommandLine.Basic

/-!
# The executable

Reads the file or the standard input that the command line asks for, and writes
what the command answers.
-/

namespace BoxLang.CommandLine

/-- Reads a stream to its end. -/
partial def readAll (stream : IO.FS.Stream) (bytes : ByteArray) : IO ByteArray := do
  let chunk ← stream.read 65536
  if chunk.isEmpty then return bytes
  readAll stream (bytes ++ chunk)

/-- The text of a file, if it can be read. -/
def readText? (path : String) : IO (Option String) := do
  try
    return some (← IO.FS.readFile path)
  catch _ => return none

/-- Runs a command line in the world. -/
def perform (words : List String) : IO UInt32 := do
  let mut contents := none
  let mut input := ByteArray.empty
  if let .ok arguments := Arguments.ofWords words then
    match arguments.expression, arguments.file with
    | some _, _ => pure ()
    | none, some path => contents ← readText? path
    | none, none => input ← readAll (← IO.getStdin) .empty
  let output := respond words (fun _ => contents) input.toList
  (← IO.getStdout).putStr output.standardOutput
  (← IO.getStderr).putStr output.standardError
  return output.exitCode.toUInt32

end BoxLang.CommandLine

def main (words : List String) : IO UInt32 :=
  BoxLang.CommandLine.perform words

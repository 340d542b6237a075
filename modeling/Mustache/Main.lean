-- SUMMARY: The command line program: reads its template, prints its answer and exits.
import Mustache.Command.Program

/-!
# The command line

Everything that is decided is decided by `Request.answer`. Here the template that a
request names is read, and the answer is written out.
-/

namespace Mustache

/-- Reads a stream to its end. -/
partial def readToEnd (stream : IO.FS.Stream) (content : ByteArray) : IO ByteArray := do
  let chunk ← stream.read 65536
  if chunk.isEmpty then return content
  readToEnd stream (content ++ chunk)

def readContent (path : String) : IO ByteArray := do
  if path = "-" then readToEnd (← IO.getStdin) .empty
  else IO.FS.readBinFile path

/-- Reads the template with a path, or says why it cannot be read. -/
def readTemplate (path : String) : IO (Except ReadFault String) := do
  try
    return Inputs.decode (← readContent path)
  catch e =>
    match e with
    | .noFileOrDirectory .. => return .error .notFound
    | .permissionDenied .. => return .error .permissionDenied
    | e => return .error (.other (toString e))

end Mustache

def main (args : List String) : IO UInt32 := do
  let request := Mustache.Request.ofArgs args
  let content ← match request.path? with
    | some path => Mustache.readTemplate path
    | none => pure (.error .notFound)
  let output := request.answer fun _ => content
  (← IO.getStdout).putStr output.out
  (← IO.getStderr).putStr output.err
  return output.exit.toUInt32

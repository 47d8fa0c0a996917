/-
The program. It runs on a machine of its own: the files are those of
`Host.files`, with the directory it is called in, and only the standard
streams and the arguments are the caller's.
-/
import LineShell.CommandLine
import LineShell.Testbed.Files
import LineShell.Testbed.Run

namespace LineShell.Main

/-- The machine, with a directory to work in. -/
def machine (directory : Path) : Machine :=
  let files := Host.files.makeDirectories directory
  let workingDirectory := match files.walk FileTree.maxLinks [] directory.names with
    | .ok l => (files.directoryAt l).toOption.getD ⟨[], 0⟩
    | .error _ => ⟨[], 0⟩
  let vars : ProcessVariables :=
    { entries := [(Bytes.ofText "PATH", Bytes.ofText "/usr/bin:/bin")] }
  { files, workingDirectory, vars }

/-- Reads a stream to its end. -/
partial def readAll (stream : IO.FS.Stream) (got : ByteArray) : IO ByteArray := do
  let more ← stream.read 8192
  if more.isEmpty then return got else readAll stream (got ++ more)

end LineShell.Main

open LineShell in
/-- Runs the interpreter on the standard streams. -/
def main (arguments : List String) : IO UInt32 := do
  let directory := (← IO.currentDir).toString
  let input ← Main.readAll (← IO.getStdin) ByteArray.empty
  let outcome := CommandLine.run Host.spawn
    { arguments := arguments.map Bytes.ofText
      input := { rest := input.toList }
      machine := Main.machine (Bytes.ofText directory) }
  let write (stream : IO.FS.Stream) (channel : Channel) : IO Unit := do
    stream.write channel.received.toByteArray
    stream.flush
  write (← IO.getStdout) outcome.output
  write (← IO.getStderr) outcome.errors
  return outcome.code.toUInt32

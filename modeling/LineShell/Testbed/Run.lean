/-
The testbed: a machine with a shell and a few utilities, complete enough
to run the interpreter on it side by side with a system that is there,
and to compare what comes of it.

Nothing is proved of these programs, and nothing that is proved of the
interpreter rests on them: there a program is whatever a `Spawner` makes
of a request. What the machine executes for a request, which some
statements are about, is told in `Host.spawnBy`.

A program that is started has three descriptors, for the streams of the
session; its parent is the process that asked for it.
-/
import LineShell.Host.Spawn
import LineShell.Testbed.Script.Start

namespace LineShell.Host

/-- The number of the process that asks for programs. -/
def parentNumber : Nat := 41973

/-- The process that a program is started in. -/
def newProcess (setting : Setting) (streams : Streams) : Process :=
  let number := parentNumber + 1
  let reading : Access := { reads := true }
  let writing : Access := { writes := true }
  { system :=
      { files := setting.files
        streams
        opened := #[⟨.input, reading, 0⟩, ⟨.output, writing, 0⟩, ⟨.errors, writing, 0⟩]
        tables := [(number, [(0, 0), (1, 1), (2, 2)])]
        lastProcess := number
        living := [number, parentNumber] }
    directory := setting.directory
    vars := setting.vars
    number
    parent := parentNumber }

/-- How the testbed answers a request to start a program. -/
def spawn : Spawner :=
  spawnBy fun program setting streams =>
    let (system, ending) := Script.run program (newProcess setting streams)
    ⟨system.files, system.streams, ending⟩

end LineShell.Host

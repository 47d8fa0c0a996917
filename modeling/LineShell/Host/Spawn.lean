/-
How a machine starts programs. Starting goes in the order in which a
system refuses: a text with a NUL byte in it, the directory to start in,
the file to execute.

What the programs of the machine do is left open. A program is told what
it is called with, the setting that it starts in and its streams, and
nothing else of the request and of who has made it.
-/
import LineShell.Host.Exec
import LineShell.Program

namespace LineShell.Host

/-- The texts of a request, in none of which there may be a NUL byte. -/
def requestTexts (r : ProgramRequest) : List Bytes :=
  r.program :: r.directory :: r.arguments.map Bytes.ofText
    ++ r.own.entries.flatMap fun v => [Bytes.ofText v.1, Bytes.ofText v.2]

/-- The setting that a program starts in, in the directory that was entered
for it. -/
def settingFor (r : ProgramRequest) (scene : Scene) (directory : WorkingDirectory) : Setting where
  files := scene.files
  directory
  vars := r.vars.lines

/-- How a machine answers a request to start a program, if it runs programs
in this way. A program by name is started the shell's way if the request
sets `PATH` itself. -/
def spawnBy (run : Program → Setting → Streams → Ran) : Spawner := fun r scene =>
  if (requestTexts r).any (·.contains 0) then .error .nulInRequest
  else
    match scene.files.enter scene.directory r.directory with
    | .error e => .error e
    | .ok directory =>
      let setting := settingFor r scene directory
      let viaShell := (r.own.lookup "PATH").isSome
      match setting.execute viaShell r.program (r.arguments.map Bytes.ofText) with
      | .error e => .error e
      | .ok program => .ok (run program setting scene.streams)

end LineShell.Host

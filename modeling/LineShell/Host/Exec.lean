/-
Executing a file: which program of the machine runs for it, and with
which arguments.

A file has to be a regular one with an execute bit. A program of the
machine runs itself. A file that begins with `#!` names its interpreter
on its first line, possibly with one argument; the interpreter is
executed with that argument, the path of the file and the file's own
arguments. Any other file is of no known format.

The system looks at the first bytes of a file only (`Head`). A line that
does not end within them is cut, unless that would cut the name of the
interpreter, which makes the file one of no known format.

A name without a slash is searched for along the variable `PATH` of the
process that executes it, in the directory that it is in. What a process
has for this is its `Setting`.
-/
import LineShell.FileTree.Resolve
import LineShell.Variables

namespace LineShell.Host

/-- What a process executes files in. -/
structure Setting where
  files : FileTree
  directory : WorkingDirectory
  /-- Its variables, as it sees them. -/
  vars : List Bytes
  deriving DecidableEq, Repr

/-- A program of the machine with its arguments. -/
structure Program where
  tool : String
  /-- The name it is called by. -/
  name : Bytes
  arguments : List Bytes
  deriving DecidableEq, Repr

-- ================================================================ the head

namespace Head

/-- How many bytes of a file the system looks at. -/
def size : Nat := 256

/-- Whether a byte stands between the words of a first line. -/
def isBlank (b : UInt8) : Bool := b == 32 || b == 9

/-- Whether a byte ends the name of an interpreter. -/
def endsName (b : UInt8) : Bool := isBlank b || b == 0

/-- Bytes without the blanks at their end. -/
def dropBlanksRight (bytes : Bytes) : Bytes :=
  (bytes.reverse.dropWhile isBlank).reverse

/-- The name of an interpreter and its argument, on the rest of a line. A
NUL byte ends the line. -/
def words (line : Bytes) : Path × List Bytes :=
  let line := line.dropWhile isBlank
  let name := line.takeWhile (!endsName ·)
  let argument := ((line.drop name.length).dropWhile isBlank).takeWhile (· != 0)
  (name, if argument.isEmpty then [] else [argument])

/-- The interpreter that the first line of a file names, and its argument.
There is none if the file has no such line, or the line does not say. -/
def interpreter? (contents : Bytes) : Option (Path × List Bytes) :=
  let head := contents.take size
  match head ++ List.replicate (size - head.length) 0 with
  | 35 :: 33 :: rest =>
    let line := rest.takeWhile fun b => b != 10 && b != 0
    let ended := rest.drop line.length
    if ended.head? = some 10 then
      let line := dropBlanksRight line
      let (name, argument) := words line
      if name.isEmpty then none else some (name, argument)
    else
      let line := dropBlanksRight rest.dropLast
      if (rest.dropWhile isBlank).all (!endsName ·) then none
      else if line.all isBlank then none
      else some (words line)
  | _ => none

end Head

-- =============================================================== execution

/-- The largest number of interpreters between a file and a program. -/
def maxInterpreters : Nat := 5

/-- The size from which on an argument or a variable is too long. -/
def maxArgumentLength : Nat := 131072

/-- How much space all arguments and variables of a program may take. -/
def maxArgumentSpace : Nat := 2097152

/-- Whether texts fit as the arguments and variables of a program. -/
def fits (texts : List Bytes) : Bool :=
  texts.all (·.length < maxArgumentLength)
    && texts.foldl (fun space text => space + text.length + 9) 0 ≤ maxArgumentSpace

/-- What is found of a file that is to be executed. -/
inductive Executable
  | tool (name : String)
  | text (contents : Bytes)

namespace Setting

/-- Looks at a file that is to be executed. -/
def inspect (s : Setting) (path : Path) : Except SystemError Executable :=
  match s.files.resolve s.directory path with
  | .error e => .error e
  | .ok (.removed _) => .error .accessDenied
  | .ok (.located l) =>
    match s.files.lookup l with
    | some (.tool name) => .ok (.tool name)
    | some (.file contents mode) =>
      if s.files.mayExecute mode then .ok (.text contents) else .error .accessDenied
    | some _ => .error .accessDenied
    | none => .error .noEntry

/-- What runs for a file that was looked at, found at a path and called by
a name with arguments. -/
def load (s : Setting) (depth : Nat) (path : Path) (name : Bytes) (arguments : List Bytes)
    (found : Executable) : Except SystemError Program :=
  match depth, found with
  | _, .tool tool => .ok ⟨tool, name, arguments⟩
  | depth, .text contents =>
    match Head.interpreter? contents with
    | none => .error .unknownFormat
    | some ([], _) => .error .accessDenied
    | some (interpreter, argument) =>
      match s.inspect interpreter with
      | .error e => .error e
      | .ok found =>
        match depth with
        | 0 => .error .tooManyLinks
        | depth + 1 =>
          load s depth interpreter interpreter (argument ++ path :: arguments) found

/-- What runs when the file at a path is executed, called by a name, with
arguments. -/
def executeFile (s : Setting) (path : Path) (name : Bytes) (arguments : List Bytes) :
    Except SystemError Program :=
  match s.inspect path with
  | .error e => .error e
  | .ok found =>
    if !fits (path :: name :: arguments ++ s.vars) then .error .argumentsTooLong
    else s.load maxInterpreters path name arguments found

end Setting

-- ============================================================== the search

/-- The search path of a process that has none. -/
def defaultPath : Bytes := Bytes.ofText "/bin:/usr/bin"

/-- The entries of a search path that are tried. Of a path that is too
long for the system, an entry that exceeds its length is not tried; the
directory itself is tried in its place, and nothing if it is the last. -/
def candidates (search : Bytes) : List Path :=
  let limit := min search.length (Path.maxLength - 1) + 1
  let entries := Path.entries search
  let last := entries.length - 1
  (entries.zipIdx.filterMap fun (entry, i) =>
    if entry.length < limit then some entry
    else if i = last then none
    else some [])

namespace Setting

/-- Tries paths in order, for a program called by a name. What is missing
or denied is passed over; `denied` says that something was denied. With
`viaShell`, a file of no known format is given to the shell as a script. -/
def tryPaths (s : Setting) (viaShell : Bool) (name : Bytes) (arguments : List Bytes)
    (denied : Bool) : List Path → Except SystemError Program
  | [] => .error (if denied then .accessDenied else .noEntry)
  | path :: paths =>
    match s.executeFile path name arguments with
    | .ok program => .ok program
    | .error e =>
      if e = .noEntry || e = .notDirectory then s.tryPaths viaShell name arguments denied paths
      else if e = .accessDenied then s.tryPaths viaShell name arguments true paths
      else if e = .unknownFormat && viaShell then
        let shell := Bytes.ofText "/bin/sh"
        s.executeFile shell shell (path :: arguments)
      else .error e

/-- The paths that are tried for a program without a slash in its name: the
name behind each entry of the search path. -/
def trials (s : Setting) (program : Path) : List Path :=
  let search := (ProcessVariables.valueAmong s.vars "PATH").getD defaultPath
  (candidates search).map fun entry => Path.behind entry program

/-- What runs when a program is executed by its path or name. -/
def execute (s : Setting) (viaShell : Bool) (program : Path) (arguments : List Bytes) :
    Except SystemError Program :=
  if program.isEmpty then .error .noEntry
  else if program.contains Path.slash then s.executeFile program program arguments
  else s.tryPaths viaShell program arguments false (s.trials program)

end Setting
end LineShell.Host

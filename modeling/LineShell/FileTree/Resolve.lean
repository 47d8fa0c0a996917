/-
What a path means to a process: it is taken against the directory the
process is in, which may have been removed.

A process whose directory was removed can still name that directory
itself, and can leave it for the directory that it stood in, removed or
not; it finds nothing else there. So a path resolves to a location or to
a removed directory (`Spot`).
-/
import LineShell.FileTree

namespace LineShell

/-- What a path resolves to. -/
inductive Spot
  | located (l : Location)
  /-- A directory that was removed. -/
  | removed (d : WorkingDirectory)
  deriving DecidableEq, Repr

namespace FileTree

/-- Whether a path has a NUL byte, which no path of the system has. -/
def hasNul (p : Path) : Bool :=
  p.contains 0

/-- What names lead to from a removed directory. -/
def resolveFrom (t : FileTree) (d : WorkingDirectory) (names : List Bytes) :
    Except SystemError Spot :=
  match names with
  | [] => .ok (.removed d)
  | name :: rest =>
    if name = [] ∨ name = Path.here then resolveFrom t d rest
    else if name = Path.up then
      match t.orphans.lookup d.serial with
      | none => .error .noEntry
      | some parent =>
        match t.locate? parent with
        | some l => .located <$> t.walk maxLinks l rest
        | none => resolveFrom t ⟨d.location.dropLast, parent⟩ rest
    else .error .noEntry

/-- Where the names of a path are taken from: the root, or where the process
is, as long as its directory exists. -/
def base? (t : FileTree) (d : WorkingDirectory) (p : Path) : Option Location :=
  if p.isEmpty then none
  else if p.isAbsolute then some []
  else t.stand? d

/-- What a path resolves to, links followed. -/
def resolve (t : FileTree) (d : WorkingDirectory) (p : Path) : Except SystemError Spot :=
  if hasNul p then .error .nulInPath
  else if p.isEmpty then .error .noEntry
  else if Path.maxLength ≤ p.length then .error .nameTooLong
  else match t.base? d p with
    | some base => .located <$> t.walk maxLinks base p.names
    | none => t.resolveFrom d p.names

/-- The directory a path names, to be entered. -/
def enter (t : FileTree) (d : WorkingDirectory) (p : Path) :
    Except SystemError WorkingDirectory :=
  match t.resolve d p with
  | .ok (.located l) => t.directoryAt l
  | .ok (.removed d) => .ok d
  | .error e => .error e

/-- Whether a path names something that exists. -/
def has (t : FileTree) (d : WorkingDirectory) (p : Path) : Bool :=
  (t.resolve d p).isOk

/-- Whether a path names a regular file that anyone may execute. -/
def isProgram (t : FileTree) (d : WorkingDirectory) (p : Path) : Bool :=
  match t.resolve d p with
  | .ok (.located l) => match t.lookup l with
    | some (.file _ mode) => mode &&& 0o111 != 0
    | some (.tool _) => true
    | _ => false
  | _ => false

/-- What a path names, a link in its last place not followed. -/
def inspectLink (t : FileTree) (d : WorkingDirectory) (p : Path) : Except SystemError Node :=
  let whole : Except SystemError Node :=
    match t.resolve d p with
    | .ok (.located l) => match t.lookup l with
      | some node => .ok node
      | none => .error .noEntry
    | .ok (.removed d) => .ok (.directory d.serial 0)
    | .error e => .error e
  match p.names.getLast? with
  | none => whole
  | some name =>
    if name.isEmpty || name == Path.here || name == Path.up
        || Path.maxNameLength < name.length || Path.maxLength ≤ p.length then whole
    else
      let parent := p.take (p.length - name.length)
      match t.resolve d (if parent.isEmpty then Path.here else parent) with
      | .ok (.located l) => match t.lookup l, t.lookup (l ++ [name]) with
        | some (.directory _ _), some node => .ok node
        | some (.directory _ _), none => .error .noEntry
        | some _, _ => .error .notDirectory
        | none, _ => .error .noEntry
      | .ok (.removed _) => .error .noEntry
      | .error e => .error e

/-- The names in the directory at a location. -/
def namesAt (t : FileTree) (l : Location) : List Bytes :=
  t.nodes.filterMap fun entry =>
    match entry.1.getLast? with
    | some name => if entry.1.dropLast == l then some name else none
    | none => none

/-- The path of the working directory, while it exists. -/
def workingPath? (t : FileTree) (d : WorkingDirectory) : Option Path :=
  (t.stand? d).map Location.path

end FileTree
end LineShell

/-
The programs `pwd` and `rmdir`.
-/
import LineShell.Testbed.Tool.Options

namespace LineShell.Host.Tool

-- ==================================================================== pwd

/-- Whether a path is an absolute one without `.` and `..` that names the
working directory. -/
def isWorkingPath (p : Process) (path : Path) : Bool :=
  let files := p.system.files
  let names := path.splitOn Path.slash
  path.isAbsolute && names.all (fun name => name != Path.here && name != Path.up)
    && match files.enter p.directory path with
      | .ok d => d.serial == p.directory.serial
      | .error _ => false

/-- Prints the path of the directory: the canonical one, or if asked the
one that the variables tell. -/
def pwd (program : Program) : Activity Outcome := do
  let switches : List (Switch Bool) :=
    [{ letter? := some 'L', names := ["logical"], meaning := true },
      { letter? := some 'P', names := ["physical"], meaning := false }]
  match Options.read switches program.arguments with
  | .error fault =>
    complainOfUse program fault.message
    return .exited 1
  | .ok (options, operands) =>
    if !operands.isEmpty then
      complain program (Bytes.ofText "ignoring non-option arguments")
    let p ← get
    let told? := if (options.getLast?.map (·.1)).getD false then p.value? "PWD" else none
    match told?.filter (isWorkingPath p) <|> p.system.files.workingPath? p.directory with
    | some path => endPrinting program (path ++ [10])
    | none =>
      complain program
        (Bytes.ofText "couldn't find directory entry in '..' with matching i-node")
      return .exited 1

-- ================================================================== rmdir

/-- The options of `rmdir`. -/
inductive RemovalOption
  | ignoresContents
  | withParents
  | tells
  deriving DecidableEq, Repr

/-- The error of a directory that holds something. -/
def notEmpty : SystemError := .number 39

/-- A path without the slashes at its end, unless it is the root. -/
def dropSlashes (path : Path) : Path :=
  let kept := (path.reverse.dropWhile (· == Path.slash)).reverse
  if kept.isEmpty then path.take 1 else kept

/-- The path in front of the last name of a path, if it has slashes. -/
def parent? (path : Path) : Option Path :=
  let path := dropSlashes path
  if path.contains Path.slash then
    some (dropSlashes (path.reverse.dropWhile (· != Path.slash)).reverse)
  else none

/-- What stands at a path, slashes at its end aside, and where. -/
def standing (p : Process) (path : Path) : Except SystemError (Location × Node) := do
  let files := p.system.files
  let name := ((dropSlashes path).reverse.takeWhile (· != Path.slash)).reverse
  let (.located l) ← files.resolve p.directory ((parent? path).getD Path.here)
    | throw .noEntry
  let some (.directory _ mode) := files.lookup l | throw .notDirectory
  if !files.maySearch mode then throw .accessDenied
  if name = Path.here then throw (.number 22)
  if name = Path.up then throw notEmpty
  if Path.maxNameLength < name.length then throw .nameTooLong
  let some node := files.lookup (l ++ [name]) | throw .noEntry
  return (l ++ [name], node)

/-- Where the directory to remove stands, or the error. -/
def removable (p : Process) (path : Path) : Except SystemError Location := do
  let files := p.system.files
  if path.isEmpty then throw .noEntry
  if Path.maxLength ≤ path.length then throw .nameTooLong
  if dropSlashes path = [Path.slash] then throw (.number 16)
  let (l, node) ← standing p path
  let isAllowed := match files.lookup l.dropLast with
    | some (.directory _ mode) => files.mayWrite mode
    | _ => true
  if !isAllowed then throw .accessDenied
  match node with
  | .directory _ _ => if files.IsLeaf l then return l else throw notEmpty
  | _ => throw .notDirectory

/-- Whether a path with a slash at its end names a link, unless the link
leads to what is no directory. -/
def isLinkPath (p : Process) (path : Path) : Bool :=
  let files := p.system.files
  let isLink := match standing p path with
    | .ok (_, .link _) => true
    | _ => false
  path.getLast? = some Path.slash && isLink && match files.resolve p.directory path with
    | .error e => e != .notDirectory
    | .ok _ => true

/-- Removes one directory; gives the error, if there was one. -/
def removeDirectory (path : Path) : Activity (Option SystemError) := do
  let p ← get
  match removable p path with
  | .ok l =>
    set { p with system := { p.system with files := p.system.files.erase l } }
    return none
  | .error e => return some e

/-- Removes a directory, and those above it if asked, of which the first
time none is above; says whether all went well. -/
def removeFrom (program : Program) (options : List RemovalOption) (isFirst : Bool) :
    Nat → Path → Activity Bool
  | 0, _ => return true
  | fuel + 1, path => do
    if options.contains .tells then
      if !(← printed program
          (program.name ++ Bytes.ofText ": removing directory, " ++ quoted path ++ [10])) then
        throw (.exited 1)
    match ← removeDirectory path with
    | some e =>
      if options.contains .ignoresContents && e = notEmpty then return true
      let isLink := e = .notDirectory && isFirst && isLinkPath (← get) path
      let reason := if isLink then "Symbolic link not followed" else e.reason
      let kind := if isFirst || e = .notDirectory then "" else "directory "
      complain program
        (Bytes.ofText ("failed to remove " ++ kind) ++ quoted path ++ Bytes.ofText (": " ++ reason))
      return false
    | none =>
      match if options.contains .withParents then parent? path else none with
      | some above => removeFrom program options false fuel above
      | none => return true

/-- Removes empty directories. -/
def rmdir (program : Program) : Activity Outcome := do
  let switches : List (Switch RemovalOption) :=
    [{ letter? := none, names := ["ignore-fail-on-non-empty"], meaning := .ignoresContents },
      { letter? := some 'p', names := ["path", "parents"], meaning := .withParents },
      { letter? := some 'v', names := ["verbose"], meaning := .tells }]
  match Options.read switches program.arguments with
  | .error fault =>
    complainOfUse program fault.message
    return .exited 1
  | .ok (_, []) =>
    complainOfUse program (Bytes.ofText "missing operand")
    return .exited 1
  | .ok (options, paths) =>
    let options := options.map (·.1)
    let allWell ← paths.foldlM (fun allWell path => do
      return (← removeFrom program options true (path.length + 1) path) && allWell) true
    return .exited (if allWell then 0 else 1)

end LineShell.Host.Tool

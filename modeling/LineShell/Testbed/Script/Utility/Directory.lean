/-
The directory of a shell: the commands `cd` and `pwd`.

A shell remembers the path by which it came to its directory, and takes
`..` against that path and not against the file tree (`straighten`). So
it leaves a directory that it entered through a link for the one that the
link is in. With `-P` the canonical path is taken instead.
-/
import LineShell.Testbed.Script.Utility.Options

namespace LineShell.Script.Utility

open Host (Process)

-- ============================================================== the path

/-- A path that ends in a slash without its last name. What is shorter than
`least` stays. -/
def dropName (least : Nat) (path : Path) : Path :=
  let kept := (path.dropLast.reverse.dropWhile (· != Path.slash)).reverse
  if path.length ≤ least then path
  else if kept.length < least then path.take least
  else kept

/-- The path that a path leads to from a directory, by the names alone;
those of the directory are taken as they are. Two slashes at the start,
but not three, stay two. -/
def straighten (directory path : Path) : Path :=
  let beginsWithTwo (p : Path) : Bool := p.take 2 == [47, 47]
  let start :=
    if path.isAbsolute then
      if beginsWithTwo path && path[2]? != some Path.slash then [47, 47] else [47]
    else if directory.getLast? = some Path.slash then directory
    else directory ++ [Path.slash]
  let least := if beginsWithTwo start then 2 else 1
  let names := (path.splitOn Path.slash).filter (!·.isEmpty)
  let path := names.foldl (fun path name =>
    if name == Path.here then path
    else if name == Path.up then dropName least path
    else path ++ name ++ [Path.slash]) start
  if path.length > least then path.dropLast else path

-- ========================================================= the directory

/-- The canonical path of the directory; if it has none, that is told. -/
def canonicalDirectory : Act Bytes := do
  let p ← look (·.process)
  match p.system.files.workingPath? p.directory with
  | some path => return path
  | none =>
    warn (lit ("getcwd() failed: " ++ SystemError.noEntry.reason))
    return []

/-- Remembers the path of the directory. -/
def setDirectory (path? : Option Path) (remembersOld : Bool) : Act Unit := do
  if remembersOld then
    setMarked (lit "OLDPWD") (← look (·.directory)) true false
  let path ← match path? with
    | some path => pure path
    | none => canonicalDirectory
  change ({ · with directory := path })
  setMarked (lit "PWD") path true false

/-- Enters a directory; says whether that could be done. -/
def enterDirectory (physical : Bool) (target : Path) : Act Bool := do
  let sh ← look id
  let path? :=
    if physical || (!target.isAbsolute && sh.directory.isEmpty) then none
    else some (straighten sh.directory target)
  let p := sh.process
  match p.system.files.enter p.directory (path?.getD target) with
  | .ok directory =>
    change fun sh => { sh with
      process := { sh.process with directory }
      located := sh.located.map fun (name, found) => (name, { found with isStale := true }) }
    setDirectory path? true
    return true
  | .error _ => return false

/-- Whether the canonical path is asked for, by the last option. -/
def isPhysical (choices : List Choice) : Bool :=
  (choices.getLast?.map (·.letter)) == some 'P'

/-- Whether a path is not looked for along `CDPATH`. -/
def isPlainTarget (target : Path) : Bool :=
  target.isAbsolute || match target with
    | [46] | [46, 46] => true
    | 46 :: 47 :: _ | 46 :: 46 :: 47 :: _ => true
    | _ => false

/-- The first directory along `CDPATH` that a path names, and whether its
entry was not empty. -/
def alongSearch (target : Path) : Act (Option (Path × Bool)) := do
  let sh ← look id
  let p := sh.process
  let isDirectory (path : Path) : Bool :=
    match p.system.files.resolve p.directory path with
    | .ok (.located l) => match p.system.files.lookup l with
      | some (.directory _ _) => true
      | _ => false
    | .ok (.removed _) => true
    | .error _ => false
  match sh.value? (lit "CDPATH") with
  | none => return none
  | some search =>
    return ((Path.entries search).map fun entry => (Path.behind entry target, !entry.isEmpty)).find?
      fun (path, _) => isDirectory path

/-- Changes the directory. -/
def cd (arguments : List Bytes) : Act Nat := do
  let (choices, arguments) ← readOptions ['L', 'P'] [] arguments
  let physical := isPhysical choices
  let goesBack := arguments.head? == some [45]
  let home ← look (·.value? (lit "HOME"))
  let old ← look (·.value? (lit "OLDPWD"))
  let target := match arguments with
    | [] => home.getD []
    | target :: _ => if goesBack then old.getD [] else target
  let found? ← if isPlainTarget target then pure none
    else alongSearch (if target.isEmpty then Path.here else target)
  let (path, shows) := match found? with
    | some (path, named) => (path, named || goesBack)
    | none => (if target.isEmpty then Path.here else target, goesBack)
  if !(← enterDirectory physical path) then fail (lit "can\x27t cd to " ++ target)
  if shows then printLine (← look (·.directory))
  return 0

/-- Prints the directory. -/
def pwd (arguments : List Bytes) : Act Nat := do
  let (choices, _) ← readOptions ['L', 'P'] [] arguments
  if isPhysical choices then printLine (← canonicalDirectory)
  else printLine (← look (·.directory))
  return 0

end LineShell.Script.Utility

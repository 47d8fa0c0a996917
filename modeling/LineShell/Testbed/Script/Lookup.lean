/-
Looking a command up by its name: the shell's own commands, functions,
and programs along the search path; and the commands `type`, `command`
and `hash` that show what was found.

The shell remembers where along the search path it found a command, until
the path changes.
-/
import LineShell.Testbed.Script.Utility.Options

namespace LineShell.Script

/-- A command of the shell's own. -/
structure OwnCommand where
  name : String
  /-- Whether errors in it end the shell and assignments before it stay. -/
  special : Bool := false
  /-- Whether its arguments may be assignments. -/
  assigns : Bool := false
  deriving DecidableEq, Repr

namespace OwnCommand

/-- The shell's own commands. -/
def all : List OwnCommand :=
  [⟨".", true, false⟩, ⟨":", true, false⟩, ⟨"[", false, false⟩, ⟨"alias", false, true⟩,
    ⟨"bg", false, false⟩, ⟨"break", true, false⟩, ⟨"cd", false, false⟩,
    ⟨"chdir", false, false⟩, ⟨"command", false, false⟩, ⟨"continue", true, false⟩,
    ⟨"echo", false, false⟩, ⟨"eval", true, false⟩, ⟨"exec", true, false⟩,
    ⟨"exit", true, false⟩, ⟨"export", true, true⟩, ⟨"false", false, false⟩,
    ⟨"fg", false, false⟩, ⟨"getopts", false, false⟩, ⟨"hash", false, false⟩,
    ⟨"jobs", false, false⟩, ⟨"kill", false, false⟩, ⟨"local", true, true⟩,
    ⟨"printf", false, false⟩, ⟨"pwd", false, false⟩, ⟨"read", false, false⟩,
    ⟨"readonly", true, true⟩, ⟨"return", true, false⟩, ⟨"set", true, false⟩,
    ⟨"shift", true, false⟩, ⟨"test", false, false⟩, ⟨"times", true, false⟩,
    ⟨"trap", true, false⟩, ⟨"true", false, false⟩, ⟨"type", false, false⟩,
    ⟨"ulimit", false, false⟩, ⟨"umask", false, false⟩, ⟨"unalias", false, false⟩,
    ⟨"unset", true, false⟩, ⟨"wait", false, false⟩]

/-- The commands by their names. -/
def byName : List (Bytes × OwnCommand) := all.map fun c => (lit c.name, c)

/-- The command of a name. -/
def named? (name : Bytes) : Option OwnCommand := byName.lookup name

end OwnCommand

/-- What a name was found to be. -/
inductive Kind
  | own (c : OwnCommand)
  | function (body : Command)
  /-- A program, at an entry of the search path if it was looked for. -/
  | program (entry : Option Nat)
  | missing

/-- Whether a file can be executed, or the error that is remembered if no
other one can. -/
def checkProgram (sh : Shell) (path : Path) : Except SystemError Unit :=
  let p := sh.process
  match p.system.files.resolve p.directory path with
  | .error e => .error e
  | .ok (.removed _) => .error .accessDenied
  | .ok (.located l) =>
    match p.system.files.lookup l with
    | some (.tool _) => .ok ()
    | some (.file _ mode) =>
      if p.system.files.mayExecute mode then .ok () else .error .accessDenied
    | _ => .error .accessDenied

/-- The entry of a search path at which a program is, or the error. If it
was found before, the absolute entries up to that one are taken to be as
they were. -/
def searchProgram (sh : Shell) (name : Bytes) (known? : Option Nat) (error : SystemError)
    (index : Nat) : List Path → Except SystemError Nat
  | [] => .error error
  | entry :: entries =>
    let isKnown := entry.isAbsolute && known?.any (index ≤ ·)
    if isKnown && known? = some index then .ok index
    else if isKnown then searchProgram sh name known? error (index + 1) entries
    else match checkProgram sh (Path.behind entry name) with
    | .ok () => .ok index
    | .error e =>
      let isMissing := e = .noEntry || e = .notDirectory
      searchProgram sh name known? (if isMissing then error else e) (index + 1) entries

/-- The search path that `command -p` takes. -/
def standardPath : Bytes :=
  lit "/usr/local/sbin:/usr/local/bin:/usr/sbin:/usr/bin:/sbin:/bin"

/-- Looks a command up, without regard to functions if told so, and along
a search path of its own if one is given. Complains about one that is
missing if told so. -/
def lookUp (name : Bytes) (functions : Bool) (search? : Option Bytes) (complains : Bool) :
    Act Kind := do
  if name.contains Path.slash then return .program none
  let sh ← look id
  if functions then
    if let some f := sh.functions.lookup name then return .function f
  if let some c := OwnCommand.named? name then return .own c
  let found? := if search?.isNone then sh.located.lookup name else none
  if let some ⟨entry, false⟩ := found? then return .program (some entry)
  let entries := Path.entries (search?.getD sh.searchPath)
  match searchProgram sh name (found?.map (·.entry)) .noEntry 0 entries with
  | .ok entry =>
    if search?.isNone then
      change fun sh => { sh with located := putEntry name ⟨entry, false⟩ sh.located }
    return .program (some entry)
  | .error error =>
    if found?.isSome then
      change fun sh => { sh with located := sh.located.filter (·.1 != name) }
    if complains then
      let reason := if error = .noEntry || error = .notDirectory then "not found" else error.reason
      warn (name ++ lit (": " ++ reason))
    return .missing

-- ================================================================= showing

/-- Shows what a name is; gives the status. -/
def describe (name : Bytes) (search? : Option Bytes) (verbose : Bool) : Act Nat := do
  let sh ← look id
  let tell (brief : Bytes) (long : Bytes) : Act Nat := do
    printLine (if verbose then name ++ long else brief)
    return 0
  let tracked? := if search?.isNone then sh.located.lookup name else none
  let pathAt (entry : Nat) : Bytes :=
    match (Path.entries (search?.getD sh.searchPath))[entry]? with
    | some dir => Path.behind dir name
    | none => name
  if (keywordOf? name).isSome then tell name (lit " is a shell keyword")
  else if let some value := sh.aliases.lookup name then
    if verbose then tell [] (lit " is an alias for " ++ value)
    else tell (lit "alias " ++ name ++ 61 :: quoteAll value) []
  else
    let kind ← match tracked? with
      | some found => pure (.program (some found.entry))
      | none => lookUp name true search? false
    match kind with
    | .function _ => tell name (lit " is a shell function")
    | .own c =>
      tell name (lit (if c.special then " is a special shell builtin" else " is a shell builtin"))
    | .program (some entry) =>
      let path := pathAt entry
      tell path (lit (if tracked?.isSome then " is a tracked alias for " else " is ") ++ path)
    | .program none =>
      let p := sh.process
      if (p.system.files.resolve p.directory name).isOk then tell name (lit " is " ++ name)
      else
        if verbose then printLine (name ++ lit ": not found")
        return 127
    | .missing =>
      if verbose then printLine (name ++ lit ": not found")
      return 127

namespace Utility

/-- Shows what names are. -/
def type (names : List Bytes) : Act Nat := do
  let mut status := 0
  for name in names do
    let described ← describe name none true
    if described != 0 then status := described
  return status

/-- Shows what a name is, for options that ask for that. -/
def command (arguments : List Bytes) : Act Nat := do
  let (choices, arguments) ← readOptions ['p', 'v', 'V'] [] arguments
  let search? := if choices.any (·.letter == 'p') then some standardPath else none
  let long := choices.any (·.letter == 'V')
  let brief := choices.any (·.letter == 'v')
  match arguments with
  | name :: _ => if long || brief then describe name search? long else return 0
  | [] => return 0

/-- How many groups the places of commands are kept in. -/
def placeGroupCount : Nat := 31

/-- Shows, forgets or looks for the places of commands. -/
def hash (arguments : List Bytes) : Act Nat := do
  let (choices, names) ← readOptions ['r'] [] arguments
  if !choices.isEmpty then
    change ({ · with located := [] })
    return 0
  let sh ← look id
  if names.isEmpty then
    for (name, found) in inGroups placeGroupCount sh.located do
      match (Path.entries sh.searchPath)[found.entry]? with
      | some dir => printLine (Path.behind dir name ++ (if found.isStale then [42] else []))
      | none => pure ()
    return 0
  let mut status := 0
  for name in names do
    change fun sh => { sh with located := sh.located.filter (·.1 != name) }
    match ← lookUp name true none true with
    | .missing => status := 1
    | _ => pure ()
  return status

end Utility
end LineShell.Script

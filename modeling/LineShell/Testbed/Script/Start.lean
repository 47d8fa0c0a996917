/-
How a shell starts, and how all that a process runs is run.

A shell takes its variables from those of its process, reads its options,
and then runs a text that it was given, a file, or its standard input.

Commands contain commands, and programs start programs; `evaluate` bounds
how deep that goes. A process that goes deeper is out of stack.
-/
import LineShell.Testbed.Tool
import LineShell.Testbed.Script.Evaluate

namespace LineShell.Script

open Host (Process Program System)

-- ========================================================== the variables

/-- The search path of a shell that is given none. -/
def initialPath : Bytes :=
  lit "/usr/local/sbin:/usr/local/bin:/usr/sbin:/usr/bin:/sbin:/bin"

/-- The variables of a shell that is given none. -/
def initialVariables (p : Process) : List (Bytes × Variable) :=
  [("IFS", " \t\n"), ("OPTIND", "1"), ("PATH", Utf8.lossy initialPath),
    ("PPID", toString p.parent), ("PS1", if p.system.files.privileged then "# " else "$ "),
    ("PS2", "> "), ("PS4", "+ ")].map
    fun (name, value) => (lit name, { value := some (lit value) })

/-- The variables whose values are not taken from outside. -/
def ownVariables : List Bytes := ["IFS", "OPTIND", "PPID"].map lit

/-- Takes a variable from outside; it is exported. -/
def importVariable (line : Bytes) : Act Unit := do
  let (name, value?) := splitAssignment line
  if isName name then
    if let some value := value? then
      noteChange name value
      let old := (← look (·.binding? name)).bind (·.value)
      let value := if ownVariables.contains name then old.getD value else value
      setEntry name (some { value := some value, exported := true })
  change ({ · with optionIndex := 1, optionOffset := none })

/-- Finds out by which path the directory is known: by the variable `PWD`
if that is right, else by its canonical path. -/
def findDirectory : Act Unit := do
  let sh ← look id
  let p := sh.process
  let isHere (path : Path) : Bool :=
    path.isAbsolute && match p.system.files.resolve p.directory path with
      | .ok (.located l) => l == p.directory.location && p.system.files.holds p.directory
      | _ => false
  match (sh.value? (lit "PWD")).filter isHere with
  | some path => Utility.setDirectory (some path) false
  | none => Utility.setDirectory none false

-- =============================================================== starting

/-- What a shell runs. -/
inductive Work
  | text (script : Bytes) (thenInput : Bool)
  | file (index : Nat)
  | standardInput

/-- Reads the options and arguments of a shell; gives what it is to run,
and whether its user logs in. Jobs are to be under control where commands
are asked for. -/
def readArguments (arguments : List Bytes) : Act (Work × Bool) := do
  let s ← Utility.readSettings true arguments
  if !s.tellsControl && (← isOn 'i') then Utility.setOption Utility.controlOption true
  let setArguments (arguments : List Bytes) : Act Unit := change ({ · with arguments })
  /- The first argument names the shell, and the others are its own. -/
  let setNamed (arguments : List Bytes) : Act Unit := do
    if let name :: arguments := arguments then
      change ({ · with name })
      setArguments arguments
  let readsInput := (← isOn 's') || s.arguments.isEmpty
  let work : Work ← match s.arguments, s.isCommand with
    | [], true => fail (lit "-c requires an argument")
    | script :: arguments, true =>
      setNamed arguments
      pure (.text script readsInput)
    | path :: _, false =>
      if readsInput then
        setArguments s.arguments
        pure .standardInput
      else
        let (index, _) ← openScript path
        setNamed s.arguments
        pure (.file index)
    | [], false =>
      Utility.setOption 's' true
      pure .standardInput
  Utility.giveUpControl
  return (work, s.isLogin)

/-- Goes on after what broke a command off, if the shell asks for its
commands; what was read ahead is lost. -/
def recover (depth : Nat) (abort : Abort) : Act Unit := do
  if !(← look Shell.isAttended) then throw abort
  match abort with
  | .failed => pure ()
  | .interrupted => let _ ← write 2 [10]
  | abort => throw abort
  change ({ · with loops := 0, calls := 0, skip := none })
  changeReader (·.popTo depth)
  changeInput fun input => { input with unread := [], pushed := [], line := [], block := [] }

/-- How often the end of the input is passed over. -/
def maxEnds : Nat := 50

/-- Runs the commands of the input that is read first, which is the
shell's own: they may be asked for. -/
def runMain (e : Evaluator) : Act Nat := do
  let depth ← look (·.reader.depth)
  repeatFrom (0, 0) fun (status, ends) => do
    let ask : Act (Option Bytes) := do
      if !(← isOn 'i') then return none
      let _ ← write 2 (← promptIn e "PS1")
      some <$> promptIn e "PS2"
    let round : Act ((Nat × Nat) ⊕ Nat) := do
      match ← readComplete (← ask) with
      | .nothing =>
        if ends ≥ maxEnds then return .inr status
        if ← isOn 'I' then
          let _ ← write 2 (lit "\nUse \"exit\" to leave shell.\n")
          return .inl (status, ends + 1)
        if ← isOn 'i' then
          let _ ← write 2 [10]
        return .inr status
      | .command c? =>
        let ran ← runOptional e c? {}
        let status := if c?.isSome then ran else status
        if (← look (·.skip)).isSome then return .inr status else return .inl (status, 0)
    try round
    catch abort => do
      recover depth abort
      return .inl (status, 0)

/-- Runs the commands in a file that may be missing. -/
def runProfile (e : Evaluator) (path : Bytes) : Act Unit := do
  let path ← expandPrompt e path
  if let .ok index ← openPath path .read then
    let fd ← onProcess (Process.keep index)
    let depth ← look (·.reader.depth)
    let run : Act Unit := do
      let _ ← withInput { origin := .opened index } (runInput e)
    try andLast run (onProcess fun p => ((), p.redirect fd none))
    catch abort => recover depth abort

/-- Runs the commands that prepare a shell: of a user who logs in, and of
one who is asked for commands. -/
def runProfiles (e : Evaluator) (isLogin : Bool) : Act Unit := do
  if isLogin then
    runProfile e (lit "/etc/profile")
    runProfile e (lit "$HOME/.profile")
  if ← isOn 'i' then
    if let some path := (← look (·.value? (lit "ENV"))).filter (!·.isEmpty) then
      runProfile e path

/-- Runs what a shell is to run. -/
def runWork (e : Evaluator) (work : Work) : Act Nat := do
  change ({ · with errorLine := 1 })
  let fromInput (origin : Origin) : Act Nat := withInput { origin } (runMain e)
  match work with
  | .text script thenInput =>
    let depth ← look (·.reader.depth)
    let status? : Option Nat ←
      try some <$> runText e script { exits := !thenInput }
      catch abort => do
        recover depth abort
        pure none
    match status? with
    | some status => if thenInput then fromInput .standardInput else return status
    | none => fromInput .standardInput
  | .file index => fromInput (.opened index)
  | .standardInput => fromInput .standardInput

/-- Runs a shell in place of what its process ran before. -/
def startShell (e : Evaluator) (program : Program) : Act Nat := do
  let p ← look (·.process)
  let shell : Shell :=
    { process := p
      vars := initialVariables p
      mainNumber := p.number
      barred := p.ignored }
  let adopted (child : Child) : Child := { child with number? := none }
  modify fun w => { shell, children := w.children.map adopted }
  let act : Act Nat := do
    p.vars.forM importVariable
    findDirectory
    change ({ · with name := program.name })
    let (work, isLogin) ← readArguments program.arguments
    runProfiles e isLogin
    runWork e work
  throw (.over (← runToEnd e act))

/-- Runs a program in place of what its process ran before. -/
def startProgram (e : Evaluator) (program : Program) : Act Nat := do
  if program.tool == "sh" then startShell e program
  else
    match ← doActivity (Host.Tool.run program) with
    | .ended ending => throw (.over ending)
    | .becomes next => e (.program next)

-- ============================================================= everything

/-- Runs tasks that contain tasks, up to a depth. -/
def evaluate : Nat → Evaluator
  | 0 => fun _ => throw (.over (.killed outOfStack))
  | depth + 1 => fun task =>
    match task with
    | .command c m => runCommand (evaluate depth) c m
    | .text script m => runText (evaluate depth) script m
    | .input => runInput (evaluate depth)
    | .program p => startProgram (evaluate depth) p

/-- How deep tasks contain tasks at most. -/
def maxNesting : Nat := 100000

/-- Runs a program in a process to its end, and the processes that it
leaves behind. One that waits for what nobody does is killed. -/
def run (program : Program) (p : Process) : System × Ending :=
  let act : Act Ending := do
    let _ ← evaluate maxNesting (.program program)
    return .exited 0
  match (courseOf { process := p } act p.system).finish with
  | .error system => (system, .killed Process.killSignal)
  | .ok left => (Host.settle Host.Activity.patience left.system left.orphans, left.ending)

end LineShell.Script

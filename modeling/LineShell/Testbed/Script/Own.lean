/-
Running the shell's own commands by name. Those that run other commands
(`eval`, `.`, `exec`) are described here; the others stand in
`Script.Utility`.
-/
import LineShell.Testbed.Script.Lookup
import LineShell.Testbed.Script.Grammar
import LineShell.Testbed.Script.Utility.Bindings
import LineShell.Testbed.Script.Utility.Control
import LineShell.Testbed.Script.Utility.Directory
import LineShell.Testbed.Script.Utility.Limits
import LineShell.Testbed.Script.Utility.Print
import LineShell.Testbed.Script.Utility.Processes
import LineShell.Testbed.Script.Utility.Test

namespace LineShell.Script

open Host (Process)

-- ============================================================ the traps

/-- Runs the commands for the signals that came. -/
def runTraps (e : Evaluator) : Act Unit := do
  let sh ← look id
  if sh.caught.isEmpty then return
  let status := sh.settled.getD sh.status
  change ({ · with caught := [], settled := some status })
  let signals := (List.range Signal.count).filter sh.caught.contains
  for signal in signals do
    if (← look (·.skip)).isSome then
      change fun sh => { sh with caught := sh.caught ++ [signal] }
    else if let some action ← look (·.traps.lookup signal) then
      let _ ← e (.text action {})
      if (← look (·.skip)) != some .returning then setStatus status
  change ({ · with settled := sh.settled })

-- ============================================================ the input

/-- Runs a task with an input in front, and leaves the input at its end. -/
def withInput {α : Type} (input : Input) (act : Act α) : Act α := do
  let depth ← look (·.reader.depth)
  pushInput input
  andLast act (changeReader (·.popTo depth))

/-- Whether the command that was read last ended with its input. -/
def isAtEnd : Act Bool := do
  let r ← look (·.reader)
  return match r.last with
    | .finish => r.isBack
    | _ => false

/-- Runs a command that may be missing. -/
def runOptional (e : Evaluator) (c? : Option Command) (m : Mode) : Act Nat := do
  match c? with
  | some c => e (.command c m)
  | none =>
    runTraps e
    if m.exits then throw .ended
    look (·.status)

/-- Runs a text of commands. -/
def runText (e : Evaluator) (script : Bytes) (m : Mode) : Act Nat :=
  withInput { origin := .nowhere, block := script.filter (· != 0) } do
    repeatFrom 0 fun status => do
      match ← readComplete none with
      | .nothing => return .inr status
      | .command c? =>
        let last ← isAtEnd
        let ran ← runOptional e c? { m with exits := m.exits && last }
        let status := if c?.isSome then ran else status
        if (← look (·.skip)).isSome then return .inr status else return .inl status

/-- Runs the commands of the input that is read first. -/
def runInput (e : Evaluator) : Act Nat :=
  repeatFrom 0 fun status => do
    match ← readComplete none with
    | .nothing => return .inr status
    | .command c? =>
      let ran ← runOptional e c? {}
      let status := if c?.isSome then ran else status
      match ← look (·.skip) with
      | none => return .inl status
      | some skip =>
        if skip = .returning || skip = .returningAsIs then change ({ · with skip := none })
        return .inr status

/-- Opens a script; gives its open file, and the descriptor at which it is
kept. -/
def openScript (path : Path) : Act (Nat × Nat) := do
  match ← openPath path .read with
  | .ok index => return (index, ← onProcess (Process.keep index))
  | .error error =>
    fail (lit "cannot open " ++ path ++ lit ": "
      ++ lit (if isMissing error then "No such file" else error.reason))

-- ====================================================== commands that run others

/-- Runs the commands in a file, in this shell. -/
def source (e : Evaluator) (arguments : List Bytes) : Act Nat := do
  match ← Utility.withoutOptions arguments with
  | [] => return 0
  | name :: _ =>
    let sh ← look id
    let p := sh.process
    let isFile (path : Path) : Bool :=
      match p.system.files.resolve p.directory path with
      | .ok (.located l) => match p.system.files.lookup l with
        | some (.file _ _) => true
        | _ => false
      | _ => false
    let path ←
      if name.contains Path.slash then pure name
      else match (commandPaths sh.searchPath name).find? isFile with
        | some path => pure path
        | none => fail (name ++ lit ": not found")
    let (index, fd) ← openScript path
    change ({ · with command := some path })
    andLast (withInput { origin := .opened index } (runInput e))
      (onProcess fun p => ((), p.redirect fd none))

/-- Runs a program in place of the shell, if one is given. -/
def execute (e : Evaluator) (arguments : List Bytes) : Act Nat := do
  match arguments with
  | [] => return 0
  | name :: arguments =>
    let _ ← giveTurns
    become e name arguments (← look (·.searchPath)) 0

/-- Runs a command of the shell's own. -/
def runOwn (e : Evaluator) (m : Mode) (name : String) (arguments : List Bytes) : Act Nat :=
  match name with
  | ":" | "true" => pure 0
  | "false" => pure 1
  | "." => source e arguments
  | "eval" =>
    if arguments.isEmpty then pure 0
    else runText e ([32].intercalate arguments) { m with exits := false }
  | "exec" => execute e arguments
  | "[" => Utility.test true arguments
  | "test" => Utility.test false arguments
  | "alias" => Utility.setAliases arguments
  | "unalias" => Utility.unalias arguments
  | "break" => Utility.leaveLoops false arguments
  | "continue" => Utility.leaveLoops true arguments
  | "return" => Utility.leaveFunction arguments
  | "exit" => Utility.exit arguments
  | "cd" | "chdir" => Utility.cd arguments
  | "pwd" => Utility.pwd arguments
  | "command" => Utility.command arguments
  | "type" => Utility.type arguments
  | "hash" => Utility.hash arguments
  | "echo" => Utility.echo arguments
  | "printf" => Utility.printf arguments
  | "export" => Utility.mark name true false arguments
  | "readonly" => Utility.mark name false true arguments
  | "local" => Utility.makeAllLocal arguments
  | "unset" => Utility.unset arguments
  | "set" => Utility.set arguments
  | "shift" => Utility.shift arguments
  | "getopts" => Utility.getopts arguments
  | "read" => Utility.read arguments
  | "kill" => Utility.kill arguments
  | "trap" => Utility.trap arguments
  | "wait" => Utility.wait arguments
  | "jobs" => Utility.jobs arguments
  | "fg" | "bg" => Utility.resume arguments
  | "umask" => Utility.umask arguments
  | "ulimit" => Utility.ulimit arguments
  | "times" => do
    printLine (lit "0m0.000000s 0m0.000000s")
    printLine (lit "0m0.000000s 0m0.000000s")
    return 0
  | _ => pure 0

end LineShell.Script

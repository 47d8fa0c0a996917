/-
Running commands. Each form of command is run by a function of its own,
which is given a way to run what the form contains (`Evaluator`).

With the option `e`, a simple command, a pipeline or a subshell that
fails ends the shell, unless its status is tested.
-/
import LineShell.Testbed.Script.Own
import LineShell.Testbed.Script.Redirect

namespace LineShell.Script

open Host (Process)

/-- Says on which line a command stands. -/
def atLine (line : Nat) : Act Unit :=
  change ({ · with errorLine := line })

-- ========================================================= simple commands

/-- A command that is being made out: what it is, the fields that are
known, beginning with its name, and the words that are not expanded. -/
structure MadeOut where
  kind : Kind
  fields : List Bytes
  words : List Word
  /-- Whether the first name was that of a special command. -/
  special : Bool := false
  /-- Whether variables assigned before the command are local to it. -/
  localAssignments : Bool := true
  /-- Whether functions are looked at. -/
  functions : Bool := true
  search? : Option Bytes := none
  /-- The fields in front of the known ones, which only tell how to run
  the command. -/
  passed : List Bytes := []

/-- Expands words up to the first that has a field. -/
def expandFirst (e : Evaluator) (words : List Word) : Act (List Bytes × List Word) :=
  repeatFrom words fun words => do
    match words with
    | [] => return .inr ([], [])
    | word :: words =>
      match ← expandFields (substitute e) word with
      | [] => return .inl words
      | fields => return .inr (fields, words)

/-- Reads the options behind `command`: the fields and words that begin
with the name of what it is to run, and whether the standard search path
is taken. There is none if the options ask for something else. -/
def behindCommand (e : Evaluator) (fields : List Bytes) (words : List Word) :
    Act ((List Bytes × List Word) × Option (List Bytes × List Word × Bool)) :=
  repeatFrom (fields, words, 1, false) fun (fields, words, i, standard) => do
    let (fields, words) ←
      if i < fields.length then pure (fields, words)
      else do
        let (more, words) ← expandFirst e words
        pure (fields ++ more, words)
    match fields.drop i with
    | [] => return .inr ((fields, words), none)
    | [45, 45] :: _ =>
      let (fields, words) ←
        if i + 1 < fields.length then pure (fields, words)
        else do
          let (more, words) ← expandFirst e words
          pure (fields ++ more, words)
      match fields.drop (i + 1) with
      | [] => return .inr ((fields, words), none)
      | rest => return .inr ((fields, words), some (rest, words, standard))
    | (45 :: b :: letters) :: _ =>
      if (b :: letters).all (· == 112) then return .inl (fields, words, i + 1, true)
      else return .inr ((fields, words), none)
    | rest => return .inr ((fields, words), some (rest, words, standard))

/-- Makes out what the first fields of a command are. -/
def makeOut (e : Evaluator) (fields : List Bytes) (words : List Word) : Act MadeOut := do
  let start : MadeOut := { kind := .missing, fields, words }
  repeatFrom (start, true) fun (found, isFirst) => do
    let name := found.fields.head?.getD []
    let sh ← look id
    let function? := if found.functions && !name.contains Path.slash
      then sh.functions.lookup name else none
    match function?, OwnCommand.named? name with
    | none, some c =>
      let found := { found with
        kind := .own c
        special := if isFirst then c.special else found.special
        localAssignments := if isFirst then !c.special else true }
      if c.name != "command" then return .inr found
      let ((all, behind), inner?) ← behindCommand e found.fields found.words
      match inner? with
      | none => return .inr { found with fields := all, words := behind }
      | some (fields, words, standard) =>
        let search? := if standard then some standardPath else found.search?
        let passed := found.passed ++ all.take (all.length - fields.length)
        return .inl ({ found with fields, words, functions := false, search?, passed }, false)
    | _, _ => return .inr { found with kind := .program none, localAssignments := true }

/-- Expands the words behind a command; those that assign, behind a
command that takes assignments, are not split. -/
def expandRest (e : Evaluator) (found : MadeOut) : Act (List Bytes) := do
  let assigns := match found.kind with
    | .own c => c.assigns
    | _ => false
  let rest ← found.words.mapM fun word =>
    if assigns && Word.isAssignment word then
      (fun text => [text]) <$> expandText (substitute e) { assignmentTildes := true } word
    else expandFields (substitute e) word
  return found.fields ++ rest.flatten

/-- Makes assignments; gives them as they were made. -/
def makeAssignments (e : Evaluator) (isLocal exported : Bool) (assignments : List Word) :
    Act (List Bytes) :=
  assignments.mapM fun word => do
    let text ← expandText (substitute e) { assignmentTildes := true } word
    let (name, value?) := splitAssignment text
    if isLocal then makeLocal name value? true
    else setMarked name (value?.getD []) exported false
    return text

/-- The text that a prompt stands for: parameters and commands in it are
replaced. One in which that fails stands for itself. -/
def expandPrompt (e : Evaluator) (text : Bytes) : Act Bytes := do
  if !text.contains 36 && !text.contains 96 && !text.contains 92 then return text
  let within := readCommands maxDepth
  let reader ← look (·.reader)
  changeReader ({ · with asking? := none, awaited := [] })
  let resume : Act Unit :=
    changeReader fun r => { reader with last := r.last, isBack := r.isBack }
  let expanded : Act Bytes := do
    let word ← withInput { origin := .nowhere, block := text } do
      let (d, _) ← readParts (readInner within) readClosing .double (some ⟨[0], false⟩)
        (← nextJoined)
      pure d.parts
    resume
    expandText (substitute e) { quoted := true } word
  try expanded
  catch
    | .failed => do
      resume
      return text
    | abort => throw abort

/-- The prompt in a variable. -/
def promptIn (e : Evaluator) (name : String) : Act Bytes := do
  expandPrompt e (← look fun sh => (sh.value? (lit name)).getD [])

/-- Shows a command that is about to run, on an open file. -/
def trace (e : Evaluator) (index? : Option Nat) (texts : List Bytes) : Act Unit := do
  if (← isOn 'x') && !(← look (·.tracing)) then
    change ({ · with tracing := true })
    let start ← andLast (promptIn e "PS4") (change ({ · with tracing := false }))
    let line := start ++ [32].intercalate texts ++ [10]
    if let some index := index? then
      let _ ← writeFile index line

/-- Runs a command of the shell's own: its name is known while it runs,
and what it prints is written when it is done. -/
def runOwnCommand (e : Evaluator) (m : Mode) (c : OwnCommand) (special : Bool) (name : Bytes)
    (arguments : List Bytes) : Act Nat := do
  let outer ← look (·.command)
  let printed ← look (·.printed)
  change ({ · with command := some name, printed := [] })
  let flush : Act Bool := do
    let output ← look (·.printed)
    change ({ · with printed := [] })
    if output.isEmpty then return false
    return (← write 1 output).isSome
  let run : Act Nat := do
    let status ← runOwn e m c.name arguments
    let status ← if ← flush then
        warn (name ++ lit ": I/O error")
        pure (status ||| 1)
      else pure status
    setStatus status
    return status
  let last : Act Unit := do
    let _ ← flush
    change ({ · with command := outer, printed })
  try andLast run last
  catch
    | .failed => if special then throw .failed else look (·.status)
    | abort => throw abort

/-- How many calls of functions stand within each other at most. -/
def maxCalls : Nat := 1000

/-- Calls a function. -/
def callFunction (e : Evaluator) (m : Mode) (body : Command) (arguments : List Bytes) :
    Act Nat := do
  let outer ← look id
  if maxCalls ≤ outer.calls then
    fail (lit ("Maximum function recursion depth (" ++ toString maxCalls ++ ") reached"))
  change ({ · with
    arguments
    loops := 0
    calls := outer.calls + 1
    optionIndex := 1
    optionOffset := none })
  let back : Act Unit :=
    change fun sh => { sh with
      arguments := outer.arguments
      loops := outer.loops
      calls := outer.calls
      optionIndex := outer.optionIndex
      optionOffset := outer.optionOffset
      skip := match sh.skip with
        | some .returning | some .returningAsIs => none
        | skip => skip }
  let _ ← andLast (e (.command body { m with exits := false })) back
  look (·.status)

/-- Runs a program for a command, in place of the shell if the shell ends
with it. -/
def callProgram (e : Evaluator) (m : Mode) (name : Bytes) (arguments : List Bytes)
    (search : Bytes) (entry : Nat) : Act Nat := do
  let hasTraps ← look (·.traps.any (!·.2.isEmpty))
  if m.exits && !hasTraps then
    let _ ← giveTurns
    become e name arguments search entry
  else
    let ending ← runCopy e (become e name arguments search entry)
    announceEnding ending
    return statusOf ending

/-- Runs a command that has been made out and expanded. -/
def runMadeOut (e : Evaluator) (m : Mode) (found : MadeOut) (fields : List Bytes) :
    Act Nat := do
  match fields with
  | [] => look (·.innerStatus)
  | name :: arguments =>
    let kind ← match found.kind with
      | .own c => pure (.own c)
      | _ => lookUp name found.functions found.search? true
    match kind with
    | .own c => runOwnCommand e m c found.special name arguments
    | .function body => callFunction e m body arguments
    | .program entry =>
      let search := found.search?.getD (← look (·.searchPath))
      callProgram e m name arguments search (entry.getD 0)
    | .missing =>
      setStatus 127
      return 127

/-- Runs a simple command. -/
def runSimple (e : Evaluator) (m : Mode) (line : Nat) (assignments words : List Word)
    (redirections : List Redirection) : Act Nat := do
  atLine line
  change ({ · with innerStatus := 0 })
  let (first, rest) ← expandFirst e words
  let found ←
    if first.isEmpty then
      pure { kind := .missing, fields := [], words := [], localAssignments := false }
    else makeOut e first rest
  let fields ← expandRest e found
  let isExec := match found.kind with
    | .own c => c.name == "exec"
    | _ => false
  let errors ← look (·.process.descriptor? 2)
  let depth ← look (·.reader.depth)
  withLocals found.localAssignments do
    let prepared ← prepare e redirections
    let failed : Act Nat := do
      setStatus 2
      if found.special then throw .failed
      return 2
    underRedirections e prepared isExec failed do
      let made ← makeAssignments e found.localAssignments (isExec && fields.length > 1)
        assignments
      trace e errors (made ++ found.passed ++ fields)
      let status ← runMadeOut e m found fields
      changeReader (·.popTo depth)
      return status

-- =================================================================== copies

/-- Looks for the program of a command that names it plainly, so that the
shell knows its place. -/
def findAhead (c : Command) : Act Unit := do
  if let .simple _ _ (word :: _) _ := c then
    if let some name := Word.literal? word then
      if isName name then
        let _ ← lookUp name true none false

/-- Runs a command as the last one of its process, under redirections that
are never taken back. -/
def runLast (e : Evaluator) (m : Mode) (redirections : List Prepared) (c : Command) :
    Act Nat := do
  for r in redirections do
    redirect e false r
  e (.command c { m with exits := true })

/-- Runs commands joined by pipes. -/
def runPipeline (e : Evaluator) (commands : List Command) : Act Nat := do
  let _ ← claimPlace
  let endings ← waitForAll (← startPipeline e (fun _ => id) (commands.map (runLast e {} [])))
  for ending in endings do
    announceEnding ending
  return (endings.getLast?.map statusOf).getD 0

/-- Runs a command in a subshell. -/
def runSubshell (e : Evaluator) (m : Mode) (line : Nat) (body : Command)
    (redirections : List Redirection) : Act Nat := do
  atLine line
  let inside := runLast e m (← prepare e redirections) body
  let hasTraps ← look (·.traps.any (!·.2.isEmpty))
  if m.exits && !hasTraps then
    change ({ · with loops := 0, skip := none })
    inside
  else
    let ending ← runCopy e inside
    announceEnding ending
    return statusOf ending

-- ==================================================================== loops

/-- What comes after a round of a loop. -/
inductive AfterRound
  | goOn
  /-- The next round was asked for. -/
  | again
  | leave
  /-- A function is being left. -/
  | returns
  deriving DecidableEq, Repr

/-- Takes heed of what is passed over, after a round of a loop. -/
def afterRound : Act AfterRound := do
  let skipTo (skip : Option Skip) (after : AfterRound) : Act AfterRound := do
    change ({ · with skip })
    return after
  match ← look (·.skip) with
  | none => return .goOn
  | some (.leaving n) =>
    skipTo (if n ≤ 1 then none else some (.leaving (n - 1))) .leave
  | some (.again n) =>
    if n ≤ 1 then skipTo none .again else skipTo (some (.again (n - 1))) .leave
  | some .returning => return .returns
  | some .returningAsIs => return .leave

/-- Runs something inside one more loop. -/
def inLoop (act : Act Nat) : Act Nat := do
  change fun sh => { sh with loops := sh.loops + 1 }
  let status ← act
  change fun sh => { sh with loops := sh.loops - 1 }
  return status

/-- Runs a loop with a test. -/
def runLoop (e : Evaluator) (m : Mode) (untilTrue : Bool) (test body : Command) : Act Nat :=
  inLoop do
    repeatFrom 0 fun status => do
      countRound
      let tested ← e (.command test { tested := true })
      match ← afterRound with
      | .returns => return .inr tested
      | .leave => return .inr status
      | .again => return .inl status
      | .goOn =>
        if (tested = 0) = untilTrue then return .inr status
        let status ← e (.command body { m with exits := false })
        match ← afterRound with
        | .goOn | .again => return .inl status
        | _ => return .inr status

/-- Runs a loop over fields. -/
def runForEach (e : Evaluator) (m : Mode) (line : Nat) (name : Bytes) (words : List Word)
    (body : Command) : Act Nat := do
  atLine line
  let fields ← words.mapM (expandFields (substitute e))
  inLoop do
    repeatFrom (fields.flatten, 0) fun (fields, status) => do
      match fields with
      | [] => return .inr status
      | field :: fields =>
        countRound
        assign name field
        let status ← e (.command body { m with exits := false })
        match ← afterRound with
        | .goOn | .again => return .inl (fields, status)
        | _ => return .inr status

/-- Runs the first branch that has a pattern for a text. -/
def runChoice (e : Evaluator) (m : Mode) (line : Nat) (subject : Word)
    (branches : List Branch) : Act Nat := do
  atLine line
  let text ← expandText (substitute e) { tilde := true } subject
  repeatFrom branches fun branches => do
    match branches with
    | [] => return .inr 0
    | .mk patterns body :: branches =>
      let isMatch ← repeatFrom patterns fun patterns => do
        match patterns with
        | [] => return .inr false
        | pattern :: patterns =>
          if ← matchesWord (substitute e) pattern text then return .inr true
          else return .inl patterns
      if !isMatch then return .inl branches
      match body with
      | some body => return .inr (← e (.command body m))
      | none => return .inr 0

-- ================================================================ all forms

/-- Runs the second of two commands if the first leads to it. -/
def runBoth (e : Evaluator) (m : Mode) (first second : Command) (tested : Bool)
    (goesOn : Nat → Bool) : Act Nat := do
  let status ← e (.command first { tested := m.tested || tested })
  if !goesOn status || (← look (·.skip)).isSome then return status
  e (.command second m)

/-- Runs a command without regard to what follows from its status. -/
def runForm (e : Evaluator) (m : Mode) (c : Command) : Act Nat := do
  match c with
  | .simple line assignments words redirections =>
    runSimple e m line assignments words redirections
  | .pipeline commands inBackground =>
    for c in commands do findAhead c
    if inBackground then
      startJob e (commands.map (runLast e {} []))
      return 0
    else runPipeline e commands
  | .background line body redirections =>
    atLine line
    startJob e [runLast e {} (← prepare e redirections) body]
    return 0
  | .subshell line body redirections => runSubshell e m line body redirections
  | .redirected line body redirections =>
    atLine line
    let prepared ← prepare e redirections
    let failed : Act Nat := do
      setStatus 2
      if !m.tested && (← isOn 'e') then throw .ended
      return 2
    underRedirections e prepared false failed (e (.command body { m with exits := false }))
  | .sequence first second => runBoth e m first second false fun _ => true
  | .both first second => runBoth e m first second true (· = 0)
  | .either first second => runBoth e m first second true (· ≠ 0)
  | .negated body =>
    let status ← e (.command body { tested := true })
    if (← look (·.skip)).isSome then return status
    return if status = 0 then 1 else 0
  | .conditional test body otherwise =>
    let status ← e (.command test { tested := true })
    if (← look (·.skip)).isSome then return status
    if status = 0 then e (.command body m)
    else match otherwise with
      | some c => e (.command c m)
      | none => return 0
  | .loop untilTrue test body => runLoop e m untilTrue test body
  | .forEach line name words body => runForEach e m line name words body
  | .choice line subject branches => runChoice e m line subject branches
  | .define name body =>
    change fun sh => { sh with
      functions := (name, body) :: sh.functions.filter (·.1 != name)
      located := sh.located.filter (·.1 != name) }
    return 0

/-- Whether a command that fails ends the shell under the option `e`. -/
def Command.isChecked : Command → Bool
  | .simple _ _ _ _ | .pipeline _ _ | .subshell _ _ _ | .background _ _ _ => true
  | _ => false

/-- Runs a command. -/
def runCommand (e : Evaluator) (c : Command) (m : Mode) : Act Nat := do
  let status ←
    if ← isOn 'n' then look (·.status)
    else
      let status ← runForm e m c
      setStatus status
      pure status
  runTraps e
  if m.exits then throw .ended
  if status != 0 && !m.tested && c.isChecked && (← isOn 'e') then throw .ended
  look (·.status)

end LineShell.Script

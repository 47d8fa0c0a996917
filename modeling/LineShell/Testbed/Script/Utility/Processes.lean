/-
Processes and signals: the commands `kill`, `trap`, `wait`, `jobs`, `fg`,
`bg` and `umask`.
-/
import LineShell.Testbed.Script.Processes
import LineShell.Testbed.Script.Utility.Options

namespace LineShell.Script.Utility

open Host (Process)

-- ==================================================================== kill

/-- Breaks off with the usage of `kill`. -/
def failUsage {α : Type} : Act α :=
  fail (lit ("Usage: kill [-s sigspec | -signum | -sigspec] [pid | job]... or\n"
    ++ "kill -l [exitstatus]"))

/-- The job that a text like `%1` names, or the current one if there is no
text. The commands of jobs are not known, so none is found by a part of
one. Jobs that are not under control are refused if told so. -/
def jobOf (text? : Option Bytes) (controlled : Bool) : Act Job := do
  let jobs := (← get).jobs
  let text := text?.getD []
  let missing := lit "No such job: " ++ text
  let (found?, error) : Option Job × Bytes := match text?, text with
    | none, _ | _, [37] | _, [37, 37] | _, [37, 43] => (jobs.getLast?, lit "No current job")
    | _, [37, 45] => (jobs.dropLast.getLast?, lit "No previous job")
    | _, [37, 63] => (if jobs.length = 1 then jobs.getLast? else none, missing)
    | _, 37 :: digits =>
      match Arithmetic.number? false digits with
      | some n => (jobs.find? fun j => (j.place : Int) = n, missing)
      | none => (none, missing)
    | _, _ => (none, missing)
  match found? with
  | none => fail error
  | some job =>
    if controlled then
      fail (lit "job " ++ text?.getD (lit "(null)") ++ lit " not created under job control")
    return job

/-- Sends a signal to a process; says whether there is one. -/
def sendTo (number signal : Nat) : Act Bool := do
  if !(← look (·.process.system.living)).contains number then return false
  if signal != 0 then
    onProcess fun p => ((), p.send number signal)
    receiveSignals
  return true

/-- Sends a signal to all processes, which are one group. -/
def sendToGroup (signal : Nat) : Act Unit := do
  if signal != 0 then
    onProcess fun p => ((), p.system.living.foldl (fun p number => p.send number signal) p)
    receiveSignals

/-- Shows the names of signals. -/
def listSignals (arguments : List Bytes) : Act Nat := do
  match arguments with
  | [] =>
    printLine (lit "0")
    for n in List.range Signal.count do
      if n != 0 then printLine (lit (Signal.nameOf n))
  | argument :: _ =>
    let n ← readCount argument
    let n := if n > 128 then n - 128 else n
    if 0 < n && n < Signal.count then printLine (lit (Signal.nameOf n))
    else fail (lit "invalid signal number or exit status: " ++ argument)
  return 0

/-- Sends a signal to each of some processes. A job that is not under
control is no group of its own, so there is nothing to send a signal to. -/
def sendToAll (signal : Nat) (targets : List Bytes) : Act Nat := do
  let mut status := 0
  for target in targets do
    let hasSent ← match target with
      | 37 :: _ => do
        let _ ← jobOf (some target) false
        pure false
      | 45 :: digits => do
        if (← readCount digits) = 0 then
          sendToGroup signal
          pure true
        else pure false
      | digits => do
        let number ← readCount digits
        if number = 0 then
          sendToGroup signal
          pure true
        else sendTo number signal
    if !hasSent then
      warn (lit (SystemError.noProcess.reason ++ "\n"))
      status := 1
  return status

/-- Sends signals, or shows their names. -/
def kill (arguments : List Bytes) : Act Nat := do
  match arguments with
  | [] => failUsage
  | first :: rest =>
    match first with
    | 45 :: name =>
      match Signal.ofText? 1 name with
      | some signal => if rest.isEmpty then failUsage else sendToAll signal rest
      | none =>
        let (choices, targets) ← readOptions ['l'] ['s'] arguments
        let mut signal? : Option Nat := none
        for choice in choices do
          if choice.letter == 's' then
            match Signal.ofText? 1 choice.value with
            | some signal => signal? := some signal
            | none => fail (lit "invalid signal number or name: " ++ choice.value)
        if choices.any (·.letter == 'l') then
          if signal?.isSome then failUsage
          listSignals targets
        else if targets.isEmpty then failUsage
        else sendToAll (signal?.getD 15) targets
    | _ => sendToAll 15 arguments

-- ==================================================================== trap

/-- Sets the commands for signals, or shows them. -/
def trap (arguments : List Bytes) : Act Nat := do
  match ← withoutOptions arguments with
  | [] =>
    for n in List.range Signal.count do
      if let some action ← look (·.traps.lookup n) then
        printLine (lit "trap -- " ++ quoteAll action ++ lit (" " ++ Signal.nameOf n))
    return 0
  | first :: rest =>
    let resets := rest.isEmpty || (Signal.number? first).isSome
    let action? := if resets || first == [45] then none else some first
    for target in (if resets then first :: rest else rest) do
      match Signal.ofText? 0 target with
      | none =>
        let _ ← write 2 (lit "trap: " ++ target ++ lit ": bad trap\n")
        return 1
      | some signal =>
        change fun sh =>
          let others := sh.traps.filter (·.1 != signal)
          let rest := sh.process.ignored.filter (· != signal)
          let isIgnored := signal != 0 && match action? with
            | some action => action.isEmpty
            | none => false
          let ignored := if sh.barred.contains signal then sh.process.ignored
            else if isIgnored then signal :: rest else rest
          let process := { sh.process with ignored }
          match action? with
          | some action => { sh with traps := (signal, action) :: others, process }
          | none => { sh with traps := others, process }
    return 0

-- ==================================================================== jobs

/-- Waits until something holds of the jobs; a signal that the shell has
a command for breaks the waiting off, and is given. -/
def waitUntil (holds : List Job → Bool) : Act (Option Nat) :=
  awaitUntil do
    if holds (← get).jobs then return some none
    match (← look (·.caught)).filter (· != childSignal) |>.getLast? with
    | some signal => return some (some signal)
    | none => return none

/-- The status of one that a signal has kept from waiting. -/
def statusOfSignal (signal : Nat) : Nat := 128 + signal

/-- Waits for jobs. A signal that ended one is told when its end is
noticed. -/
def wait (arguments : List Bytes) : Act Nat := do
  match ← withoutOptions arguments with
  | [] =>
    match ← waitUntil (·.all (·.ending?.isSome)) with
    | some signal => return statusOfSignal signal
    | none =>
      changeJobs (·.map ({ · with noticed := true, isDone := true }))
      receiveSignals
      return 0
  | targets =>
    repeatFrom (targets, 127) fun (targets, status) => do
      match targets with
      | [] =>
        receiveSignals
        return .inr status
      | target :: targets =>
        let number ← match target with
          | 37 :: _ => (·.number) <$> jobOf (some target) false
          | digits => readCount digits
        let isMeant (j : Job) : Bool := j.number = number
        if !(← get).jobs.any isMeant then return .inl (targets, status)
        match ← waitUntil (·.all fun j => !isMeant j || j.ending?.isSome) with
        | some signal => return .inr (statusOfSignal signal)
        | none =>
          let job? := (← get).jobs.find? isMeant
          let ending := (job?.bind (·.ending?)).getD (.exited 0)
          if !(job?.map (·.noticed)).getD false then announceEnding ending
          changeJob number ({ · with noticed := true, isDone := true })
          return .inl (targets, statusOf ending)

/-- What is said of the state of a job. -/
def stateText (job : Job) : String :=
  match job.ending? with
  | none => "Running"
  | some (.killed signal) => Signal.textOf signal
  | some (.exited code) =>
    if code % 256 = 0 then "Done" else "Done(" ++ toString (code % 256) ++ ")"

/-- How wide the state of a job is shown. -/
def stateWidth : Nat := 33

/-- Shows a job. One that has ended is forgotten. -/
def showJob (withNumber numberOnly : Bool) (job : Job) : Act Unit := do
  let jobs := (← get).jobs
  let mark :=
    if (jobs.getLast?.map (·.place)) = some job.place then "+"
    else if (jobs.dropLast.getLast?.map (·.place)) = some job.place then "-"
    else " "
  let numbers := job.numbers.map toString
  if numberOnly then printLine (lit (numbers.headD ""))
  else
    let shown (text : String) : String :=
      text ++ String.ofList (List.replicate (stateWidth - text.length) ' ')
    let first := "[" ++ toString job.place ++ "] " ++ mark ++ " "
      ++ (if withNumber then numbers.headD "" ++ " " else "") ++ stateText job
    let others := numbers.drop 1
    let text :=
      if withNumber then
        " |\n".intercalate (shown first :: others.map fun number => shown s!"      {number} ")
      else shown first ++ String.join (others.map fun _ => " | ")
    printLine (lit text)
  if !numberOnly && job.ending?.isSome then changeJobs (·.filter (·.place != job.place))

/-- Shows jobs, the latest first. -/
def jobs (arguments : List Bytes) : Act Nat := do
  let (choices, arguments) ← readOptions ['l', 'p'] [] arguments
  let last := choices.getLast?.map (·.letter)
  let display := showJob (last = some 'l') (last = some 'p')
  if arguments.isEmpty then
    for job in (← get).jobs.reverse do display job
  else
    for argument in arguments do display (← jobOf (some argument) false)
  return 0

/-- Would go on with a job in the foreground or background, if jobs were
under control. -/
def resume (arguments : List Bytes) : Act Nat := do
  let arguments ← withoutOptions arguments
  let _ ← jobOf arguments.head? true
  return 0

-- =================================================================== umask

/-- The permissions that a mask leaves, as text. -/
def maskText (mask : Nat) : Bytes :=
  let rights (shift : Nat) : String :=
    let left := 7 - (mask >>> shift &&& 7)
    (if left &&& 4 != 0 then "r" else "") ++ (if left &&& 2 != 0 then "w" else "")
      ++ (if left &&& 1 != 0 then "x" else "")
  lit ("u=" ++ rights 6 ++ ",g=" ++ rights 3 ++ ",o=" ++ rights 0)

/-- The bits of the owner, the group and the others. -/
def classBits (b : UInt8) : Option Nat :=
  match Char.ofUInt8 b with
  | 'u' => some 0o700
  | 'g' => some 0o070
  | 'o' => some 0o007
  | 'a' => some 0o777
  | _ => none

/-- The bits of a permission, for all, in rights that may be copied. -/
def rightBits (rights : Nat) (b : UInt8) : Option Nat :=
  match Char.ofUInt8 b with
  | 'r' => some 0o444
  | 'w' => some 0o222
  | 'x' => some 0o111
  | 'X' => some (if rights &&& 0o111 = 0 then 0 else 0o111)
  | 's' => some 0
  | 'u' => some ((rights >>> 6 &&& 7) * 0o111)
  | 'g' => some ((rights >>> 3 &&& 7) * 0o111)
  | 'o' => some ((rights &&& 7) * 0o111)
  | _ => none

/-- Whether a byte says how rights are changed. -/
def isChange (b : UInt8) : Bool :=
  b == 43 || b == 45 || b == 61

/-- Changes rights as clauses like `u+rw` between commas tell. A clause
that names no class is for all; several changes may follow one class.
Rights are copied from the `old` ones. -/
def changeRights (old : Nat) : Nat → (who rights : Nat) → Bytes → Option Nat
  | 0, _, _, _ => none
  | _, _, rights, [] => some rights
  | fuel + 1, who, rights, clauses =>
    let classes := clauses.takeWhile fun b => (classBits b).isSome
    let who := classes.foldl (fun n b => n ||| (classBits b).getD 0) who
    let who := if who = 0 then 0o777 else who
    match clauses.drop classes.length with
    | [] => none
    | operator :: rest =>
      let letters := rest.takeWhile fun b => (rightBits old b).isSome
      let bits := letters.foldl (fun n b => n ||| (rightBits old b).getD 0) 0 &&& who
      let rights? := match Char.ofUInt8 operator with
        | '+' => some (rights ||| bits)
        | '-' => some (rights &&& (0o777 - bits))
        | '=' => some ((rights &&& (0o777 - who)) ||| bits)
        | _ => none
      match rights?, rest.drop letters.length with
      | none, _ => none
      | some rights, [] => some rights
      | some rights, 44 :: clauses => changeRights old fuel 0 rights clauses
      | some rights, b :: clauses =>
        if isChange b then changeRights old fuel who rights (b :: clauses) else none

/-- Sets or shows the permission bits that new files do not get. -/
def umask (arguments : List Bytes) : Act Nat := do
  let (choices, arguments) ← readOptions ['S'] [] arguments
  let mask ← look (·.process.mask)
  let set (mask : Nat) : Act Unit :=
    change fun sh => { sh with process := { sh.process with mask } }
  match arguments with
  | [] =>
    if choices.isEmpty then
      let digits := String.ofList (Nat.toDigits 8 mask)
      printLine (lit (String.ofList (List.replicate (4 - digits.length) '0') ++ digits))
    else printLine (maskText mask)
  | text :: _ =>
    if (text.head?.map isDigit).getD false then
      if !text.all fun b => 48 ≤ b && b ≤ 55 then fail (lit "Illegal number: " ++ text)
      set ((text.foldl (fun n d => n * 8 + (d.toNat - 48)) 0) % 512)
    else match changeRights (0o777 - mask) (text.length + 1) 0 (0o777 - mask) text with
      | some rights => set (0o777 - rights)
      | none => fail (lit "Illegal mode: " ++ text)
  return 0

end LineShell.Script.Utility

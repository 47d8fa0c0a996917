/-
The program `env`: it runs another program with other variables and
perhaps in another directory, or shows the variables if none is given.

One argument may hold several, so that the first line of a script can give
them (`Division`).
-/
import LineShell.Testbed.Tool.Options

namespace LineShell.Host.Tool.Environment

-- =============================================================== variables

/-- Sets a variable in lines of variables. -/
def assign (line : Bytes) (vars : List Bytes) : List Bytes :=
  let start := line.takeWhile (· != 61) ++ [61]
  if vars.any (start.isPrefixOf ·) then
    vars.map fun old => if start.isPrefixOf old then line else old
  else vars ++ [line]

/-- Takes a variable away from lines of variables. -/
def unset (name : Bytes) (vars : List Bytes) : List Bytes :=
  vars.filter (!(name ++ [61]).isPrefixOf ·)

-- ================================================================ division

namespace Division

/-- Why a text is not divided. -/
inductive Fault
  | unclosed
  | endingBackslash
  | badSequence (b : UInt8)
  | endWithinMarks
  | badVariable (text : Bytes)

/-- The text of a fault. -/
def Fault.message : Fault → Bytes
  | .unclosed => Bytes.ofText "no terminating quote in -S string"
  | .endingBackslash => Bytes.ofText "invalid backslash at end of string in -S"
  | .badSequence b => Bytes.ofText "invalid sequence '\\" ++ b :: Bytes.ofText "' in -S"
  | .endWithinMarks => Bytes.ofText "'\\c' must not appear in double-quoted -S string"
  | .badVariable text =>
    Bytes.ofText "only $\x7bVARNAME\x7d expansion is supported, error at: " ++ text

/-- A text that is being divided: the words, the last one first, and
whether the next byte begins another one. -/
structure Words where
  words : List Bytes := []
  atStart : Bool := true

/-- Begins a word if one has to begin. -/
def Words.begin (w : Words) : Words :=
  if w.atStart then ⟨[] :: w.words, false⟩ else w

/-- Adds bytes to the last word. -/
def Words.add (w : Words) (bytes : Bytes) : Words :=
  match w.begin with
  | ⟨word :: words, atStart⟩ => ⟨(word ++ bytes) :: words, atStart⟩
  | w => w

/-- The words in order. -/
def Words.toList (w : Words) : List Bytes := w.words.reverse

/-- The name between braces behind a dollar sign. -/
def name? (text : Bytes) : Option Bytes :=
  let isLetter (b : UInt8) : Bool := (65 ≤ b && b ≤ 90) || (97 ≤ b && b ≤ 122) || b == 95
  let isDigit (b : UInt8) : Bool := 48 ≤ b && b ≤ 57
  match text with
  | 36 :: 123 :: rest =>
    let name := rest.takeWhile fun b => isLetter b || isDigit b
    if (rest.drop name.length).head? = some 125 && name.head?.any isLetter then some name
    else none
  | _ => none

/-- Divides a text, given the quotation mark that it stands behind. -/
def divide (value? : Bytes → Option Bytes) : Nat → Option UInt8 → Words → Bytes →
    Except Fault Words
  | 0, _, w, _ => .ok w
  | fuel + 1, mark?, w, text =>
    match text with
    | [] => if mark?.isSome then .error .unclosed else .ok w
    | b :: rest =>
      let on := divide value? fuel
      let marked (mark : UInt8) : Except Fault Words :=
        if mark? = some b then on none w.begin rest
        else if mark?.isNone then on (some mark) w.begin rest
        else on mark? (w.add [b]) rest
      match Char.ofUInt8 b with
      | '\x27' => marked 39
      | '"' => marked 34
      | ' ' | '\t' | '\n' | '\x0b' | '\x0c' | '\r' =>
        if mark?.isSome then on mark? (w.add [b]) rest
        else on mark? { w with atStart := true } rest
      | '#' => if w.atStart then .ok w else on mark? (w.add [b]) rest
      | '\\' =>
        let isText := mark? = some 39 && rest.head? != some 92 && rest.head? != some 39
        if isText then on mark? (w.add [b]) rest
        else match rest with
          | [] => .error .endingBackslash
          | c :: rest =>
            match Char.ofUInt8 c with
            | '"' | '#' | '$' | '\x27' | '\\' => on mark? (w.add [c]) rest
            | '_' =>
              if mark? = some 34 then on mark? (w.add [32]) rest
              else on mark? { w with atStart := true } rest
            | 'c' => if mark? = some 34 then .error .endWithinMarks else .ok w
            | 'f' => on mark? (w.add [12]) rest
            | 'n' => on mark? (w.add [10]) rest
            | 'r' => on mark? (w.add [13]) rest
            | 't' => on mark? (w.add [9]) rest
            | 'v' => on mark? (w.add [11]) rest
            | _ => .error (.badSequence c)
      | '$' =>
        if mark? = some 39 then on mark? (w.add [b]) rest
        else match name? text with
          | none => .error (.badVariable text)
          | some name =>
            let w := match value? name with
              | some value => w.add value
              | none => w
            on mark? w (text.drop (name.length + 3))
      | _ => on mark? (w.add [b]) rest

end Division

-- ================================================================= options

/-- An option of `env`. -/
inductive Choice
  | clean
  | unset
  | directory
  | division
  | nul
  | tells
  deriving DecidableEq, Repr

/-- The options. -/
def switches : List (Switch Choice) :=
  [{ letter? := some 'i', names := ["ignore-environment"], meaning := .clean },
    { letter? := some '0', names := ["null"], meaning := .nul },
    { letter? := some 'u', names := ["unset"], takesText := true, meaning := .unset },
    { letter? := some 'C', names := ["chdir"], takesText := true, meaning := .directory },
    { letter? := some 'S', names := ["split-string"], takesText := true, meaning := .division },
    { letter? := some 'v', names := ["debug"], meaning := .tells }]

/-- Why the arguments are refused. -/
inductive Fault
  | option (fault : OptionFault)
  | division (fault : Division.Fault)

/-- Reads the options in front of the operands. -/
def readOptions (value? : Bytes → Option Bytes) : Nat → List Bytes →
    Except Fault (List (Choice × Bytes) × List Bytes)
  | 0, operands => .ok ([], operands)
  | fuel + 1, arguments =>
    match Options.next switches arguments with
    | .error fault => .error (.option fault)
    | .ok .operand => .ok ([], arguments)
    | .ok (.finish operands) => .ok ([], operands)
    | .ok (.options found behind) => do
      let behind ← match found.lookup .division with
        | none => pure behind
        | some text =>
          match Division.divide value? (text.length + 1) none {} text with
          | .error fault => throw (.division fault)
          | .ok words => pure (words.toList ++ behind)
      let (more, operands) ← readOptions value? fuel behind
      return (found ++ more, operands)

-- ================================================================= program

/-- Complains, and gives the code of one who runs nothing. -/
def refuse (program : Program) (text : Bytes) : Activity Outcome := do
  complain program text
  return .exited 125

/-- Reports a step, if asked. -/
def tell (isAsked : Bool) (text : Bytes) : Activity Unit :=
  if isAsked then Activity.complain text else return

/-- The names of the variables to take away. -/
def unsetNames (choices : List (Choice × Bytes)) : List Bytes :=
  if choices.any (·.1 == .clean) then [] else (choices.filter (·.1 == .unset)).map (·.2)

/-- The texts of the steps that set the variables, and the variables. -/
def setUp (choices : List (Choice × Bytes)) (assignments vars : List Bytes) :
    List Bytes × List Bytes :=
  let isClean := choices.any (·.1 == .clean)
  let names := unsetNames choices
  let vars := names.foldl (fun vars name => unset name vars) (if isClean then [] else vars)
  let told := (if isClean then [Bytes.ofText "cleaning environ"] else [])
    ++ names.map (Bytes.ofText "unset:    " ++ ·)
    ++ assignments.map (Bytes.ofText "setenv:   " ++ ·)
  (told, assignments.foldl (fun vars line => assign line vars) vars)

/-- Runs a program, in another directory if asked. -/
def start (program : Program) (choices : List (Choice × Bytes)) (name : Bytes)
    (arguments : List Bytes) : Activity Outcome := do
  let tells := choices.any (·.1 == .tells)
  let p ← get
  if let some (_, path) := choices.findRev? (·.1 == .directory) then
    tell tells (Bytes.ofText "chdir:    " ++ quoted path)
    match p.system.files.enter p.directory path with
    | .ok directory => set { p with directory }
    | .error e =>
      return ← refuse program
        (Bytes.ofText "cannot change directory to " ++ quoted path ++ Bytes.ofText (": " ++ e.reason))
  tell tells (Bytes.ofText "executing: " ++ name)
  for (argument, i) in (name :: arguments).zipIdx do
    tell tells (Bytes.ofText s!"   arg[{i}]= " ++ quotedMarked argument)
  match (← get).setting.execute true name arguments with
  | .ok next => return .becomes next
  | .error e =>
    complain program (quotedMarked name ++ Bytes.ofText (": " ++ e.reason))
    if e != .noEntry then return .exited 126
    if name.any fun b => b == 32 || (9 ≤ b && b ≤ 13) then
      complain program (Bytes.ofText "use -[v]S to pass options in shebang lines")
    return .exited 127

/-- The program. -/
def run (program : Program) : Activity Outcome := do
  let p ← get
  let value? (name : Bytes) : Option Bytes := p.value? (Utf8.lossy name)
  let fuel := program.arguments.flatten.length + program.arguments.length + 1
  match readOptions value? fuel program.arguments with
  | .error (.division fault) => refuse program fault.message
  | .error (.option fault) =>
    complain program fault.message
    if let .noLetter b := fault then
      if b == 32 || (9 ≤ b && b ≤ 13) then
        complain program (Bytes.ofText "use -[v]S to pass options in shebang lines")
    pointToHelp program
    return .exited 125
  | .ok (choices, operands) =>
    let (choices, operands) : List (Choice × Bytes) × List Bytes := match operands with
      | [45] :: operands => ((.clean, []) :: choices, operands)
      | operands => (choices, operands)
    let assignments := operands.takeWhile (·.contains 61)
    let (told, vars) := setUp choices assignments p.vars
    for text in told do tell (choices.any (·.1 == .tells)) text
    let isNoName (name : Bytes) : Bool := name.isEmpty || name.contains 61
    if let some name := (unsetNames choices).find? isNoName then
      return ← refuse program
        (Bytes.ofText "cannot unset " ++ quotedMarked name ++ Bytes.ofText ": Invalid argument")
    modify ({ · with vars })
    let ending : Bytes := if choices.any (·.1 == .nul) then [0] else [10]
    match operands.drop assignments.length with
    | [] =>
      if choices.any (·.1 == .directory) then
        complainOfUse program (Bytes.ofText "must specify command with --chdir (-C)")
        return .exited 125
      else if ← printed program (vars.flatMap (· ++ ending)) then return .exited 0
      else return .exited 125
    | name :: arguments =>
      if ending = [0] then
        complainOfUse program (Bytes.ofText "cannot specify --null (-0) with command")
        return .exited 125
      else start program choices name arguments

end LineShell.Host.Tool.Environment

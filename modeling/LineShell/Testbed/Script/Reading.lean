/-
Reading the bytes of a script. An input gives its bytes one by one, and
takes back those that were looked at in vain. NUL bytes are no part of a
script. With the option `v` each line is shown as it is read.

A backslash before a newline joins two lines, except between single
quotes, in comments and in some texts: hence `nextJoined` beside `next`.
-/
import LineShell.Testbed.Script.Shell

namespace LineShell.Script

open Host (Process)

-- ================================================================= inputs

/-- Changes the input that is read first. -/
def changeInput (f : Input → Input) : Act Unit :=
  changeReader fun r => { r with inputs := match r.inputs with
    | [] => []
    | input :: inputs => f input :: inputs }

/-- Reads an input before the others. -/
def pushInput (input : Input) : Act Unit :=
  changeReader (·.push input)

/-- Reads a text before all else. -/
def pushText (text : Bytes) : Act Unit :=
  pushInput { origin := .nowhere, block := text.filter (· != 0) }

/-- Leaves the input that is read first. -/
def popInput : Act Unit :=
  changeReader fun r => { r with inputs := r.inputs.drop 1 }

/-- The line that is being read. -/
def lineNumber : Act Nat :=
  look fun sh => match sh.reader.inputs with
    | input :: _ => input.lineNumber
    | [] => 0

/-- Counts a line. -/
def countLine : Act Unit :=
  changeInput fun input => { input with lineNumber := input.lineNumber + 1 }

/-- Asks for the next line of a command, if lines are asked for. -/
def askForLine : Act Unit := do
  if let some text ← look (·.reader.asking?) then
    changeReader ({ · with isDue := false })
    let _ ← write 2 text

/-- Asks for a line if that is due. -/
def askIfDue : Act Unit := do
  if ← look (·.reader.isDue) then askForLine

/-- Counts a line in the middle of something, which goes on at once. -/
def goToNextLine : Act Unit := do
  countLine
  askForLine

/-- Counts a line behind which more may be read. -/
def endLine : Act Unit := do
  countLine
  changeReader fun r => { r with isDue := r.asking?.isSome }

-- ================================================================== bytes

/-- How many bytes of a script are read at a time. -/
def blockSize : Nat := 8192

/-- Reads more of an input from where it goes on. -/
def readBlock (origin : Origin) : Act Bytes := do
  let index? ← match origin with
    | .nowhere => pure none
    | .opened index => pure (some index)
    | .standardInput => look (·.process.descriptor? 0)
  match index? with
  | none => return []
  | some index => return (← readFile index blockSize).toOption.getD []

/-- Cuts the first line off a block, with its newline. -/
def cutLine (block : Bytes) : Bytes × Bytes :=
  let line := block.takeWhile (· != 10)
  match block.drop line.length with
  | newline :: rest => (line ++ [newline], rest)
  | [] => (line, [])

/-- Gets a line into the input that is read first; says whether there was
one. -/
def readLine : Act Bool :=
  repeatFrom () fun () => do
    match ← look (·.reader.inputs) with
    | [] => pure (.inr false)
    | input :: _ =>
      if !input.block.isEmpty then
        let (line, block) := cutLine input.block
        changeInput fun input => { input with line, block }
        if input.origin != .nowhere && (← isOn 'v') then
          let _ ← write 2 line
        pure (.inr true)
      else
        let bytes ← readBlock input.origin
        if bytes.isEmpty then pure (.inr false)
        else
          changeInput fun input => { input with block := bytes.filter (· != 0) }
          pure (.inl ())

/-- Takes the next byte, if there is one. -/
def next : Act (Option UInt8) :=
  repeatFrom () fun () => do
    match ← look (·.reader.inputs) with
    | [] => pure (.inr none)
    | input :: _ =>
      match input.unread, input.pushed, input.line with
      | b :: unread, _, _ =>
        changeInput ({ · with unread })
        pure (.inr (some b))
      | [], pushed :: others, _ =>
        match pushed.rest with
        | b :: rest =>
          changeInput ({ · with pushed := { pushed with rest } :: others })
          pure (.inr (some b))
        | [] =>
          changeInput ({ · with pushed := others })
          if pushed.endsInBlank then
            changeReader fun r => { r with heed := { r.heed with aliases := true } }
          pure (.inl ())
      | [], [], b :: line =>
        changeInput ({ · with line })
        pure (.inr (some b))
      | [], [], [] => if ← readLine then pure (.inl ()) else pure (.inr none)

/-- Hands a byte back, or the end of the input. -/
def giveBack (b : Option UInt8) : Act Unit :=
  match b with
  | none => pure ()
  | some b => changeInput fun input => { input with unread := b :: input.unread }

/-- Takes the next byte, where joined lines are one. -/
def nextJoined : Act (Option UInt8) :=
  repeatFrom () fun () => do
    let b ← next
    if b != some 92 then return .inr b
    let following ← next
    if following = some 10 then
      goToNextLine
      return .inl ()
    giveBack following
    return .inr b

/-- Whether the name of an alias is being replaced already. -/
def isPushed (name : Bytes) : Act Bool :=
  look fun sh => sh.reader.inputs.any fun input => input.pushed.any (·.name == name)

-- ================================================================= errors

/-- Breaks off because the script is malformed. -/
def failReading {α : Type} (text : String) : Act α := do
  let line ← lineNumber
  change ({ · with errorLine := line })
  fail (lit ("Syntax error: " ++ text))

/-- Breaks off because of a token. -/
def failAt {α : Type} (token : Token) (expected : Option String) : Act α :=
  let text := token.text ++ " unexpected" ++ match expected with
    | some name => " (expecting " ++ name ++ ")"
    | none => ""
  failReading (String.ofList (text.toList.take 63))

end LineShell.Script

/-
Reading the tokens of a script.

A word is read by a machine with a stack. Its frames say how bytes are
taken at the moment: plain, between quotation marks of either kind, or in
arithmetic (`Frame`); what has been begun and not ended is kept beside
them with the parts that stood before it (`Construct`). The word within
`${ }` continues the frame it stands in, unless it is a pattern or stands
between double quotation marks that were opened within another `${ }`.

The commands in `$( )` and between backquotes are read by the reader of
commands, which is given as an argument.
-/
import LineShell.Testbed.Script.Reading

namespace LineShell.Script

/-- How bytes are taken. -/
inductive Quoting
  | plain
  | double
  | single
  | arithmetic
  deriving DecidableEq, Repr

/-- A frame of the machine. -/
structure Frame where
  quoting : Quoting
  /-- Whether a backslash is taken as between double quotation marks. -/
  isDouble : Bool := false
  /-- Whether a double quotation mark is open within the parameter. -/
  isInner : Bool := false
  /-- Whether the frame ends with the parameter it was made for. -/
  ofParameter : Bool := false
  /-- How many parameters are open. -/
  nesting : Nat := 0
  /-- How many of them stand between double quotation marks. -/
  doubleNesting : Nat := 0
  parentheses : Nat := 0
  deriving DecidableEq, Repr

/-- Something that was begun in a word. -/
inductive Construct
  | parameter (name : Bytes) (op : Operation) (orNull : Bool)
  | arithmetic

/-- The part that a construct is with its word. -/
def Construct.close (word : Word) : Construct → Part
  | .parameter name op orNull => .parameter name op orNull word
  | .arithmetic => .arithmetic word

/-- A word that is being read. -/
structure Draft where
  frame : Frame
  outer : List Frame := []
  /-- The parts read, the latest first. -/
  parts : Word := []
  /-- What was begun, each with the parts before it. -/
  begun : List (Construct × Word) := []
  quoted : Bool := false

namespace Draft

/-- Adds a part. -/
def add (part : Part) (d : Draft) : Draft :=
  { d with parts := part :: d.parts }

/-- Adds a byte. -/
def addByte (b : UInt8) (escaped : Bool) (d : Draft) : Draft :=
  d.add (.byte b escaped)

/-- Changes the frame. -/
def onFrame (f : Frame → Frame) (d : Draft) : Draft :=
  { d with frame := f d.frame }

/-- Goes into a new frame. -/
def enter (frame : Frame) (d : Draft) : Draft :=
  { d with frame, outer := d.frame :: d.outer }

/-- Goes back to the frame before. -/
def leave (d : Draft) : Draft :=
  match d.outer with
  | frame :: outer => { d with frame, outer }
  | [] => d

/-- Begins a construct. -/
def begin (c : Construct) (d : Draft) : Draft :=
  { d with parts := [], begun := (c, d.parts) :: d.begun }

/-- Ends the construct that was begun last. -/
def close (d : Draft) : Draft :=
  match d.begun with
  | (c, before) :: begun => { d with parts := c.close d.parts.reverse :: before, begun }
  | [] => d

end Draft

/-- What a text that ends with a line of its own is read with. -/
structure TextEnd where
  line : Bytes
  dropTabs : Bool
  deriving DecidableEq, Repr

/-- The bytes that are escaped between quotation marks. -/
def escapedInQuotes : Bytes := lit "!*?[=~:/-]"

/-- The bytes that end a plain word. -/
def wordEnds : Bytes := lit "<>();&| \t"

/-- The parameters that are no names. -/
def specialParameters : Bytes := lit "#?$!-*@0123456789"

/-- A reader of the commands in a word: up to a closing parenthesis, or
all of an input. -/
abbrev CommandReader := Act (Option Command)

-- ============================================================= parameters

/-- Takes bytes as long as they fit, from the first one; gives them and
the byte after them. -/
def takeBytes (fits : UInt8 → Bool) (first : Option UInt8) : Act (Bytes × Option UInt8) :=
  repeatFrom (([] : Bytes), first) fun (taken, b?) => do
    match b? with
    | some b => if fits b then return .inl (b :: taken, ← nextJoined)
                else return .inr (taken.reverse, b?)
    | none => return .inr (taken.reverse, b?)

/-- The name of a parameter as it was read. -/
structure NameRead where
  name : Bytes
  /-- The byte behind the name. -/
  following : Option UInt8
  /-- Whether the length is asked for. -/
  isLength : Bool := false
  /-- Whether there was a name. -/
  isGood : Bool := true

/-- Reads the name of a parameter, of which a byte was read. -/
def readParameterName (inBraces : Bool) (first : Option UInt8) : Act NameRead := do
  let ordinary? (isLength : Bool) (b? : Option UInt8) : Act (Option NameRead) := do
    match b? with
    | some b =>
      if beginsName b then
        let (name, following) ← takeBytes inName (some b)
        return some { name, following, isLength }
      else if isDigit b then
        if inBraces then
          let (name, following) ← takeBytes isDigit (some b)
          return some { name, following, isLength }
        else return some { name := [b], following := ← nextJoined, isLength }
      else return none
    | none => return none
  if let some read ← ordinary? false first then return read
  if first = some 125 then return { name := [], following := first, isGood := false }
  let special (isLength : Bool) (b? following : Option UInt8) : NameRead :=
    match b? with
    | some b =>
      if specialParameters.contains b then { name := [b], following, isLength }
      else { name := [], following, isGood := false }
    | none => { name := [], following, isGood := false }
  let second ← nextJoined
  if inBraces && first = some 35 then
    if let some read ← ordinary? true second then return read
    let third ← nextJoined
    if second = some 125 || third != some 125 then
      giveBack third
      return special false first second
    else return special true second third
  else return special false first second

/-- Reads the operation on a parameter in braces, of which the first byte
was read: the operation, and whether an empty value counts as none. -/
def readOperation (first : Option UInt8) : Act (Operation × Bool) := do
  let simple (b : Option UInt8) : Operation :=
    match b.map Char.ofUInt8 with
    | some '}' => .value
    | some '-' => .orElse
    | some '+' => .whenSet
    | some '?' => .demand
    | some '=' => .orAssign
    | _ => .malformed
  match first.map Char.ofUInt8 with
  | some ':' => return (simple (← nextJoined), true)
  | some '%' | some '#' =>
    let second ← nextJoined
    if second != first then giveBack second
    return (.trim (first == some 35) (second == first), false)
  | _ => return (simple first, false)

/-- Goes on in a parameter that has more to it than a name. -/
def Draft.beginParameter (name : Bytes) (op : Operation) (orNull : Bool) (d : Draft) : Draft :=
  let quoting := match op with
    | .trim _ _ => .plain
    | _ => d.frame.quoting
  let quoting := if quoting = .arithmetic then .double else quoting
  let d :=
    if quoting != d.frame.quoting || d.frame.isInner then
      d.enter { quoting, isDouble := quoting != .plain, ofParameter := true }
    else d
  (d.onFrame fun frame =>
    { frame with
      nesting := frame.nesting + 1
      doubleNesting := frame.doubleNesting + (if frame.isDouble then 1 else 0) }).begin
        (.parameter name op orNull)

/-- Reads a parameter, of which a byte after the dollar sign was read. -/
def readParameter (first : Option UInt8) (d : Draft) : Act Draft := do
  let inBraces := first = some 123
  let first ← if inBraces then nextJoined else pure first
  let read ← readParameterName inBraces first
  if !read.isGood then
    giveBack read.following
    return d.beginParameter read.name .malformed false
  else if !inBraces then
    giveBack read.following
    return d.add (.parameter read.name .value false [])
  else if read.isLength then
    giveBack read.following
    let op := if read.following = some 125 then Operation.length else .malformed
    return d.beginParameter read.name op false
  else
    let (op, orNull) ← readOperation read.following
    if op = .value && !orNull then return d.add (.parameter read.name .value false [])
    else return d.beginParameter read.name op orNull

-- ============================================================== the machine

/-- Reads the text between backquotes. -/
def readBackquoted (isDouble : Bool) : Act Bytes :=
  repeatFrom ([] : Bytes) fun taken => do
    match ← nextJoined with
    | none => failReading "EOF in backquote substitution"
    | some 96 => return .inr taken.reverse
    | some 92 =>
      match ← next with
      | none => failReading "EOF in backquote substitution"
      | some b =>
        let stands := b == 92 || b == 96 || b == 36 || (isDouble && b == 34)
        return .inl (b :: (if stands then taken else 92 :: taken))
    | some 10 =>
      goToNextLine
      return .inl (10 :: taken)
    | some b => return .inl (b :: taken)

/-- Whether the text ends here: the next line is the one that ends it. If
not, nothing has been read but tabs that are dropped. -/
def atTextEnd (e : TextEnd) (first : Option UInt8) : Act (Bool × Option UInt8) := do
  let first ← if e.dropTabs then
      repeatFrom first fun b => do
        if b = some 9 then return .inl (← next) else return .inr b
    else pure first
  let (taken, last) ← repeatFrom (([] : Bytes), first) fun (taken, b?) => do
    match b? with
    | some b =>
      if e.line[taken.length]? = some b then return .inl (b :: taken, ← next)
      else return .inr (taken, b?)
    | none => return .inr (taken, b?)
  if taken.length = e.line.length && (last = none || last = some 10) then
    if last = some 10 then endLine
    return (true, none)
  match taken.reverse with
  | [] => return (false, last)
  | b :: more =>
    giveBack last
    changeInput fun input => { input with unread := more ++ input.unread }
    return (false, some b)

/-- What is found after a dollar sign. -/
def readDollar (commands : CommandReader) (closed : Act Unit) (d : Draft) : Act Draft := do
  let b ← nextJoined
  let isParameter := match b with
    | some b => b == 40 || b == 123 || beginsName b || specialParameters.contains b
    | none => false
  if !isParameter || (← look (·.reader.heed.textEnd)) then
    giveBack b
    return d.addByte 36 false
  else if b = some 40 then
    let second ← nextJoined
    if second = some 40 then
      return (d.enter { quoting := .arithmetic, isDouble := true }).begin .arithmetic
    else
      giveBack second
      let body ← commands
      closed
      return d.add (.commands body)
  else readParameter b d

/-- A quotation mark in a word. -/
def Draft.toggle (textEnd? : Option TextEnd) (isDouble : Bool) (d : Draft) : Draft :=
  let d := if isDouble && d.frame.nesting != 0 then
      d.onFrame fun frame => { frame with isInner := !frame.isInner }
    else d
  if textEnd?.isSome then d else d.add .mark

/-- One byte of a word: the word goes on, or the byte is the one behind
it. -/
def readByte (commands : CommandReader) (closed : Act Unit) (textEnd? : Option TextEnd)
    (b : UInt8) (d : Draft) : Act (Option Draft) := do
  let backslash : Act (Option Draft) := do
    match ← next with
    | none => return some (d.addByte 92 true)
    | some c =>
      let stays := d.frame.isDouble && c != 92 && c != 96 && c != 36
        && (c != 34 || (textEnd?.isSome && d.frame.nesting = 0))
        && (c != 125 || d.frame.nesting = 0)
      let d := if stays then d.addByte 92 true else d
      return some { d.addByte c true with quoted := true }
  let dollar : Act (Option Draft) := some <$> readDollar commands closed d
  let backquote : Act (Option Draft) := do
    if ← look (·.reader.heed.textEnd) then return some (d.addByte b false)
    pushText (← readBackquoted d.frame.isDouble)
    let asking? ← look (·.reader.asking?)
    changeReader ({ · with asking? := none })
    let body ← commands
    changeReader ({ · with asking? })
    popInput
    changeReader ({ · with isBack := false })
    return some (d.add (.commands body))
  let brace : Act (Option Draft) := do
    if d.frame.isInner || d.frame.nesting = 0 then return some (d.addByte b false)
    let d := d.onFrame fun frame => { frame with nesting := frame.nesting - 1 }
    let d := if d.frame.nesting = 0 && d.frame.ofParameter then d.leave
      else d.onFrame fun frame => { frame with doubleNesting := frame.doubleNesting - 1 }
    return some d.close
  let endQuote : Act (Option Draft) := do
    if textEnd?.isSome && d.frame.nesting = 0 then return some (d.addByte b false)
    let d := if d.frame.doubleNesting = 0 then
        d.onFrame fun frame => { frame with quoting := .plain, isDouble := false }
      else d
    return some ({ d with quoted := true }.toggle textEnd? (b == 34))
  match d.frame.quoting, Char.ofUInt8 b with
  | .plain, '\\' | .double, '\\' | .arithmetic, '\\' => backslash
  | .plain, '$' | .double, '$' | .arithmetic, '$' => dollar
  | .plain, '\x60' | .double, '\x60' | .arithmetic, '\x60' => backquote
  | .plain, '}' | .double, '}' | .arithmetic, '}' => brace
  | .plain, '\'' =>
    return some ((d.onFrame ({ · with quoting := .single })).toggle textEnd? false)
  | .plain, '\"' =>
    return some ((d.onFrame ({ · with quoting := .double, isDouble := true })).toggle
      textEnd? true)
  | .double, '\"' | .single, '\'' => endQuote
  | .plain, _ =>
    if wordEnds.contains b && d.frame.nesting = 0 then return none
    else return some (d.addByte b false)
  | .double, _ => return some (d.addByte b (escapedInQuotes.contains b))
  | .single, _ => return some (d.addByte b (b == 92 || escapedInQuotes.contains b))
  | .arithmetic, '(' =>
    let d := d.onFrame fun frame => { frame with parentheses := frame.parentheses + 1 }
    return some (d.addByte b false)
  | .arithmetic, ')' =>
    if d.frame.parentheses > 0 then
      let d := d.onFrame fun frame => { frame with parentheses := frame.parentheses - 1 }
      return some (d.addByte b false)
    else
      let second ← nextJoined
      if second = some 41 then return some d.close.leave
      else
        giveBack second
        return some (d.addByte b false)
  | .arithmetic, _ => return some (d.addByte b false)

/-- The part that a byte is which has no meaning of its own, however many
parameters are open. -/
def Quoting.part? (q : Quoting) (b : UInt8) : Option Part :=
  let isMeant := match q with
    | .plain => b == 39 || b == 34 || wordEnds.contains b
    | .double => b == 34
    | .single => b == 39
    | .arithmetic => b == 40 || b == 41
  if isMeant || b == 10 || b == 36 || b == 92 || b == 96 || b == 125 then none
  else
    let isQuoted := q = .double || q = .single
    some (.byte b (isQuoted && escapedInQuotes.contains b))

/-- Adds the parts that the first bytes of a line are, as long as they
have no meaning of their own; gives the rest of the line too. -/
def Draft.addRun (d : Draft) : Bytes → Draft × Bytes
  | [] => (d, [])
  | b :: line =>
    match d.frame.quoting.part? b with
    | some part => (d.add part).addRun line
    | none => (d, b :: line)

/-- Reads on in the line as long as no byte has a meaning of its own. -/
def Draft.readRun (d : Draft) : Act Draft := do
  match ← look (·.reader.inputs) with
  | [] => return d
  | input :: _ =>
    if !input.unread.isEmpty || !input.pushed.isEmpty then return d
    let (d, line) := d.addRun input.line
    changeInput ({ · with line })
    return d

/-- Takes the next byte of a word. -/
def Draft.nextByte (d : Draft) : Act (Option UInt8) :=
  if d.frame.quoting = .single then next else nextJoined

/-- Reads a word from its first byte on; gives it with the byte behind it.
A text with an end of its own is read up to that. -/
def readParts (commands : CommandReader) (closed : Act Unit) (quoting : Quoting)
    (textEnd? : Option TextEnd) (first : Option UInt8) : Act (Draft × Option UInt8) := do
  let lineStart (b : Option UInt8) : Act (Option UInt8) := do
    match textEnd? with
    | some e => return (← atTextEnd e b).2
    | none => return b
  let start : Draft := { frame := { quoting, isDouble := quoting = .double } }
  let (d, last) ← repeatFrom (start, ← lineStart first) fun (d, b?) => do
    match b? with
    | none => return .inr (d, b?)
    | some 10 =>
      if d.frame.quoting = .plain && d.frame.nesting = 0 then return .inr (d, b?)
      goToNextLine
      let d := d.addByte 10 false
      return .inl (d, ← lineStart (← d.nextByte))
    | some b =>
      match ← readByte commands closed textEnd? b d with
      | some d =>
        let d ← d.readRun
        return .inl (d, ← d.nextByte)
      | none => return .inr (d, b?)
  if d.frame.quoting = .arithmetic then failReading "Missing '))'"
  else if d.frame.quoting != .plain && textEnd?.isNone then
    failReading "Unterminated quoted string"
  else if d.frame.nesting != 0 then failReading "Missing '\x7d'"
  else return ({ d with parts := d.parts.reverse }, last)

-- ================================================================= tokens

/-- Reads what follows an arrow of a redirection. -/
def readArrow (fd? : Option Nat) (b : UInt8) : Act Token := do
  let second ← nextJoined
  if b == 62 then
    let fd := fd?.getD 1
    match second.map Char.ofUInt8 with
    | some '>' => return .arrow fd (.file .after)
    | some '|' => return .arrow fd (.file .over)
    | some '&' => return .arrow fd .copy
    | _ =>
      giveBack second
      return .arrow fd (.file .to)
  else
    let fd := fd?.getD 0
    match second.map Char.ofUInt8 with
    | some '<' =>
      let third ← nextJoined
      if third = some 45 then return .arrow fd (.document true)
      giveBack third
      return .arrow fd (.document false)
    | some '&' => return .arrow fd .copy
    | some '>' => return .arrow fd (.file .both)
    | _ =>
      giveBack second
      return .arrow fd (.file .from)

/-- Reads a word, or a redirection that begins like one. -/
def readWord (commands : CommandReader) (closed : Act Unit) (first : UInt8) : Act Token := do
  let (d, last) ← readParts commands closed .plain none (some first)
  let isArrow := match last with
    | some b => b == 60 || b == 62
    | none => false
  let fd? := match d.parts with
    | [.byte b false] => if isDigit b then some (b.toNat - 48) else none
    | _ => none
  match last with
  | some b =>
    if isArrow && !d.quoted && (d.parts.isEmpty || fd?.isSome) then readArrow fd? b
    else
      giveBack last
      return .word d.parts d.quoted
  | none => return .word d.parts d.quoted

/-- Passes over a comment. -/
def skipComment : Act Unit :=
  repeatFrom () fun () => do
    let b ← next
    if b = none || b = some 10 then
      giveBack b
      return .inr ()
    else return .inl ()

/-- Reads a token, without regard to its meaning. -/
def readRaw (commands : CommandReader) (closed : Act Unit) : Act Token := do
  if ← look (·.reader.isBack) then
    changeReader ({ · with isBack := false })
    return ← look (·.reader.last)
  askIfDue
  let doubled (b : UInt8) (single double : Token) : Act Token := do
    let second ← nextJoined
    if second = some b then return double
    giveBack second
    return single
  let token ← repeatFrom () fun () => do
    match ← nextJoined with
    | none => return .inr .finish
    | some b =>
      match Char.ofUInt8 b with
      | ' ' | '\t' => return .inl ()
      | '#' =>
        skipComment
        return .inl ()
      | '\n' =>
        endLine
        return .inr .newline
      | '&' => return .inr (← doubled b .ampersand .andAlso)
      | '|' => return .inr (← doubled b .bar .orElse)
      | ';' => return .inr (← doubled b .semicolon .branchEnd)
      | '(' => return .inr .opening
      | ')' => return .inr .closing
      | _ => return .inr (← readWord commands closed b)
  changeReader ({ · with last := token })
  return token

end LineShell.Script

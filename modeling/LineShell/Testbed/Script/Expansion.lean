/-
Replacing parameters, commands and arithmetic in words by what they stand
for.

What replaced something between quotation marks is quoted, and is neither
split nor matched; what replaced something outside of them is a region
that is split into fields (`Region`). A word that stands in for a
parameter is split where it is not quoted itself.

The output of commands is asked for through `substitute`.
-/
import LineShell.Testbed.Files
import LineShell.Testbed.Script.Bindings
import LineShell.Testbed.Script.Fields
import LineShell.Testbed.Script.Glob

namespace LineShell.Script

/-- How a word is expanded. -/
structure Manner where
  /-- Whether the result is split into fields. -/
  full : Bool := false
  /-- Whether a tilde at the start is replaced. -/
  tilde : Bool := false
  /-- Whether tildes behind an equals sign and colons are replaced. -/
  assignmentTildes : Bool := false
  /-- Whether the word stands in for a parameter. -/
  standsIn : Bool := false
  quoted : Bool := false
  deriving DecidableEq, Repr

/-- Gives the output of commands. -/
abbrev Substitute := Option Command → Act Bytes

/-- An expansion, which extends a text. -/
abbrev Expanding := StateT Expanded Act

namespace Expanding

/-- Adds bytes, quoted or not. -/
def addBytes (quoted : Bool) (bytes : Bytes) : Expanding Unit :=
  modify (·.add (Glyph.ofBytes quoted bytes))

/-- How much text there is. -/
def size : Expanding Nat := do return (← get).size

/-- Makes the text from a place on a region. -/
def markRegion (start : Nat) (argumentsOnly : Bool) : Expanding Unit :=
  modify (·.mark start argumentsOnly)

end Expanding

open Expanding

-- ============================================================= parameters

/-- The letters of options, in the order in which `$-` shows them. -/
def optionLetters : List Char :=
  ['u', 'b', 'a', 'C', 'E', 'V', 'v', 'x', 's', 'n', 'm', 'i', 'I', 'f', 'e']

/-- What stands between arguments that are replaced together. -/
def argumentSeparator (sh : Shell) (name : UInt8) (m : Manner) : Option UInt8 :=
  if name == 64 && m.quoted && m.full then some 0
  else
    match sh.value? (lit "IFS") with
    | none => some 32
    | some ifs => if m.full && !m.quoted then some 0 else ifs.head?

/-- The arguments, with what stands between them. -/
def joinArguments (separator : Option UInt8) : List Bytes → Bytes
  | [] => []
  | [argument] => argument
  | argument :: rest =>
    argument ++ (match separator with
      | some b => [b]
      | none => []) ++ joinArguments separator rest

/-- The value of a parameter, if it is set. -/
def Shell.parameter? (sh : Shell) (name : Bytes) (m : Manner) : Option Bytes :=
  let number (n : Nat) : Option Bytes := some (lit (toString n))
  match name with
  | [b] =>
    match Char.ofUInt8 b with
    | '$' => number sh.mainNumber
    | '?' => number sh.status
    | '#' => number sh.arguments.length
    | '!' => if sh.lastJob = 0 then none else number sh.lastJob
    | '-' => some (lit (String.ofList (optionLetters.filter sh.options.contains)))
    | '@' | '*' => some (joinArguments (argumentSeparator sh b m) sh.arguments)
    | '0' => some sh.name
    | _ => if isDigit b then sh.arguments[b.toNat - 49]? else sh.value? name
  | b :: _ =>
    if isDigit b then
      match name.foldl (fun n d => n * 10 + (d.toNat - 48)) 0 with
      | 0 => some sh.name
      | n + 1 => sh.arguments[n]?
    else sh.value? name
  | [] => none

/-- Breaks off because a parameter is not set. -/
def failUnset {α : Type} (name : Bytes) (reason : Bytes) : Act α :=
  fail (name ++ lit ": " ++ reason)

-- ================================================================== tildes

/-- The home of a user. -/
def homeOf? (sh : Shell) (user : Bytes) : Option Bytes :=
  if user.isEmpty then sh.value? (lit "HOME")
  else (Host.homes.find? fun entry => lit entry.1 == user).map fun entry => lit entry.2

/-- The end of the name behind a tilde, if what stands there is one: the
name, and the parts behind it. -/
def tildeName? (assignment : Bool) : Word → Option (Bytes × Word)
  | [] => some ([], [])
  | .byte b false :: rest =>
    if b == Path.slash || (assignment && b == 58) then some ([], .byte b false :: rest)
    else (tildeName? assignment rest).map fun (name, rest) => (b :: name, rest)
  | _ => none

/-- Replaces a tilde at the start of parts; gives what is left of them. -/
def expandTilde (assignment : Bool) (parts : Word) : Expanding Word := do
  match parts with
  | .byte 126 false :: rest =>
    match tildeName? assignment rest with
    | some (user, behind) =>
      match homeOf? (← look id) user with
      | some home =>
        addBytes true home
        return behind
      | none => return parts
    | none => return parts
  | _ => return parts

-- ================================================================ the parts

mutual

/-- Whether a malformed parameter is in parts. -/
def Word.isMalformed : Word → Bool
  | [] => false
  | part :: rest => part.isMalformed || Word.isMalformed rest

/-- Whether a malformed parameter is in a part. -/
def Part.isMalformed : Part → Bool
  | .parameter _ op _ word => op == .malformed || Word.isMalformed word
  | .arithmetic text => Word.isMalformed text
  | _ => false

end

/-- Expands parts, in a way that contained parts are expanded in. -/
abbrev Expander := Manner → Word → Expanding Unit

/-- Leaves parts out. A malformed one is an error all the same. -/
def passOver (word : Word) : Expanding Unit := do
  if Word.isMalformed word then (fail (lit "Bad substitution") : Act Unit)

/-- Expands a word on its own. -/
def apart (expand : Expander) (m : Manner) (word : Word) : Expanding Expanded := do
  let outer ← get
  set ({} : Expanded)
  expand m word
  let inner ← get
  set outer
  return inner

/-- Makes what a parameter was replaced by a region, if it is to be one. -/
def markParameter (name : Bytes) (quoted : Bool) (start : Nat) : Expanding Unit := do
  let hasArguments ← look (!·.arguments.isEmpty)
  if !quoted then markRegion start false
  else if name == [64] && hasArguments then markRegion start true

/-- Replaces a parameter. -/
def expandParameter (expand : Expander) (m : Manner) (name : Bytes) (op : Operation)
    (orNull : Bool) (word : Word) : Expanding Unit := do
  let start ← size
  let value? ← look (·.parameter? name m)
  let missing := match value? with
    | none => true
    | some value => orNull && value.isEmpty
  let value := value?.getD []
  let standIn : Expanding Unit :=
    expand { m with tilde := true, standsIn := true } word
  let plain (value : Bytes) : Expanding Unit := do
    addBytes m.quoted value
    markParameter name m.quoted start
  let requireSet : Expanding Unit := do
    if missing && (← isOn 'u') then
      (failUnset name (lit "parameter not set") : Act Unit)
  match op with
  | .malformed => (fail (lit "Bad substitution") : Act Unit)
  | .value =>
    requireSet
    if missing then return
    plain value
  | .length =>
    requireSet
    plain (lit (toString value.length))
  | .orElse =>
    if missing then standIn
    else
      passOver word
      plain value
  | .whenSet =>
    if missing then
      passOver word
      markParameter name m.quoted start
    else standIn
  | .orAssign =>
    if missing then
      let text := (← apart expand { tilde := true } word).bytes
      (assign name text : Act Unit)
      plain ((← look (·.parameter? name m)).getD [])
    else
      passOver word
      plain value
  | .demand =>
    if missing then
      let text := (← apart expand { tilde := true } word).bytes
      let reason :=
        if !word.isEmpty then text
        else lit (if orNull then "parameter not set or null" else "parameter not set")
      (failUnset name reason : Act Unit)
    else
      passOver word
      plain value
  | .trim atStart longest =>
    requireSet
    if missing then passOver word
    else
      let pattern := Pattern.ofGlyphs (← apart expand { tilde := true } word).glyphs.toList
      plain (pattern.trim atStart longest value)

/-- Replaces commands by their output. -/
def expandCommands (substitute : Substitute) (m : Manner) (body : Option Command) :
    Expanding Unit := do
  let start ← size
  let output ← substitute body
  let output := output.filter (· != 0)
  addBytes m.quoted (output.reverse.dropWhile (· == 10)).reverse
  if !m.quoted then markRegion start false

/-- Replaces arithmetic by its value. -/
def expandArithmetic (expand : Expander) (m : Manner) (text : Word) : Expanding Unit := do
  let start ← size
  let text := (← apart expand {} text).bytes
  let value ← (arithmetic text : Act Int)
  addBytes m.quoted (lit (toString value))
  if !m.quoted then markRegion start false

/-- The way through the parts of a word. -/
structure Passage where
  parts : Word
  quoted : Bool := false
  /-- Where the bytes begin that stand in for a parameter. -/
  start : Nat
  /-- Whether an equals sign was passed. -/
  behindEquals : Bool := false
  /-- Whether a tilde may be replaced next. -/
  atTilde : Bool

/-- Ends a run of bytes that stand in for a parameter. -/
def endRun (m : Manner) (p : Passage) : Expanding Unit := do
  if m.standsIn && !m.quoted && !p.quoted && p.start < (← size) then markRegion p.start false

/-- Takes one part of a word. -/
def expandPart (expand : Expander) (substitute : Substitute) (m : Manner) (p : Passage)
    (part : Part) (rest : Word) : Expanding Passage := do
  let inner := { m with tilde := false, quoted := m.quoted || p.quoted }
  let behind (parts : Word) : Expanding Passage := do
    return { p with parts, start := ← size, atTilde := false }
  match part with
  | .byte b escaped =>
    if escaped then
      endRun m p
      modify (·.add [.byte b true])
      behind rest
    else
      modify (·.add [.byte b false])
      let equals := m.assignmentTildes && !p.behindEquals && b == 61
      let atTilde := equals || (m.assignmentTildes && b == 58)
      return { p with parts := rest, behindEquals := p.behindEquals || equals, atTilde }
  | .mark =>
    match p.quoted, rest with
    | false, .parameter [64] .value false [] :: .mark :: rest =>
      endRun m p
      expandParameter expand { inner with quoted := true } [64] .value false []
      behind rest
    | _, _ =>
      endRun m p
      modify (·.add [.mark])
      return { p with parts := rest, quoted := !p.quoted, start := ← size, atTilde := false }
  | .parameter name op orNull word =>
    endRun m p
    expandParameter expand inner name op orNull word
    behind rest
  | .commands body =>
    endRun m p
    expandCommands substitute inner body
    behind rest
  | .arithmetic text =>
    endRun m p
    expandArithmetic expand inner text
    behind rest

/-- How many parts a word has at most. -/
def maxParts : Nat := 10000000

/-- Goes through parts from the left. -/
def passThrough (expand : Expander) (substitute : Substitute) (m : Manner) :
    Nat → Passage → Expanding Unit
  | 0, _ => throw (.over (.killed outOfStack))
  | fuel + 1, p => do
    let p ←
      if p.atTilde then
        let parts ← expandTilde m.assignmentTildes p.parts
        pure { p with parts, atTilde := false, start := ← size }
      else pure p
    match p.parts with
    | [] => endRun m p
    | part :: rest =>
      passThrough expand substitute m fuel (← expandPart expand substitute m p part rest)

/-- Expands parts that are so deep. -/
def expandParts (substitute : Substitute) : Nat → Expander
  | 0, _, _ => throw (.over (.killed outOfStack))
  | depth + 1, m, word => do
    passThrough (expandParts substitute depth) substitute m maxParts
      { parts := word, start := ← size, atTilde := m.tilde }

/-- How deep parts may stand within each other. -/
def maxPartDepth : Nat := 18700

/-- Expands a word. -/
def expand (substitute : Substitute) (m : Manner) (word : Word) : Act Expanded := do
  let ((), x) ← (expandParts substitute maxPartDepth m word).run {}
  return x

-- ================================================================== words

/-- The fields that a word stands for. -/
def expandFields (substitute : Substitute) (word : Word) : Act (List Bytes) := do
  let x ← expand substitute { full := true, tilde := true } word
  let sh ← look id
  return (Fields.split sh.separators none x).flatMap (pathsOf sh)

/-- The bytes that a word stands for, which is not split. -/
def expandText (substitute : Substitute) (m : Manner) (word : Word) : Act Bytes :=
  (·.bytes) <$> expand substitute m word

/-- Whether one of the patterns that a word stands for matches a text. -/
def matchesWord (substitute : Substitute) (word : Word) (text : Bytes) : Act Bool := do
  let x ← expand substitute { tilde := true } word
  return Pattern.matches? (Pattern.ofGlyphs x.glyphs.toList) text

end LineShell.Script

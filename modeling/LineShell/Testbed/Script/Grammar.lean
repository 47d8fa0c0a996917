/-
Reading commands from the tokens of a script, one complete command at a
time, so that each can be run before the next is read.

The forms of commands contain each other. Each reader below is given a
reader of what may stand within (`Within`), and `readCommands` ties them
together, as deep as its first argument says.

Texts that are redirected from (`Awaited`) begin on the line after the
one they are announced on; they are read when that line ends.
-/
import LineShell.Testbed.Script.Lexer

namespace LineShell.Script

/-- A list of commands, by what ends it. -/
inductive Extent
  /-- To the end of the line. -/
  | line
  /-- To a token that ends lists; there is at least one command. -/
  | body
  /-- To a token that ends lists; there may be no command. -/
  | rest
  /-- A single command, no list. -/
  | command
  deriving DecidableEq, Repr

/-- A reader of what stands within a command. -/
abbrev Within := Extent → Act (Option Command)

/-- How a script goes on. -/
inductive Found
  | command (c : Option Command)
  /-- There is nothing more. -/
  | nothing

-- ================================================================== texts

/-- Keeps a text that a redirection takes. -/
def keepDocument (number : Nat) (parts : Word) : Act Unit :=
  changeReader fun r => { r with documents := (number, parts) :: r.documents, lastWord := parts }

/-- Reads the texts that were announced. -/
def readDocuments (commands : CommandReader) (closed : Act Unit) : Act Unit := do
  let awaited ← look (·.reader.awaited)
  changeReader ({ · with awaited := [] })
  for a in awaited do
    askIfDue
    let textEnd : TextEnd := ⟨a.ending, a.dropTabs⟩
    let (d, _) ←
      if a.expanded then readParts commands closed .double (some textEnd) (← nextJoined)
      else readParts commands closed .single (some textEnd) (← next)
    keepDocument a.number d.parts

/-- Reads the commands in a word up to a closing parenthesis, if they have
one, apart from the texts that are awaited outside. -/
def readInner (within : Within) : CommandReader := do
  let awaited ← look (·.reader.awaited)
  changeReader ({ · with awaited := [] })
  let body ← within .rest
  changeReader ({ · with awaited })
  return body

-- ================================================================= tokens

/-- Sets what is paid heed to. -/
def heeding (heed : Heed) : Act Unit :=
  changeReader ({ · with heed })

/-- What is paid heed to where a command begins, behind newlines. -/
def atCommand : Heed := { newlines := true, keywords := true, aliases := true }

/-- Reads the closing parenthesis behind commands in a word. -/
def readClosing : Act Unit := do
  let token ← look (·.reader.last)
  changeReader ({ · with isBack := false })
  match token with
  | .closing => pure ()
  | token => failAt token (some Token.closing.text)

/-- Puts the text of an alias before the rest of the input. -/
def pushAlias (name value : Bytes) : Act Unit :=
  changeInput fun input =>
    let last := value.getLast?
    let pushed : Pushed := ⟨name, value, last = some 32 || last = some 9⟩
    if input.unread.isEmpty then { input with pushed := pushed :: input.pushed }
    else
      { input with
        unread := []
        pushed := pushed :: ⟨[], input.unread, false⟩ :: input.pushed }

/-- Reads a token, behind newlines if heed is paid to them. -/
def readBehindNewlines (within : Within) (heed : Heed) : Act Token :=
  repeatFrom () fun () => do
    match ← readRaw (readInner within) readClosing with
    | .newline =>
      if !heed.newlines then return .inr Token.newline
      readDocuments (readInner within) readClosing
      heeding {}
      return .inl ()
    | token => return .inr token

/-- Reads the next token, with heed to keywords and aliases. -/
def nextToken (within : Within) : Act Token := do
  let token ← repeatFrom (← look (·.reader.heed)) fun heed => do
    let token ← readBehindNewlines within heed
    let late ← look (·.reader.heed)
    let keywordsCount := heed.keywords || late.keywords
    let aliasesCount := heed.aliases || late.aliases
    heeding {}
    match token with
    | .word parts false =>
      changeReader ({ · with lastWord := parts })
      match Word.literal? parts with
      | none => return .inr token
      | some name =>
        if let some keyword := if keywordsCount then keywordOf? name else none then
          return .inr (.keyword keyword)
        if !aliasesCount then return .inr token
        match ← look (·.aliases.lookup name) with
        | none => return .inr token
        | some value =>
          if ← isPushed name then return .inr token
          if !value.isEmpty then pushAlias name value
          return .inl { heed with keywords := keywordsCount, aliases := aliasesCount }
    | .word parts true =>
      changeReader ({ · with lastWord := parts })
      return .inr token
    | token => return .inr token
  changeReader ({ · with last := token })
  return token

/-- Hands the last token back. -/
def handBack : Act Unit :=
  changeReader ({ · with isBack := true })

/-- Reads the texts that were announced, behind the end of a line. -/
def readAnnounced (within : Within) : Act Unit :=
  readDocuments (readInner within) readClosing

/-- Requires the next token to be a keyword. -/
def require (within : Within) (name : String) : Act Unit := do
  let token ← nextToken within
  if !token.isKeyword name then failAt token (some (Token.keyword name).text)

/-- Reads commands up to a token that ends lists; there is at least one,
unless the script ends, which is found out by what has to follow. -/
def readBody (within : Within) : Act Command := do
  return (← within .body).getD (.simple 0 [] [] [])

-- =========================================================== redirections

/-- Where a descriptor is copied from, by the word that says so. -/
def copySource (fd : Nat) (parts : Word) : Redirection :=
  match Word.literal? parts with
  | some [b] =>
    if isDigit b then .copy fd (some (b.toNat - 48))
    else if b == 45 then .copy fd none
    else .copyOf fd parts
  | _ => .copyOf fd parts

/-- Reads the word behind an arrow. -/
def readTarget (within : Within) (fd : Nat) (arrow : Arrow) : Act Redirection := do
  if let .document _ := arrow then heeding { textEnd := true }
  match ← nextToken within with
  | .word parts quoted =>
    match arrow with
    | .file direction => return .file fd direction parts
    | .copy => return copySource fd parts
    | .document dropTabs =>
      let number ← look (·.reader.documentCount)
      let awaited : Awaited :=
        { number, ending := Word.bytes parts, dropTabs, expanded := !quoted }
      changeReader fun r =>
        { r with awaited := r.awaited ++ [awaited], documentCount := number + 1 }
      return .document fd number (!quoted)
  | token => failAt token none

/-- Reads the redirections behind a command. -/
def readRedirections (within : Within) : Act (List Redirection) := do
  heeding { keywords := true, aliases := true }
  repeatFrom ([] : List Redirection) fun taken => do
    match ← nextToken within with
    | .arrow fd arrow => return .inl ((← readTarget within fd arrow) :: taken)
    | _ =>
      handBack
      return .inr taken.reverse

-- ========================================================= simple commands

/-- A simple command that is being read, the latest first. -/
structure SimpleDraft where
  assignments : List Word := []
  words : List Word := []
  redirections : List Redirection := []
  /-- Whether assignments and aliases may still come. -/
  isOpen : Bool := true

/-- The commands of the shell's own that a function cannot be named for. -/
def specialCommands : List String :=
  [".", ":", "break", "continue", "eval", "exec", "exit", "export", "readonly", "return",
    "set", "shift", "times", "trap", "unset", "local"]

/-- Reads the definition of a function, of which the name was read. -/
def readDefinition (within : Within) (name : Word) : Act Command := do
  match ← nextToken within with
  | .closing => pure ()
  | token => failAt token (some Token.closing.text)
  let bytes := (Word.literal? name).getD []
  if !isName bytes || specialCommands.contains (Utf8.lossy bytes) then
    failReading "Bad function name"
  heeding atCommand
  match ← within .command with
  | some body => return .define bytes body
  | none => failAt (← look (·.reader.last)) none

/-- Reads a simple command or the definition of a function. -/
def readSimple (within : Within) : Act Command := do
  let line ← lineNumber
  repeatFrom ({} : SimpleDraft) fun d => do
    heeding { aliases := d.isOpen }
    let ending : Act (SimpleDraft ⊕ Command) := do
      handBack
      return .inr (.simple line d.assignments.reverse d.words.reverse d.redirections.reverse)
    match ← nextToken within with
    | .word parts _ =>
      if d.isOpen && Word.isAssignment parts then
        return .inl { d with assignments := parts :: d.assignments }
      else return .inl { d with words := parts :: d.words, isOpen := false }
    | .arrow fd arrow =>
      return .inl { d with redirections := (← readTarget within fd arrow) :: d.redirections }
    | .opening =>
      match d.words, d.assignments, d.redirections with
      | [name], [], [] => return .inr (← readDefinition within name)
      | _, _, _ => ending
    | _ => ending

-- ======================================================= compound commands

/-- Reads the parts of a condition that follow its first branch: the test
and the body of each further branch, and the last body if there is one. -/
def readElse (within : Within) : Act (Option Command) := do
  let (branches, last) ← repeatFrom ([] : List (Command × Command)) fun branches => do
    match ← nextToken within with
    | .keyword "elif" =>
      let test ← readBody within
      require within "then"
      return .inl ((test, ← readBody within) :: branches)
    | .keyword "else" => return .inr (branches, some (← readBody within))
    | _ =>
      handBack
      return .inr (branches, none)
  return branches.foldl (fun otherwise (test, body) =>
    some (.conditional test body otherwise)) last

/-- Reads a loop over words. -/
def readForEach (within : Within) (line : Nat) : Act Command := do
  let name ← match ← nextToken within with
    | .word parts false => pure ((Word.literal? parts).getD [])
    | _ => pure []
  if !isName name then failReading "Bad for loop variable"
  heeding atCommand
  let token ← nextToken within
  let words ←
    if token.isKeyword "in" then
      repeatFrom ([] : List Word) fun taken => do
        match ← nextToken within with
        | .word parts _ => return .inl (parts :: taken)
        | .newline | .semicolon => return .inr taken.reverse
        | token => failAt token none
    else
      match token with
      | .semicolon => pure ()
      | _ => handBack
      pure [Word.allArguments]
  heeding atCommand
  require within "do"
  let body ← readBody within
  return .forEach line name words body

/-- Reads the patterns of a branch, of which a token was read, to the
parenthesis behind them. A token that is no word stands for the word
before it. -/
def readPatterns (within : Within) (first : Token) : Act (List Word) := do
  if let .opening := first then let _ ← nextToken within
  repeatFrom ([] : List Word) fun taken => do
    let parts ← look (·.reader.lastWord)
    match ← nextToken within with
    | .bar =>
      let _ ← nextToken within
      return .inl (parts :: taken)
    | .closing => return .inr (parts :: taken).reverse
    | token => failAt token (some Token.closing.text)

/-- Reads a choice between branches. -/
def readChoice (within : Within) (line : Nat) : Act Command := do
  let subject ← match ← nextToken within with
    | .word parts _ => pure parts
    | token => failAt token (some (Token.word [] false).text)
  heeding atCommand
  require within "in"
  let branches ← repeatFrom ([] : List Branch) fun branches => do
    heeding { newlines := true, keywords := true }
    let token ← nextToken within
    if token.isKeyword "esac" then return .inr branches.reverse
    let patterns ← readPatterns within token
    let branch := Branch.mk patterns (← within .rest)
    heeding { newlines := true, keywords := true }
    match ← nextToken within with
    | .branchEnd => return .inl (branch :: branches)
    | .keyword "esac" => return .inr (branch :: branches).reverse
    | token => failAt token (some Token.branchEnd.text)
  return .choice line subject branches

/-- Requires a token behind a compound command. -/
def requireEnd (within : Within) (expected : Token) : Act Unit := do
  let token ← nextToken within
  if token.text != expected.text then failAt token (some expected.text)

/-- A command with the redirections behind it. -/
def withRedirections (within : Within) (line : Nat) (c : Command) : Act Command := do
  match ← readRedirections within with
  | [] => return c
  | redirections =>
    match c with
    | .subshell line body _ => return .subshell line body redirections
    | c => return .redirected line c redirections

/-- Reads a command. -/
def readCommand (within : Within) : Act Command := do
  let token ← nextToken within
  let line ← lineNumber
  let compound (c : Command) (expected : String) : Act Command := do
    requireEnd within (.keyword expected)
    withRedirections within line c
  match token with
  | .keyword "if" =>
    let test ← readBody within
    require within "then"
    let body ← readBody within
    compound (.conditional test body (← readElse within)) "fi"
  | .keyword "while" | .keyword "until" =>
    let test ← readBody within
    require within "do"
    compound (.loop (token.isKeyword "until") test (← readBody within)) "done"
  | .keyword "for" => compound (← readForEach within line) "done"
  | .keyword "case" => withRedirections within line (← readChoice within line)
  | .opening =>
    let body ← readBody within
    requireEnd within .closing
    withRedirections within line (.subshell line body [])
  | .keyword "\x7b" => compound (← readBody within) "\x7d"
  | .word _ _ | .arrow _ _ =>
    handBack
    readSimple within
  | token => failAt token none

-- ================================================================== lists

/-- Reads commands joined by pipes. -/
def readPipeline (within : Within) : Act Command := do
  let isNegated ← do
    if (← nextToken within).isKeyword "!" then
      heeding { keywords := true, aliases := true }
      pure true
    else
      handBack
      pure false
  let first ← readCommand within
  let commands ← repeatFrom [first] fun taken => do
    match ← nextToken within with
    | .bar =>
      heeding atCommand
      return .inl ((← readCommand within) :: taken)
    | _ =>
      handBack
      return .inr taken.reverse
  let c := match commands with
    | [c] => c
    | commands => .pipeline commands false
  return if isNegated then .negated c else c

/-- Reads pipelines of which each depends on the one before. -/
def readAndOr (within : Within) : Act Command := do
  repeatFrom (← readPipeline within) fun c => do
    match ← nextToken within with
    | .andAlso =>
      heeding atCommand
      return .inl (.both c (← readPipeline within))
    | .orElse =>
      heeding atCommand
      return .inl (.either c (← readPipeline within))
    | _ =>
      handBack
      return .inr c

/-- A command that runs in the background. -/
def inBackground : Command → Command
  | .pipeline commands _ => .pipeline commands true
  | .redirected line body redirections => .background line body redirections
  | c => .background 0 c []

/-- Reads a list of commands. -/
def readList (within : Within) (extent : Extent) : Act Found :=
  let newlines := extent != .line
  repeatFrom ((none : Option Command), extent == .rest) fun (before, mayEnd) => do
    heeding { newlines, keywords := true, aliases := true }
    let atEnd : Act ((Option Command × Bool) ⊕ Found) := do
      readAnnounced within
      handBack
      changeReader ({ · with last := .finish })
      return .inr (if before.isNone && extent = .line then .nothing else .command before)
    match ← nextToken within with
    | .newline =>
      readAnnounced within
      return .inr (.command before)
    | .finish => atEnd
    | token =>
      handBack
      if mayEnd && newlines && token.endsList then return .inr (.command before)
      let c ← readAndOr within
      let token ← nextToken within
      let c := match token with
        | .ampersand => inBackground c
        | _ => c
      let joined := match before with
        | some before => Command.sequence before c
        | none => c
      match token with
      | .finish =>
        readAnnounced within
        handBack
        return .inr (.command (some joined))
      | .newline =>
        handBack
        return .inl (some joined, newlines)
      | .ampersand | .semicolon => return .inl (some joined, newlines)
      | token =>
        if !newlines then failAt token none
        handBack
        return .inr (.command (some joined))

/-- How deep commands may stand within each other. -/
def maxDepth : Nat := 32700

/-- Reads commands of an extent, which may stand so deep in each other. -/
def readCommands : Nat → Extent → Act (Option Command)
  | 0, _ => throw (.over (.killed outOfStack))
  | depth + 1, extent =>
    match extent with
    | .command => some <$> readCommand (readCommands depth)
    | extent => do
      match ← readList (readCommands depth) extent with
      | .command c => pure c
      | .nothing => pure none

/-- Reads the next complete command of a script; asks for its further
lines with a text, if there is one. -/
def readComplete (asking? : Option Bytes) : Act Found := do
  changeReader ({ · with isBack := false, heed := {}, awaited := [], asking?, isDue := false })
  readList (readCommands maxDepth) .line

end LineShell.Script

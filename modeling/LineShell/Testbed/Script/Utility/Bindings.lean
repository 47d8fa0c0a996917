/-
Variables, arguments, aliases and options of a shell: the commands that
set and show them.
-/
import LineShell.Testbed.Script.Fields
import LineShell.Testbed.Script.Glob
import LineShell.Testbed.Script.Utility.Options

namespace LineShell.Script.Utility

open Host (Process)

-- ================================================================ showing

/-- Variables in the order of their names. -/
def inOrder {α : Type} (entries : List (Bytes × α)) : List (Bytes × α) :=
  entries.mergeSort fun a b => Bytes.comesBefore a.1 b.1

/-- Shows variables that something holds of, each behind a word. -/
def showVariables (word : Bytes) (shown : Variable → Bool) : Act Unit := do
  for (name, v) in inOrder (← look (·.vars)) do
    if shown v then
      let start := if word.isEmpty then name else word ++ 32 :: name
      printLine (match v.value with
        | some value => start ++ 61 :: quoteAll value
        | none => start)

-- ================================================================ marking

/-- Exports variables, or makes them read-only. -/
def mark (word : String) (exported readOnly : Bool) (arguments : List Bytes) : Act Nat := do
  let (choices, arguments) ← readOptions ['p'] [] arguments
  if !choices.isEmpty || arguments.isEmpty then
    showVariables (lit word) fun v => exported && v.exported || readOnly && v.readOnly
  else
    for argument in arguments do
      match splitAssignment argument with
      | (name, some value) => setMarked name value exported readOnly
      | (name, none) => markVariable name exported readOnly
  return 0

/-- Makes variables local to the function. -/
def makeAllLocal (arguments : List Bytes) : Act Nat := do
  if (← look (·.locals)).isEmpty then fail (lit "not in a function")
  for argument in arguments do
    let (name, value?) := splitAssignment argument
    makeLocal name value? false
  return 0

/-- Takes variables or functions away. -/
def unset (arguments : List Bytes) : Act Nat := do
  let (choices, arguments) ← readOptions ['v', 'f'] [] arguments
  let functions := (choices.getLast?.map (·.letter)) == some 'f'
  for name in arguments do
    if functions then
      change fun sh => { sh with functions := sh.functions.filter (·.1 != name) }
    else unassign name
  return 0

-- ============================================================== arguments

/-- Drops arguments from the left. -/
def shift (arguments : List Bytes) : Act Nat := do
  let count ← match arguments with
    | [] => pure 1
    | argument :: _ => readCount argument
  if (← look (·.arguments.length)) < count then fail (lit "can\x27t shift that many")
  change fun sh =>
    { sh with
      arguments := sh.arguments.drop count
      optionIndex := 1
      optionOffset := none }
  return 0

/-- The options with their letters, in the order in which they are shown. -/
def optionNames : List (String × Char) :=
  [("errexit", 'e'), ("noglob", 'f'), ("ignoreeof", 'I'), ("interactive", 'i'),
    ("monitor", 'm'), ("noexec", 'n'), ("stdin", 's'), ("xtrace", 'x'), ("verbose", 'v'),
    ("vi", 'V'), ("emacs", 'E'), ("noclobber", 'C'), ("allexport", 'a'), ("notify", 'b'),
    ("nounset", 'u'), ("privileged", 'p'), ("nolog", '\x00'), ("debug", '\x01')]

/-- Sets an option, or resets it. -/
def setOption (letter : Char) (on : Bool) : Act Unit :=
  change fun sh =>
    let others := sh.options.filter (· != letter)
    { sh with options := if on then letter :: others else others }

/-- Sets an option by its letter. Of the two ways to edit lines, the letter
of one resets the other. -/
def setLetter (b : UInt8) (on : Bool) : Act Unit := do
  let letter := Char.ofUInt8 b
  if letter.toNat ≥ 32 && (optionNames.map (·.2)).contains letter then
    setOption letter on
    if on && letter == 'V' then setOption 'E' false
    if on && letter == 'E' then setOption 'V' false
  else fail (lit "Illegal option -" ++ [b])

/-- Shows the options. -/
def showOptions (on : Bool) : Act Unit := do
  let options ← look (·.options)
  if on then printLine (lit "Current option settings")
  for (name, letter) in optionNames do
    let isSet := options.contains letter
    if on then
      let space := String.ofList (List.replicate (16 - name.length) ' ')
      printLine (lit (name ++ space ++ if isSet then "on" else "off"))
    else printLine (lit ("set " ++ (if isSet then "-o " else "+o ") ++ name))

/-- Sets an option by its name. -/
def setNamed (name : Bytes) (on : Bool) : Act Unit := do
  match optionNames.lookup (Utf8.lossy name) with
  | some letter => setOption letter on
  | none => fail (lit "Illegal option -o " ++ name)

/-- What the options of a shell come to, beside what they set. -/
structure Settings where
  /-- The arguments behind the options. -/
  arguments : List Bytes
  /-- Whether the first of them is a text of commands. -/
  isCommand : Bool := false
  /-- Whether the arguments are set even if there are none. -/
  setsArguments : Bool := false
  isLogin : Bool := false
  /-- Whether it was told if jobs are to be under control. -/
  tellsControl : Bool := false

/-- The letter of the option by which jobs are under control. -/
def controlOption : Char := 'm'

/-- Gives up the control of jobs, for which there is no terminal. -/
def giveUpControl : Act Unit := do
  if ← isOn controlOption then
    warn (lit "can\x27t access tty; job control turned off")
    setOption controlOption false

/-- Sets options from the letters in an argument. -/
def readLetters (atStart on : Bool) (letters : Bytes) (s : Settings) : Act Settings :=
  repeatFrom (letters, s) fun (letters, s) => do
    match letters with
    | [] => return .inr s
    | b :: letters =>
      match Char.ofUInt8 b, atStart with
      | 'c', true => return .inl (letters, { s with isCommand := true })
      | 'l', true => return .inl (letters, { s with isLogin := true })
      | 'o', _ =>
        match s.arguments with
        | [] => showOptions on
        | name :: _ => setNamed name on
        let tells := s.arguments.head?.any fun name =>
          optionNames.lookup (Utf8.lossy name) = some controlOption
        return .inl (letters, { s with
          arguments := s.arguments.drop 1
          tellsControl := s.tellsControl || tells })
      | letter, _ =>
        setLetter b on
        return .inl (letters, { s with tellsControl := s.tellsControl || letter == controlOption })

/-- Reads the options of a shell, where it starts or for `set`. -/
def readSettings (atStart : Bool) (arguments : List Bytes) : Act Settings :=
  repeatFrom ({ arguments : Settings }) fun s => do
    match s.arguments with
    | [45] :: rest =>
      if !atStart then
        setOption 'x' false
        setOption 'v' false
      return .inr { s with arguments := rest }
    | [45, 45] :: rest => return .inr { s with arguments := rest, setsArguments := true }
    | (45 :: letters) :: rest =>
      return .inl (← readLetters atStart true letters { s with arguments := rest })
    | (43 :: letters) :: rest =>
      return .inl (← readLetters atStart false letters { s with arguments := rest })
    | _ => return .inr s

/-- Sets options and arguments, or shows the variables. -/
def set (arguments : List Bytes) : Act Nat := do
  if arguments.isEmpty then
    showVariables [] (·.value.isSome)
    return 0
  let s ← readSettings false arguments
  giveUpControl
  if s.setsArguments || !s.arguments.isEmpty then
    change fun sh =>
      { sh with arguments := s.arguments, optionIndex := 1, optionOffset := none }
  return 0

-- ================================================================ getopts

/-- Where the next option is read: the letters left of an argument, and
the arguments behind it. There is none at the end of the options. -/
inductive OptionPlace
  | letters (b : UInt8) (letters : Bytes) (behind : List Bytes)
  | finish (behind : List Bytes)

/-- Finds the place of the next option. -/
def optionPlace (arguments : List Bytes) (index : Nat) (offset : Option Nat) : OptionPlace :=
  let current := match offset with
    | some offset => if index ≤ 1 then [] else ((arguments[index - 2]?).getD []).drop offset
    | none => []
  match current, arguments.drop (index - 1) with
  | b :: letters, behind => .letters b letters behind
  | [], [45, 45] :: behind => .finish behind
  | [], (45 :: b :: letters) :: behind => .letters b letters behind
  | [], behind => .finish behind

/-- What stands behind a letter in the letters of the options, each of which
may have a colon behind it. A colon in front of all is a letter too. -/
def behindLetter? (b : UInt8) : Bytes → Option Bytes
  | [] => none
  | c :: rest =>
    if c == b then some rest
    else match rest with
      | 58 :: rest => behindLetter? b rest
      | rest => behindLetter? b rest

/-- Reads the next option into a variable. -/
def getopts (arguments : List Bytes) : Act Nat := do
  match arguments with
  | spec :: name :: rest =>
    let arguments ← if rest.isEmpty then look (·.arguments) else pure rest
    if arguments.length + 1 < (← look (·.optionIndex)) then
      change ({ · with optionIndex := 1, optionOffset := none })
    let sh ← look id
    let quiet := spec.head? = some 58
    let total := arguments.length
    let finish (behind : List Bytes) (letter : UInt8) (left : Bytes) (status : Nat) :
        Act Nat := do
      let index := total - behind.length + 1
      setMarked (lit "OPTIND") (lit (toString index)) false false
      change ({ · with optionIndex := 1, optionOffset := none })
      assign name [letter]
      let length := ((arguments[index - 2]?).getD []).length
      change ({ · with
        optionIndex := index
        optionOffset := if left.isEmpty then none else some (length - left.length) })
      return status
    let complain (text : String) (b : UInt8) : Act Unit := do
      let _ ← write 2 (lit text ++ [b])
    match optionPlace arguments sh.optionIndex sh.optionOffset with
    | .finish behind => finish behind 63 [] 1
    | .letters b letters behind =>
      match behindLetter? b spec with
      | none =>
        if quiet then assign (lit "OPTARG") [b]
        else
          let _ ← write 2 (lit "Illegal option -" ++ [b, 10])
          unassign (lit "OPTARG")
        finish behind 63 letters 0
      | some (58 :: _) =>
        match letters, behind with
        | [], [] =>
          if quiet then
            assign (lit "OPTARG") [b]
            finish behind 58 [] 0
          else
            complain "No arg for -" b
            let _ ← write 2 (lit " option\n")
            unassign (lit "OPTARG")
            finish behind 63 [] 0
        | [], value :: behind =>
          assign (lit "OPTARG") value
          finish behind b [] 0
        | value, behind =>
          assign (lit "OPTARG") value
          finish behind b [] 0
      | _ =>
        assign (lit "OPTARG") []
        finish behind b letters 0
  | _ => fail (lit "Usage: getopts optstring var [arg...]")

-- ================================================================= aliases

/-- Shows an alias. -/
def showAlias (name value : Bytes) : Act Unit :=
  printLine (name ++ 61 :: quoteAll value)

/-- Sets or shows aliases. -/
def setAliases (arguments : List Bytes) : Act Nat := do
  if arguments.isEmpty then
    for (name, value) in inGroups groupCount (← look (·.aliases)) do
      showAlias name value
    return 0
  let mut status := 0
  for argument in arguments do
    let name := argument.take 1 ++ (argument.drop 1).takeWhile (· != 61)
    match argument.drop name.length with
    | _ :: value =>
      change fun sh => { sh with aliases := putEntry name value sh.aliases }
    | [] =>
      match ← look (·.aliases.lookup argument) with
      | some value => showAlias argument value
      | none =>
        let _ ← write 2 (lit "alias: " ++ argument ++ lit " not found\n")
        status := 1
  return status

/-- Takes aliases away. -/
def unalias (arguments : List Bytes) : Act Nat := do
  let (choices, arguments) ← readOptions ['a'] [] arguments
  if !choices.isEmpty then
    change ({ · with aliases := [] })
    return 0
  let mut status := 0
  for name in arguments do
    if (← look (·.aliases.lookup name)).isSome then
      change fun sh => { sh with aliases := sh.aliases.filter (·.1 != name) }
    else
      let _ ← write 2 (lit "unalias: " ++ name ++ lit " not found\n")
      status := 1
  return status

-- ================================================================= reading

/-- A line that is being read from the input: the text, where its next
region begins, and whether the last byte was a backslash that quotes. -/
structure LineRead where
  text : Expanded := {}
  start : Nat := 0
  isBehindBackslash : Bool := false

/-- Takes a byte of a line; gives whether the line ends with it. -/
def LineRead.take (isRaw : Bool) (b : UInt8) (l : LineRead) : LineRead × Bool :=
  if b = 0 then (l, false)
  else if l.isBehindBackslash then
    let text := l.text.mark l.start false
    let text := if b = 10 then text else text.add [.byte b true]
    ({ text, start := text.size }, false)
  else if b = 92 && !isRaw then ({ l with isBehindBackslash := true }, false)
  else if b = 10 then (l, true)
  else ({ l with text := l.text.add [.byte b false] }, false)

/-- Takes a piece of a line; gives whether the line ends with it. -/
def LineRead.takeAll (isRaw : Bool) (piece : Bytes) (l : LineRead) : LineRead × Bool :=
  piece.foldl (fun (l, _) b => l.take isRaw b) (l, false)

/-- Reads a line of the input into variables. -/
def read (arguments : List Bytes) : Act Nat := do
  let (choices, names) ← readOptions ['r'] ['p'] arguments
  if names.isEmpty then fail (lit "arg count")
  let isRaw := choices.any (·.letter == 'r')
  let (line, status) ← repeatFrom ({} : LineRead) fun l => do
    let input? ← look (·.process.descriptor? 0)
    let result? ← match input? with
      | some index => awaitOrSignal (Process.tryReadFile index .line)
      | none => pure none
    match result? with
    | some (.ok (b :: piece)) =>
      match l.takeAll isRaw (b :: piece) with
      | (l, true) => return .inr (l, 0)
      | (l, false) => return .inl l
    | _ => return .inr (l, 1)
  let ifs ← look (·.separators)
  let fields := Fields.split ifs (some names.length) (line.text.mark line.start false)
  for (name, i) in names.zipIdx do
    assign name (Glyph.bytes ((fields[i]?).getD []))
  return status

end LineShell.Script.Utility

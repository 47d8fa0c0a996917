/-
The variables of a shell: looking up, assigning, marking, and making them
local to a command or function.

A variable may be marked before it is set. One that is read-only cannot
be assigned to. Some variables have an effect when they are assigned:
`PATH` makes the shell forget where commands were found, `OPTIND` makes
`getopts` start afresh.
-/
import LineShell.Testbed.Script.Arithmetic

namespace LineShell.Script

-- ================================================================= looking

/-- The entry of a variable. -/
def Shell.binding? (sh : Shell) (name : Bytes) : Option Variable :=
  sh.vars.lookup name

/-- The value of a variable, if it is set. -/
def Shell.value? (sh : Shell) (name : Bytes) : Option Bytes :=
  (sh.binding? name).bind (·.value)

/-- The bytes at which fields are split. -/
def Shell.separators (sh : Shell) : Bytes :=
  (sh.value? (lit "IFS")).getD [32, 9, 10]

/-- The group that something is kept in among so many, by the bytes of
its name, of which the first one counts most. -/
def groupOf (count : Nat) (name : Bytes) : Nat :=
  name.foldl (fun total b => total + b.toNat) ((name.headD 0).toNat * 16) % count

/-- Entries group by group, and in a group as they came up. -/
def inGroups {α : Type} (count : Nat) (entries : List (Bytes × α)) : List (Bytes × α) :=
  let grouped := entries.map fun entry => (groupOf count entry.1, entry)
  (grouped.mergeSort fun a b => a.1 ≤ b.1).map (·.2)

/-- How many groups variables are kept in, and aliases as well. -/
def groupCount : Nat := 39

/-- The lines of the variables that programs are to see. -/
def Shell.environment (sh : Shell) : List Bytes :=
  (inGroups groupCount sh.vars).filterMap fun (name, v) =>
    if v.exported then v.value.map fun value => name ++ 61 :: value else none

/-- The search path. -/
def Shell.searchPath (sh : Shell) : Bytes :=
  (sh.value? (lit "PATH")).getD []

/-- The number that a text is: decimal, not negative, and not too large. -/
def readCount (text : Bytes) : Act Nat := do
  match Arithmetic.number? false text with
  | some n => if 0 ≤ n && n ≤ 2147483647 then return n.toNat
  | none => pure ()
  fail (lit "Illegal number: " ++ text)

-- =============================================================== assigning

/-- The entries with another one of a name, in its place or at the end. -/
def putEntry {α : Type} (name : Bytes) (v : α) : List (Bytes × α) → List (Bytes × α)
  | [] => [(name, v)]
  | entry :: entries =>
    if entry.1 == name then (name, v) :: entries else entry :: putEntry name v entries

/-- Replaces the entry of a variable, or takes it away. -/
def setEntry (name : Bytes) (v? : Option Variable) : Act Unit :=
  change fun sh => { sh with vars := match v? with
    | some v => putEntry name v sh.vars
    | none => sh.vars.filter (·.1 != name) }

/-- Does what a change of a variable brings about. -/
def noteChange (name value : Bytes) : Act Unit := do
  if name == lit "PATH" then change ({ · with located := [] })
  else if name == lit "OPTIND" then
    let index ← readCount value
    change ({ · with optionIndex := if index = 0 then 1 else index, optionOffset := none })

/-- Breaks off if a variable cannot be changed. -/
def requireWritable (name : Bytes) : Act Unit := do
  if ((← look (·.binding? name)).map (·.readOnly)).getD false then
    fail (name ++ lit ": is read only")

/-- The name of the variable that a text tells, which ends at an equals
sign; breaks off if it is no name. -/
def nameIn (text : Bytes) : Act Bytes := do
  let name := text.takeWhile (· != 61)
  if !isName name then fail (name ++ lit ": bad variable name")
  return name

/-- Sets a variable, and marks it as told; marks that it has stay. -/
def setMarked (target value : Bytes) (exported readOnly : Bool) : Act Unit := do
  let name ← nameIn target
  requireWritable name
  noteChange name value
  let old := (← look (·.binding? name)).getD { value := none }
  setEntry name (some
    { value := some value
      exported := old.exported || exported || (← isOn 'a')
      readOnly := old.readOnly || readOnly })

/-- Sets a variable. -/
def assign (target value : Bytes) : Act Unit :=
  setMarked target value false false

/-- Marks a variable, set or not. -/
def markVariable (name : Bytes) (exported readOnly : Bool) : Act Unit := do
  match ← look (·.binding? name) with
  | some v =>
    setEntry name (some
      { v with exported := v.exported || exported, readOnly := v.readOnly || readOnly })
  | none => setEntry (← nameIn name) (some { value := none, exported, readOnly })

/-- Takes a variable away. -/
def unassign (target : Bytes) : Act Unit := do
  let name ← nameIn target
  requireWritable name
  if (← look (·.binding? name)).isSome then
    noteChange name (if name == lit "OPTIND" then lit "1" else [])
  setEntry name none

/-- The name and the value of an assignment; without an equals sign there
is no value. -/
def splitAssignment (text : Bytes) : Bytes × Option Bytes :=
  let name := text.takeWhile (· != 61)
  match text.drop name.length with
  | _ :: value => (name, some value)
  | [] => (name, none)

-- ========================================================= local variables

/-- Makes a variable local, and sets it if a value is given; what stands
before a value is not asked to be a name. -/
def makeLocal (name : Bytes) (value? : Option Bytes) (exported : Bool) : Act Unit := do
  let old ← look (·.binding? name)
  match value? with
  | some _ => requireWritable name
  | none => if old.isNone then let _ ← nameIn name
  change fun sh => { sh with locals := match sh.locals with
    | frame :: frames => ((name, old) :: frame) :: frames
    | [] => [] }
  match value?, old with
  | some value, _ =>
    if isName name then setMarked name value exported false
    else setEntry name (some { value := some value, exported := exported || (← isOn 'a') })
  | none, none => setEntry name (some { value := none, exported })
  | none, some _ => pure ()

/-- Runs something with variables of its own. One that was new, and is no
name, cannot be taken away, which breaks the shell off. -/
def withLocals {α : Type} (own : Bool) (act : Act α) : Act α :=
  if !own then act
  else do
    let depth ← look (·.locals.length)
    change fun sh => { sh with locals := [] :: sh.locals }
    andLast act do
      let frames ← look (·.locals)
      let ended := frames.take (frames.length - depth)
      change ({ · with locals := frames.drop (frames.length - depth) })
      for (name, old) in ended.flatten do
        if old.isNone then let _ ← nameIn name
        setEntry name old
        if name == lit "PATH" then change ({ · with located := [] })

/-- The value that a variable has as a number. -/
def numberOf (name : Bytes) : Act Int := do
  let text := (← look (·.value? name)).getD []
  match Arithmetic.number? true text with
  | some n => pure n
  | none => fail (lit "Illegal number: " ++ text)

/-- The value of an arithmetic expression. -/
def arithmetic (text : Bytes) : Act Int :=
  Arithmetic.evaluate
    { value := numberOf
      assign := fun name n => assign name (lit (toString n))
      text }

-- ================================================================= quoting

/-- A text as it can be written in a script: between single quotation
marks, with the marks in it between double ones. -/
def quoteAll (text : Bytes) : Bytes :=
  repeated (text.length + 1) text []
where
  /-- Quotes from the left, what is done standing in front. -/
  repeated : Nat → Bytes → Bytes → Bytes
    | 0, _, done => done
    | fuel + 1, text, done =>
      let plain := text.takeWhile (· != 39)
      let rest := text.drop plain.length
      let marks := rest.takeWhile (· == 39)
      let rest := rest.drop marks.length
      let done := done ++ 39 :: plain ++ [39]
      let done := if marks.isEmpty then done else done ++ 34 :: marks ++ [34]
      if rest.isEmpty then done else repeated fuel rest done

end LineShell.Script

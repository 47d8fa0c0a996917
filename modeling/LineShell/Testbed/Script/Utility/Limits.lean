/-
Limits on what a process may use: the command `ulimit`.

Each limit has a value that counts now (`soft`) and one up to which that
may be raised (`hard`), in units of the resource. They are shown and set
in larger units. Numbers are words of 64 bits, of which the largest stands
for no limit.
-/
import LineShell.Testbed.Script.Utility.Options

namespace LineShell.Script.Utility

open Host (Limit)

/-- A resource that is limited. -/
structure Resource where
  option : Char
  label : String
  /-- How large the unit is that it is shown in. -/
  unit : Nat
  deriving DecidableEq, Repr

/-- The resources, in the order in which they are shown. -/
def resources : List Resource :=
  [⟨'t', "time(seconds)", 1⟩, ⟨'f', "file(blocks)", 512⟩, ⟨'d', "data(kbytes)", 1024⟩,
    ⟨'s', "stack(kbytes)", 1024⟩, ⟨'c', "coredump(blocks)", 512⟩, ⟨'m', "memory(kbytes)", 1024⟩,
    ⟨'l', "locked memory(kbytes)", 1024⟩, ⟨'p', "process", 1⟩, ⟨'n', "nofiles", 1⟩,
    ⟨'v', "vmemory(kbytes)", 1024⟩, ⟨'w', "locks", 1⟩, ⟨'r', "rtprio", 1⟩]

/-- A limit as text. -/
def showLimit (soft : Bool) (r : Resource) (l : Limit) : Bytes :=
  let value := if soft then l.soft else l.hard
  if value = Limit.unlimited then lit "unlimited"
  else lit (toString (Int.bmod (value / r.unit : Nat) (Limit.unlimited + 1)))

/-- Reads a limit. -/
def readLimit (r : Resource) (text : Bytes) : Act Nat := do
  if text == lit "unlimited" then return Limit.unlimited
  if !text.all isDigit then fail (lit "bad number")
  let n := text.foldl (fun n d => n * 10 + (d.toNat - 48)) 0
  return (n * r.unit) % (Limit.unlimited + 1)

/-- Sets or shows limits. -/
def ulimit (arguments : List Bytes) : Act Nat := do
  let (choices, arguments) ← readOptions (['H', 'S', 'a'] ++ resources.map (·.option)) [] arguments
  let letters := choices.map (·.letter)
  let strength? := letters.reverse.find? fun c => c == 'H' || c == 'S'
  let letter := (letters.reverse.find? fun c => resources.any (·.option == c)).getD 'f'
  let limit (r : Resource) : Act Limit := look (·.process.limit r.option)
  match arguments, resources.find? (·.option == letter) with
  | _, none => return 0
  | [], some r =>
    let soft := strength? != some 'H'
    if letters.contains 'a' then
      for r in resources do
        let space := String.ofList (List.replicate (20 - r.label.length) ' ')
        printLine (lit (r.label ++ space ++ " ") ++ showLimit soft r (← limit r))
    else printLine (showLimit soft r (← limit r))
    return 0
  | text :: others, some r =>
    if letters.contains 'a' || !others.isEmpty then fail (lit "too many arguments")
    let value ← readLimit r text
    let old ← limit r
    let l : Limit :=
      { soft := if strength? = some 'H' then old.soft else value
        hard := if strength? = some 'S' then old.hard else value }
    let refuse (e : SystemError) : Act Nat :=
      fail (lit ("error setting limit (" ++ e.reason ++ ")"))
    if l.hard < l.soft then refuse (.number 22)
    else if old.hard < l.hard then refuse (.number 1)
    else
      onProcess fun p => ((), p.setLimit r.option l)
      return 0

end LineShell.Script.Utility

/-
What the programs of the machine share in how they report: a complaint
begins with the name the program was called by, and a name in it is
quoted, always or where it needs to be.
-/
import LineShell.Testbed.Activity

namespace LineShell.Host.Tool

/-- What a program comes to: it ends, or another program takes its place. -/
inductive Outcome
  | ended (ending : Ending)
  | becomes (program : Program)
  deriving DecidableEq, Repr

/-- A program that ends with a code. -/
def Outcome.exited (code : Nat) : Outcome := .ended (.exited code)

-- =============================================================== quotation

/-- Whether a byte is shown as it is. -/
def isShown (b : UInt8) : Bool := 32 ≤ b && b < 127

/-- A byte that is not shown, behind a backslash: a letter, or three octal
digits. -/
def escaped (b : UInt8) : Bytes :=
  let letters : List (UInt8 × Char) :=
    [(7, 'a'), (8, 'b'), (9, 't'), (10, 'n'), (11, 'v'), (12, 'f'), (13, 'r')]
  92 :: match letters.lookup b with
    | some letter => [letter.toUInt8]
    | none =>
      let digit (n : UInt8) : UInt8 := 48 + (n &&& 7)
      [digit (b >>> 6), digit (b >>> 3), digit b]

/-- A name between single quotation marks, those in it marked. -/
def quotedMarked (name : Bytes) : Bytes :=
  39 :: name.flatMap (fun b =>
    if b = 39 || b = 92 then [92, b] else if isShown b then [b] else escaped b) ++ [39]

/-- The bytes that need no quotation wherever they stand. -/
def isPlain (b : UInt8) : Bool :=
  isShown b && !(Bytes.ofText " !\"$&()*;<=>[^\x60|\x27?\\:").contains b

/-- Whether a byte that stands at a place may stand between double
quotation marks together with single ones. -/
def suitsDoubleMarks (name : Bytes) (b : UInt8) (place : Nat) : Bool :=
  if b = 32 || b = 39 || b = 58 then true
  else if b = 35 || b = 126 then place = 0
  else if b = 123 || b = 125 then name.length = 1
  else isPlain b

/-- A name between quotation marks: double ones if there is a single one
in it that they can hold. What is not shown stands in parts of its own. A
name that was looked at in vain for double ones is begun as it ended: in
such a part, if it ends in one. -/
def quoted (name : Bytes) : Bytes :=
  if name.contains 39 && name.zipIdx.all fun (b, i) => suitsDoubleMarks name b i then
    34 :: name ++ [34]
  else
    let (text, _) := name.foldl (fun (text, isEscaping) b =>
      if b = 39 then (text ++ [39, 92, 39, 39], false)
      else if isShown b then (text ++ (if isEscaping then [39, 39] else []) ++ [b], false)
      else (text ++ (if isEscaping then [] else [39, 36, 39]) ++ escaped b, true))
      (([39] : Bytes), name.contains 39 && name.getLast?.any (!isShown ·))
    text ++ [39]

/-- Whether a name needs quotation marks. -/
def needsMarks (name : Bytes) : Bool :=
  match name with
  | [] | [123] | [125] | 35 :: _ | 126 :: _ => true
  | name => !name.all isPlain

/-- A name between quotation marks if it needs them. -/
def quotedIfNeeded (name : Bytes) : Bytes :=
  if needsMarks name then quoted name else name

-- =============================================================== reporting

/-- Writes a complaint of a program. -/
def complain (program : Program) (text : Bytes) : Activity Unit :=
  Activity.complain (program.name ++ Bytes.ofText ": " ++ text)

/-- Points to the help. -/
def pointToHelp (program : Program) : Activity Unit :=
  Activity.complain
    (Bytes.ofText "Try '" ++ program.name ++ Bytes.ofText " --help' for more information.")

/-- Complains, and points to the help. -/
def complainOfUse (program : Program) (text : Bytes) : Activity Unit := do
  complain program text
  pointToHelp program

/-- Writes to the output; says whether it could. -/
def printed (program : Program) (bytes : Bytes) : Activity Bool := do
  if bytes.isEmpty then return true
  match ← Activity.write 1 bytes with
  | none => return true
  | some error =>
    complain program (Bytes.ofText ("write error: " ++ error.reason))
    return false

/-- Writes to the output as the last thing. -/
def endPrinting (program : Program) (bytes : Bytes) : Activity Outcome := do
  return .exited (if ← printed program bytes then 0 else 1)

end LineShell.Host.Tool

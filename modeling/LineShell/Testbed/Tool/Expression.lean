/-
The program `expr`: it computes the value of an expression whose parts
are its arguments.

A value is a text; one that is a row of digits, perhaps behind a minus
sign, counts as an integer, of any size. Of `|` and `&` the second side is
not computed if the first one decides, but is read all the same.
-/
import LineShell.Testbed.Tool.Report
import LineShell.Testbed.Tool.Pattern

namespace LineShell.Host.Tool.Expression

/-- Why an expression has no value. -/
inductive Fault
  /-- The arguments are at an end behind one of them. -/
  | missing (behind : Bytes)
  | unclosed (behind : Bytes)
  | notClosing (found : Bytes)
  | closing
  | unexpected (found : Bytes)
  | notInteger
  | byZero
  | pattern (fault : Pattern.Fault)
  deriving DecidableEq, Repr

/-- The text of a fault. -/
def Fault.message : Fault → Bytes
  | .missing behind => Bytes.ofText "syntax error: missing argument after " ++ quotedMarked behind
  | .unclosed behind => Bytes.ofText "syntax error: expecting ')' after " ++ quotedMarked behind
  | .notClosing found =>
    Bytes.ofText "syntax error: expecting ')' instead of " ++ quotedMarked found
  | .closing => Bytes.ofText "syntax error: unexpected ')'"
  | .unexpected found => Bytes.ofText "syntax error: unexpected argument " ++ quotedMarked found
  | .notInteger => Bytes.ofText "non-integer argument"
  | .byZero => Bytes.ofText "division by zero"
  | .pattern fault => Bytes.ofText fault.message

-- ================================================================= values

/-- The integer that a text is. -/
def integer? (text : Bytes) : Option Int :=
  let digits := if text.head? = some 45 then text.drop 1 else text
  if digits.isEmpty || !digits.all (fun b => 48 ≤ b && b ≤ 57) then none
  else
    let n : Int := digits.foldl (fun (n : Int) d => n * 10 + (d.toNat - 48 : Nat)) 0
    some (if text.head? = some 45 then -n else n)

/-- Whether a value is nothing: an empty text, or a zero. -/
def isNull (text : Bytes) : Bool :=
  text.isEmpty || integer? text = some 0

/-- The value of an integer. -/
def ofInteger (n : Int) : Bytes := Bytes.ofText (toString n)

/-- The value of a truth. -/
def ofBool (b : Bool) : Bytes := if b then [49] else [48]

/-- The value under an operator for integers. -/
def compute (operator : Bytes) (a b : Bytes) : Except Fault Bytes :=
  match integer? a, integer? b with
  | some m, some n =>
    match operator with
    | [43] => .ok (ofInteger (m + n))
    | [45] => .ok (ofInteger (m - n))
    | [42] => .ok (ofInteger (m * n))
    | [47] => if n = 0 then .error .byZero else .ok (ofInteger (m.tdiv n))
    | _ => if n = 0 then .error .byZero else .ok (ofInteger (m.tmod n))
  | _, _ => .error .notInteger

/-- The order of two values: as integers if both are, else as texts. -/
def order (a b : Bytes) : Ordering :=
  match integer? a, integer? b with
  | some m, some n => compare m n
  | _, _ => if a = b then .eq else if Bytes.comesBefore a b then .lt else .gt

/-- The value of a comparison. -/
def compared (operator : Bytes) (a b : Bytes) : Bytes :=
  let o := order a b
  match Utf8.lossy operator with
  | "<" => ofBool (o == .lt)
  | "<=" => ofBool (o != .gt)
  | "!=" => ofBool (o != .eq)
  | ">=" => ofBool (o != .lt)
  | ">" => ofBool (o == .gt)
  | _ => ofBool (o == .eq)

/-- Where the first of some bytes stands in a text, from 1 on; 0 is
nowhere. -/
def indexOf (text bytes : Bytes) : Nat :=
  let start := text.takeWhile (!bytes.contains ·)
  if start.length = text.length then 0 else start.length + 1

/-- The part of a text from a position, from 1 on, of a length. -/
def part (text position length : Bytes) : Bytes :=
  match integer? position, integer? length with
  | some i, some n => if i ≤ 0 || n ≤ 0 then [] else (text.drop (i.toNat - 1)).take n.toNat
  | _, _ => []

/-- The part of a text that a pattern matches from its start: the first
group if the pattern has one, else how long the part is. -/
def matched (text pattern : Bytes) : Except Fault Bytes :=
  match Pattern.read pattern with
  | .error fault => .error (.pattern fault)
  | .ok (tree, groups) =>
    let found? := tree.match? text
    .ok (if groups = 0 then ofInteger ((found?.map (·.length)).getD 0)
      else (found?.map (·.group)).getD [])

-- ================================================================ reading

/-- What is left to read, and the argument before it. -/
structure Rest where
  before : Bytes
  words : List Bytes

/-- A reader of a part of an expression; what has no bearing on the value
is not computed. -/
abbrev Reader := Bool → Rest → Except Fault (Bytes × Rest)

/-- The next word and what is left behind it. -/
def Rest.take (r : Rest) : Except Fault (Bytes × Rest) :=
  match r.words with
  | [] => .error (.missing r.before)
  | word :: words => .ok (word, ⟨word, words⟩)

/-- Reads operands joined by operators that bind alike, from the left. -/
def chain (operators : List String) (operand : Reader)
    (combine : Bytes → Bytes → Bytes → Except Fault Bytes) (active : Bool) :
    Nat → Bytes → Rest → Except Fault (Bytes × Rest)
  | 0, value, r => .ok (value, r)
  | fuel + 1, value, r =>
    match r.words with
    | word :: words =>
      if operators.contains (Utf8.lossy word) then do
        let (right, r) ← operand active ⟨word, words⟩
        let value ← if active then combine word value right else .ok value
        chain operators operand combine active fuel value r
      else .ok (value, r)
    | [] => .ok (value, r)

/-- Reads a level of operators over that of its operands. -/
def level (operators : List String) (operand : Reader)
    (combine : Bytes → Bytes → Bytes → Except Fault Bytes) : Reader := fun active r => do
  let (value, r) ← operand active r
  chain operators operand combine active r.words.length value r

/-- Reads operands joined by an operator whose second side may not matter. -/
def choice (operator : Bytes) (operand : Reader) (decided : Bytes → Bool)
    (combine : Bytes → Bytes → Bytes) (active : Bool) :
    Nat → Bytes → Rest → Except Fault (Bytes × Rest)
  | 0, value, r => .ok (value, r)
  | fuel + 1, value, r =>
    match r.words with
    | word :: words =>
      if word = operator then do
        let (right, r) ← operand (active && !decided value) ⟨word, words⟩
        choice operator operand decided combine active fuel (combine value right) r
      else .ok (value, r)
    | [] => .ok (value, r)

/-- Reads the operands of a word that takes some, and those of the words
among them. What is no such word is a single operand. -/
def operands (single : Reader) : Nat → Reader
  | 0 => single
  | fuel + 1 => fun active r => do
    let operand := operands single fuel active
    match r.words with
    | [] => single active r
    | word :: words =>
      let behind : Rest := ⟨word, words⟩
      match Utf8.lossy word with
      | "+" => behind.take
      | "length" =>
        let (value, r) ← operand behind
        return (ofInteger value.length, r)
      | "match" =>
        let (text, r) ← operand behind
        let (pattern, r) ← operand r
        return (← if active then matched text pattern else .ok text, r)
      | "index" =>
        let (text, r) ← operand behind
        let (bytes, r) ← operand r
        return (ofInteger (indexOf text bytes), r)
      | "substr" =>
        let (text, r) ← operand behind
        let (position, r) ← operand r
        let (length, r) ← operand r
        return (part text position length, r)
      | _ => single active r

/-- Reads a whole expression. -/
def read : Nat → Reader
  | 0 => fun _ r => .error (.missing r.before)
  | fuel + 1 =>
    let single : Reader := fun active r => do
      let (word, r) ← r.take
      match word with
      | [40] =>
        let (value, r) ← read fuel active r
        match r.words with
        | [41] :: words => .ok (value, ⟨[41], words⟩)
        | found :: _ => .error (.notClosing found)
        | [] => .error (.unclosed r.before)
      | [41] => .error .closing
      | word => .ok (word, r)
    let operand : Reader := fun active r => operands single (r.words.length + 1) active r
    let comparedToPattern := level [":"] operand fun _ text pattern => matched text pattern
    let product := level ["*", "/", "%"] comparedToPattern compute
    let sum := level ["+", "-"] product compute
    let comparison := level ["<", "<=", "=", "==", "!=", ">=", ">"] sum
      fun operator a b => .ok (compared operator a b)
    let both : Reader := fun active r => do
      let (value, r) ← comparison active r
      choice [38] comparison isNull (fun a b => if isNull a || isNull b then [48] else a)
        active r.words.length value r
    fun active r => do
      let (value, r) ← both active r
      choice [124] both (!isNull ·)
        (fun a b => if !isNull a then a else if isNull b then [48] else b)
        active r.words.length value r

/-- The value of arguments, all of them. -/
def value (arguments : List Bytes) : Except Fault Bytes := do
  let (value, r) ← read (arguments.length + 1) true ⟨[], arguments⟩
  match r.words with
  | [] => .ok value
  | found :: _ => .error (.unexpected found)

/-- The program. -/
def run (program : Program) : Activity Outcome := do
  let arguments := match program.arguments with
    | [45, 45] :: arguments => arguments
    | arguments => arguments
  if arguments.isEmpty then
    complainOfUse program (Bytes.ofText "missing operand")
    return .exited 2
  match value arguments with
  | .error fault =>
    complain program fault.message
    return .exited 2
  | .ok value =>
    if ← printed program (value ++ [10]) then return .exited (if isNull value then 1 else 0)
    return .exited 3

end LineShell.Host.Tool.Expression

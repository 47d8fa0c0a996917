/-
Arithmetic on integers of 64 bits, in the text of an expression.

The operators are those of the C family, assignments included, by their
usual strength. What is not needed for the value is read but not done:
the second operand of `&&` and `||` and one branch of `? :`. Such parts
are read with `quiet`.

Variables are looked up and assigned through the two functions that an
evaluation is given.
-/
import LineShell.Testbed.Script.Shell

namespace LineShell.Script.Arithmetic

/-- A number of the machine: the one that is congruent and in range. -/
def wrap (n : Int) : Int :=
  n.bmod 18446744073709551616

/-- The operators of two operands that are no assignments, longest first. -/
def operators : List String :=
  ["<<", ">>", "<=", ">=", "==", "!=", "&&", "||", "|", "^", "&", "<", ">", "+", "-",
    "*", "/", "%"]

/-- The operators that may stand before an equals sign. -/
def assigning : List String :=
  ["<<", ">>", "|", "^", "&", "+", "-", "*", "/", "%"]

/-- A token of an expression. -/
inductive Token
  | number (n : Int)
  | name (name : Bytes)
  | operator (text : String)
  /-- An assignment, with the operator it combines with. -/
  | assign (text : String)
  | finish
  | unknown
  deriving DecidableEq, Repr

-- ================================================================ numbers

/-- The value of a digit. -/
def digitValue (b : UInt8) : Nat :=
  if isDigit b then b.toNat - 48
  else if 97 ≤ b && b ≤ 122 then b.toNat - 87
  else if 65 ≤ b && b ≤ 90 then b.toNat - 55
  else 99

/-- The largest number. -/
def maximum : Int := 9223372036854775807

/-- Reads a number without a sign: its value and what follows. A number
that is too large is the largest. -/
def readDigits (base : Nat) (bytes : Bytes) : Option (Nat × Bytes) :=
  let digits := bytes.takeWhile (digitValue · < base)
  if digits.isEmpty then none
  else some (digits.foldl (fun n b => n * base + digitValue b) 0, bytes.drop digits.length)

/-- The largest number without a sign. -/
def largestNatural : Nat := 18446744073709551615

/-- Reads a number in one of four notations. -/
def readNumber (bytes : Bytes) : Option (Nat × Bytes) :=
  match bytes with
  | 48 :: x :: rest =>
    if x == 120 || x == 88 then some ((readDigits 16 rest).getD (0, x :: rest))
    else if x == 98 || x == 66 then some ((readDigits 2 rest).getD (0, x :: rest))
    else readDigits 8 bytes
  | 48 :: [] => some (0, [])
  | _ => readDigits 10 bytes

/-- Whether a byte is white space. -/
def isSpace (b : UInt8) : Bool := b == 32 || 9 ≤ b && b ≤ 13

/-- Reads a number with a sign, behind white space: its value, whether it
is in range, and what follows. There are no digits in the last case. -/
def readSigned (notations : Bool) (bytes : Bytes) : Option (Int × Bool × Bytes) :=
  let bytes := bytes.dropWhile isSpace
  let (isNegative, bytes) := match bytes with
    | 45 :: rest => (true, rest)
    | 43 :: rest => (false, rest)
    | bytes => (false, bytes)
  match if notations then readNumber bytes else readDigits 10 bytes with
  | none => none
  | some (n, rest) =>
    let n : Int := if isNegative then -(n : Int) else n
    some (n, -maximum - 1 ≤ n && n ≤ maximum, rest)

/-- The number that a text is, if it is one. With `notations`, there are
four of them and a blank text is 0. -/
def number? (notations : Bool) (text : Bytes) : Option Int :=
  match readSigned notations text with
  | some (n, inRange, rest) => if inRange && rest.all isSpace then some n else none
  | none => if notations && text.all isSpace then some 0 else none

-- ================================================================= tokens

/-- The first token of an expression, and what follows. -/
def readToken (text : Bytes) : Token × Bytes :=
  let text := text.dropWhile fun b => b == 32 || b == 9 || b == 10
  match text with
  | [] => (.finish, [])
  | b :: rest =>
    if isDigit b then
      match readNumber text with
      | some (n, rest) => (.number (min n maximum), rest)
      | none => (.unknown, rest)
    else if beginsName b then (.name (leadingName text), text.drop (leadingName text).length)
    else
      let begins (op : String) : Bool := (lit op).isPrefixOf text
      match assigning.find? fun op => begins (op ++ "=") with
      | some op => (.assign op, text.drop (op.length + 1))
      | none =>
        match operators.find? begins with
        | some op => (.operator op, text.drop op.length)
        | none =>
          if b == 61 then (.assign "", rest)
          else if (lit "!~()?:").contains b then (.operator (Utf8.lossy [b]), rest)
          else (.unknown, rest)

-- ============================================================== operations

/-- How strongly an operator binds, the strongest with the least number.
There is none for those that are read by rules of their own. -/
def strength? (op : String) : Option Nat :=
  match op with
  | "*" | "/" | "%" => some 0
  | "+" | "-" => some 1
  | "<<" | ">>" => some 2
  | "<" | "<=" | ">" | ">=" => some 3
  | "==" | "!=" => some 4
  | "&" => some 5
  | "^" => some 6
  | "|" => some 7
  | _ => none

/-- The bits of a number. -/
def bits (n : Int) : Nat := (n % 18446744073709551616).toNat

/-- A truth value as a number. -/
def truth (b : Bool) : Int := if b then 1 else 0

/-- The value of an operation. There is none of a division by zero. -/
def combined? (op : String) (a b : Int) : Option Int :=
  match op with
  | "*" => some (wrap (a * b))
  | "/" => if b = 0 then none else some (wrap (a.tdiv b))
  | "%" => if b = 0 then none else some (wrap (a.tmod b))
  | "+" => some (wrap (a + b))
  | "-" => some (wrap (a - b))
  | "<<" => some (wrap (Int.ofNat ((bits a).shiftLeft (bits b % 64))))
  | ">>" => some (a.shiftRight (bits b % 64))
  | "<" => some (truth (a < b))
  | "<=" => some (truth (a ≤ b))
  | ">" => some (truth (b < a))
  | ">=" => some (truth (b ≤ a))
  | "==" => some (truth (a = b))
  | "!=" => some (truth (a ≠ b))
  | "&" => some (wrap (Int.ofNat (bits a &&& bits b)))
  | "^" => some (wrap (Int.ofNat (bits a ^^^ bits b)))
  | "|" => some (wrap (Int.ofNat (bits a ||| bits b)))
  | _ => some b

-- ============================================================= evaluation

/-- An evaluation: what is looked up and assigned with, and the text that
errors show. -/
structure Evaluation where
  value : Bytes → Act Int
  assign : Bytes → Int → Act Unit
  text : Bytes

/-- Breaks off an evaluation. -/
def Evaluation.fail {α : Type} (e : Evaluation) (reason : String) : Act α :=
  Script.fail (lit ("arithmetic expression: " ++ reason ++ ": \"") ++ e.text ++ lit "\"")

/-- What is left to read of an expression: a token and the text behind it. -/
abbrev Rest := Token × Bytes

/-- The part of an expression that is read. -/
inductive Level
  | assignment
  | condition
  | disjunction
  | conjunction
  /-- Operations that bind more strongly than a bound. -/
  | operation (bound : Nat)
  | primary
  deriving DecidableEq, Repr

/-- Reads an operand and the operations behind it. -/
def readOperations (read : Level → Bool → Rest → Act (Int × Rest)) (e : Evaluation)
    (bound : Nat) (quiet : Bool) (rest : Rest) : Act (Int × Rest) := do
  repeatFrom (← read .primary quiet rest) fun (a, rest) => do
    match rest with
    | (.operator op, text) =>
      match strength? op with
      | none => return .inr (a, rest)
      | some strength =>
        if bound ≤ strength then return .inr (a, rest)
        let (b, rest) ← read (.operation strength) quiet (readToken text)
        if quiet then return .inl (b, rest)
        match combined? op a b with
        | some value => return .inl (value, rest)
        | none => e.fail "division by zero"
    | rest => return .inr (a, rest)

/-- Reads an operand of `&&` or `||` and the rest of the row. -/
def readLogical (read : Level → Bool → Rest → Act (Int × Rest)) (level operand : Level)
    (op : String) (settles : Int → Bool) (quiet : Bool) (rest : Rest) : Act (Int × Rest) := do
  let (a, rest) ← read operand quiet rest
  if rest.1 != .operator op then return (a, rest)
  let (b, rest) ← read level (quiet || settles a) (readToken rest.2)
  let value := if op == "&&" then a != 0 && b != 0 else a != 0 || b != 0
  return (truth value, rest)

/-- Reads an operand. -/
def readPrimary (read : Level → Bool → Rest → Act (Int × Rest)) (e : Evaluation)
    (quiet : Bool) (rest : Rest) : Act (Int × Rest) := do
  match rest with
  | (.number n, text) => return (n, readToken text)
  | (.name name, text) =>
    let value ← if quiet then pure 0 else e.value name
    return (value, readToken text)
  | (.operator "(", text) =>
    let (value, rest) ← read .assignment quiet (readToken text)
    if rest.1 != .operator ")" then e.fail "expecting \x27)\x27"
    return (value, readToken rest.2)
  | (.operator "+", text) => read .primary quiet (readToken text)
  | (.operator "-", text) =>
    let (value, rest) ← read .primary quiet (readToken text)
    return (wrap (-value), rest)
  | (.operator "!", text) =>
    let (value, rest) ← read .primary quiet (readToken text)
    return (truth (value = 0), rest)
  | (.operator "~", text) =>
    let (value, rest) ← read .primary quiet (readToken text)
    return (wrap (-value - 1), rest)
  | _ => e.fail "expecting primary"

/-- Reads a choice by a condition. -/
def readCondition (read : Level → Bool → Rest → Act (Int × Rest)) (e : Evaluation)
    (quiet : Bool) (rest : Rest) : Act (Int × Rest) := do
  let (a, rest) ← read .disjunction quiet rest
  if rest.1 != .operator "?" then return (a, rest)
  let (b, rest) ← read .assignment (quiet || a = 0) (readToken rest.2)
  if rest.1 != .operator ":" then e.fail "expecting \x27:\x27"
  let (c, rest) ← read .condition (quiet || a ≠ 0) (readToken rest.2)
  return (if a ≠ 0 then b else c, rest)

/-- Reads an assignment, or what may stand in place of one. -/
def readAssignment (read : Level → Bool → Rest → Act (Int × Rest)) (e : Evaluation)
    (quiet : Bool) (rest : Rest) : Act (Int × Rest) := do
  match rest with
  | (.name name, text) =>
    match readToken text with
    | (.assign op, text) =>
      let (value, rest) ← read .assignment quiet (readToken text)
      if quiet then return (value, rest)
      let value? ← if op.isEmpty then pure (some value)
        else (combined? op · value) <$> e.value name
      match value? with
      | some value =>
        e.assign name value
        return (value, rest)
      | none => e.fail "division by zero"
    | _ => read .condition quiet rest
  | rest => read .condition quiet rest

/-- Reads part of an expression, which may be so deep. -/
def readLevel (e : Evaluation) : Nat → Level → Bool → Rest → Act (Int × Rest)
  | 0, _, _, _ => throw (.over (.killed outOfStack))
  | depth + 1, level, quiet, rest =>
    let read := readLevel e depth
    match level with
    | .assignment => readAssignment read e quiet rest
    | .condition => readCondition read e quiet rest
    | .disjunction =>
      readLogical read .disjunction .conjunction "||" (· ≠ 0) quiet rest
    | .conjunction => readLogical read .conjunction (.operation 8) "&&" (· = 0) quiet rest
    | .operation bound => readOperations read e bound quiet rest
    | .primary => readPrimary read e quiet rest

/-- The value of an expression. -/
def evaluate (e : Evaluation) : Act Int := do
  let (value, rest) ←
    readLevel e (8 * e.text.length + 16) .assignment false (readToken e.text)
  if rest.1 != .finish then e.fail "expecting EOF"
  return value

end LineShell.Script.Arithmetic

/-
Testing: the commands `test` and `[`.

An expression is read from the left by the strength of its operators. An
argument that looks like an operator is an operand where the number of
arguments says so (`Expression.token`).
-/
import LineShell.Testbed.Files
import LineShell.Testbed.Script.Utility.Options

namespace LineShell.Script.Utility

namespace Expression

/-- What an argument is in an expression. -/
inductive Token
  | unary (letter : Char)
  | binary (name : String)
  | orElse
  | andAlso
  | not
  | opening
  | closing
  | operand
  | finish
  deriving DecidableEq, Repr

/-- The operators on one operand. -/
def unaryLetters : List Char :=
  "rwxefdcbpugkstznhLOGS".toList

/-- The operators on two operands. -/
def binaryNames : List String :=
  ["=", "!=", "<", ">", "-eq", "-ne", "-ge", "-gt", "-le", "-lt", "-nt", "-ot", "-ef"]

/-- The operators by their texts. -/
def operators : List (Bytes × Token) :=
  [("-o", .orElse), ("-a", .andAlso), ("!", .not), ("(", .opening), (")", .closing)].map
      (fun (name, t) => (lit name, t))
    ++ binaryNames.map (fun name => (lit name, .binary name))
    ++ unaryLetters.map (fun letter => ([45, letter.toUInt8], .unary letter))

/-- The operator that an argument looks like. -/
def operator? (argument : Bytes) : Option Token := operators.lookup argument

/-- Whether an argument is an operator on two operands. -/
def isBinary (argument : Bytes) : Bool :=
  match operator? argument with
  | some (.binary _) => true
  | _ => false

/-- What the first of some arguments is. -/
def token (arguments : List Bytes) : Token :=
  match arguments with
  | [] => .finish
  | argument :: rest =>
    let isOperand := match rest with
      | [] => true
      | [_] => false
      | second :: _ => isBinary second
    match operator? argument with
    | some (.unary letter) => if isOperand then .operand else .unary letter
    | some .opening => if rest.isEmpty then .operand else .opening
    | some t => t
    | none => .operand

/-- Breaks off because of an expression. -/
def failIn {α : Type} (operator : Bytes) (reason : String) : Act α :=
  fail (if operator.isEmpty then lit reason else operator ++ lit (": " ++ reason))

/-- The number that an argument is. -/
def numberOf (argument : Bytes) : Act Int := do
  match Arithmetic.number? false argument with
  | some n => return n
  | none => fail (lit "Illegal number: " ++ argument)

-- ================================================================== files

/-- What a medium is as a file. -/
def nodeOf (p : Host.Process) : Host.Medium → Option Node
  | .file l =>
    match p.system.files.lookup l with
    | some (.file _ mode) => (p.system.contents? l).map (.file · mode)
    | node? => node?
  | .void => some (.device .void)
  | .full => some (.device .full)
  | .zeros => some (.device .zeros)
  | .pipe _ => some (.fifo 0o600)
  | .directory => some (.directory 0 0o755)
  | .input => some (.file p.system.streams.input.rest 0o600)
  | .output | .errors => some (.file [] 0o600)

/-- What a path names. -/
def nodeAt (path : Bytes) : Act (Option Node) := do
  let p ← look (·.process)
  match p.system.files.resolve p.directory path with
  | .ok (.located l) =>
    match p.system.files.lookup l with
    | some (.descriptor fd) => return (p.medium? fd).bind (nodeOf p)
    | _ => return nodeOf p (.file l)
  | .ok (.removed d) => return some (.directory d.serial 0o755)
  | .error _ => return none

/-- The permission bits of something. -/
def modeOf : Node → Nat
  | .directory _ mode | .file _ mode | .fifo mode => mode
  | .link _ => 0o777
  | .tool _ => 0o755
  | .device _ | .descriptor _ => 0o666

/-- Whether a path names a file of which something holds. -/
def fileHolds (letter : Char) (path : Bytes) : Act Bool := do
  let p ← look (·.process)
  let node? ← nodeAt path
  let isOfMachine := match p.system.files.resolve p.directory path with
    | .ok (.located l) => Host.directories.any fun entry => (Host.path entry.1).names == l
    | _ => false
  return match letter, node? with
    | 'h', _ | 'L', _ => match p.system.files.inspectLink p.directory path with
      | .ok (.link _) => true
      | _ => false
    | _, none => false
    | 'd', some (.directory _ _) => true
    | 'd', _ => false
    | 'f', some (.file _ _) | 'f', some (.tool _) => true
    | 'f', _ => false
    | 'c', some (.device _) => true
    | 'c', _ => false
    | 'p', some (.fifo _) => true
    | 'p', _ => false
    | 's', some (.file contents _) => !contents.isEmpty
    | 's', some (.device _) | 's', some (.fifo _) => false
    | 's', _ => true
    | 'r', some node => p.system.files.mayRead (modeOf node)
    | 'w', some (.tool _) => false
    | 'w', some node => p.system.files.mayWrite (modeOf node)
    | 'x', some (.directory _ mode) => p.system.files.maySearch mode
    | 'x', some node => p.system.files.mayExecute (modeOf node)
    | 'u', some node => modeOf node &&& 0o4000 != 0
    | 'g', some node => modeOf node &&& 0o2000 != 0
    | 'k', some node => modeOf node &&& 0o1000 != 0
    | 'b', _ | 'S', _ => false
    | 'O', some (.tool _) | 'G', some (.tool _) => false
    | 'O', some (.device _) | 'G', some (.device _) => false
    | 'O', some _ | 'G', some _ => !isOfMachine
    | _, some _ => true

/-- Whether an operator holds of an operand. -/
def unaryHolds (letter : Char) (operand : Bytes) : Act Bool := do
  match letter with
  | 'z' => return operand.isEmpty
  | 'n' => return !operand.isEmpty
  | 't' =>
    let _ ← numberOf operand
    return false
  | letter => fileHolds letter operand

/-- Whether an operator holds of two operands. -/
def binaryHolds (name : String) (a b : Bytes) : Act Bool := do
  let compare (holds : Int → Int → Bool) : Act Bool := do
    let m ← numberOf a
    let n ← numberOf b
    return holds m n
  match name with
  | "=" => return a == b
  | "!=" => return a != b
  | "<" => return a < b
  | ">" => return b < a
  | "-eq" => compare fun m n => m = n
  | "-ne" => compare fun m n => m ≠ n
  | "-ge" => compare fun m n => n ≤ m
  | "-gt" => compare fun m n => n < m
  | "-le" => compare fun m n => m ≤ n
  | "-lt" => compare fun m n => m < n
  | "-ef" =>
    let p ← look (·.process)
    let spot (path : Bytes) := (p.system.files.resolve p.directory path).toOption
    return (spot a).isSome && decide (spot a = spot b)
  | _ => return false

-- ================================================================ reading

/-- The part of an expression that is read. -/
inductive Level
  | disjunction
  | conjunction
  | negation
  | primary
  deriving DecidableEq, Repr

/-- Reads an operand or an operation. The arguments that are left begin
with the last one that was read. -/
def readPrimary (read : Level → List Bytes → Act (Bool × List Bytes))
    (arguments : List Bytes) : Act (Bool × List Bytes) := do
  match token arguments, arguments with
  | .finish, _ => return (false, arguments)
  | .opening, _ :: rest =>
    if token rest = .closing then return (false, rest)
    let (value, rest) ← read .disjunction rest
    match token (rest.drop 1) with
    | .closing => return (value, rest.drop 1)
    | _ => failIn [] "closing paren expected"
  | .unary letter, operator :: rest =>
    match rest with
    | [] => failIn operator "argument expected"
    | operand :: _ => return (← unaryHolds letter operand, rest)
  | _, first :: rest =>
    match token rest, rest with
    | .binary name, operator :: rest =>
      match rest with
      | [] => failIn operator "argument expected"
      | second :: _ => return (← binaryHolds name first second, rest)
    | _, _ => return (!first.isEmpty, arguments)
  | _, [] => return (false, arguments)

/-- Reads a row of operands between which an operator stands. -/
def readRow (read : Level → List Bytes → Act (Bool × List Bytes)) (operand : Level)
    (operator : Token) (join : Bool → Bool → Bool) (arguments : List Bytes) :
    Act (Bool × List Bytes) := do
  repeatFrom (← read operand arguments) fun (value, arguments) => do
    if token (arguments.drop 1) != operator then return .inr (value, arguments)
    let (other, arguments) ← read operand (arguments.drop 2)
    return .inl (join value other, arguments)

/-- Reads part of an expression, which may be so deep. -/
def readLevel : Nat → Level → List Bytes → Act (Bool × List Bytes)
  | 0, _, _ => throw (.over (.killed outOfStack))
  | depth + 1, level, arguments =>
    let read := readLevel depth
    match level with
    | .disjunction => readRow read .conjunction .orElse (· || ·) arguments
    | .conjunction => readRow read .negation .andAlso (· && ·) arguments
    | .negation =>
      if token arguments != .not then read .primary arguments
      else do
        let rest := arguments.drop 1
        let (value, rest) ← read .negation (if rest.isEmpty then arguments.drop 1 else rest)
        return (!value, rest)
    | .primary => readPrimary read arguments

end Expression

open Expression in
/-- Whether an expression holds, all of whose arguments are read. -/
def holdsWhole (arguments : List Bytes) : Act Bool := do
  let depth := 4 * arguments.length + 8
  let (value, rest) ← readLevel depth .disjunction arguments
  match rest with
  | first :: _ :: _ => failIn first "unexpected operator"
  | _ => return value

open Expression in
/-- Whether an expression holds. Of three arguments, an operator in the
middle is one. Else parentheses around three or four arguments are left
out, and an exclamation mark in front of them negates what follows; of
several in a row that are found so, one counts. -/
def evaluateTest (negated : Bool) (arguments : List Bytes) : Act Bool := do
  match arguments with
  | [] => return negated
  | first :: rest =>
    let middle? := match rest with
      | [operator, _] => operator? operator
      | _ => none
    if let some (.binary name) := middle? then
      return (← binaryHolds name first (arguments.getLast?.getD [])) != negated
    let isShort := arguments.length = 3 || arguments.length = 4
    if isShort && first == [40] && arguments.getLast? = some [41] then
      return (← holdsWhole rest.dropLast) != negated
    if isShort && first == [33] then evaluateTest true rest
    else return (← holdsWhole arguments) != negated

/-- Tests an expression. -/
def test (isBracket : Bool) (arguments : List Bytes) : Act Nat := do
  let arguments ←
    if isBracket then
      if arguments.getLast?.bind (·.head?) = some 93 then pure arguments.dropLast
      else fail (lit "missing ]")
    else pure arguments
  return if ← evaluateTest false arguments then 0 else 1

end LineShell.Script.Utility

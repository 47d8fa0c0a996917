/-
The options of the programs of the machine.

An argument that begins with a dash holds letters, each of them an option;
one that begins with two holds the name of an option, or the start of one
name only. What an option takes stands behind its letter, behind an equals
sign, or is the next argument. Two dashes alone end the options
(`Options.next`). A program takes options in front of its operands only,
or among them as well (`Options.read`).
-/
import LineShell.Testbed.Tool.Report

namespace LineShell.Host.Tool

/-- An option of a program. -/
structure Switch (α : Type) where
  letter? : Option Char
  /-- Its names; the first one is told in faults. -/
  names : List String
  takesText : Bool := false
  meaning : α

/-- What is wrong with an option. -/
inductive OptionFault
  | noLetter (letter : UInt8)
  | noName (text : Bytes)
  | severalNames (text : Bytes) (names : List String)
  | letterWithoutText (letter : UInt8)
  | nameWithoutText (name : String)
  | needlessText (name : String)
  deriving DecidableEq, Repr

/-- The text of a fault. -/
def OptionFault.message : OptionFault → Bytes
  | .noLetter b => Bytes.ofText "invalid option -- '" ++ [b, 39]
  | .noName text => Bytes.ofText "unrecognized option '--" ++ text ++ [39]
  | .severalNames text names =>
    Bytes.ofText "option '--" ++ text ++ Bytes.ofText "' is ambiguous; possibilities:"
      ++ names.flatMap (fun name => Bytes.ofText s!" '--{name}'")
  | .letterWithoutText b => Bytes.ofText "option requires an argument -- '" ++ [b, 39]
  | .nameWithoutText name => Bytes.ofText s!"option '--{name}' requires an argument"
  | .needlessText name => Bytes.ofText s!"option '--{name}' doesn't allow an argument"

namespace Options

variable {α : Type}

/-- What stands in front of a list of arguments. -/
inductive Front (α : Type)
  /-- Options with what they take, and the arguments behind them. -/
  | options (found : List (α × Bytes)) (behind : List Bytes)
  /-- Two dashes, and the arguments behind them. -/
  | finish (operands : List Bytes)
  | operand

/-- Reads the letters of an argument. -/
def letters (switches : List (Switch α)) (behind : List Bytes) :
    Bytes → Except OptionFault (List (α × Bytes) × List Bytes)
  | [] => .ok ([], behind)
  | b :: rest =>
    match switches.find? (·.letter? = some (Char.ofUInt8 b)) with
    | none => .error (.noLetter b)
    | some switch =>
      if switch.takesText then
        match rest, behind with
        | [], [] => .error (.letterWithoutText b)
        | [], text :: behind => .ok ([(switch.meaning, text)], behind)
        | rest, behind => .ok ([(switch.meaning, rest)], behind)
      else do
        let (found, behind) ← letters switches behind rest
        return ((switch.meaning, []) :: found, behind)

/-- The options that a name, or the start of it, may stand for. -/
def candidates (switches : List (Switch α)) (name : Bytes) : List (String × Switch α) :=
  let all := switches.flatMap fun s => s.names.map (·, s)
  match all.filter fun (n, _) => Bytes.ofText n = name with
  | [] => all.filter fun (n, _) => name.isPrefixOf (Bytes.ofText n)
  | exact => exact

/-- Reads an argument that holds a name. -/
def named [DecidableEq α] (switches : List (Switch α)) (behind : List Bytes) (text : Bytes) :
    Except OptionFault (List (α × Bytes) × List Bytes) :=
  let name := text.takeWhile (· != 61)
  match candidates switches name with
  | [] => .error (.noName text)
  | (full, switch) :: others =>
    if others.any (·.2.meaning != switch.meaning) then
      .error (.severalNames text (full :: others.map (·.1)))
    else match switch.takesText, text.drop name.length, behind with
      | false, [], _ => .ok ([(switch.meaning, [])], behind)
      | false, _, _ => .error (.needlessText full)
      | true, _ :: text, _ => .ok ([(switch.meaning, text)], behind)
      | true, [], text :: behind => .ok ([(switch.meaning, text)], behind)
      | true, [], [] => .error (.nameWithoutText full)

/-- Reads the options that the first argument holds. -/
def next [DecidableEq α] (switches : List (Switch α)) : List Bytes → Except OptionFault (Front α)
  | [45, 45] :: operands => .ok (.finish operands)
  | (45 :: 45 :: text) :: behind => do
    let (found, behind) ← named switches behind text
    return .options found behind
  | (45 :: b :: text) :: behind => do
    let (found, behind) ← letters switches behind (b :: text)
    return .options found behind
  | _ => .ok .operand

/-- Reads the options among the arguments; gives them and the operands. -/
def read [DecidableEq α] (switches : List (Switch α)) (arguments : List Bytes) :
    Except OptionFault (List (α × Bytes) × List Bytes) :=
  go (arguments.length + 1) arguments
where
  go : Nat → List Bytes → Except OptionFault (List (α × Bytes) × List Bytes)
    | 0, operands => .ok ([], operands)
    | fuel + 1, arguments => do
      match arguments, ← next switches arguments with
      | _, .options found behind =>
        let (more, operands) ← go fuel behind
        return (found ++ more, operands)
      | _, .finish operands => return ([], operands)
      | [], .operand => return ([], [])
      | operand :: behind, .operand =>
        let (found, operands) ← go fuel behind
        return (found, operand :: operands)

end Options
end LineShell.Host.Tool

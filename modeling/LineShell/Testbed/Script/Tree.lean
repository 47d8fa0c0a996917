/-
The forms of a script: words, redirections and commands.

A word is a list of parts. A byte knows whether it was quoted on its own
(`escaped`); the quotation marks themselves stay in the word (`mark`),
since what stands between two of them is not split into fields, and since
a word of two marks and nothing else is an empty field and no absent one.

Where a list of commands may be empty there is an `Option Command`.
-/
import LineShell.Text.Utf8

namespace LineShell.Script

/-- What is done with the value of a parameter. -/
inductive Operation
  | value
  | length
  /-- A word stands in for a parameter that is not set. -/
  | orElse
  /-- A word stands in, and is assigned. -/
  | orAssign
  /-- A parameter that is not set is an error. -/
  | demand
  /-- A word stands for a parameter that is set. -/
  | whenSet
  /-- What a pattern matches at the start or the end is taken away. -/
  | trim (atStart : Bool) (longest : Bool)
  | malformed
  deriving DecidableEq, Repr

/-- How a file named in a redirection is used. -/
inductive Direction
  | from
  | to
  /-- To a file that may be replaced in any case. -/
  | over
  | after
  | both
  deriving DecidableEq, Repr

mutual

/-- A part of a word. -/
inductive Part
  | byte (b : UInt8) (escaped : Bool)
  | mark
  /-- A parameter; with `orNull`, an empty one counts as one not set. -/
  | parameter (name : Bytes) (op : Operation) (orNull : Bool) (word : List Part)
  | commands (body : Option Command)
  | arithmetic (text : List Part)

/-- A redirection of a descriptor. -/
inductive Redirection
  | file (fd : Nat) (direction : Direction) (name : List Part)
  /-- To another descriptor, or to none. -/
  | copy (fd : Nat) (source : Option Nat)
  /-- To a descriptor that a word names. -/
  | copyOf (fd : Nat) (source : List Part)
  /-- From a text in the script, which is kept under a number. -/
  | document (fd : Nat) (number : Nat) (expanded : Bool)

/-- A command. -/
inductive Command
  | simple (line : Nat) (assignments words : List (List Part))
      (redirections : List Redirection)
  | pipeline (commands : List Command) (inBackground : Bool)
  | redirected (line : Nat) (body : Command) (redirections : List Redirection)
  | subshell (line : Nat) (body : Command) (redirections : List Redirection)
  | background (line : Nat) (body : Command) (redirections : List Redirection)
  | sequence (first second : Command)
  | both (first second : Command)
  | either (first second : Command)
  | negated (body : Command)
  | conditional (test body : Command) (otherwise : Option Command)
  | loop (untilTrue : Bool) (test body : Command)
  | forEach (line : Nat) (name : Bytes) (words : List (List Part)) (body : Command)
  | choice (line : Nat) (subject : List Part) (branches : List Branch)
  | define (name : Bytes) (body : Command)

/-- A branch of a choice. -/
inductive Branch
  | mk (patterns : List (List Part)) (body : Option Command)

end

/-- A word. -/
abbrev Word := List Part

namespace Word

/-- The word `"$@"`. -/
def allArguments : Word :=
  [.mark, .parameter [64] .value false [], .mark]

/-- The bytes of a word in which nothing is quoted or replaced. -/
def literal? (w : Word) : Option Bytes :=
  w.mapM fun
    | .byte b false => some b
    | _ => none

/-- The bytes of a word, quoted or not, without what would be replaced. -/
def bytes (w : Word) : Bytes :=
  w.filterMap fun
    | .byte b _ => some b
    | _ => none

end Word

-- ================================================================== names

/-- Whether a byte is a decimal digit. -/
def isDigit (b : UInt8) : Bool := 48 ≤ b && b ≤ 57

/-- Whether a byte may begin a name. -/
def beginsName (b : UInt8) : Bool :=
  65 ≤ b && b ≤ 90 || 97 ≤ b && b ≤ 122 || b == 95

/-- Whether a byte may stand in a name. -/
def inName (b : UInt8) : Bool := beginsName b || isDigit b

/-- Whether bytes are a name. -/
def isName : Bytes → Bool
  | [] => false
  | b :: rest => beginsName b && rest.all inName

/-- The name that bytes begin with, which is empty if they begin with none. -/
def leadingName (bytes : Bytes) : Bytes :=
  match bytes with
  | b :: _ => if beginsName b then bytes.takeWhile inName else []
  | [] => []

/-- Whether a word assigns to a variable. -/
def Word.isAssignment (w : Word) : Bool :=
  let start := (w.map fun
    | .byte b false => b
    | _ => 0).takeWhile (· != 0)
  let name := leadingName start
  !name.isEmpty && (start.drop name.length).head? == some 61

end LineShell.Script

/-
The tokens of a script, and the inputs that they are read from.

An input is read line by line. Bytes that were looked at in vain are
handed back (`unread`), and the text of an alias is put in front of the
rest of the line (`Pushed`), where it stays marked as long as it lasts: an
alias is not replaced within itself.
-/
import LineShell.Testbed.Script.Tree

namespace LineShell.Script

-- ================================================================= tokens

/-- A redirection whose file has not been read. -/
inductive Arrow
  | file (direction : Direction)
  | copy
  | document (dropTabs : Bool)
  deriving DecidableEq, Repr

/-- A token. -/
inductive Token
  /-- A word, and whether a part of it is quoted. -/
  | word (parts : Word) (quoted : Bool)
  | arrow (fd : Nat) (arrow : Arrow)
  | newline
  | semicolon
  | ampersand
  | andAlso
  | orElse
  | bar
  | opening
  | closing
  | branchEnd
  | keyword (name : String)
  | finish

/-- The words that have a meaning of their own where a command begins. -/
def keywords : List String :=
  ["!", "case", "do", "done", "elif", "else", "esac", "fi", "for", "if", "in", "then",
    "until", "while", "\x7b", "\x7d"]

/-- The keywords by their bytes. -/
def keywordTable : List (Bytes × String) := keywords.map fun name => (Bytes.ofText name, name)

/-- The keyword that a word is. -/
def keywordOf? (word : Bytes) : Option String := keywordTable.lookup word

namespace Token

/-- How a token is called in messages. -/
def text : Token → String
  | .word _ _ => "word"
  | .arrow _ _ => "redirection"
  | .newline => "newline"
  | .semicolon => "\";\""
  | .ampersand => "\"&\""
  | .andAlso => "\"&&\""
  | .orElse => "\"||\""
  | .bar => "\"|\""
  | .opening => "\"(\""
  | .closing => "\")\""
  | .branchEnd => "\";;\""
  | .keyword name => "\"" ++ name ++ "\""
  | .finish => "end of file"

/-- Whether a token ends a list of commands. -/
def endsList : Token → Bool
  | .finish | .closing | .branchEnd => true
  | .keyword name => ["do", "done", "elif", "else", "esac", "fi", "then", "\x7d"].contains name
  | _ => false

/-- Whether a token is a keyword of a name. -/
def isKeyword (name : String) : Token → Bool
  | .keyword other => other == name
  | _ => false

end Token

/-- What is paid heed to when the next token is read. -/
structure Heed where
  /-- Newlines are passed over. -/
  newlines : Bool := false
  keywords : Bool := false
  aliases : Bool := false
  /-- The word ends a text, and nothing is replaced in it. -/
  textEnd : Bool := false
  deriving DecidableEq, Repr

-- ================================================================= inputs

/-- The text of an alias that is being read. -/
structure Pushed where
  name : Bytes
  rest : Bytes
  /-- Whether the text ends in a blank, so that the word after the alias
  may be one too. -/
  endsInBlank : Bool
  deriving DecidableEq, Repr

/-- Where an input goes on when a block of it is used up. -/
inductive Origin
  | nowhere
  | opened (index : Nat)
  | standardInput
  deriving DecidableEq, Repr

/-- An input. -/
structure Input where
  origin : Origin
  unread : Bytes := []
  pushed : List Pushed := []
  /-- What is left of the line. -/
  line : Bytes := []
  /-- What was read behind the line. -/
  block : Bytes := []
  lineNumber : Nat := 1
  /-- How many inputs wait behind this one, and itself. -/
  depth : Nat := 1
  deriving DecidableEq, Repr

/-- A text that follows in the script, until a line that ends it. -/
structure Awaited where
  number : Nat
  ending : Bytes
  dropTabs : Bool
  /-- Whether parameters and commands in it are replaced. -/
  expanded : Bool
  deriving DecidableEq, Repr

/-- The reader of a script. -/
structure Reader where
  /-- The inputs, the one that is read first. -/
  inputs : List Input := []
  last : Token := .newline
  /-- Whether the last token is to be read again. -/
  isBack : Bool := false
  heed : Heed := {}
  awaited : List Awaited := []
  /-- The texts that were read, by number. -/
  documents : List (Nat × Word) := []
  documentCount : Nat := 0
  /-- The word that was read last. -/
  lastWord : Word := []
  /-- What asks for the rest of a command, if the lines are asked for. -/
  asking? : Option Bytes := none
  /-- Whether a line is to be asked for before more is read. -/
  isDue : Bool := false

namespace Reader

/-- How many inputs there are. -/
def depth (r : Reader) : Nat :=
  match r.inputs with
  | input :: _ => input.depth
  | [] => 0

/-- A reader with one more input, which is read first. -/
def push (input : Input) (r : Reader) : Reader :=
  { r with inputs := { input with depth := r.depth + 1 } :: r.inputs }

/-- A reader without the inputs beyond a number. -/
def popTo (depth : Nat) (r : Reader) : Reader :=
  { r with inputs := r.inputs.dropWhile (depth < ·.depth) }

end Reader

end LineShell.Script

/-
Argument words and the form they have to fill. Reading them is no part of
the interpreter, which gives the form and works with what comes of it.
What is taken of the reading is this.

* Order: words are read from left to right, and the first that is in
  error is told.
* Options: until `--`, which ends the options, a word that starts with
  `-` is one; the value of an option is the next word, whatever it is,
  and may be given once. A switch has no value and may be given again.
* Positions: all other words are positional, as many as the form takes. A
  form that takes `many` takes everything after the first of them as it
  is.
* Help: `--help` and `help` ask for help, until the options end. That
  does not end the reading: a later word can still be in error, and the
  error then wins; any option is one by then.
* Usage: what is told of a form is filled to a width of 80 where that
  can be kept, with the meanings in a column of their own.
-/
import LineShell.Text.Utf8

namespace LineShell

/-- How many positional words a form takes. -/
inductive Arity
  | none
  | one
  | many
  deriving DecidableEq, Repr

/-- A row of a usage text: what may be written, and what it means. -/
structure UsageRow where
  label : String
  meaning : String
  deriving DecidableEq, Repr

/-- The form of a command's arguments, with the text that explains it. -/
structure ArgumentForm where
  /-- The options that take a value. -/
  valued : List String := []
  /-- The options that do not. -/
  switches : List String := []
  arity : Arity := .none
  /-- What follows the command's name in the first line of the usage. -/
  synopsis : String := ""
  summary : String
  positionalRows : List UsageRow := []
  optionRows : List UsageRow := []
  deriving DecidableEq, Repr

/-- The arguments that were given: options with their values and
positional words, both in order, and the switches that occurred. -/
structure Arguments where
  values : List (String × String) := []
  switches : List String := []
  words : List String := []
  deriving DecidableEq, Repr

/-- What comes of reading argument words. -/
inductive ArgumentOutcome
  | given (arguments : Arguments)
  | helpRequested
  | refused (message : String)
  deriving DecidableEq, Repr

namespace ArgumentForm

-- ============================================================ the reading

/-- The words that ask for help. -/
def helpWords : List String := ["--help", "help"]

/-- The word that ends the options. -/
def endOfOptions : String := "--"

/-- Why a word that fits nowhere is refused. -/
def unrecognized (word : String) : String :=
  "Unrecognized argument: " ++ word ++ "\n"

/-- Why an option without a value is refused. -/
def valueMissing (option : String) : String :=
  "No value provided for option '" ++ option ++ "'.\n"

/-- Why an option that is given again is refused. -/
def valueRepeated (option value : String) : String :=
  "Error parsing option '" ++ option ++ "' with value '" ++ value
    ++ "': duplicate values provided\n"

/-- Why an option after a request for help is refused. -/
def trailing : String := "Trailing arguments are not allowed after `help`."

/-- Whether a word looks like an option. -/
def isOptionLike (word : String) : Bool :=
  word.toList.head? == some '-'

/-- How far a reading has come. -/
structure Progress where
  arguments : Arguments := {}
  helpRequested : Bool := false
  optionsEnded : Bool := false
  deriving DecidableEq, Repr

/-- Takes a positional word, if there is a place for it. -/
def place? (form : ArgumentForm) (word : String) (p : Progress) : Option Progress :=
  let words := p.arguments.words ++ [word]
  let placed := { p with arguments := { p.arguments with words } }
  match form.arity with
  | .none => none
  | .one => if p.arguments.words.isEmpty then some placed else none
  | .many => some { placed with optionsEnded := true }

/-- Reads words to their end. -/
def readFrom (form : ArgumentForm) (p : Progress) : List String → ArgumentOutcome
  | [] => if p.helpRequested then .helpRequested else .given p.arguments
  | word :: rest =>
    if p.optionsEnded || !(helpWords.contains word || isOptionLike word) then
      match form.place? word p with
      | some p => form.readFrom p rest
      | none => .refused (unrecognized word)
    else if helpWords.contains word then
      form.readFrom { p with helpRequested := true } rest
    else if word = endOfOptions then
      form.readFrom { p with optionsEnded := true } rest
    else if p.helpRequested then .refused trailing
    else if form.switches.contains word then
      let switches := word :: p.arguments.switches
      form.readFrom { p with arguments := { p.arguments with switches } } rest
    else if form.valued.contains word then
      match rest with
      | [] => .refused (valueMissing word)
      | value :: rest =>
        if (p.arguments.values.lookup word).isSome then
          .refused (valueRepeated word value)
        else
          let values := p.arguments.values ++ [(word, value)]
          form.readFrom { p with arguments := { p.arguments with values } } rest
    else .refused (unrecognized word)

/-- Reads the words after a command's name. -/
def read (form : ArgumentForm) (words : List String) : ArgumentOutcome :=
  form.readFrom {} words

-- ============================================================== the usage

/-- Where the meanings of a usage text begin. -/
def meaningColumn : Nat := 20

/-- The width that a usage text keeps to where it can. -/
def width : Nat := 80

/-- Spaces up to the column where meanings begin. -/
def indent (line : String) : String :=
  line ++ String.ofList (List.replicate (meaningColumn - line.length) ' ')

/-- Adds a word to lines, of which the last is still open: behind a space
if it fits, else on a line of its own. -/
def fill (lines : List String × String) (word : String) : List String × String :=
  if lines.2.length + word.length + 1 > width then
    (lines.1 ++ [lines.2], indent "" ++ word)
  else (lines.1, lines.2 ++ " " ++ word)

/-- A row of a usage text, filled to the width. -/
def rowText (row : UsageRow) : String :=
  let lines := match row.meaning.splitOn " " with
    | [] => ([], indent ("  " ++ row.label))
    | word :: words => words.foldl fill ([], indent ("  " ++ row.label) ++ word)
  String.join ((lines.1 ++ [lines.2]).map (· ++ "\n"))

/-- The row that every form has. -/
def helpRow : UsageRow := ⟨"--help, help", "display usage information"⟩

/-- The usage text of a form under a command's name. -/
def usage (form : ArgumentForm) (command : String) : String :=
  "Usage: " ++ command ++ form.synopsis ++ "\n\n" ++ form.summary ++ "\n"
    ++ (if form.positionalRows.isEmpty then ""
        else "\nPositional Arguments:\n"
          ++ String.join (form.positionalRows.map rowText))
    ++ "\nOptions:\n" ++ String.join ((form.optionRows ++ [helpRow]).map rowText)

end ArgumentForm
end LineShell

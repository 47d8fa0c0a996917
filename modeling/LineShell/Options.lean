/-
The options of the interpreter as a program: the prompt, whether the
input is read as a plain stream even on a terminal, and what is logged.
-/
import LineShell.Library.Arguments

namespace LineShell

/-- The options. -/
structure Options where
  prompt : String := "> "
  plain : Bool := false
  log : String := "off"
  deriving DecidableEq, Repr

namespace Options

/-- The form of the program's arguments. -/
def form : ArgumentForm where
  valued := ["--prompt", "--log"]
  switches := ["--plain"]
  synopsis := " [--prompt <prompt>] [--plain] [--log <log>]"
  summary := "A minimal line-oriented command interpreter."
  optionRows :=
    [⟨"--prompt", "text printed before every line"⟩,
      ⟨"--plain", "read standard input as a plain stream, without line editing"⟩,
      ⟨"--log", "tracing filter used when RUST_LOG is unset, e.g. \"lsh=debug\""⟩]

/-- The options that arguments express. -/
def ofArguments (a : Arguments) : Options where
  prompt := (a.values.lookup "--prompt").getD "> "
  plain := a.switches.contains "--plain"
  log := (a.values.lookup "--log").getD "off"

/-- What comes of the program's arguments. -/
inductive Outcome
  | options (options : Options)
  /-- The usage was asked for. -/
  | usage (text : String)
  | refused (message : String)
  deriving DecidableEq, Repr

/-- Reads the program's arguments. `command` are the words it was called
by. -/
def read (command words : List String) : Outcome :=
  match form.read words with
  | .given arguments => .options (ofArguments arguments)
  | .helpRequested => .usage (form.usage (" ".intercalate command))
  | .refused message => .refused message

/-- Whether lines are edited: that makes sense on a terminal only. -/
def editsLines (o : Options) (onTerminal : Bool) : Bool :=
  onTerminal && !o.plain

end Options
end LineShell

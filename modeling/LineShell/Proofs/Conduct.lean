/-
All that one command does to a session, console and log included.
`Outcome` says what a command leaves behind the console; here is the rest
of it. `Conduct` has one case for each way that a command can go, with the
conditions under which it goes that way, the verdict, and the very session
that it leaves. Every command goes one of these ways (`conduct_runWords`), so
that what is said of commands in later modules is read off the cases.

There are six ways to fail. Of these, one says what is wrong with the
arguments; the five others report a fault.
-/
import LineShell.Proofs.Command

namespace LineShell

-- ================================================== parts of a session

/-- A program that writes elsewhere changes nothing of a console but its
input and the streams that it writes to. -/
theorem Console.withStreams_of_apart (streams : Streams) {c : Console} {output errors : Channel}
    (h : c.children = .apart output errors) :
    c.withStreams streams
      = { c with
          input := streams.input
          children := .apart (output.takeBack streams.output) (errors.takeBack streams.errors) } := by
  unfold withStreams
  rw [h]

/-- One that writes to the outlets leaves their channels as it has done. -/
theorem Console.withStreams_of_shared (streams : Streams) {c : Console}
    (h : c.children = .shared) :
    c.withStreams streams
      = { c with
          input := streams.input
          out := c.out.takeBack streams.output
          err := c.err.takeBack streams.errors } := by
  unfold withStreams
  rw [h]

namespace Session

/-- A session with another outlet for its output. -/
def withOut (out : Outlet) (s : Session) : Session :=
  { s with console := { s.console with out } }

/-- A session in which a builtin was begun. -/
def begun (name : String) (s : Session) : Session :=
  s.note (.runningBuiltin name)

/-- A session in which a line of diagnostics was written. -/
def complained (pieces : List String) (s : Session) : Session :=
  { s with console := s.console.complain pieces }

/-- A session that has printed, with or without success. -/
def printed (pieces : List Bytes) (s : Session) : Session :=
  s.withOut (s.console.out.print pieces).2

/-- A session that has flushed its output to run a program. -/
def readied (name : String) (s : Session) : Session :=
  (s.withOut s.console.out.flush.2).note (.launching name)

/-- A session that asks for a program that was found. -/
def asking (name : String) (program : Path) (r : ProgramRequest) (s : Session) : Session :=
  ((s.readied name).note (.spawning name program)).request r

/-- A print that succeeds. -/
theorem print_of_taken {pieces : List Bytes} {s : Session}
    (h : (s.console.out.print pieces).1 = none) : s.print pieces = (.goOn, s.printed pieces) := by
  unfold print Console.print
  dsimp only
  rw [h]
  rfl

/-- A print that is refused is a failure, and is reported. -/
theorem print_of_refused {pieces : List Bytes} {s : Session} {cause : SystemError}
    (h : (s.console.out.print pieces).1 = some cause) :
    s.print pieces = (s.printed pieces).report (.outputFailed cause) := by
  unfold print Console.print
  dsimp only
  rw [h]
  rfl

end Session

namespace Builtin

/-- The form of the commands that have one. -/
def formOf? : String → Option ArgumentForm
  | "cd" => some cdForm
  | "help" => some helpForm
  | "pwd" => some pwdForm
  | _ => none

/-- The commands that print. Of `cd` this is its usage. -/
def printing : List String := ["cd", "help", "pwd", "echo"]

/-- Why `cd` fails: it is given no directory, or cannot enter it. -/
inductive CdFault (words : List String) (s : Session) : Fault → Prop
  | missing : CdFault words s (.argumentMissing "cd")
  | notEntered {target : String} {cause : SystemError} (hcd : cdTarget? words = some target)
      (hgoal : cdGoal (Bytes.ofText target) s = .error cause) :
      CdFault words s (.notEntered (Bytes.ofText target) cause)

end Builtin

-- ============================================================== conduct

/-- What a command does: its words, the session before it, its verdict and
the session after it. -/
inductive Conduct (spawn : Spawner) :
    List String → Session → Verdict → Session → Prop
  /-- There was no command. -/
  | idle (s : Session) : Conduct spawn [] s .goOn s
  /-- It was `exit`. -/
  | left (rest : List String) (s : Session) :
      Conduct spawn ("exit" :: rest) s .leave (s.begun "exit")
  /-- Another builtin has printed. -/
  | printed {name : String} (rest : List String) {s : Session} (pieces : List Bytes)
      (hname : name ∈ Builtin.printing) (hprint : (s.console.out.print pieces).1 = none) :
      Conduct spawn (name :: rest) s .goOn ((s.begun name).printed pieces)
  /-- It could not. -/
  | notPrinted {name : String} (rest : List String) {s : Session} (pieces : List Bytes)
      {cause : SystemError} (hname : name ∈ Builtin.printing)
      (hprint : (s.console.out.print pieces).1 = some cause) :
      Conduct spawn (name :: rest) s .goOnAfterFault
        (((s.begun name).printed pieces).report (.outputFailed cause)).2
  /-- The arguments do not fill the form. -/
  | refused {name : String} {rest : List String} (s : Session) {form : ArgumentForm}
      {message : String} (hform : Builtin.formOf? name = some form)
      (hread : form.read rest = .refused message) :
      Conduct spawn (name :: rest) s .goOnAfterFault
        ((s.begun name).complained [Text.trimEnd message])
  /-- `cd` has moved the session. -/
  | moved {rest : List String} {s : Session} {target : String} {path : Path}
      {entered : WorkingDirectory} (hcd : Builtin.cdTarget? ("cd" :: rest) = some target)
      (hgoal : Builtin.cdGoal (Bytes.ofText target) s = .ok (path, entered)) :
      Conduct spawn ("cd" :: rest) s .goOn ((s.begun "cd").moved path entered)
  /-- It could not. -/
  | notMoved {rest : List String} {s : Session} {fault : Fault}
      (hfault : Builtin.CdFault ("cd" :: rest) s fault) :
      Conduct spawn ("cd" :: rest) s .goOnAfterFault ((s.begun "cd").report fault).2
  /-- The output could not be flushed for a program. -/
  | notFlushed {name : String} (rest : List String) {s : Session} {cause : SystemError}
      (hname : Builtin.named? name = none) (hflush : s.console.out.flush.1 = some cause) :
      Conduct spawn (name :: rest) s .goOnAfterFault
        ((s.withOut s.console.out.flush.2).report (.outputFailed cause)).2
  /-- There is no program of the name. -/
  | notFound {name : String} (rest : List String) {s : Session}
      (hname : Builtin.named? name = none) (hflush : s.console.out.flush.1 = none)
      (hfind : s.find? name = none) :
      Conduct spawn (name :: rest) s .goOnAfterFault
        ((s.readied name).report (.unknownCommand name)).2
  /-- The program could not be started. -/
  | notStarted {name : String} {rest : List String} {s : Session} {found : Found}
      {r : ProgramRequest} {cause : SystemError}
      (hname : Builtin.named? name = none) (hflush : s.console.out.flush.1 = none)
      (hfind : s.find? name = some found) (hrequest : r = s.requestFor found.path rest)
      (hspawn : spawn r (s.asking name found.path r).scene = .error cause) :
      Conduct spawn (name :: rest) s .goOnAfterFault
        ((s.asking name found.path r).report (.ofRequest name cause)).2
  /-- The program has run. -/
  | ran {name : String} {rest : List String} {s : Session} {found : Found}
      {r : ProgramRequest} {ran : Ran}
      (hname : Builtin.named? name = none) (hflush : s.console.out.flush.1 = none)
      (hfind : s.find? name = some found) (hrequest : r = s.requestFor found.path rest)
      (hspawn : spawn r (s.asking name found.path r).scene = .ok ran) :
      Conduct spawn (name :: rest) s .goOn
        (((s.asking name found.path r).after ran).note (.ended name ran.ending))

namespace Conduct

variable {spawn : Spawner}

/-- A builtin that prints. -/
theorem of_print {name : String} (hname : name ∈ Builtin.printing) (rest : List String)
    (pieces : List Bytes) (s : Session) :
    Conduct spawn (name :: rest) s ((s.begun name).print pieces).1
      ((s.begun name).print pieces).2 := by
  cases hprint : (s.console.out.print pieces).1 with
  | none =>
      have hrun : (s.begun name).print pieces = _ := Session.print_of_taken hprint
      rw [hrun]
      exact .printed rest pieces hname hprint
  | some cause =>
      have hrun : (s.begun name).print pieces = _ := Session.print_of_refused hprint
      rw [hrun]
      exact .notPrinted rest pieces hname hprint

/-- A builtin with a form that does as its action does if its arguments are
given. -/
theorem of_withForm {name : String} {form : ArgumentForm}
    {act : Arguments → Session → Verdict × Session}
    (hname : name ∈ Builtin.printing) (hform : Builtin.formOf? name = some form)
    (rest : List String) (s : Session)
    (hact : ∀ arguments, form.read rest = .given arguments →
      Conduct spawn (name :: rest) s (act arguments (s.begun name)).1
        (act arguments (s.begun name)).2) :
    Conduct spawn (name :: rest) s
      (Builtin.withForm form name act (name :: rest) (s.begun name)).1
      (Builtin.withForm form name act (name :: rest) (s.begun name)).2 := by
  unfold Builtin.withForm
  rw [show (name :: rest).drop 1 = rest from rfl]
  cases hread : form.read rest with
  | given arguments => exact hact arguments hread
  | helpRequested => exact of_print hname rest _ s
  | refused message => exact .refused s hform hread

/-- `cd` with arguments. -/
theorem of_cd {rest : List String} {arguments : Arguments} (s : Session)
    (hread : Builtin.cdForm.read rest = .given arguments) :
    Conduct spawn ("cd" :: rest) s (Builtin.cd arguments (s.begun "cd")).1
      (Builtin.cd arguments (s.begun "cd")).2 := by
  have hcd : Builtin.cdTarget? ("cd" :: rest) = arguments.words.head?.filter (· ≠ "") := by
    simp [Builtin.cdTarget?, hread]
  unfold Builtin.cd
  split
  · exact .notMoved .missing
  · exact .notMoved .missing
  · rename_i word hempty hhead
    have htarget : Builtin.cdTarget? ("cd" :: rest) = some word := by
      rw [hcd, hhead, Option.filter_some]
      simpa using hempty
    dsimp only
    split
    · rename_i cause hgoal
      exact .notMoved (.notEntered htarget hgoal)
    · rename_i path entered hgoal
      exact .moved htarget hgoal

/-- A program. -/
theorem of_program {name : String} {s : Session} (rest : List String)
    (hname : Builtin.named? name = none) (hflush : s.console.out.flush.1 = none) :
    Conduct spawn (name :: rest) s ((s.readied name).runProgram spawn (name :: rest)).1
      ((s.readied name).runProgram spawn (name :: rest)).2 := by
  have hsame : (s.readied name).find? name = s.find? name := rfl
  unfold Session.runProgram
  dsimp only
  rw [hsame]
  cases hfind : s.find? name with
  | none => exact .notFound rest hname hflush hfind
  | some found =>
      dsimp only
      split
      · rename_i cause hspawn
        exact .notStarted hname hflush hfind rfl hspawn
      · rename_i ran hspawn
        exact .ran hname hflush hfind rfl hspawn

end Conduct

namespace Session

/-- Every command goes one of the ways that there are. -/
theorem conduct_runWords (spawn : Spawner) (words : List String) (s : Session) :
    Conduct spawn words s (s.runWords spawn words).1 (s.runWords spawn words).2 := by
  cases words with
  | nil => exact .idle s
  | cons name rest =>
      unfold runWords Command.ofName
      dsimp only
      cases hb : Builtin.named? name with
      | some b =>
          obtain ⟨hmem, hbname⟩ := Builtin.named?_spec hb
          dsimp only
          simp only [Builtin.all, List.mem_cons, List.not_mem_nil, or_false] at hmem
          rcases hmem with rfl | rfl | rfl | rfl | rfl
          · obtain rfl : "cd" = name := hbname
            exact .of_withForm (by decide) rfl rest s fun arguments hread => .of_cd s hread
          · obtain rfl : "exit" = name := hbname
            exact .left rest s
          · obtain rfl : "help" = name := hbname
            exact .of_withForm (by decide) rfl rest s fun arguments _ =>
              .of_print (by decide) rest _ s
          · obtain rfl : "pwd" = name := hbname
            exact .of_withForm (by decide) rfl rest s fun arguments _ =>
              .of_print (by decide) rest _ s
          · obtain rfl : "echo" = name := hbname
            exact .of_print (by decide) rest _ s
      | none =>
          dsimp only
          cases hflush : s.console.out.flush.1 with
          | none =>
              simp only [Console.flush, hflush]
              exact .of_program rest hb hflush
          | some cause =>
              simp only [Console.flush, hflush]
              exact .notFlushed rest hb hflush

end Session
end LineShell

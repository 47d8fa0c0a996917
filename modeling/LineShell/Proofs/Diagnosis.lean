/-
What one command says on the outlet for diagnostics, if that takes all that
is written to it. A command that has not failed says nothing. One that has
failed says one thing: it reports a fault, and notes that fault and no
other in the log, or it says what is wrong with its arguments, and notes
none (`Dispatch.Agrees`).

# In one line

Which fault a command reports is told by what has gone wrong (`Raises`),
and so its text is known. It is one line if the words of the command are,
with two provisos. An output that fails may give any text as its reason,
and what cannot start a program may do so too. The first is asked to give
its reasons in one line (`Outlet.AnswersInOneLine`). The second is the
system, whose errors have their texts from a table (`RefusesPlainly`).
-/
import LineShell.Proofs.Conduct
import LineShell.Proofs.Dispatch
import LineShell.Proofs.Encoding
import LineShell.Proofs.Message
import LineShell.Proofs.Outlet

namespace LineShell

-- ==================================================== lines and complaints

/-- A text as a line of diagnostics. -/
def Text.asLine (text : String) : Bytes :=
  Bytes.ofText text ++ [Outlet.newline]

/-- One line: a newline, and none in front of it. -/
def Bytes.IsLine (bytes : Bytes) : Prop :=
  ∃ front, bytes = front ++ [Outlet.newline] ∧ Outlet.newline ∉ front

theorem Text.isLine_asLine {text : String} (h : OneLine text) : (asLine text).IsLine :=
  ⟨Bytes.ofText text, rfl, by rwa [Bytes.newline_mem_ofText_iff]⟩

theorem Bytes.count_newline_of_isLine {bytes : Bytes} (h : bytes.IsLine) :
    bytes.count Outlet.newline = 1 := by
  obtain ⟨front, rfl, hfront⟩ := h
  rw [List.count_append, List.count_eq_zero_of_not_mem hfront]
  rfl

/-- The pieces of a line, put together. -/
theorem Text.flatten_pieces (pieces : List String) :
    (pieces.map Bytes.ofText ++ [[Outlet.newline]]).flatten = asLine (String.join pieces) := by
  rw [List.flatten_append, ← Bytes.ofText_join]
  rfl

/-- An outlet that takes everything takes a complaint as a line. -/
theorem Console.complain_spec {c : Console} (h : c.err.TakesAll) (pieces : List String) :
    (c.complain pieces).err.TakesAll ∧
      (c.complain pieces).err.written = c.err.written ++ Text.asLine (String.join pieces) := by
  obtain ⟨-, hwritten, htakes⟩ := h.print (pieces.map Bytes.ofText ++ [[Outlet.newline]])
  refine ⟨htakes, hwritten.trans ?_⟩
  rw [Text.flatten_pieces]

/-- The line in which a fault is reported. -/
theorem Console.written_report {c : Console} (h : c.err.TakesAll) (fault : Fault) :
    (c.complain ("lsh: " :: fault.pieces)).err.written
      = c.err.written ++ Text.asLine ("lsh: " ++ fault.message) := by
  rw [(complain_spec h _).2, String.join_cons]
  rfl

/-- A line that is written as a whole. -/
theorem Console.written_complain {c : Console} (h : c.err.TakesAll) (text : String) :
    (c.complain [text]).err.written = c.err.written ++ Text.asLine text := by
  rw [(complain_spec h _).2, String.join_cons, String.join_nil, String.append_empty]

/-- A program that has run has taken no notes. -/
theorem Console.log_withStreams (streams : Streams) (c : Console) :
    (c.withStreams streams).log = c.log := by
  unfold withStreams
  split
  · rfl
  · rfl

/-- It may have written to where the session puts its diagnostics, if that
is where its own go. -/
theorem Console.err_withStreams (streams : Streams) (c : Console) :
    (c.withStreams streams).err = c.err ∨
      c.children = .shared ∧
        (c.withStreams streams).err = c.err.takeBack streams.errors := by
  unfold withStreams
  cases c.children with
  | shared => exact .inr ⟨rfl, rfl⟩
  | apart output errors => exact .inl rfl

/-- The fault that a note speaks of. -/
def LogEntry.fault? : LogEntry → Option Fault
  | .failed fault => some fault
  | _ => none

-- ============================================================== diagnoses

/-- A fault that a command reports in a session. -/
inductive Raises (spawn : Spawner) (words : List String) (s : Session) : Fault → Prop
  | notPrinted {pieces : List Bytes} {cause : SystemError}
      (h : (s.console.out.print pieces).1 = some cause) :
      Raises spawn words s (.outputFailed cause)
  | notFlushed {cause : SystemError} (h : s.console.out.flush.1 = some cause) :
      Raises spawn words s (.outputFailed cause)
  | notMoved {fault : Fault} (h : Builtin.CdFault words s fault) : Raises spawn words s fault
  | notFound {name : String} {rest : List String} (hwords : words = name :: rest)
      (hfind : s.find? name = none) : Raises spawn words s (.unknownCommand name)
  | notStarted {name : String} {rest : List String} {found : Found} {scene : Scene}
      {cause : SystemError} (hwords : words = name :: rest) (hfind : s.find? name = some found)
      (hspawn : spawn (s.requestFor found.path rest) scene = .error cause) :
      Raises spawn words s (.ofRequest name cause)

/-- What a command that failed has to say, and the faults that it notes. -/
inductive Diagnosis (spawn : Spawner) (words : List String) (s : Session) :
    String → List Fault → Prop
  /-- It reports a fault. -/
  | reported {fault : Fault} (h : Raises spawn words s fault) :
      Diagnosis spawn words s ("lsh: " ++ fault.message) [fault]
  /-- It has a form, and its arguments do not fill it. -/
  | refused {name : String} {rest : List String} {form : ArgumentForm} {message : String}
      (hwords : words = name :: rest) (hform : Builtin.formOf? name = some form)
      (hread : form.read rest = .refused message) :
      Diagnosis spawn words s (Text.trimEnd message) []

namespace Dispatch

/-- The notes that a command has taken speak of these faults. -/
def Notes (d : Dispatch) (faults : List Fault) : Prop :=
  ∃ notes, d.after.console.log = notes ++ d.before.console.log ∧
    notes.filterMap LogEntry.fault? = faults

/-- A program has run, and its diagnostics go where those of the session
go, as it has left that. -/
def RanOn (spawn : Spawner) (d : Dispatch) : Prop :=
  d.before.console.children = .shared ∧
    ∃ r scene ran, scene.streams.errors = d.before.console.err.channel.clear ∧
      spawn r scene = .ok ran ∧
      d.after.console.err = d.before.console.err.takeBack ran.streams.errors

/-- What a command has said agrees with its verdict, and its notes do. -/
inductive Agrees (spawn : Spawner) (d : Dispatch) : Prop
  /-- It has not failed, has said nothing and notes no fault. -/
  | quiet (hverdict : d.verdict ≠ .goOnAfterFault)
      (herr : d.after.console.err = d.before.console.err ∨ d.RanOn spawn) (hnotes : d.Notes [])
  /-- It has failed, and has said one thing. -/
  | loud {text : String} {faults : List Fault} (hverdict : d.verdict = .goOnAfterFault)
      (hdiagnosis : Diagnosis spawn d.words d.before text faults)
      (herr : d.after.console.err.written = d.before.console.err.written ++ Text.asLine text)
      (hnotes : d.Notes faults)

end Dispatch

-- ============================================================ one command

/-- A command says what its verdict and its notes say. -/
theorem Conduct.agrees {spawn : Spawner} {words : List String} {s s' : Session}
    {verdict : Verdict} (h : Conduct spawn words s verdict s')
    (herr : s.console.err.TakesAll) : Dispatch.Agrees spawn ⟨words, s, verdict, s'⟩ := by
  have hreport : ∀ (console : Console) (fault : Fault), console.err = s.console.err →
      (console.complain ("lsh: " :: fault.pieces)).err.written
        = s.console.err.written ++ Text.asLine ("lsh: " ++ fault.message) := by
    intro console fault hsame
    rw [← hsame] at herr ⊢
    exact Console.written_report herr fault
  cases h with
  | idle => exact .quiet (by simp) (.inl rfl) ⟨[], rfl, rfl⟩
  | left rest => exact .quiet (by simp) (.inl rfl) ⟨[_], rfl, rfl⟩
  | printed rest pieces hname hprint => exact .quiet (by simp) (.inl rfl) ⟨[_], rfl, rfl⟩
  | notPrinted rest pieces hname hprint =>
      exact .loud rfl (.reported (.notPrinted hprint)) (hreport _ _ rfl) ⟨[_, _], rfl, rfl⟩
  | refused _ hform hread =>
      exact .loud rfl (.refused rfl hform hread) (Console.written_complain herr _) ⟨[_], rfl, rfl⟩
  | moved hcd hgoal => exact .quiet (by simp) (.inl rfl) ⟨[_], rfl, rfl⟩
  | notMoved hfault =>
      exact .loud rfl (.reported (.notMoved hfault)) (hreport _ _ rfl) ⟨[_, _], rfl, rfl⟩
  | notFlushed rest hname hflush =>
      exact .loud rfl (.reported (.notFlushed hflush)) (hreport _ _ rfl) ⟨[_], rfl, rfl⟩
  | notFound rest hname hflush hfind =>
      exact .loud rfl (.reported (.notFound rfl hfind)) (hreport _ _ rfl) ⟨[_, _], rfl, rfl⟩
  | notStarted hname hflush hfind hrequest hspawn =>
      rw [hrequest] at hspawn
      exact .loud rfl (.reported (.notStarted rfl hfind hspawn)) (hreport _ _ rfl)
        ⟨[_, _, _], rfl, rfl⟩
  | @ran name rest _ found r ran hname hflush hfind hrequest hspawn =>
      have hlog := Console.log_withStreams ran.streams (s.asking name found.path r).console
      refine .quiet (by simp) ?_ ⟨[_, _, _], congrArg (_ :: ·) hlog, rfl⟩
      rcases Console.err_withStreams ran.streams (s.asking name found.path r).console with
        hsame | ⟨hshared, hleft⟩
      · exact .inl hsame
      · refine .inr ⟨hshared, r, _, ran, ?_, hspawn, hleft⟩
        have hchildren : s.console.children = .shared := hshared
        simp only [Session.scene, Console.streams, Session.asking, Session.request,
          Session.readied, Session.withOut, Session.note, Console.note, hchildren]

-- ================================================ one line for a failure

/-- Programs that cannot be started are refused by the system, with an
error from its table. -/
def RefusesPlainly (spawn : Spawner) : Prop :=
  ∀ r scene cause, spawn r scene = .error cause → cause.IsStock

namespace Outlet

/-- What an answer says is of one line, if it is an error. -/
def InOneLine (answer : Option SystemError) : Prop :=
  ∀ cause, answer = some cause → Text.OneLine cause.message

/-- The reasons that an outlet gives for its failures are of one line. -/
def AnswersInOneLine (o : Outlet) : Prop :=
  o.channel.AnswersWith InOneLine InOneLine

variable {o : Outlet}

theorem AnswersInOneLine.print (h : o.AnswersInOneLine) (pieces : List Bytes) :
    (o.print pieces).2.AnswersInOneLine :=
  (answers_print pieces h).1

theorem AnswersInOneLine.flush (h : o.AnswersInOneLine) : o.flush.2.AnswersInOneLine :=
  (answers_flush h).1

theorem AnswersInOneLine.cause_print (h : o.AnswersInOneLine) {pieces : List Bytes}
    {cause : SystemError} (hcause : (o.print pieces).1 = some cause) :
    Text.OneLine cause.message := by
  rcases (answers_print pieces h).2 cause hcause with hrefusal | rfl
  · exact hrefusal cause rfl
  · exact SystemError.IsStock.nothingTaken.oneLine_message

theorem AnswersInOneLine.cause_flush (h : o.AnswersInOneLine) {cause : SystemError}
    (hcause : o.flush.1 = some cause) : Text.OneLine cause.message := by
  rcases (answers_flush h).2 cause hcause with hrefusal | rfl | hflush
  · exact hrefusal cause rfl
  · exact SystemError.IsStock.nothingTaken.oneLine_message
  · exact hflush cause rfl

end Outlet

/-- A fault of a request is told in one line if the words and the error are. -/
theorem Fault.oneLine_ofRequest {name : String} {cause : SystemError}
    (hname : Text.OneLine name) (hcause : Text.OneLine cause.message) :
    Text.OneLine (Fault.ofRequest name cause).message := by
  unfold ofRequest
  dsimp only
  split
  · rw [message_notRun, Text.oneLine_append, Text.oneLine_append]
    exact ⟨⟨hname, by decide⟩, hcause⟩
  · rw [message_notStarted, Text.oneLine_append, Text.oneLine_append]
    exact ⟨⟨hname, by decide⟩, hcause⟩

section oneLine

variable {spawn : Spawner} {words : List String} {s : Session}
  (hwords : ∀ word ∈ words, Text.OneLine word) (hout : s.console.out.AnswersInOneLine)
  (hspawn : RefusesPlainly spawn)
include hwords hout hspawn

/-- The fault of a command is told in one line. -/
theorem Raises.oneLine {fault : Fault} (h : Raises spawn words s fault) :
    Text.OneLine fault.message := by
  cases h with
  | notPrinted h =>
      rw [Fault.message_outputFailed, Text.oneLine_append]
      exact ⟨by decide, hout.cause_print h⟩
  | notFlushed h =>
      rw [Fault.message_outputFailed, Text.oneLine_append]
      exact ⟨by decide, hout.cause_flush h⟩
  | notMoved h =>
      cases h with
      | missing => decide
      | @notEntered target cause hcd hgoal =>
          have htarget := hwords _ (Builtin.mem_of_cdTarget? hcd)
          rw [Fault.message_notEntered, Text.oneLine_append, Text.oneLine_append,
            Text.oneLine_append]
          exact ⟨⟨⟨by decide, Text.oneLine_display htarget⟩, by decide⟩,
            (Builtin.isStock_of_cdGoal hgoal).oneLine_message⟩
  | @notFound name rest hname hfind =>
      have hname : name ∈ words := hname ▸ List.mem_cons_self
      rw [Fault.unknownCommand, Fault.message_notRun, Text.oneLine_append, Text.oneLine_append]
      exact ⟨⟨hwords _ hname, by decide⟩, by decide⟩
  | @notStarted name rest found scene cause hname hfind hrefused =>
      have hname : name ∈ words := hname ▸ List.mem_cons_self
      exact Fault.oneLine_ofRequest (hwords _ hname) (hspawn _ _ _ hrefused).oneLine_message

/-- What a command that failed has to say is one line. -/
theorem Diagnosis.oneLine {text : String} {faults : List Fault}
    (h : Diagnosis spawn words s text faults) : Text.OneLine text := by
  cases h with
  | reported h =>
      exact Text.oneLine_append.2 ⟨by decide, h.oneLine hwords hout hspawn⟩
  | refused hsplit hform hread =>
      refine ArgumentForm.oneLine_of_readFrom (fun word hmem => hwords word ?_) hread
      rw [hsplit]
      exact List.mem_cons_of_mem _ hmem

end oneLine

-- ===================================================== what a command says

namespace Dispatch

/-- What a command has said. -/
def said (d : Dispatch) : Bytes :=
  d.after.console.err.written.drop d.before.console.err.written.length

/-- What is on the outlet after a command was there before, or it has said
it. -/
theorem said_of_written {d : Dispatch} {bytes : Bytes}
    (h : d.after.console.err.written = d.before.console.err.written ++ bytes) :
    d.said = bytes := by
  rw [said, h, List.drop_left]

/-- A command that fails has said what its diagnosis is. -/
theorem Agrees.said_of_failed {spawn : Spawner} {d : Dispatch} (h : d.Agrees spawn)
    (hfailed : d.verdict = .goOnAfterFault) :
    ∃ text faults, Diagnosis spawn d.words d.before text faults ∧ d.said = Text.asLine text ∧
      d.after.console.err.written = d.before.console.err.written ++ d.said := by
  cases h with
  | quiet hverdict herr hnotes => exact absurd hfailed hverdict
  | loud hverdict hdiagnosis herr hnotes =>
      exact ⟨_, _, hdiagnosis, said_of_written herr, by rw [said_of_written herr, herr]⟩

/-- Any other has said nothing, if no program can have. -/
theorem Agrees.said_of_not_failed {spawn : Spawner} {d : Dispatch} (h : d.Agrees spawn)
    (happart : d.before.console.children ≠ .shared) (hfailed : d.verdict ≠ .goOnAfterFault) :
    d.said = [] ∧ d.after.console.err.written = d.before.console.err.written ++ d.said := by
  cases h with
  | quiet hverdict herr hnotes =>
      have hsame : d.after.console.err.written = d.before.console.err.written ++ [] := by
        rcases herr with herr | hran
        · rw [herr, List.append_nil]
        · exact absurd hran.1 happart
      exact ⟨said_of_written hsame, by rw [said_of_written hsame, hsame]⟩
  | loud hverdict hdiagnosis herr hnotes => exact absurd hverdict hfailed

/-- A command says one line if it fails, and else nothing. -/
def SaysIfFailed (d : Dispatch) : Prop :=
  if d.verdict = .goOnAfterFault then d.said.IsLine else d.said = []

end Dispatch

end LineShell

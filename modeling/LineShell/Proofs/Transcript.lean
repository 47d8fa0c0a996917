/-
What a session of builtins leaves on its two outlets, with the prompts on the
same outlet as the output. A line of such a session adds to each what it
writes on a console of its own (`Session.replies`), since a builtin decides
behind the console what it does; so the output is, line by line, the prompt
and the reply, and the prompt once more if the input has ended
(`transcribes_readAndRun`).

# The lines that are read

The input may be the file that the output goes to. Then the prompts are among
what is read, and which lines there are shows only in the run itself. If the
output goes elsewhere they are the lines of the file (`Session.ReadsApart`).
-/
import LineShell.Proofs.Acts
import LineShell.Proofs.Buffered
import LineShell.Proofs.Deeds
import LineShell.Proofs.Diagnosis
import LineShell.Proofs.Sequence

namespace LineShell

-- =============================================================== channels

namespace Channel

/-- The file that a channel leads to. -/
def location? (c : Channel) : Option Location :=
  c.file?.map (·.place.location)

theorem location?_take (bytes : Bytes) (c : Channel) : (c.take bytes).location? = c.location? := by
  show (c.file?.map (·.take bytes)).map _ = _
  rw [Option.map_map]
  rfl

/-- Writing does not lead it elsewhere. -/
theorem keeps_location? (l : Option Location) : Keeps fun c => c.location? = l :=
  keeps_of_given (fun bytes c h => (location?_take bytes c).trans h)
    fun c c' _ hfile h => by rw [← h, location?, hfile, location?]

/-- A feed of another file is as it was. -/
theorem refresh_of_apart {c : Channel} {feed : Feed}
    (h : ∀ place, feed.file? = some place → c.location? ≠ some place.location) :
    c.refresh feed = feed := by
  unfold refresh
  cases hfile : c.file? with
  | none => rfl
  | some f =>
      have hlocation : c.location? = some f.place.location := by rw [location?, hfile]; rfl
      dsimp only
      unfold Feed.update
      cases hfeed : feed.file? with
      | none => rfl
      | some place =>
          dsimp only
          rw [if_neg]
          intro hsame
          exact h place hfeed (by rw [hlocation, hsame])

end Channel

-- =============================================================== commands

/-- What a line has written. -/
structure Reply where
  out : Bytes
  err : Bytes
  deriving DecidableEq, Repr

namespace Session

/-- The outlets take all that is written, and diagnostics are not held back. -/
structure Clear (s : Session) : Prop where
  out : s.console.out.TakesAll
  err : s.console.err.TakesAll
  direct : s.console.err.byLine = false

/-- A session has written this to its outlets, and has not touched its
input. -/
structure Adds (out err : Bytes) (s s' : Session) : Prop where
  out : s'.console.out.written = s.console.out.written ++ out
  err : s'.console.err.written = s.console.err.written ++ err
  clear : s'.Clear
  input : s'.console.input = s.console.input
  location : s'.console.out.channel.location? = s.console.out.channel.location?

theorem Adds.nothing {s : Session} (h : s.Clear) : s.Adds [] [] s :=
  ⟨(List.append_nil _).symm, (List.append_nil _).symm, h, rfl, rfl⟩

/-- What else there is to a session plays no part in it. -/
theorem Adds.of_console {out err : Bytes} {s t s' : Session} (h : t.Adds out err s')
    (hout : t.console.out = s.console.out) (herr : t.console.err = s.console.err)
    (hinput : t.console.input = s.console.input) : s.Adds out err s' :=
  ⟨hout ▸ h.out, herr ▸ h.err, h.clear, hinput ▸ h.input, hout ▸ h.location⟩

theorem adds_print {s : Session} (h : s.Clear) (pieces : List Bytes) :
    s.print pieces = (.goOn, s.printed pieces) ∧ s.Adds pieces.flatten [] (s.printed pieces) := by
  obtain ⟨hnone, hwritten, htakes⟩ := h.out.print pieces
  refine ⟨print_of_taken hnone, hwritten, (List.append_nil _).symm, ⟨htakes, h.err, h.direct⟩,
    rfl, ?_⟩
  exact (Outlet.ends_print (Channel.keeps_location? s.console.out.channel.location?) pieces rfl).1

theorem adds_moved {s : Session} (h : s.Clear) (path : Path) (entered : WorkingDirectory) :
    s.Adds [] [] (s.moved path entered) :=
  ⟨(List.append_nil _).symm, (List.append_nil _).symm, ⟨h.out, h.err, h.direct⟩, rfl, rfl⟩

theorem adds_complained {s : Session} (h : s.Clear) (pieces : List String) :
    s.Adds [] (Text.asLine (String.join pieces)) (s.complained pieces) := by
  obtain ⟨htakes, hwritten⟩ := Console.complain_spec h.err pieces
  exact ⟨(List.append_nil _).symm, hwritten, ⟨h.out, htakes, Outlet.byLine_print h.direct _⟩, rfl,
    rfl⟩

theorem adds_report {s : Session} (h : s.Clear) (fault : Fault) :
    s.Adds [] (Text.asLine (String.join ("lsh: " :: fault.pieces))) (s.report fault).2 :=
  (adds_complained (s := s.note (.failed fault)) ⟨h.out, h.err, h.direct⟩ _).of_console rfl rfl rfl

/-- An act adds the same to all sessions that have the same behind their
consoles, and leaves them so. -/
theorem adds_act (act : Builtin.Act) : ∃ out err, ∀ {s t : Session}, s.Clear → t.Clear →
    s.behind = t.behind →
      s.Adds out err (act.run s).2 ∧ t.Adds out err (act.run t).2 ∧
        (act.run s).1 = (act.run t).1 ∧ (act.run s).2.behind = (act.run t).2.behind := by
  cases act with
  | leave => exact ⟨[], [], fun hs ht hbehind => ⟨.nothing hs, .nothing ht, rfl, hbehind⟩⟩
  | print pieces =>
      refine ⟨pieces.flatten, [], fun {s t} hs ht hbehind => ?_⟩
      obtain ⟨hruns, hadds⟩ := adds_print hs pieces
      obtain ⟨hrunt, haddt⟩ := adds_print ht pieces
      show s.Adds _ _ (s.print pieces).2 ∧ t.Adds _ _ (t.print pieces).2 ∧
        (s.print pieces).1 = (t.print pieces).1 ∧ _
      rw [hruns, hrunt]
      refine ⟨hadds, haddt, rfl, ?_⟩
      show (s.print pieces).2.behind = (t.print pieces).2.behind
      rw [behind_print, behind_print, hbehind]
  | refuse message =>
      exact ⟨[], Text.asLine (String.join [message]), fun hs ht hbehind =>
        ⟨adds_complained hs [message], adds_complained ht [message], rfl, hbehind⟩⟩
  | report fault =>
      exact ⟨[], Text.asLine (String.join ("lsh: " :: fault.pieces)), fun hs ht hbehind =>
        ⟨adds_report hs fault, adds_report ht fault, rfl, hbehind⟩⟩
  | move path entered =>
      refine ⟨[], [], fun {s t} hs ht hbehind =>
        ⟨adds_moved hs path entered, adds_moved ht path entered, rfl, ?_⟩⟩
      show (s.moved path entered).behind = (t.moved path entered).behind
      unfold moved behind
      rw [machine_eq_of_behind hbehind, environment_eq_of_behind hbehind,
        prompt_eq_of_behind hbehind]

variable {spawn : Spawner}

theorem exists_act_runWords (spawn : Spawner) {name : String} {rest : List String}
    (h : ¬Builtin.isProgram (name :: rest)) (s : Session) :
    ∃ act : Builtin.Act, ∀ t : Session, t.behind = s.behind →
      t.runWords spawn (name :: rest) = act.run (t.note (.runningBuiltin name)) := by
  obtain ⟨b, hb⟩ : ∃ b, Builtin.named? name = some b := by
    rw [← Option.ne_none_iff_exists']
    intro hnone
    refine h ?_
    have hname := Builtin.named?_eq_none_iff.1 hnone
    simpa [Builtin.isProgram] using hname
  obtain ⟨act, hact⟩ := Builtin.exists_act (Builtin.named?_spec hb).1 (name :: rest) s
  refine ⟨act, fun t ht => ?_⟩
  rw [← hact (t.note (.runningBuiltin name)) ht]
  unfold runWords Command.ofName
  dsimp only
  rw [hb]

/-- So does a line without a program. -/
theorem adds_runLine {line : String} {s t : Session} (hs : s.Clear) (ht : t.Clear)
    (hbehind : s.behind = t.behind) (hbuiltin : ¬Builtin.isProgram (Words.ofLine line)) :
    ∃ out err, s.Adds out err (s.runLine spawn line).2 ∧ t.Adds out err (t.runLine spawn line).2 ∧
      (s.runLine spawn line).1 = (t.runLine spawn line).1 ∧
      (s.runLine spawn line).2.behind = (t.runLine spawn line).2.behind := by
  have hrun : ∀ u : Session,
      u.runLine spawn line = (u.split line).2.runWords spawn (Words.ofLine line) := fun _ => rfl
  rw [hrun, hrun]
  cases hwords : Words.ofLine line with
  | nil =>
      have hnothing : ∀ {u : Session}, u.Clear → u.Adds [] [] (u.split line).2 := by
        intro u h
        have hsplit : (u.split line).2.Adds [] [] (u.split line).2 :=
          .nothing ⟨h.out, h.err, h.direct⟩
        exact hsplit.of_console rfl rfl rfl
      exact ⟨[], [], hnothing hs, hnothing ht, rfl, hbehind⟩
  | cons name rest =>
      rw [hwords] at hbuiltin
      obtain ⟨act, hact⟩ := exists_act_runWords spawn hbuiltin (s.split line).2
      rw [hact (s.split line).2 rfl, hact (t.split line).2 hbehind.symm]
      obtain ⟨out, err, hadds⟩ := adds_act act
      obtain ⟨hadds_s, hadds_t, hverdict, hafter⟩ :=
        hadds (s := (s.split line).2.note (.runningBuiltin name))
          (t := (t.split line).2.note (.runningBuiltin name))
          ⟨hs.out, hs.err, hs.direct⟩ ⟨ht.out, ht.err, ht.direct⟩ hbehind
      exact ⟨out, err, hadds_s.of_console rfl rfl rfl, hadds_t.of_console rfl rfl rfl, hverdict,
        hafter⟩

-- ================================================================ replies

/-- A session with a console of its own, to which nothing has been written. -/
def afresh (s : Session) : Session :=
  { s with console := {} }

theorem clear_afresh (s : Session) : s.afresh.Clear :=
  ⟨⟨⟨rfl, by simp [afresh]⟩, fun _ => rfl⟩, ⟨⟨rfl, by simp [afresh]⟩, fun _ => rfl⟩, rfl⟩

/-- What lines that are run one after the other write, each on a console of
its own. -/
def replies (spawn : Spawner) : List String → Session → List Reply
  | [], _ => []
  | line :: lines, s =>
    let next := (s.afresh.runLine spawn line).2
    ⟨next.console.out.written, next.console.err.written⟩ :: replies spawn lines next

theorem replies_of_behind (lines : List String) {s t : Session} (h : s.behind = t.behind) :
    s.replies spawn lines = t.replies spawn lines := by
  have hsame : s.afresh = t.afresh := by
    unfold afresh
    rw [machine_eq_of_behind h, environment_eq_of_behind h, prompt_eq_of_behind h]
  cases lines with
  | nil => rfl
  | cons line lines => rw [replies, replies, hsame]

/-- A line without a program writes the same on any console, and what is
behind that does not show in the replies to other lines. -/
theorem adds_reply {line : String} {s : Session} (hs : s.Clear)
    (hbuiltin : ¬Builtin.isProgram (Words.ofLine line)) :
    ∃ reply, s.Adds reply.out reply.err (s.runLine spawn line).2 ∧
      ∀ lines, s.replies spawn (line :: lines)
        = reply :: (s.runLine spawn line).2.replies spawn lines := by
  obtain ⟨out, err, hadds, hfresh, -, hbehind⟩ :=
    adds_runLine hs s.clear_afresh rfl hbuiltin
  refine ⟨⟨out, err⟩, hadds, fun lines => ?_⟩
  rw [replies_of_behind lines hbehind, replies]
  congr 1
  rw [hfresh.out, hfresh.err]
  rfl

theorem not_isProgram_of_dispatched {line : String} {s : Session}
    (h : ∀ d ∈ s.dispatched spawn line, ¬Builtin.isProgram d.words) :
    ¬Builtin.isProgram (Words.ofLine line) := by
  by_cases hblank : Words.ofLine line = []
  · rw [hblank]
    exact Bool.false_ne_true
  · rw [dispatched_of_words hblank] at h
    exact h _ List.mem_cons_self

/-- What is on the output after these lines, which end with the input unless
they end with an `exit`: for each of them the prompt and what it writes, and
the prompt for the end of the input. -/
def transcript (spawn : Spawner) (read : List String) (s : Session) : Bytes :=
  (s.replies spawn read).flatMap (fun reply => Bytes.ofText s.prompt ++ reply.out)
    ++ if read.any asksToLeave then [] else Bytes.ofText s.prompt

/-- What the lines have to complain of. -/
def diagnostics (spawn : Spawner) (read : List String) (s : Session) : Bytes :=
  (s.replies spawn read).flatMap Reply.err

end Session

-- ============================================================ one reading

namespace Session

/-- The output does not lead to the file that the input is read from. -/
def ReadsApart (s : Session) : Prop :=
  ∀ place, s.console.input.file? = some place →
    s.console.out.channel.location? ≠ some place.location

theorem ReadsApart.of_location {s s' : Session} (h : s.ReadsApart)
    (hinput : s'.console.input.file?.map FilePlace.location
      = s.console.input.file?.map FilePlace.location)
    (hout : s'.console.out.channel.location? = s.console.out.channel.location?) :
    s'.ReadsApart := by
  intro place hplace hsame
  rw [hplace, Option.map_some] at hinput
  obtain ⟨place', hplace', hlocation⟩ := Option.map_eq_some_iff.1 hinput.symm
  exact h place' hplace' (by rw [← hout, hsame, hlocation])

/-- What a session has been shown before it reads. -/
structure Asks (s s' : Session) : Prop where
  out : s'.console.out.written = s.console.out.written ++ Bytes.ofText s.prompt
  err : s'.console.err = s.console.err
  clear : s'.Clear
  behind : s'.behind = s.behind

end Session

namespace Source.Standard

/-- What is read is read after the prompt has been shown. -/
theorem read_eq (prompt : String) (source : Standard) (console : Console) :
    ∃ prompted log piece input rest,
      prompted = { console with out := (Stream.announce prompt console.out).2, log } ∧
        source.input.takePiece prompted.feed.rest = (piece, input, rest) ∧
        Source.read prompt source console
          = (piece.reading, { input }, { prompted with input := prompted.feed.advance rest }) := by
  obtain ⟨log, hshown⟩ := Stream.exists_noteLoss (Stream.announce prompt console.out).1
    { console with out := (Stream.announce prompt console.out).2 }
  exact ⟨showPrompt prompt console, log, _, _, _, hshown, rfl, rfl⟩

section

variable {source source' : Standard} {s : Session} {reading : Reading} {console : Console}

/-- A reading shows the prompt. -/
theorem asks_of_read
    (h : Source.read s.prompt source s.console = (reading, source', console)) (hs : s.Clear) :
    s.Asks { s with console } := by
  obtain ⟨prompted, log, piece, input, rest, rfl, -, hread⟩ := read_eq s.prompt source s.console
  obtain ⟨hwritten, htakes⟩ := hs.out.announce s.prompt
  cases h.symm.trans hread
  exact ⟨hwritten, rfl, ⟨htakes, hs.err, hs.direct⟩, rfl⟩

/-- Of an input that can be read, a reading gives a line or the end. -/
theorem readable_of_read {prompt : String} {console console' : Console}
    (h : Source.read prompt source console = (reading, source', console'))
    (hreadable : source.input.Readable) :
    source'.input.Readable ∧ ∀ fault, reading ≠ .failed fault := by
  obtain ⟨prompted, log, piece, input, rest, -, htaken, hread⟩ := read_eq prompt source console
  obtain ⟨hleft, hsound⟩ := StandardInput.readable_takePiece hreadable prompted.feed.rest
  rw [htaken] at hleft hsound
  cases h.symm.trans hread
  refine ⟨hleft, fun fault hfault => ?_⟩
  rw [Piece.reading_of_raw? hsound] at hfault
  cases hraw : piece.raw? with
  | none =>
      rw [hraw] at hfault
      cases hfault
  | some raw =>
      rw [hraw] at hfault
      cases hfault

/-- If the prompt is shown elsewhere, it gives the first line that the input
holds. -/
theorem holds_of_read {raws : List Bytes}
    (h : Source.read s.prompt source s.console = (reading, source', console))
    (hapart : s.ReadsApart) (hheld : source.input.Holds s.console.input.rest raws) :
    reading = (raws.head?.map fun raw => Reading.line (Utf8.lossy raw)).getD .finished ∧
      source'.input.Holds console.input.rest raws.tail ∧
      ({ s with console } : Session).ReadsApart := by
  obtain ⟨prompted, log, piece, input, rest, hprompted, htaken, hread⟩ :=
    read_eq s.prompt source s.console
  have hlocation : prompted.out.channel.location? = s.console.out.channel.location? := by
    rw [hprompted]
    exact Outlet.kept_announce (Channel.keeps_location? s.console.out.channel.location?)
      (fun _ hc => hc) s.prompt rfl
  have hinput : prompted.input = s.console.input := by rw [hprompted]
  have hfeed : prompted.feed = s.console.input := by
    rw [← hinput]
    refine Channel.refresh_of_apart fun place hplace => ?_
    rw [hlocation]
    exact hapart place (hinput ▸ hplace)
  rw [hfeed] at hread htaken
  obtain ⟨hraw, hrest, hsound⟩ := StandardInput.takePiece_spec hheld
  rw [htaken] at hraw hrest hsound
  cases h.symm.trans hread
  refine ⟨?_, hrest, hapart.of_location ?_ hlocation⟩
  · rw [Piece.reading_of_raw? hsound, hraw]
  · show ((Option.map _ s.console.input.file?).map FilePlace.location) = _
    rw [Option.map_map]
    rfl

/-- An input that cannot be read fails the first reading. -/
theorem read_of_failure {cause : SystemError} (h : source.input.failure = some cause)
    (hfinal : ¬cause.isInterrupted) (hopen : cause ≠ .badDescriptor) (prompt : String)
    (console : Console) :
    (Source.read prompt source console).1 = .failed (.inputFailed cause) := by
  obtain ⟨prompted, log, piece, input, rest, -, htaken, hread⟩ := read_eq prompt source console
  rw [StandardInput.takePiece, h] at htaken
  dsimp only at htaken
  rw [if_neg hfinal, if_neg (by simpa using hopen)] at htaken
  cases htaken
  rw [hread]
  rfl

/-- One that is not open for reading has ended. -/
theorem read_of_closed (h : source.input.failure = some .badDescriptor) (prompt : String)
    (console : Console) : (Source.read prompt source console).1 = .finished := by
  obtain ⟨prompted, log, piece, input, rest, -, htaken, hread⟩ := read_eq prompt source console
  rw [StandardInput.takePiece, h] at htaken
  obtain ⟨rfl, -⟩ := Prod.mk.inj htaken
  rw [hread]
  rfl

end

end Source.Standard

-- =============================================================== all lines

/-- A session of builtins has ended well after these lines. -/
structure Dialogue.Transcribes (spawn : Spawner) (s : Session) (read : List String)
    (d : Dialogue Source.Standard) : Prop where
  result : d.result = .ok ()
  readings : d.readings = readingsUntilExit read
  whole : untilExit read = read
  out : d.session.console.out.written = s.console.out.written ++ s.transcript spawn read
  err : d.session.console.err.written = s.console.err.written ++ s.diagnostics spawn read
  clear : d.session.Clear

namespace Session

variable {spawn : Spawner}

theorem transcript_of_leaves {line : String} {s s' : Session} {reply : Reply}
    (hreplies : ∀ lines, s.replies spawn (line :: lines) = reply :: s'.replies spawn lines)
    (hleave : asksToLeave line) :
    s.transcript spawn [line] = Bytes.ofText s.prompt ++ reply.out := by
  unfold transcript
  rw [hreplies]
  simp [hleave, replies]

theorem transcript_of_stays {line : String} {s s' : Session} {reply : Reply}
    (hreplies : ∀ lines, s.replies spawn (line :: lines) = reply :: s'.replies spawn lines)
    (hprompt : s'.prompt = s.prompt) (hstay : ¬asksToLeave line) (lines : List String) :
    s.transcript spawn (line :: lines)
      = Bytes.ofText s.prompt ++ reply.out ++ s'.transcript spawn lines := by
  unfold transcript
  rw [hreplies, hprompt]
  simp [hstay]

/-- The prompt, and what a line writes. -/
theorem adds_turn {line : String} {s u : Session} (hasks : s.Asks u)
    (hbuiltins : ∀ d ∈ u.dispatched spawn line, ¬Builtin.isProgram d.words) :
    ∃ reply : Reply,
      (u.runLine spawn line).2.console.out.written
          = s.console.out.written ++ (Bytes.ofText s.prompt ++ reply.out) ∧
        (u.runLine spawn line).2.console.err.written = s.console.err.written ++ reply.err ∧
        u.Adds reply.out reply.err (u.runLine spawn line).2 ∧
        ∀ lines, s.replies spawn (line :: lines)
          = reply :: (u.runLine spawn line).2.replies spawn lines := by
  obtain ⟨reply, hadds, hreplies⟩ := adds_reply hasks.clear (not_isProgram_of_dispatched hbuiltins)
  refine ⟨reply, ?_, ?_, hadds, fun lines => ?_⟩
  · rw [hadds.out, hasks.out, List.append_assoc]
  · rw [hadds.err, hasks.err]
  · rw [← replies_of_behind _ hasks.behind, hreplies]

/-- Of an input that can be read, a session of builtins reads some lines, to
an `exit` or to the end, and shows what they write. If the output leads
elsewhere, they are the lines that the input holds. -/
theorem transcribes_readAndRun (spawn : Spawner) (source : Source.Standard) (s : Session)
    (hs : s.Clear) (hreadable : source.input.Readable)
    (hbuiltins : ∀ d ∈ Loop.dispatches spawn ⟨.asking, source, s⟩, ¬Builtin.isProgram d.words) :
    ∃ read, (readAndRun spawn source s).Transcribes spawn s read ∧
      ∀ raws, s.ReadsApart → source.input.Holds s.console.input.rest raws →
        read = untilExit (raws.map Utf8.lossy) := by
  -- along the turns: each leaves its outlets clear and the input readable, and the
  -- replies of the lines behind it are those of the session that it leaves
  induction source, s using turn_induction (σ := Source.Standard) spawn with
  | @finished source source' s console h =>
      have hasks := Source.Standard.asks_of_read h hs
      rw [readAndRun_of_finished h]
      refine ⟨[], ⟨rfl, rfl, rfl, hasks.out, ?_, hasks.clear⟩, fun raws hapart hholds => ?_⟩
      · rw [hasks.err]
        exact (List.append_nil _).symm
      · obtain ⟨hreading, -⟩ := Source.Standard.holds_of_read h hapart hholds
        cases raws with
        | nil => rfl
        | cons raw raws => cases hreading
  | @fatal source source' s console fault hfault h =>
      exact absurd rfl ((Source.Standard.readable_of_read h hreadable).2 fault)
  | @survived source source' s console fault hfault h ih =>
      exact absurd rfl ((Source.Standard.readable_of_read h hreadable).2 fault)
  | @leaves source source' s console line h hleave =>
      have hasks := Source.Standard.asks_of_read h hs
      rw [Loop.dispatches_of_line h, if_neg hleave, List.append_nil] at hbuiltins
      obtain ⟨reply, hout, herr, hadds, hreplies⟩ := adds_turn hasks hbuiltins
      rw [readAndRun_of_line_leaves h hleave]
      rw [goesOn_runLine_iff, not_not] at hleave
      refine ⟨[line], ⟨rfl, ?_, untilExit_of_leaves hleave [], ?_, ?_, hadds.clear⟩,
        fun raws hapart hholds => ?_⟩
      · rw [readingsUntilExit, untilExit_of_leaves hleave]
        simp [hleave]
      · rw [transcript_of_leaves hreplies hleave]
        exact hout
      · rw [diagnostics, hreplies]
        refine herr.trans ?_
        simp [replies]
      · obtain ⟨hreading, -⟩ := Source.Standard.holds_of_read h hapart hholds
        cases raws with
        | nil => cases hreading
        | cons raw raws =>
            cases hreading
            exact (untilExit_of_leaves hleave _).symm
  | @goesOn source source' s console line h hgo ih =>
      have hasks := Source.Standard.asks_of_read h hs
      have hreadable' := (Source.Standard.readable_of_read h hreadable).1
      rw [Loop.dispatches_of_line h, if_pos hgo] at hbuiltins
      obtain ⟨reply, hout, herr, hadds, hreplies⟩ :=
        adds_turn hasks fun d hd => hbuiltins d (List.mem_append_left _ hd)
      obtain ⟨read, htranscribes, hread⟩ :=
        ih hadds.clear hreadable' fun d hd => hbuiltins d (List.mem_append_right _ hd)
      rw [readAndRun_of_line_goesOn h hgo]
      rw [goesOn_runLine_iff] at hgo
      refine ⟨line :: read, ⟨htranscribes.result, ?_, ?_, ?_, ?_, htranscribes.clear⟩,
        fun raws hapart hholds => ?_⟩
      · rw [Dialogue.after, htranscribes.readings, readingsUntilExit, readingsUntilExit,
          untilExit_of_stays hgo]
        simp [hgo]
      · rw [untilExit_of_stays hgo, htranscribes.whole]
      · rw [transcript_of_stays hreplies (prompt_runLine spawn line _) hgo]
        refine htranscribes.out.trans ?_
        rw [hout, List.append_assoc]
      · rw [diagnostics, hreplies]
        refine htranscribes.err.trans ?_
        rw [herr, List.append_assoc]
        rfl
      · obtain ⟨hreading, hholds', hapart'⟩ := Source.Standard.holds_of_read h hapart hholds
        cases raws with
        | nil => cases hreading
        | cons raw raws =>
            cases hreading
            rw [hread raws (hapart'.of_location ?_ hadds.location) ?_, List.map_cons,
              untilExit_of_stays hgo]
            · rw [hadds.input]
            · rw [hadds.input]
              exact hholds'

/-- An input that cannot be read ends the session after one prompt. -/
theorem readAndRun_of_failure (spawn : Spawner) {source : Source.Standard} {s : Session}
    {cause : SystemError} (hs : s.Clear) (h : source.input.failure = some cause)
    (hfinal : ¬cause.isInterrupted) (hopen : cause ≠ .badDescriptor) :
    (readAndRun spawn source s).result = .error (.inputFailed cause) ∧
      s.Asks (readAndRun spawn source s).session := by
  have hfailed := Source.Standard.read_of_failure h hfinal hopen s.prompt s.console
  rcases hread : Source.read s.prompt source s.console with ⟨reading, source', console⟩
  rw [hread] at hfailed
  obtain rfl : reading = _ := hfailed
  rw [readAndRun_of_fatal rfl hread]
  exact ⟨rfl, Source.Standard.asks_of_read hread hs⟩

/-- One that has ended from the start ends it well. -/
theorem readAndRun_of_closed (spawn : Spawner) {source : Source.Standard} {s : Session}
    (hs : s.Clear) (h : source.input.failure = some .badDescriptor) :
    (readAndRun spawn source s).result = .ok () ∧
      s.Asks (readAndRun spawn source s).session := by
  have hended := Source.Standard.read_of_closed h s.prompt s.console
  rcases hread : Source.read s.prompt source s.console with ⟨reading, source', console⟩
  rw [hread] at hended
  obtain rfl : reading = _ := hended
  rw [readAndRun_of_finished hread]
  exact ⟨rfl, Source.Standard.asks_of_read hread hs⟩

end Session
end LineShell

/-
What a session does to its output and asks of the system, in order. There
are three kinds of deeds (`Deed`): something is printed, the output is
flushed, a program is asked for. A session comes to another by a list of
deeds (`Session.Does`) if these are all that was done: between two of them
the output, the files and the requests stay as they are.

Each command has its deeds, and they are told by its name
(`Dispatch.Orderly`). A builtin prints at most. A program is asked for
directly behind a flush that has succeeded, and if the flush fails there
is nothing behind it. A loop adds one flush, in the end, if it ends well.
So flushes are counted by counting commands.

# Deeds and the record of a channel

A flush is a deed also if what is held back cannot be handed on, and then
the channel knows nothing of it. Where that cannot happen, the record of
the channel has as many flushes as there were such deeds (`Does.flushes`).
-/
import LineShell.Proofs.Exit
import LineShell.Proofs.Flushing
import LineShell.Source.Editor
import Mathlib.Data.List.Forall2

namespace LineShell

-- ================================================================== deeds

/-- Something that a session does to its output, or asks of the system. -/
inductive Deed
  /-- Pieces are printed, as far as they can be. -/
  | printed (pieces : List Bytes)
  /-- The output is flushed, with this answer. -/
  | flushed (answer : Option SystemError)
  /-- A program is asked for, and has run if it could be started. -/
  | asked (r : ProgramRequest)
  deriving DecidableEq

namespace Deed

/-- The session after a deed. -/
def after (spawn : Spawner) : Deed → Session → Session
  | .printed pieces, s => s.printed pieces
  | .flushed _, s => s.withOut s.console.out.flush.2
  | .asked r, s =>
    match spawn r (s.request r).scene with
    | .error _ => s.request r
    | .ok ran => (s.request r).after ran

/-- The answer that a deed speaks of is the one that was given. -/
def IsTrueIn (s : Session) : Deed → Prop
  | .flushed answer => s.console.out.flush.1 = answer
  | _ => True

/-- Whether a deed is a flush. -/
def isFlush : Deed → Bool
  | .flushed _ => true
  | _ => false

/-- The program that a deed asks for. -/
def request? : Deed → Option ProgramRequest
  | .asked r => some r
  | _ => none

end Deed

namespace Session

/-- Nothing was done to the output, and nothing asked of the system. -/
structure Rests (s s' : Session) : Prop where
  out : s'.console.out = s.console.out
  children : s'.console.children = s.console.children
  files : s'.machine.files = s.machine.files
  requests : s'.machine.requests = s.machine.requests

theorem Rests.refl (s : Session) : s.Rests s :=
  ⟨rfl, rfl, rfl, rfl⟩

theorem Rests.trans {s s' s'' : Session} (h : s.Rests s') (h' : s'.Rests s'') : s.Rests s'' :=
  ⟨h'.out.trans h.out, h'.children.trans h.children, h'.files.trans h.files,
    h'.requests.trans h.requests⟩

/-- A session has come to another by these deeds, and by no others. -/
def Does (spawn : Spawner) : Session → List Deed → Session → Prop
  | s, [], s' => s.Rests s'
  | s, deed :: deeds, s' =>
    ∃ mid, s.Rests mid ∧ deed.IsTrueIn mid ∧ Does spawn (deed.after spawn mid) deeds s'

namespace Does

variable {spawn : Spawner} {s s₁ s' s'' : Session} {deeds deeds' : List Deed}

theorem of_rests (hrests : s.Rests s₁) (h : Does spawn s₁ deeds s') : Does spawn s deeds s' := by
  cases deeds with
  | nil => exact hrests.trans h
  | cons deed deeds =>
      obtain ⟨mid, hmid, htrue, hrest⟩ := h
      exact ⟨mid, hrests.trans hmid, htrue, hrest⟩

theorem append (h : Does spawn s deeds s') (h' : Does spawn s' deeds' s'') :
    Does spawn s (deeds ++ deeds') s'' := by
  induction deeds generalizing s with
  | nil => exact h'.of_rests h
  | cons deed deeds ih =>
      obtain ⟨mid, hmid, htrue, hrest⟩ := h
      exact ⟨mid, hmid, htrue, ih hrest⟩

/-- One deed, with nothing before it. -/
theorem single (deed : Deed) (htrue : deed.IsTrueIn s) (h : (deed.after spawn s).Rests s') :
    Does spawn s [deed] s' :=
  ⟨s, .refl s, htrue, h⟩

/-- A loop that leaves takes a note and flushes the output. -/
theorem leaving (s : Session) (entry : LogEntry) :
    Does spawn s [.flushed s.console.out.flush.1] (s.note entry).flushed :=
  .single _ rfl ⟨rfl, rfl, rfl, rfl⟩

end Does

end Session

-- ========================================================= one command

namespace Builtin

/-- The names of the builtins. -/
def names : List String := ["cd", "exit", "help", "pwd", "echo"]

/-- Every other name is that of a program. -/
theorem named?_eq_none_iff {name : String} : named? name = none ↔ name ∉ names := by
  rw [show names = all.map Builtin.name from rfl, named?, List.find?_eq_none]
  simp

/-- Whether words are those of a program: there is a first one, and it is
not the name of a builtin. -/
def isProgram (words : List String) : Bool :=
  words.head?.any (!names.contains ·)

theorem mem_names_of_printing {name : String} (h : name ∈ printing) : name ∈ names := by
  have hsub : printing ⊆ names := by decide
  exact hsub h

theorem mem_names_of_form {name : String} {form : ArgumentForm} (h : formOf? name = some form) :
    name ∈ names := by
  unfold formOf? at h
  split at h
  · decide
  · decide
  · decide
  · cases h

end Builtin

namespace Dispatch

/-- The deeds of a command, told by its name. -/
inductive Orderly (d : Dispatch) : List Deed → Prop
  /-- A builtin prints at most, and a blank line does not even that. -/
  | inside {deeds : List Deed} (hname : ∀ name ∈ d.words.head?, name ∈ Builtin.names)
      (hdeeds : deeds = [] ∨ ∃ pieces, deeds = [.printed pieces]) : Orderly d deeds
  /-- The output could not be flushed for a program. This is reported, and
  nothing else is done, whatever programs there are. -/
  | notFlushed {name : String} {rest : List String} {cause : SystemError}
      (hwords : d.words = name :: rest) (hname : name ∉ Builtin.names)
      (hverdict : d.verdict = .goOnAfterFault)
      (hafter : d.after
        = ((d.before.withOut d.before.console.out.flush.2).report (.outputFailed cause)).2) :
      Orderly d [.flushed (some cause)]
  /-- There is no program of the name. -/
  | notFound {name : String} {rest : List String} (hwords : d.words = name :: rest)
      (hname : name ∉ Builtin.names) (hfind : d.before.find? name = none) :
      Orderly d [.flushed none]
  /-- The program was asked for. -/
  | asked {name : String} {rest : List String} {found : Found} (hwords : d.words = name :: rest)
      (hname : name ∉ Builtin.names) (hfind : d.before.find? name = some found) :
      Orderly d [.flushed none, .asked (d.before.requestFor found.path rest)]

end Dispatch

/-- The deeds of a command are those of its kind. -/
theorem Conduct.orderly {spawn : Spawner} {words : List String} {s s' : Session}
    {verdict : Verdict} (h : Conduct spawn words s verdict s') :
    ∃ deeds, Dispatch.Orderly ⟨words, s, verdict, s'⟩ deeds ∧ s.Does spawn deeds s' := by
  have hinside : ∀ {name : String} {rest : List String}, name ∈ Builtin.names →
      ∀ other ∈ (name :: rest).head?, other ∈ Builtin.names := by
    intro name rest hname other hother
    rw [← Option.some.inj hother]
    exact hname
  cases h with
  | idle => exact ⟨[], .inside (by simp) (.inl rfl), .refl _⟩
  | left rest => exact ⟨[], .inside (hinside (by decide)) (.inl rfl), ⟨rfl, rfl, rfl, rfl⟩⟩
  | @printed name rest _ pieces hname hprint =>
      refine ⟨[.printed pieces], .inside (hinside (Builtin.mem_names_of_printing hname))
        (.inr ⟨pieces, rfl⟩), s.begun name, ⟨rfl, rfl, rfl, rfl⟩, trivial, .refl _⟩
  | @notPrinted name rest _ pieces cause hname hprint =>
      exact ⟨[.printed pieces], .inside (hinside (Builtin.mem_names_of_printing hname))
        (.inr ⟨pieces, rfl⟩), s.begun name, ⟨rfl, rfl, rfl, rfl⟩, trivial,
        ⟨rfl, rfl, rfl, rfl⟩⟩
  | refused _ hform hread =>
      exact ⟨[], .inside (hinside (Builtin.mem_names_of_form hform)) (.inl rfl),
        ⟨rfl, rfl, rfl, rfl⟩⟩
  | moved hcd hgoal => exact ⟨[], .inside (hinside (by decide)) (.inl rfl), ⟨rfl, rfl, rfl, rfl⟩⟩
  | notMoved hfault =>
      exact ⟨[], .inside (hinside (by decide)) (.inl rfl), ⟨rfl, rfl, rfl, rfl⟩⟩
  | @notFlushed name rest _ cause hname hflush =>
      exact ⟨[.flushed (some cause)],
        .notFlushed rfl (Builtin.named?_eq_none_iff.1 hname) rfl rfl,
        .single _ hflush ⟨rfl, rfl, rfl, rfl⟩⟩
  | @notFound name rest _ hname hflush hfind =>
      exact ⟨[.flushed none], .notFound rfl (Builtin.named?_eq_none_iff.1 hname) hfind,
        .single _ hflush ⟨rfl, rfl, rfl, rfl⟩⟩
  | @notStarted name rest _ found r cause hname hflush hfind hrequest hspawn =>
      subst hrequest
      refine ⟨_, .asked rfl (Builtin.named?_eq_none_iff.1 hname) hfind, s, .refl s, hflush,
        (s.readied name).note (.spawning name found.path), ⟨rfl, rfl, rfl, rfl⟩, trivial, ?_⟩
      unfold Session.asking at hspawn ⊢
      simp only [Deed.after, hspawn]
      exact ⟨rfl, rfl, rfl, rfl⟩
  | @ran name rest _ found r ran hname hflush hfind hrequest hspawn =>
      subst hrequest
      refine ⟨_, .asked rfl (Builtin.named?_eq_none_iff.1 hname) hfind, s, .refl s, hflush,
        (s.readied name).note (.spawning name found.path), ⟨rfl, rfl, rfl, rfl⟩, trivial, ?_⟩
      unfold Session.asking at hspawn ⊢
      simp only [Deed.after, hspawn]
      exact ⟨rfl, rfl, rfl, rfl⟩

-- ============================================================ whole loops

variable {σ : Type}

/-- Reading from a source leaves the output alone: it shows its prompts
elsewhere, and still does after a reading. -/
def Source.LeavesOutput [Source σ] (source : σ) : Prop :=
  ∃ Inv : σ → Prop, Inv source ∧ ∀ prompt source console, Inv source →
    Inv (Source.read prompt source console).2.1 ∧
      (Source.read prompt source console).2.2.out = console.out ∧
      (Source.read prompt source console).2.2.children = console.children

theorem Source.LeavesOutput.read [Source σ] {prompt : String} {source source' : σ}
    {console console' : Console} {reading : Reading} (hsource : LeavesOutput source)
    (h : Source.read prompt source console = (reading, source', console')) :
    LeavesOutput source' ∧ console'.out = console.out ∧ console'.children = console.children := by
  obtain ⟨Inv, hinv, hread⟩ := hsource
  obtain ⟨hinv', hout, hchildren⟩ := hread prompt source console hinv
  rw [h] at hinv' hout hchildren
  exact ⟨⟨Inv, hinv', hread⟩, hout, hchildren⟩

/-- A stream with an outlet of its own for prompts leaves the output alone. -/
theorem Source.Stream.leavesOutput {source : Source.Stream} (h : source.prompts.isSome) :
    LeavesOutput source := by
  refine ⟨fun source => source.prompts.isSome, h, fun prompt source console hsome => ?_⟩
  obtain ⟨hsome', log, hlog⟩ := exists_log_read hsome prompt console
  rw [hlog]
  exact ⟨hsome', rfl, rfl⟩

theorem Source.Events.leavesOutput (source : Source.Events) : LeavesOutput source :=
  ⟨fun _ => True, trivial, fun _ _ _ _ => ⟨trivial, rfl, rfl⟩⟩

theorem Source.Editor.leavesOutput (source : Source.Editor) : LeavesOutput source :=
  ⟨fun _ => True, trivial, fun _ _ _ _ => ⟨trivial, rfl, rfl⟩⟩

/-- The last deed of a loop: a flush, if it ends well. -/
def Deed.Closes (closing : List Deed) : Except Fault Unit → Prop
  | .ok () => ∃ answer, closing = [.flushed answer]
  | .error _ => closing = []

namespace Session

variable {spawn : Spawner}

/-- The deeds of a command. -/
theorem orderly_runWords (spawn : Spawner) (words : List String) (s : Session) :
    ∃ deeds, (Dispatch.of spawn words s).Orderly deeds ∧
      s.Does spawn deeds (s.runWords spawn words).2 :=
  (conduct_runWords spawn words s).orderly

/-- The deeds of a line are those of its command, if it has one. -/
theorem orderly_runLine (spawn : Spawner) (line : String) (s : Session) :
    ∃ traces, List.Forall₂ Dispatch.Orderly (s.dispatched spawn line) traces ∧
      s.Does spawn traces.flatten (s.runLine spawn line).2 := by
  have hsplit : s.Rests (s.split line).2 := ⟨rfl, rfl, rfl, rfl⟩
  obtain ⟨deeds, horderly, hdoes⟩ := orderly_runWords spawn (s.split line).1 (s.split line).2
  unfold dispatched
  by_cases hblank : (s.split line).1.isEmpty
  · refine ⟨[], ?_, ?_⟩
    · rw [if_pos hblank]
      exact .nil
    · show s.Rests ((s.split line).2.runWords spawn (s.split line).1).2
      rw [List.isEmpty_iff.1 hblank]
      exact hsplit
  · refine ⟨[deeds], ?_, ?_⟩
    · rw [if_neg hblank]
      exact .cons horderly .nil
    · rw [List.flatten_singleton]
      exact hdoes.of_rests hsplit

/-- The deeds of a loop are those of its commands, one after the other, and
a flush if it ends well. -/
theorem orderly_converse [Source σ] (spawn : Spawner) (source : σ) (s : Session)
    (hsource : Source.LeavesOutput source) :
    ∃ traces closing,
      List.Forall₂ Dispatch.Orderly (Loop.dispatches spawn ⟨.asking, source, s⟩) traces ∧
      Deed.Closes closing (s.converse spawn source).result ∧
      s.Does spawn (traces.flatten ++ closing) (s.converse spawn source).session := by
  induction source, s using turn_induction (σ := σ) spawn with
  | @finished source source' s console h =>
      obtain ⟨-, hout, hchildren⟩ := hsource.read h
      rw [Loop.dispatches_of_finished h, converse_of_finished h]
      have hread : s.Rests { s with console } := ⟨hout, hchildren, rfl, rfl⟩
      exact ⟨[], _, .nil, ⟨_, rfl⟩, (Does.leaving { s with console } .endOfInput).of_rests hread⟩
  | @fatal source source' s console fault hfault h =>
      obtain ⟨-, hout, hchildren⟩ := hsource.read h
      rw [Loop.dispatches_of_fatal hfault h, converse_of_fatal hfault h]
      exact ⟨[], [], .nil, rfl, hout, hchildren, rfl, rfl⟩
  | @survived source source' s console fault hfault h ih =>
      obtain ⟨hsource', hout, hchildren⟩ := hsource.read h
      obtain ⟨traces, closing, horderly, hcloses, hdoes⟩ := ih hsource'
      have hread : s.Rests (({ s with console } : Session).report fault).2 :=
        ⟨hout, hchildren, rfl, rfl⟩
      rw [Loop.dispatches_of_survived hfault h, converse_of_survived hfault h]
      exact ⟨traces, closing, horderly, hcloses, hdoes.of_rests hread⟩
  | @leaves source source' s console line h hleave =>
      obtain ⟨-, hout, hchildren⟩ := hsource.read h
      obtain ⟨traces, horderly, hdoes⟩ := orderly_runLine spawn line { s with console }
      have hread : s.Rests { s with console } := ⟨hout, hchildren, rfl, rfl⟩
      rw [Loop.dispatches_of_line h, if_neg hleave, List.append_nil,
        converse_of_line_leaves h hleave]
      exact ⟨traces, _, horderly, ⟨_, rfl⟩,
        (hdoes.of_rests hread).append (Does.leaving _ .exitRequested)⟩
  | @goesOn source source' s console line h hgo ih =>
      obtain ⟨hsource', hout, hchildren⟩ := hsource.read h
      obtain ⟨traces, horderly, hdoes⟩ := orderly_runLine spawn line { s with console }
      obtain ⟨traces', closing, horderly', hcloses, hdoes'⟩ := ih hsource'
      have hread : s.Rests { s with console } := ⟨hout, hchildren, rfl, rfl⟩
      rw [Loop.dispatches_of_line h, if_pos hgo, converse_of_line_goesOn h hgo]
      refine ⟨traces ++ traces', closing, List.rel_append horderly horderly', hcloses, ?_⟩
      rw [List.flatten_append, List.append_assoc]
      exact (hdoes.of_rests hread).append hdoes'

end Session

-- ====================================================== what follows of it

namespace Deed

/-- Every program is asked for directly behind a flush that has succeeded. -/
def AllFlushed (deeds : List Deed) : Prop :=
  ∀ before r rest, deeds = before ++ .asked r :: rest →
    ∃ front, before = front ++ [.flushed none]

theorem AllFlushed.append {deeds deeds' : List Deed} (h : AllFlushed deeds)
    (h' : AllFlushed deeds') : AllFlushed (deeds ++ deeds') := by
  intro before r rest heq
  -- the request stands in the first list or in the second
  rcases List.append_eq_append_iff.1 heq with ⟨more, rfl, hmore⟩ | ⟨more, hdeeds, hmore⟩
  · obtain ⟨front, rfl⟩ := h' more r rest hmore
    exact ⟨deeds ++ front, (List.append_assoc _ _ _).symm⟩
  · cases more with
    | nil =>
        obtain ⟨front, hnil⟩ := h' [] r rest (by simpa using hmore.symm)
        simp at hnil
    | cons deed more =>
        obtain ⟨rfl, -⟩ := List.cons.inj hmore
        exact h before r more hdeeds

end Deed

namespace Dispatch

variable {d : Dispatch} {deeds : List Deed}

/-- There is one flush for a program, and there is none for a builtin. -/
theorem Orderly.countP_isFlush (h : d.Orderly deeds) :
    deeds.countP Deed.isFlush = if Builtin.isProgram d.words then 1 else 0 := by
  have hprogram : ∀ {name : String} {rest : List String}, d.words = name :: rest →
      name ∉ Builtin.names → Builtin.isProgram d.words = true := by
    intro name rest hwords hname
    simpa [Builtin.isProgram, hwords] using hname
  cases h with
  | inside hname hdeeds =>
      have hinside : ¬Builtin.isProgram d.words = true := by
        cases hwords : d.words with
        | nil => simp [Builtin.isProgram]
        | cons name rest => simpa [Builtin.isProgram] using hname name (by simp [hwords])
      rw [if_neg hinside]
      rcases hdeeds with rfl | ⟨pieces, rfl⟩
      · rfl
      · rfl
  | notFlushed hwords hname hverdict hafter => rw [if_pos (hprogram hwords hname)]; rfl
  | notFound hwords hname hfind => rw [if_pos (hprogram hwords hname)]; rfl
  | asked hwords hname hfind => rw [if_pos (hprogram hwords hname)]; rfl

variable {ds : List Dispatch} {traces : List (List Deed)}

theorem countP_isFlush_flatten (h : List.Forall₂ Orderly ds traces) :
    traces.flatten.countP Deed.isFlush = ds.countP fun d => Builtin.isProgram d.words := by
  induction h with
  | nil => rfl
  | cons horderly _ ih =>
      rw [List.flatten_cons, List.countP_append, horderly.countP_isFlush, ih, List.countP_cons,
        Nat.add_comm]

end Dispatch

namespace Session.Does

variable {spawn : Spawner} {s s' : Session} {deeds : List Deed}

/-- The requests that were made are those of the deeds. -/
theorem requests (h : s.Does spawn deeds s') :
    s'.machine.requests = (deeds.filterMap Deed.request?).reverse ++ s.machine.requests := by
  induction deeds generalizing s with
  | nil => exact h.requests
  | cons deed deeds ih =>
      obtain ⟨mid, hmid, -, hrest⟩ := h
      rw [ih hrest, ← hmid.requests]
      cases deed with
      | printed pieces => rfl
      | flushed answer => rfl
      | asked r =>
          have hasked : (Deed.after spawn (.asked r) mid).machine.requests
              = r :: mid.machine.requests := by
            simp only [Deed.after]
            split
            · rfl
            · rfl
          rw [hasked]
          simp [Deed.request?]

/-- A program that was asked for has had the output lent, and may have left
something there, if it writes to the same channel. -/
theorem out_asked (spawn : Spawner) (r : ProgramRequest) (s : Session) :
    (Deed.after spawn (.asked r) s).console.out = s.console.out.lend ∨
      ∃ left, (Deed.after spawn (.asked r) s).console.out = s.console.out.lend.takeBack left := by
  simp only [Deed.after]
  split
  · exact .inl rfl
  · rename_i ran hspawn
    show (Console.withStreams _ _).out = _ ∨ ∃ left, (Console.withStreams _ _).out = _
    unfold Console.withStreams
    split
    · exact .inr ⟨ran.streams.output, rfl⟩
    · exact .inl rfl

/-- One deed, as the record of the output has it. -/
theorem flushes_after (spawn : Spawner) (deed : Deed) (hout : s.console.out.FlushesThrough) :
    (deed.after spawn s).console.out.FlushesThrough ∧
      (deed.after spawn s).console.out.channel.flushes
        = s.console.out.channel.flushes + if deed.isFlush then 1 else 0 := by
  cases deed with
  | printed pieces => exact ⟨hout.print pieces, Outlet.flushes_print pieces s.console.out⟩
  | flushed answer => exact hout.flush
  | asked r =>
      rcases out_asked spawn r s with hlent | ⟨left, hleft⟩
      · rw [hlent]
        exact ⟨hout.lend, Channel.flushes_lend _⟩
      · rw [hleft]
        exact ⟨hout.lend.takeBack left,
          (Channel.flushes_takeBack left _).trans (Channel.flushes_lend _)⟩

/-- The record of the output has the flushes among the deeds, if they reach
it; and they still do. -/
theorem flushes (h : s.Does spawn deeds s') (hout : s.console.out.FlushesThrough) :
    s'.console.out.FlushesThrough ∧
      s'.console.out.channel.flushes
        = s.console.out.channel.flushes + deeds.countP Deed.isFlush := by
  induction deeds generalizing s with
  | nil =>
      rw [h.out]
      exact ⟨hout, rfl⟩
  | cons deed deeds ih =>
      obtain ⟨mid, hmid, -, hrest⟩ := h
      rw [← hmid.out] at hout ⊢
      obtain ⟨hout', hflushes⟩ := flushes_after spawn deed hout
      obtain ⟨hout'', hcount⟩ := ih hrest hout'
      refine ⟨hout'', ?_⟩
      rw [hcount, hflushes, List.countP_cons, Nat.add_assoc, Nat.add_comm (ite _ _ _)]

end Session.Does

namespace Call

/-- The console that a call comes with. -/
def console : Call → Console
  | .runWords console _ => console
  | .runLine console _ => console
  | @converse _ _ console _ => console

/-- What a call reads from, if anything, shows its prompts elsewhere. -/
def LeavesOutput : Call → Prop
  | @converse _ _ _ source => Source.LeavesOutput source
  | _ => True

/-- The last deeds of a call, behind those of its commands. Only a loop has
one. -/
def Closes (spawn : Spawner) (closing : List Deed) (s : Session) : Call → Prop
  | @converse _ _ console source =>
    Deed.Closes closing (({ s with console } : Session).converse spawn source).result
  | _ => closing = []

end Call
end LineShell

/-
A stream and a line editor over the same bytes. The editor reads them as its
standard input, block by block, and decodes each line as a whole; the stream
has them in fills of its own and decodes what is not UTF-8 as well. Of bytes
without a backspace both give the same lines, and the end of the input in
the same reading, as long as the lines are UTF-8 (`readings_of_held`). At the
first line that is not, the stream gives a line and the editor an error.

# The input that is shared

The editor reads what programs inherit, and the stream does not. So loops
over the two do the same as long as no program is run that reads its standard
input, or is told by it (`Session.SparesAll`); a program that does finds what
the editor has not read yet, and takes it away (`lines_taken_away`). The
editor is compared with the commands of its lines in sequence
(`converse_of_held`), and so is the stream.
-/
import LineShell.Proofs.Canonical
import LineShell.Proofs.Flushing
import LineShell.Proofs.Sequence
import LineShell.Proofs.Sparing
import LineShell.Proofs.Unerased

namespace LineShell

-- ========================================================= lines that are text

namespace Bytes

/-- The lines in front of the first that is not UTF-8. -/
def textLines (raws : List Bytes) : List String :=
  (raws.takeWhile isText).map Utf8.lossy

theorem textLines_of_text {raw : Bytes} (h : raw.isText = true) (raws : List Bytes) :
    textLines (raw :: raws) = Utf8.lossy raw :: textLines raws := by
  rw [textLines, List.takeWhile_cons_of_pos h, List.map_cons, textLines]

theorem textLines_of_not_text {raw : Bytes} (h : ¬raw.isText = true) (raws : List Bytes) :
    textLines (raw :: raws) = [] := by
  rw [textLines, List.takeWhile_cons_of_neg h, List.map_nil]

theorem textLines_append (raws : List Bytes) :
    textLines raws ++ (raws.dropWhile isText).map Utf8.lossy = raws.map Utf8.lossy := by
  rw [textLines, ← List.map_append, List.takeWhile_append_dropWhile]

theorem textLines_of_forall {raws : List Bytes} (h : ∀ raw ∈ raws, raw.isText = true) :
    textLines raws = raws.map Utf8.lossy := by
  rw [textLines, List.takeWhile_eq_self_iff.2 h]

end Bytes

namespace Editor

/-- What the editor says of a line that is not UTF-8. -/
def notUtf8 : Fault := .editorFailed (.system .notUtf8)

/-- Whether the lines end well: they are UTF-8, to the end or to one that
asks to leave. -/
def endsWell : List Bytes → Bool
  | [] => true
  | raw :: raws => raw.isText && (asksToLeave (Utf8.lossy raw) || endsWell raws)

theorem endsWell_iff (raws : List Bytes) :
    endsWell raws = true
      ↔ (∀ raw ∈ raws, raw.isText = true) ∨ (Bytes.textLines raws).any asksToLeave = true := by
  induction raws with
  | nil => simp [endsWell]
  | cons raw raws ih =>
      by_cases htext : raw.isText = true
      · rw [endsWell, Bytes.textLines_of_text htext, List.any_cons, htext, Bool.true_and,
          Bool.or_eq_true, ih, List.forall_mem_cons, Bool.or_eq_true]
        tauto
      · rw [Bytes.textLines_of_not_text htext]
        simp [endsWell, htext]

end Editor

-- ============================================================= the editor

namespace Source.Editor

/-- What an editor has still to read has these lines, and no backspace. -/
structure Holds (source : Source.Editor) (console : Console) (raws : List Bytes) : Prop where
  input : ∃ input, source.input = .standard input ∧ input.Holds console.input.rest raws
  unerased : ∀ raw ∈ raws, Editor.backspace ∉ raw

theorem Holds.of_input {source : Source.Editor} {console console' : Console}
    {raws : List Bytes} (h : source.Holds console raws) (hinput : console'.input = console.input) :
    source.Holds console' raws := by
  refine ⟨?_, h.unerased⟩
  rw [hinput]
  exact h.input

/-- The history plays no part in what is read. -/
theorem read_eq (source : Source.Editor) (rest : Bytes) :
    (source.read rest).1 = (source.readInput rest).1 ∧
      (source.read rest).2.1.input = (source.readInput rest).2.1 ∧
      (source.read rest).2.2 = (source.readInput rest).2.2 := by
  unfold read
  split
  · rename_i hread
    rw [hread]
    exact ⟨rfl, rfl, rfl⟩
  · rename_i hread
    rw [hread]
    exact ⟨rfl, rfl, rfl⟩

/-- A reading is that of the first line, or the end of the input, and leaves
the other lines. Of the console it changes the input only. -/
theorem read_of_held {source : Source.Editor} {console : Console} {raws : List Bytes}
    (h : source.Holds console raws) (prompt : String) :
    ∃ source' input,
      Source.read prompt source console
          = ((raws.head?.map Editor.readingOf).getD .finished, source', { console with input }) ∧
        source'.Holds { console with input } raws.tail := by
  obtain ⟨⟨input, hinput, hholds⟩, hunerased⟩ := h
  obtain ⟨hraw, hrest, hsound⟩ := StandardInput.takePiece_spec hholds
  obtain ⟨hreading, hleft, hback⟩ := read_eq source console.input.rest
  have hin : source.readInput console.input.rest
      = (Editor.ofPiece (input.takePiece console.input.rest).1,
          .standard (input.takePiece console.input.rest).2.1,
          (input.takePiece console.input.rest).2.2) := by
    unfold readInput
    rw [hinput]
  rw [hin] at hreading hleft hback
  refine ⟨(source.read console.input.rest).2.1,
    console.input.advance (source.read console.input.rest).2.2,
    Prod.ext (hreading.trans ?_) rfl,
    ⟨⟨_, hleft, ?_⟩, fun raw hmem => hunerased raw (List.mem_of_mem_tail hmem)⟩⟩
  · rw [Editor.ofPiece_of_raw? hsound, hraw]
    cases raws with
    | nil => rfl
    | cons raw raws => exact Editor.ofBytes_of_not_mem (hunerased raw List.mem_cons_self)
  · show StandardInput.Holds _ (source.read console.input.rest).2.2 _
    rw [hback]
    exact hrest

/-- What successive readings give, one for each prompt. -/
def readings (prompts : List String) (source : Source.Editor) (console : Console) :
    List Reading :=
  match prompts with
  | [] => []
  | prompt :: prompts =>
    let (reading, source, console) := Source.read prompt source console
    reading :: readings prompts source console

/-- They are those of the lines, and then the end as often as it is asked
for. -/
theorem readings_of_held {prompts : List String} {source : Source.Editor} {console : Console}
    {raws : List Bytes} (h : source.Holds console raws) :
    readings prompts source console
      = (raws.map Editor.readingOf
          ++ List.replicate prompts.length Reading.finished).take prompts.length := by
  induction prompts generalizing source console raws with
  | nil => rfl
  | cons prompt prompts ih =>
      obtain ⟨source', input, hread, hheld⟩ := read_of_held h prompt
      unfold readings
      rw [hread]
      dsimp only
      rw [ih hheld]
      cases raws with
      | nil => rfl
      | cons raw raws =>
          have hle : prompts.length
              ≤ (raws.map Editor.readingOf
                ++ List.replicate prompts.length Reading.finished).length := by simp
          rw [List.map_cons, List.cons_append, List.length_cons, List.take_succ_cons,
            List.replicate_succ', ← List.append_assoc, List.take_append_of_le_length hle]
          rfl

end Source.Editor

/-- A stream gives every line, whether it is UTF-8 or not. -/
theorem Source.Stream.readings_of_raws {source : Source.Stream}
    (hflows : Fill.Flows source.fills) (prompts : List String) (console : Console) :
    source.readings prompts console
      = ((Fill.contents source.fills).rawLines.map (fun raw => Reading.line (Utf8.lossy raw))
          ++ List.replicate prompts.length Reading.finished).take prompts.length := by
  rw [readings_eq_take, Fill.readings_of_flows hflows, Bytes.lines_eq_rawLines, List.map_map]
  rfl

-- ============================================================ in sequence

namespace Session

variable {spawn : Spawner}

/-- Commands behind one that leaves are not run. -/
theorem perform_append_of_leaves {front : List (List String)}
    (h : front.any (·.head? == some "exit") = true) (back : List (List String)) (s : Session) :
    s.perform spawn (front ++ back) = s.perform spawn front := by
  induction front generalizing s with
  | nil => cases h
  | cons words front ih =>
      rw [List.cons_append]
      by_cases hgo : (s.runWords spawn words).1.goesOn
      · have hstay : ¬words.head? = some "exit" := by
          rw [← verdict_eq_leave_iff spawn words s]
          exact Verdict.goesOn_iff.1 hgo
        rw [List.any_cons, Bool.or_eq_true, beq_iff_eq] at h
        rw [perform_of_goesOn hgo, perform_of_goesOn hgo, ih (h.resolve_left hstay)]
      · rw [perform_of_leaves hgo, perform_of_leaves hgo]

/-- What is told of commands is told first with others behind them. -/
theorem told_perform_append (front back : List (List String)) (s : Session) :
    (s.perform spawn front).1 <+: (s.perform spawn (front ++ back)).1 := by
  induction front generalizing s with
  | nil => exact List.nil_prefix
  | cons words front ih =>
      rw [List.cons_append]
      by_cases hgo : (s.runWords spawn words).1.goesOn
      · rw [perform_of_goesOn hgo, perform_of_goesOn hgo]
        exact List.cons_prefix_cons.2 ⟨rfl, ih _⟩
      · have hsame : s.perform spawn (words :: (front ++ back))
            = s.perform spawn (words :: front) := by
          rw [perform_of_leaves hgo, perform_of_leaves hgo]
        exact hsame ▸ List.prefix_rfl

/-- Commands that leave the input alone leave it as it was. -/
theorem input_perform {commands : List (List String)} {s : Session}
    (h : s.SparesAll spawn commands) :
    (s.perform spawn commands).2.console.input = s.console.input := by
  induction commands generalizing s with
  | nil => rfl
  | cons words commands ih =>
      obtain ⟨hspares, hrest⟩ := h
      by_cases hgo : (s.runWords spawn words).1.goesOn
      · rw [perform_of_goesOn hgo]
        exact (ih (hrest hgo)).trans (input_runWords hspares)
      · rw [perform_of_leaves hgo]
        exact input_runWords hspares

/-- A line after which the loop goes on is the command that it has, if it has
one, also with another input. -/
theorem LikeButInput.perform_line_of_goesOn {line : String} {lines : List String}
    {s₁ s₂ : Session} (h : s₁.LikeButInput s₂)
    (hspares : s₁.SparesAll spawn (commandsOf (line :: lines)))
    (hgo : (s₂.runLine spawn line).1.goesOn) :
    ∃ s₁' : Session, s₁'.LikeButInput (s₂.runLine spawn line).2 ∧
      (s₂.runLine spawn line).2.console.input = s₂.console.input ∧
      s₁'.SparesAll spawn (commandsOf lines) ∧
      s₁.perform spawn (commandsOf (line :: lines))
        = ((s₂.dispatched spawn line).map Dispatch.told
            ++ (s₁'.perform spawn (commandsOf lines)).1,
          (s₁'.perform spawn (commandsOf lines)).2) := by
  have hline : s₂.runLine spawn line = (s₂.split line).2.runWords spawn (Words.ofLine line) := rfl
  have hsplit : s₁.LikeButInput (s₂.split line).2 := h.note_right _
  rw [hline] at hgo ⊢
  by_cases hblank : Words.ofLine line = []
  · rw [commandsOf_of_blank hblank] at hspares ⊢
    refine ⟨s₁, ?_, ?_, hspares, ?_⟩
    · rw [hblank]
      exact hsplit
    · rw [hblank]
      rfl
    · rw [dispatched_of_blank hblank, List.map_nil, List.nil_append]
  · rw [commandsOf_of_words hblank] at hspares ⊢
    obtain ⟨hverdict, hsession, hinput⟩ := hsplit.runWords hspares.1
    have hgo₁ : (s₁.runWords spawn (Words.ofLine line)).1.goesOn := hverdict ▸ hgo
    refine ⟨_, hsession, hinput, hspares.2 hgo₁, ?_⟩
    rw [perform_of_goesOn hgo₁, dispatched_of_words hblank, hverdict]
    rfl

/-- With a line after which it leaves, that is all. -/
theorem LikeButInput.perform_line_of_leaves {line : String} {lines : List String}
    {s₁ s₂ : Session} (h : s₁.LikeButInput s₂)
    (hspares : s₁.SparesAll spawn (commandsOf (line :: lines)))
    (hleave : ¬(s₂.runLine spawn line).1.goesOn) :
    ∃ s₁' : Session, s₁'.LikeButInput (s₂.runLine spawn line).2 ∧
      s₁.perform spawn (commandsOf (line :: lines))
        = ((s₂.dispatched spawn line).map Dispatch.told, s₁') := by
  have hline : s₂.runLine spawn line = (s₂.split line).2.runWords spawn (Words.ofLine line) := rfl
  have hsplit : s₁.LikeButInput (s₂.split line).2 := h.note_right _
  rw [hline] at hleave ⊢
  by_cases hblank : Words.ofLine line = []
  · rw [hblank] at hleave
    exact absurd rfl hleave
  · rw [commandsOf_of_words hblank] at hspares ⊢
    obtain ⟨hverdict, hsession, -⟩ := hsplit.runWords hspares.1
    have hleave₁ : ¬(s₁.runWords spawn (Words.ofLine line)).1.goesOn := hverdict ▸ hleave
    refine ⟨_, hsession, ?_⟩
    rw [perform_of_leaves hleave₁, dispatched_of_words hblank, hverdict]
    rfl

/-- An editor does what its lines do in sequence, up to the first that is
not UTF-8. With that it stops, unless it has left before. -/
theorem converse_of_held (spawn : Spawner) {raws : List Bytes} {source : Source.Editor}
    {s₁ s₂ : Session} (hheld : source.Holds s₂.console raws) (hlike : s₁.LikeButInput s₂)
    (hspares : s₁.SparesAll spawn (commandsOf (Bytes.textLines raws))) :
    (Loop.dispatches spawn ⟨.asking, source, s₂⟩).map Dispatch.told
        = (s₁.perform spawn (commandsOf (Bytes.textLines raws))).1 ∧
      if Editor.endsWell raws then
        (s₂.converse spawn source).result = .ok () ∧
          (s₁.perform spawn (commandsOf (Bytes.textLines raws))).2.flushed.LikeButInput
            (s₂.converse spawn source).session
      else
        (s₂.converse spawn source).result = .error Editor.notUtf8 ∧
          (s₁.perform spawn (commandsOf (Bytes.textLines raws))).2.LikeButInput
            (s₂.converse spawn source).session := by
  induction raws generalizing source s₁ s₂ with
  | nil =>
      obtain ⟨source', input, hread, -⟩ := Source.Editor.read_of_held hheld s₂.prompt
      rw [converse_of_finished hread, Loop.dispatches_of_finished hread]
      exact ⟨rfl, rfl, ((hlike.withInput input).note_right _).flushed⟩
  | cons raw raws ih =>
      obtain ⟨source', input, hread, hheld'⟩ := Source.Editor.read_of_held hheld s₂.prompt
      have hlike' : s₁.LikeButInput { s₂ with console := { s₂.console with input } } :=
        hlike.withInput input
      generalize ({ s₂.console with input } : Console) = console at hread hheld' hlike'
      by_cases htext : raw.isText = true
      · have hline : Source.read s₂.prompt source s₂.console
            = (.line (Utf8.lossy raw), source', console) :=
          hread.trans (congrArg (·, source', console) (if_pos htext))
        have hends : Editor.endsWell (raw :: raws)
            = (asksToLeave (Utf8.lossy raw) || Editor.endsWell raws) := by
          rw [Editor.endsWell, htext, Bool.true_and]
        rw [Bytes.textLines_of_text htext] at hspares ⊢
        rw [hends, Loop.dispatches_of_line hline]
        by_cases hleave : asksToLeave (Utf8.lossy raw) = true
        · have hstops := mt (goesOn_runLine_iff spawn (Utf8.lossy raw) { s₂ with console }).1
            (not_not.2 hleave)
          obtain ⟨s₁', hran, hperform⟩ := hlike'.perform_line_of_leaves hspares hstops
          rw [hleave, Bool.true_or, if_pos rfl, hperform, converse_of_line_leaves hline hstops,
            if_neg hstops, List.append_nil]
          exact ⟨rfl, rfl, (hran.note_right _).flushed⟩
        · have hgo := (goesOn_runLine_iff spawn (Utf8.lossy raw) { s₂ with console }).2 hleave
          obtain ⟨s₁', hran, hinput, hspares', hperform⟩ :=
            hlike'.perform_line_of_goesOn hspares hgo
          obtain ⟨htold, hended⟩ := ih (hheld'.of_input hinput) hran hspares'
          rw [eq_false_of_ne_true hleave, Bool.false_or, hperform,
            converse_of_line_goesOn hline hgo, if_pos hgo, List.map_append, htold]
          exact ⟨rfl, hended⟩
      · have hfailed : Source.read s₂.prompt source s₂.console
            = (.failed Editor.notUtf8, source', console) :=
          hread.trans (congrArg (·, source', console) (if_neg htext))
        have hends : Editor.endsWell (raw :: raws) = false := by
          rw [Editor.endsWell, eq_false_of_ne_true htext, Bool.false_and]
        rw [Bytes.textLines_of_not_text htext, hends, converse_of_fatal rfl hfailed,
          Loop.dispatches_of_fatal rfl hfailed]
        exact ⟨rfl, rfl, hlike'.note_right _⟩

/-- A stream and an editor over the same bytes agree, unless a program reads
what both are about to read. If the bytes have no backspace, successive
readings of both are the same as long as the lines are UTF-8, and so is the
reading that gives the end of the input. A line that is not UTF-8 is a line
of the stream, with what is no character replaced, and an error of the
editor; the stream reads on.

Let no command of the lines in front of that one, if there is one, start a
program that the standard input makes a difference to. Over bytes that are
UTF-8, or that ask to leave before they are not, the loop ends well with
both, has run the same commands, and leaves the same session but for the
standard input and the log. Over any others the editor ends it with its
error, after what the lines in front do in sequence, which the stream does
too. -/
theorem sources_agree (spawn : Spawner) (fills : List Fill) (prompts : Outlet)
    (history : Editor.History) (left : Nat) (feed : Feed) (s : Session)
    (hflows : Fill.Flows fills) (hfeed : feed.rest = Fill.contents fills)
    (hleft : feed.rest.length ≤ left) (hunerased : Editor.backspace ∉ feed.rest) :
    let stream : Source.Stream := { fills, prompts := some prompts }
    let editor : Source.Editor := { input := .standard { left }, history }
    let s' := s.withInput feed
    let lines := Bytes.textLines feed.rest.rawLines
    let tellsStream := (Loop.dispatches spawn ⟨.asking, stream, s⟩).map Dispatch.told
    let tellsEditor := (Loop.dispatches spawn ⟨.asking, editor, s'⟩).map Dispatch.told
    (feed.rest.isText → ∀ shown : List String,
        stream.readings shown s.console = editor.readings shown s'.console) ∧
      (∀ front bad back, feed.rest.rawLines = front ++ bad :: back →
        (∀ raw ∈ front, raw.isText) → ¬bad.isText → ∀ shown : List String,
          let line (raw : Bytes) := Reading.line (Utf8.lossy raw)
          let ends := List.replicate shown.length Reading.finished
          stream.readings shown s.console
              = (front.map line ++ line bad :: (back.map line ++ ends)).take shown.length ∧
            editor.readings shown s'.console
              = (front.map line ++ .failed Editor.notUtf8 ::
                  (back.map Editor.readingOf ++ ends)).take shown.length) ∧
      (s.SparesAll spawn (commandsOf lines) →
        (feed.rest.isText ∨ lines.any asksToLeave →
          (s.converse spawn stream).result = .ok () ∧ (s'.converse spawn editor).result = .ok () ∧
            tellsEditor = tellsStream ∧
            ((s'.converse spawn editor).session.withInput s.console.input).unlogged
              = (s.converse spawn stream).session.unlogged) ∧
        (¬feed.rest.isText → ¬lines.any asksToLeave →
          (s'.converse spawn editor).result = .error Editor.notUtf8 ∧
            tellsEditor = (s.perform spawn (commandsOf lines)).1 ∧ tellsEditor <+: tellsStream ∧
            ((s'.converse spawn editor).session.withInput s.console.input).unlogged
              = (s.perform spawn (commandsOf lines)).2.unlogged)) := by
  intro stream editor s' lines tellsStream tellsEditor
  have hstream : stream.lines = feed.rest.rawLines.map Utf8.lossy := by
    show (Fill.contents fills).lines = _
    rw [← hfeed, Bytes.lines_eq_rawLines]
  have hheld : editor.Holds s'.console feed.rest.rawLines :=
    ⟨⟨_, rfl, ⟨rfl, hleft, .of_none rfl⟩⟩,
      fun raw hraw hmem => hunerased (Bytes.mem_of_mem_rawLines hraw hmem)⟩
  have hreadings : ∀ shown, stream.readings shown s.console
      = (feed.rest.rawLines.map (fun raw => Reading.line (Utf8.lossy raw))
          ++ List.replicate shown.length Reading.finished).take shown.length := by
    intro shown
    rw [Source.Stream.readings_of_raws hflows, hfeed]
  refine ⟨fun htext shown => ?_, fun front bad back hraws hfront hbad shown => ?_,
    fun hspares => ?_⟩
  · rw [hreadings, Source.Editor.readings_of_held hheld]
    congr 2
    refine List.map_congr_left fun raw hraw => ?_
    exact (if_pos ((Bytes.isText_iff feed.rest).1 htext raw hraw)).symm
  · rw [hreadings, Source.Editor.readings_of_held hheld, hraws]
    have hread : front.map Editor.readingOf
        = front.map fun raw => Reading.line (Utf8.lossy raw) :=
      List.map_congr_left fun raw hraw => if_pos (hfront raw hraw)
    have hfailed : Editor.readingOf bad = .failed Editor.notUtf8 := if_neg hbad
    simp only [List.map_append, List.map_cons, hread, hfailed, List.append_assoc,
      List.cons_append, and_self]
  · obtain ⟨htold, hended⟩ := converse_of_held spawn hheld (Alike.refl s) hspares
    obtain ⟨hstreamed, htells⟩ :=
      alike_converse_perform spawn stream hflows rfl (Alike.refl s)
    -- the stream goes on behind the lines that the editor reads
    obtain ⟨behind, hbehind⟩ : ∃ behind, commandsOf stream.lines = commandsOf lines ++ behind := by
      refine ⟨commandsOf ((feed.rest.rawLines.dropWhile Bytes.isText).map Utf8.lossy), ?_⟩
      rw [hstream, ← Bytes.textLines_append, commandsOf_append]
    have hinput := input_perform hspares
    have hends := Editor.endsWell_iff feed.rest.rawLines
    rw [← Bytes.isText_iff] at hends
    constructor
    · intro hwell
      rw [if_pos (hends.2 hwell)] at hended
      have hsame : s.perform spawn (commandsOf stream.lines)
          = s.perform spawn (commandsOf lines) := by
        rcases hwell with htext | hleave
        · rw [hstream, ← Bytes.textLines_of_forall ((Bytes.isText_iff feed.rest).1 htext)]
        · rw [any_asksToLeave] at hleave
          rw [hbehind, perform_append_of_leaves hleave]
      rw [hsame] at hstreamed htells
      refine ⟨result_of_flows stream s hflows, hended.1, htold.trans htells.symm, ?_⟩
      have halike := Alike.same_iff.1 hended.2
      rw [show (s.perform spawn (commandsOf lines)).2.flushed.console.input = s.console.input
        from hinput] at halike
      exact halike.symm.trans (Alike.same_iff.1 hstreamed).symm
    · intro htext hstay
      rw [if_neg (mt hends.1 (not_or.2 ⟨htext, hstay⟩))] at hended
      refine ⟨hended.1, htold, ?_, ?_⟩
      · rw [show tellsEditor = _ from htold, show tellsStream = _ from htells, hbehind]
        exact told_perform_append _ _ s
      · have halike := Alike.same_iff.1 hended.2
        rw [show (s.perform spawn (commandsOf lines)).2.console.input = s.console.input
          from hinput] at halike
        exact halike.symm

-- ================================================================ one tool

end Session

namespace Bytes

/-- Blanks at the end change neither the words of bytes nor whether they are
UTF-8. -/
theorem append_blanks (bytes : Bytes) (count : Nat) :
    Words.ofLine (Utf8.lossy (bytes ++ List.replicate count 32)) = Words.ofLine (Utf8.lossy bytes) ∧
      isText (bytes ++ List.replicate count 32) = bytes.isText := by
  induction count with
  | zero => simp
  | succ count ih =>
      obtain ⟨hwords, htext⟩ := ih
      rw [List.replicate_succ', ← List.append_assoc]
      generalize bytes ++ List.replicate count 32 = front at hwords htext
      constructor
      · have hblank : Utf8.lossy (front ++ [32]) = Utf8.lossy front ++ " " := by
          rw [← String.toList_inj, String.toList_append]
          exact Utf8.toList_lossy_append front [] (by decide)
        rw [hblank, ← hwords]
        refine Words.ofLine_append_gap _ fun c hc => ?_
        rw [show " ".toList = [' '] from rfl, List.mem_singleton] at hc
        simp [Words.IsGapChar, hc]
      · have hboth : isText (front ++ [32]) = (front.isText && isText []) :=
          isText_append front [] (by decide)
        rw [hboth, htext, show isText [] = true from rfl, Bool.and_true]

end Bytes

namespace FileTree

/-- A tree of one tool, `/t`. -/
def ofTool (tool : String) : FileTree :=
  { nodes := [([], .directory 0 0o755), ([[116]], .tool tool)], fresh := 1 }

theorem has_ofTool (tool : String) : (ofTool tool).has ⟨[], 0⟩ [47, 116] = true := by
  have hroot : (ofTool tool).Searchable [] := ⟨0, 0o755, rfl, rfl⟩
  have hdown : (ofTool tool).Resolves 0 [] [[116]] [[116]] :=
    .step (.down (t := ofTool tool) hroot rfl (by simp)) (.arrived _)
  unfold has
  rw [resolve_of_resolves rfl (by decide) rfl hdown (by decide)]
  rfl

end FileTree

namespace Session

/-- A session in the root of that tree. -/
def withTool (tool : String) : Session where
  machine := { files := .ofTool tool, workingDirectory := ⟨[], 0⟩ }
  environment := { directory := [47] }

theorem find?_withTool {tool : String} {s : Session} (h : s.machine = (withTool tool).machine) :
    s.find? "/t" = some (.asGiven [47, 116]) := by
  unfold find? findProgram?
  rw [if_neg (by decide), show Path.bareName? (Bytes.ofText "/t") = none by decide,
    show Bytes.ofText "/t" = [47, 116] by decide]
  dsimp only
  rw [if_pos]
  rw [h]
  exact FileTree.has_ofTool tool

/-- The tool `true` leaves its input alone. -/
theorem sources_agree_bad_line :
    let spawn : Spawner := fun _ scene =>
      .ok { files := scene.files, streams := scene.streams, ending := .exited 0 }
    let s := withTool "true"
    let bytes : Bytes := Bytes.ofText "/t\r\necho\n" ++ [0xFF, 10, 101]
    let fills : List Fill :=
      [.bytes (Bytes.ofText "/t\r\ne"), .error (.bare .interrupted),
        .bytes (Bytes.ofText "cho\n" ++ [0xFF, 10, 101])]
    let stream : Source.Stream := { fills }
    let editor : Source.Editor := { input := .standard { left := 12 } }
    let s' := s.withInput { rest := bytes }
    Fill.Flows fills ∧ Fill.contents fills = bytes ∧ Editor.backspace ∉ bytes ∧
      s.find? "/t" = some (.asGiven [47, 116]) ∧
      s.SparesAll spawn [["/t"], ["echo"]] ∧
      stream.readings ["> ", "> ", "> ", "> ", "> "] s.console
        = [.line "/t", .line "echo", .line "\ufffd", .line "e", .finished] ∧
      editor.readings ["> ", "> ", "> ", "> ", "> "] s'.console
        = [.line "/t", .line "echo", .failed Editor.notUtf8, .line "e", .finished] ∧
      (s'.converse spawn editor).result = .error Editor.notUtf8 ∧
      (Loop.dispatches spawn ⟨.asking, editor, s'⟩).map Dispatch.told
        = [(["/t"], .goOn), (["echo"], .goOn)] := by
  intro spawn s bytes fills stream editor s'
  have hflows : Fill.Flows fills := by
    intro cause hmem
    have hcause : cause = .bare .interrupted := by simpa [fills] using hmem
    rw [hcause]
    rfl
  have hspares : s.SparesAll spawn [["/t"], ["echo"]] :=
    ⟨fun _ _ _ _ _ _ _ => rfl, fun _ => ⟨fun _ _ _ _ _ _ _ => rfl, fun _ => trivial⟩⟩
  obtain ⟨-, hreadings, hloops⟩ := sources_agree spawn fills {} [] 12 { rest := bytes } s hflows
    (by decide) (by decide) (by decide)
  have hraws : bytes.rawLines = [[47, 116], [101, 99, 104, 111]] ++ [0xFF] :: [[101]] := by decide
  have hlines : Bytes.textLines bytes.rawLines = ["/t", "echo"] := by decide
  have hcommands : commandsOf ["/t", "echo"] = [["/t"], ["echo"]] := by decide
  have hbad : ¬(Bytes.isText [0xFF] = true) := by decide
  obtain ⟨hstream, heditor⟩ := hreadings _ _ _ hraws (by decide) hbad
    ["> ", "> ", "> ", "> ", "> "]
  rw [hlines, hcommands] at hloops
  obtain ⟨hresult, htold, -, -⟩ := (hloops hspares).2 (by decide) (by decide)
  have hfind : s.find? "/t" = some (.asGiven [47, 116]) := find?_withTool rfl
  refine ⟨hflows, by decide, by decide, hfind, hspares, hstream.trans (by decide),
    heditor.trans (by decide), hresult, htold.trans ?_⟩
  have htool : s.runWords spawn ["/t"] = _ := runWords_of_found rfl rfl hfind
  have htakes : (s.runWords spawn ["/t"]).2.console.out.TakesAll := by
    rw [htool]
    exact ⟨⟨rfl, by decide⟩, fun _ => rfl⟩
  have hgo : (s.runWords spawn ["/t"]).1 = .goOn := by
    rw [htool]
    rfl
  have hecho : ((s.runWords spawn ["/t"]).2.runWords spawn ["echo"]).1 = .goOn := by
    have hprint := (htakes.print [Bytes.ofText "", Builtin.lineEnd]).1
    exact congrArg Prod.fst
      (print_of_taken (s := (s.runWords spawn ["/t"]).2.begun "echo") hprint)
  rw [perform_of_goesOn (by rw [hgo]; rfl), perform_of_goesOn (by rw [hecho]; rfl), hgo, hecho]
  rfl

/-- A tool that copies its input to its output. -/
def copies : Spawner := fun _ scene =>
  .ok
    { files := scene.files
      streams :=
        { input := scene.streams.input.advance []
          output := (scene.streams.output.write scene.streams.input.rest).2
          errors := scene.streams.errors }
      ending := .exited 0 }

/-- How a session of the tool ends that an editor runs over these bytes. -/
def edited (bytes : Bytes) : LoopEnd Source.Editor :=
  ((withTool "cat").withInput { rest := bytes }).converse copies
    { input := .standard { left := bytes.length } }

/-- The tool leaves nothing to read, and the output as it was. -/
theorem runWords_copies (input : Feed) (log : List LogEntry) :
    ∃ u : Session,
      ({ withTool "cat" with console := { input, log } } : Session).runWords copies ["/t"]
          = (.goOn, u) ∧
        u.console.input.rest = [] ∧ u.console.out = Outlet.lend (Outlet.flush {}).2 :=
  ⟨_, runWords_of_found rfl rfl (find?_withTool rfl), rfl, rfl⟩

/-- After the line of the tool there is nothing left for an editor to read,
if the first block ends with it. -/
theorem edited_block {bytes : Bytes} (line more : Bytes)
    (hbytes : line ++ Outlet.newline :: more = bytes) (hline : Outlet.newline ∉ line)
    (hblock : line.length + 1 = StandardInput.blockSize) (hunerased : Editor.backspace ∉ line)
    (htext : line.isText) (hwords : Words.ofLine (Utf8.lossy line) = ["/t"]) :
    (edited bytes).session.console.out.written = [] := by
  have hleft : StandardInput.blockSize ≤ bytes.length := by
    rw [← hbytes, List.length_append, List.length_cons]
    omega
  have hpiece := StandardInput.takePiece_of_block hline hblock hleft more
  rw [hbytes] at hpiece
  unfold edited
  generalize heditor : ({ input := .standard { left := bytes.length } } : Source.Editor) = editor
  have hreading : Editor.ofPiece (.terminated line)
      = .line (Utf8.lossy (Piece.dropReturn line)) := by
    refine (Editor.ofBytes_of_not_mem (mt Bytes.mem_of_mem_dropReturn hunerased)).trans ?_
    exact if_pos ((Bytes.isText_dropReturn line).trans htext)
  generalize hs : (withTool "cat").withInput { rest := bytes } = s
  have hconsole : s.console = { input := { rest := bytes } } := by rw [← hs]; rfl
  obtain ⟨source, hread, hsource⟩ : ∃ source : Source.Editor,
      Source.read s.prompt editor s.console
          = (.line (Utf8.lossy (Piece.dropReturn line)), source, { input := { rest := more } }) ∧
        source.input = .standard { left := bytes.length - StandardInput.blockSize } := by
    have hin : editor.readInput bytes
        = (.line (Utf8.lossy (Piece.dropReturn line)),
            .standard { left := bytes.length - StandardInput.blockSize }, more) := by
      unfold Source.Editor.readInput
      rw [← heditor]
      dsimp only
      rw [hpiece, hreading]
    obtain ⟨hgiven, hinput, hrest⟩ := editor.read_eq bytes
    rw [hin] at hgiven hinput hrest
    refine ⟨(editor.read bytes).2.1, ?_, hinput⟩
    rw [hconsole]
    show ((editor.read bytes).1, (editor.read bytes).2.1,
      ({ input := ({ rest := bytes } : Feed).advance (editor.read bytes).2.2 } : Console)) = _
    rw [hgiven, hrest]
    rfl
  obtain ⟨u, hrun, hnone, hout⟩ := runWords_copies { rest := more }
    [.split (Words.ofLine (Utf8.lossy (Piece.dropReturn line))).length]
  have hline : ({ s with console := { input := { rest := more } } } : Session).runLine copies
      (Utf8.lossy (Piece.dropReturn line)) = (.goOn, u) := by
    rw [← hrun, ← hs, ← hwords, ← Bytes.ofLine_lossy_dropReturn]
    rfl
  rw [converse_of_line_goesOn hread (by rw [hline]; rfl), hline]
  have hheld : source.Holds u.console [] :=
    ⟨⟨_, hsource, ⟨by rw [hnone]; rfl, by rw [hnone]; exact Nat.zero_le _, .of_none rfl⟩⟩,
      by simp⟩
  obtain ⟨source', input, hlast, -⟩ := Source.Editor.read_of_held hheld u.prompt
  rw [converse_of_finished hlast]
  show u.console.out.flush.2.written = []
  rw [Outlet.written_flush, hout]
  rfl

/-- A tool that copies its input to its output takes a line away from an
editor that a stream runs. An editor that is told to leave never comes to the
line that is not UTF-8. And a stream that has no other outlet for its prompts
shows them on the output. -/
theorem lines_taken_away :
    let s := withTool "cat"
    let bytes := Bytes.ofText "/t" ++ List.replicate 8189 32 ++ Outlet.newline ::
      Bytes.ofText "echo a\n"
    (bytes.isText ∧ Editor.backspace ∉ bytes ∧
        (s.converse copies
          ({ fills := [.bytes bytes] } : Source.Stream)).session.console.out.written
          = Bytes.ofText "a\n" ∧
        (edited bytes).session.console.out.written = []) ∧
      (¬Bytes.isText (Bytes.ofText "exit\n" ++ [0xFF]) ∧
        (edited (Bytes.ofText "exit\n" ++ [0xFF])).result = .ok ()) ∧
      (s.converse copies
          ({ fills := [], prompts := none } : Source.Stream)).session.console.out.written
          = Bytes.ofText "> " ∧
        (edited []).session.console.out.written = [] := by
  intro s bytes
  have hline : Outlet.newline ∉ Bytes.ofText "/t" ++ List.replicate 8189 32 := by
    rw [List.mem_append, List.mem_replicate]
    decide
  have hunerased : Editor.backspace ∉ Bytes.ofText "/t" ++ List.replicate 8189 32 := by
    rw [List.mem_append, List.mem_replicate]
    decide
  have hblock : (Bytes.ofText "/t" ++ List.replicate 8189 32).length + 1
      = StandardInput.blockSize := by
    have hpath : List.length (Bytes.ofText "/t") = 2 := by decide
    rw [List.length_append, List.length_replicate, hpath, StandardInput.blockSize]
  obtain ⟨hwords, htext⟩ := Bytes.append_blanks (Bytes.ofText "/t") 8189
  have hname : Words.ofLine (Utf8.lossy (Bytes.ofText "/t")) = ["/t"] := by decide
  have hslash : Bytes.isText (Bytes.ofText "/t") = true := by decide
  rw [hname] at hwords
  rw [hslash] at htext
  refine ⟨⟨?_, ?_, ?_, ?_⟩, ⟨by decide, ?_⟩, ?_, ?_⟩
  · show Bytes.isText (_ ++ Outlet.newline :: _) = true
    rw [Bytes.isText_append _ _ (by decide), htext]
    decide
  · rw [List.mem_append, not_or]
    exact ⟨hunerased, by decide⟩
  · obtain ⟨u, hrun, -, hout⟩ := runWords_copies {} []
    have hlines : commandsOf (Source.Stream.lines { fills := [.bytes bytes] })
        = [["/t"], ["echo", "a"]] := by
      have hmore : commandsOf (Bytes.lines (Bytes.ofText "echo a\n")) = [["echo", "a"]] := by
        decide
      show commandsOf (Bytes.lines (bytes ++ [])) = _
      rw [List.append_nil, Bytes.lines_append_newline hline, commandsOf_of_words, hmore,
        Bytes.ofLine_lossy_dropReturn, hwords]
      rw [Bytes.ofLine_lossy_dropReturn, hwords]
      simp
    obtain ⟨hended, -⟩ := alike_converse_perform copies { fills := [.bytes bytes] }
      (by intro cause hmem; simp at hmem) rfl (Alike.refl s)
    have htakes : u.console.out.TakesAll := by
      rw [hout]
      exact ⟨⟨rfl, by decide⟩, fun _ => rfl⟩
    obtain ⟨hprint, hwritten, -⟩ := htakes.print [Bytes.ofText "a", Builtin.lineEnd]
    have htold : u.runWords copies ["echo", "a"]
        = (.goOn, (u.begun "echo").printed [Bytes.ofText "a", Builtin.lineEnd]) := by
      exact print_of_taken (s := u.begun "echo") hprint
    have hperform : (s.perform copies [["/t"], ["echo", "a"]]).2
        = (u.begun "echo").printed [Bytes.ofText "a", Builtin.lineEnd] := by
      have hrun' : s.runWords copies ["/t"] = (.goOn, u) := hrun
      rw [perform_of_goesOn (by rw [hrun']; rfl), hrun', perform_of_goesOn (by rw [htold]; rfl),
        htold]
      rfl
    rw [hlines, hperform] at hended
    rw [show _ = _ from hended.console.out]
    refine (Outlet.written_flush _).trans (hwritten.trans ?_)
    rw [hout]
    decide
  · exact edited_block _ _ rfl hline hblock hunerased htext hwords
  · have hheld : Source.Editor.Holds { input := .standard { left := 6 } }
        (s.withInput { rest := Bytes.ofText "exit\n" ++ [0xFF] }).console
        [Bytes.ofText "exit", [0xFF]] :=
      ⟨⟨_, rfl, ⟨by decide, by decide, .of_none rfl⟩⟩, by decide⟩
    have hcommands : commandsOf (Bytes.textLines [Bytes.ofText "exit", [0xFF]]) = [["exit"]] := by
      decide
    have hspares : s.SparesAll copies [["exit"]] := by
      refine ⟨fun name rest found hwords hname => ?_, fun _ => trivial⟩
      obtain ⟨rfl, -⟩ := List.cons.inj hwords
      cases hname
    rw [← hcommands] at hspares
    have hended := (converse_of_held copies hheld (Alike.refl s) hspares).2
    rw [if_pos (by decide)] at hended
    exact hended.1
  · obtain ⟨hwritten, -⟩ :=
      Outlet.TakesAll.announce (o := {}) ⟨⟨rfl, by decide⟩, fun _ => rfl⟩ "> "
    rw [converse_of_finished rfl]
    refine (Outlet.written_flush _).trans (Eq.trans ?_ hwritten)
    obtain ⟨log, hlog⟩ := Source.Stream.exists_noteLoss (Source.Stream.announce "> " {}).1
      { out := (Source.Stream.announce "> " {}).2 }
    exact congrArg (fun console : Console => console.out.written) hlog
  · have hheld : Source.Editor.Holds { input := .standard { left := 0 } }
        (s.withInput { rest := [] }).console [] :=
      ⟨⟨_, rfl, ⟨rfl, Nat.le_refl _, .of_none rfl⟩⟩, by simp⟩
    obtain ⟨source, input, hlast, -⟩ := Source.Editor.read_of_held hheld s.prompt
    have hended : edited [] = _ := converse_of_finished (s := s.withInput { rest := [] }) hlast
    rw [hended]
    exact (Outlet.written_flush {}).trans rfl

end Session
end LineShell

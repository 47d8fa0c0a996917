/-
What a line editor remembers, and what of that has run. A line goes into
the history if it has a character that is no white space, and it runs
something if it has a character that is no separator. These are two
questions, since the separators are not the white space of Unicode: there
is one separator that is not white space, the bell, and there is much
white space that separates nothing (`Text.isBlank_iff`). So the answers
differ for two kinds of lines, and for no others.

# What can be recalled

At any moment of a loop the history holds the last hundred of the lines
that were offered to it, of equal ones in a row only one
(`History.kept`). This is an invariant of single readings, and nothing else
that a loop does touches its source (`Loop.steps_invariant`). Going back
through the history reaches what it holds (`History.reaches_iff`), so which
lines can be recalled is a matter of which were offered.
-/
import LineShell.Proofs.Sequence
import LineShell.Proofs.Words
import LineShell.Source.Editor
import Mathlib.Data.List.Destutter

namespace LineShell

-- ============================================== white space and separators

/-- White space that separates no words. -/
def Text.IsOtherBlank (c : Char) : Prop :=
  c.toNat ∈ [0xB, 0xC, 0x85, 0xA0, 0x1680, 0x2028, 0x2029, 0x202F, 0x205F, 0x3000] ∨
    0x2000 ≤ c.toNat ∧ c.toNat ≤ 0x200A

theorem Words.isGapChar_iff (c : Char) :
    IsGapChar c ↔ c.toNat ∈ [0x20, 0x9, 0xD, 0xA, 0x7] := by
  have hchar : ∀ d : Char, c = d ↔ c.toNat = d.toNat := fun d => Char.toNat_inj.symm
  simp only [IsGapChar, hchar, List.mem_cons, List.not_mem_nil, or_false]
  rfl

/-- The separators and white space, compared. -/
theorem Text.isBlank_iff (c : Char) :
    isBlank c = true ↔ Words.IsGapChar c ∧ c ≠ '\x07' ∨ IsOtherBlank c := by
  have hbell : c = '\x07' ↔ c.toNat = 7 := Char.toNat_inj.symm
  simp only [isBlank, IsOtherBlank, Words.isGapChar_iff, hbell, ne_eq, List.mem_cons,
    List.not_mem_nil, or_false, Bool.or_eq_true, Bool.and_eq_true, decide_eq_true_eq, beq_iff_eq]
  omega

theorem Text.IsOtherBlank.not_isGapChar {c : Char} (h : IsOtherBlank c) :
    ¬Words.IsGapChar c := by
  simp only [IsOtherBlank, Words.isGapChar_iff, List.mem_cons, List.not_mem_nil, or_false] at h ⊢
  omega

theorem Text.not_isBlank_bell : isBlank '\x07' = false := by
  decide

theorem Words.ofLine_eq_nil_iff (line : String) : ofLine line = [] ↔ IsGap line := by
  constructor
  · intro h
    obtain ⟨lead, parts, hlead, -, hwords, rfl⟩ := spaced_ofLine line
    rw [h, List.map_eq_nil_iff] at hwords
    rw [hwords]
    exact hlead
  · intro h
    exact ofLine_spaced line h [] ⟨by simp, by simp⟩

namespace Editor

/-- A line is offered to the history if it is not blank. -/
def isOffered (line : String) : Bool :=
  !Text.allBlank line

/-- A line of separators, with a bell among them. -/
def IsBells (line : String) : Prop :=
  Words.IsGap line ∧ '\x07' ∈ line.toList

/-- A line of white space, with some in it that separates no words. -/
def IsWideBlank (line : String) : Prop :=
  (∀ c ∈ line.toList, Words.IsGapChar c ∧ c ≠ '\x07' ∨ Text.IsOtherBlank c) ∧
    ∃ c ∈ line.toList, Text.IsOtherBlank c

theorem isOffered_iff (line : String) :
    isOffered line = true ↔ ∃ c ∈ line.toList, Text.isBlank c = false := by
  simp [isOffered, Text.allBlank]

theorem IsBells.isOffered {line : String} (h : IsBells line) : isOffered line = true :=
  (isOffered_iff line).2 ⟨_, h.2, Text.not_isBlank_bell⟩

theorem IsWideBlank.not_isOffered {line : String} (h : IsWideBlank line) :
    ¬Editor.isOffered line = true := by
  intro hoffered
  obtain ⟨c, hc, hblank⟩ := (isOffered_iff line).1 hoffered
  rw [(Text.isBlank_iff c).2 (h.1 c hc)] at hblank
  cases hblank

/-- A line that is offered runs something, unless it is of bells. -/
theorem isGap_iff_of_isOffered {line : String} (h : isOffered line = true) :
    Words.IsGap line ↔ IsBells line := by
  refine ⟨fun hgap => ?_, fun hbells => hbells.1⟩
  obtain ⟨c, hc, hblank⟩ := (isOffered_iff line).1 h
  have hbell : c = '\x07' := by
    by_contra hne
    rw [(Text.isBlank_iff c).2 (.inl ⟨hgap c hc, hne⟩)] at hblank
    cases hblank
  exact ⟨hgap, hbell ▸ hc⟩

/-- One that is not offered runs nothing, unless it is of other white space. -/
theorem isGap_iff_of_not_isOffered {line : String} (h : ¬isOffered line = true) :
    Words.IsGap line ↔ ¬IsWideBlank line := by
  have hblank : ∀ c ∈ line.toList,
      Words.IsGapChar c ∧ c ≠ '\x07' ∨ Text.IsOtherBlank c := by
    intro c hc
    rw [← Text.isBlank_iff]
    by_contra hnot
    exact h ((isOffered_iff line).2 ⟨c, hc, by simpa using hnot⟩)
  constructor
  · rintro hgap ⟨-, c, hc, hother⟩
    exact hother.not_isGapChar (hgap c hc)
  · intro hwide c hc
    rcases hblank c hc with ⟨hgap, -⟩ | hother
    · exact hgap
    · exact absurd ⟨hblank, c, hc, hother⟩ hwide

theorem isOffered_iff_words (line : String) :
    isOffered line = true ↔ Words.ofLine line ≠ [] ∧ ¬IsWideBlank line ∨ IsBells line := by
  rw [ne_eq, Words.ofLine_eq_nil_iff]
  by_cases h : isOffered line = true
  · have hwide : ¬IsWideBlank line := fun hwide => hwide.not_isOffered h
    rw [isGap_iff_of_isOffered h]
    simp [h, hwide, or_comm, Classical.em]
  · have hbells : ¬IsBells line := fun hbells => h hbells.isOffered
    simp [h, hbells, isGap_iff_of_not_isOffered h]

/-- There are no other lines for which the answers differ. -/
theorem isOffered_iff_words_iff (line : String) :
    (isOffered line = true ↔ Words.ofLine line ≠ []) ↔ ¬IsBells line ∧ ¬IsWideBlank line := by
  rw [ne_eq, Words.ofLine_eq_nil_iff]
  by_cases h : isOffered line = true
  · have hwide : ¬IsWideBlank line := fun hwide => hwide.not_isOffered h
    simp [h, hwide, isGap_iff_of_isOffered h]
  · have hbells : ¬IsBells line := fun hbells => h hbells.isOffered
    simp [h, hbells, isGap_iff_of_not_isOffered h]

-- ============================================================ what is kept

variable {line : String} {lines : List String}

/-- What a history holds of lines that were offered to it, in order: the
last of them, the latest first, of equal ones in a row only one. -/
def History.kept (lines : List String) : History :=
  (lines.reverse.destutter (· ≠ ·)).take 100

/-- One more line in front. -/
theorem destutter_cons_ne (line : String) (lines : List String) :
    (line :: lines).destutter (· ≠ ·)
      = if lines.head? = some line then lines.destutter (· ≠ ·)
        else line :: lines.destutter (· ≠ ·) := by
  cases lines with
  | nil => simp
  | cons next lines =>
      rw [List.destutter_cons_cons, List.destutter_cons', List.head?_cons]
      by_cases h : next = line
      · rw [if_neg (not_not.2 h.symm), if_pos (congrArg some h), h]
      · rw [if_pos (Ne.symm h), if_neg fun hsome => h (Option.some.inj hsome)]

theorem head?_destutter_ne (lines : List String) :
    (lines.destutter (· ≠ ·)).head? = lines.head? := by
  induction lines with
  | nil => rfl
  | cons line lines ih =>
      rw [destutter_cons_ne]
      by_cases h : lines.head? = some line
      · rw [if_pos h, ih, h]
        rfl
      · rw [if_neg h]
        rfl

theorem History.offer_of_isOffered (h : isOffered line = true) (history : History) :
    history.offer line
      = if history.head? = some line then history else (line :: history).take limit := by
  have hblank : Text.allBlank line = false := by simpa [isOffered] using h
  simp [offer, add, hblank]

theorem History.offer_of_not_isOffered (h : ¬isOffered line = true) (history : History) :
    history.offer line = history := by
  have hblank : Text.allBlank line = true := by simpa [isOffered] using h
  simp [offer, hblank]

/-- One more line that is offered. -/
theorem History.offer_kept (h : isOffered line = true) (lines : List String) :
    (kept lines).offer line = kept (lines ++ [line]) := by
  have hhead : (kept lines).head? = lines.reverse.head? := by
    rw [kept, List.head?_take, if_neg (by decide), head?_destutter_ne]
  have hmore : kept (lines ++ [line])
      = ((line :: lines.reverse).destutter (· ≠ ·)).take 100 := by
    rw [kept, List.reverse_append, List.reverse_singleton, List.singleton_append]
  rw [offer_of_isOffered h, hhead, hmore, destutter_cons_ne]
  by_cases hsame : lines.reverse.head? = some line
  · rw [if_pos hsame, if_pos hsame, kept]
  · -- of the entries before it the last may have to go
    rw [if_neg hsame, if_neg hsame, kept, limit, List.take_succ_cons, List.take_succ_cons,
      List.take_take]
    rfl

theorem History.mem_of_mem_kept (h : line ∈ kept lines) : line ∈ lines :=
  List.mem_reverse.1 ((List.destutter_sublist _ _).mem (List.mem_of_mem_take h))

/-- A line is not lost before a hundred others have followed it. -/
theorem mem_take_destutter (line : String) (newer older : List String) :
    line ∈ ((newer ++ line :: older).destutter (· ≠ ·)).take (newer.length + 1) := by
  induction newer with
  | nil =>
      have hhead := head?_destutter_ne (line :: older)
      rcases hd : (line :: older).destutter (· ≠ ·) with _ | ⟨first, rest⟩
      · rw [hd] at hhead
        cases hhead
      · rw [hd] at hhead
        obtain rfl : first = line := Option.some.inj hhead
        rw [List.nil_append, hd]
        exact List.mem_cons_self
  | cons other newer ih =>
      rw [List.cons_append, destutter_cons_ne, List.length_cons]
      by_cases hsame : (newer ++ line :: older).head? = some other
      · rw [if_pos hsame]
        exact List.take_subset_take_left _ (Nat.le_succ _) ih
      · rw [if_neg hsame, List.take_succ_cons]
        exact List.mem_cons_of_mem _ ih

theorem History.mem_kept (before after : List String) (h : after.length < 100) :
    line ∈ kept (before ++ line :: after) := by
  have hmem := mem_take_destutter line after.reverse before.reverse
  rw [List.length_reverse] at hmem
  unfold kept
  rw [List.reverse_append, List.reverse_cons, List.append_assoc, List.singleton_append]
  exact List.take_subset_take_left _ h hmem

-- ============================================================= going back

/-- The keys that go back so often and take what is there. -/
def goBack : Nat → List Char
  | 0 => ['\r']
  | count + 1 => '\x1b' :: '[' :: 'A' :: goBack count

/-- A line is reached by going back from an empty line. -/
def History.Reaches (history : History) (line : String) : Prop :=
  line ≠ "" ∧ ∃ count, typed history {} (goBack count) = .line line

variable {history : History}

theorem typed_goBack_of_entry {d : Draft} {entry : String}
    (h : history[d.recalled]? = some entry) (count : Nat) :
    typed history d (goBack (count + 1))
      = typed history ⟨entry.toList, d.recalled + 1⟩ (goBack count) := by
  rw [goBack, typed, h]

theorem typed_goBack_of_none {d : Draft} (h : history[d.recalled]? = none) (count : Nat) :
    typed history d (goBack (count + 1)) = typed history d (goBack count) := by
  rw [goBack, typed, h]

/-- Going back gives what there was, or an entry. -/
theorem mem_of_typed_goBack {d : Draft} {count : Nat}
    (h : typed history d (goBack count) = .line line) :
    line = String.ofList d.line ∨ line ∈ history := by
  induction count generalizing d with
  | zero =>
      cases h
      exact .inl rfl
  | succ count ih =>
      cases hentry : history[d.recalled]? with
      | none =>
          rw [typed_goBack_of_none hentry] at h
          exact ih h
      | some entry =>
          rw [typed_goBack_of_entry hentry] at h
          rcases ih h with hline | hmem
          · rw [String.ofList_toList] at hline
            exact .inr (hline ▸ List.mem_of_getElem? hentry)
          · exact .inr hmem

theorem typed_goBack_of_getElem? {d : Draft} {index : Nat}
    (h : history[d.recalled + index]? = some line) :
    typed history d (goBack (index + 1)) = .line line := by
  induction index generalizing d with
  | zero =>
      rw [typed_goBack_of_entry h]
      show Reading.line (String.ofList line.toList) = _
      rw [String.ofList_toList]
  | succ index ih =>
      have hlt : d.recalled < history.length := by
        have := (List.getElem?_eq_some_iff.1 h).1
        omega
      rw [typed_goBack_of_entry (List.getElem?_eq_getElem hlt)]
      refine ih ?_
      have hnext : d.recalled + 1 + index = d.recalled + (index + 1) := by omega
      rw [← h, ← hnext]

theorem History.reaches_iff (h : "" ∉ history) (line : String) :
    history.Reaches line ↔ line ∈ history := by
  constructor
  · rintro ⟨hne, count, htyped⟩
    rcases mem_of_typed_goBack htyped with hempty | hmem
    · exact absurd hempty hne
    · exact hmem
  · intro hmem
    obtain ⟨index, hindex⟩ := List.mem_iff_getElem?.1 hmem
    refine ⟨fun hempty => h (hempty ▸ hmem), index + 1, typed_goBack_of_getElem? ?_⟩
    rw [Nat.zero_add]
    exact hindex

end Editor

-- ============================================================ whole loops

/-- The lines among some readings. -/
def linesRead (readings : List Reading) : List String :=
  readings.filterMap fun
    | .line line => some line
    | _ => none

theorem linesRead_append (readings more : List Reading) :
    linesRead (readings ++ more) = linesRead readings ++ linesRead more :=
  List.filterMap_append

theorem linesRead_line (line : String) (readings : List Reading) :
    linesRead (.line line :: readings) = line :: linesRead readings :=
  rfl

/-- The lines that were read of a watched source. -/
def Source.Watched.lines {σ : Type} (watched : Source.Watched σ) : List String :=
  linesRead (watched.record.map Prod.snd)

/-- A loop runs the commands of the lines it reads, whatever it reads them
from. -/
theorem Session.words_dispatches_watched {σ : Type} [Source σ] (spawn : Spawner) (source : σ)
    (s : Session) (record : List (String × Reading)) :
    (Loop.dispatches spawn ⟨.asking, Source.Watched.mk source record, s⟩).map Dispatch.words
      = commandsOf (linesRead (readAndRun spawn source s).readings) := by
  induction source, s using turn_induction (σ := σ) spawn generalizing record with
  | finished h =>
      rw [Loop.dispatches_of_finished (read_watched h record), readAndRun_of_finished h]
      rfl
  | fatal hfault h =>
      rw [Loop.dispatches_of_fatal hfault (read_watched h record),
        readAndRun_of_fatal hfault h]
      rfl
  | survived hfault h ih =>
      rw [Loop.dispatches_of_survived hfault (read_watched h record), ih,
        readAndRun_of_survived hfault h]
      rfl
  | leaves h hleave =>
      rw [Loop.dispatches_of_line (read_watched h record), if_neg hleave, List.append_nil,
        words_dispatched, readAndRun_of_line_leaves h hleave]
      rfl
  | @goesOn _ _ _ _ line h hgo ih =>
      rw [Loop.dispatches_of_line (read_watched h record), if_pos hgo, List.map_append,
        words_dispatched, ih, readAndRun_of_line_goesOn h hgo]
      exact (commandsOf_append [line] _).symm

/-- The record of a loop is that of the plain recursion. -/
theorem Session.lines_converse_watched {σ : Type} [Source σ] (spawn : Spawner) (source : σ)
    (s : Session) :
    (s.converse spawn (Source.Watched.mk source [])).source.lines
      = linesRead (readAndRun spawn source s).readings := by
  rw [(endsAs_readAndRun spawn (Source.Watched.mk source []) s).source,
    source_readAndRun_watched, Source.Watched.lines, List.nil_append, List.map_map]
  exact congrArg linesRead (List.map_id _)

namespace Editor

/-- A reading offers its line to the history. -/
theorem history_read (prompt : String) (source : Source.Editor) (console : Console) :
    (Source.read prompt source console).2.1.history
      = match (Source.read prompt source console).1 with
        | .line line => source.history.offer line
        | _ => source.history := by
  simp only [Source.read, Source.Editor.read]
  rcases source.readInput console.input.rest with ⟨reading, input, rest⟩
  cases reading <;> rfl

/-- The history has been offered the lines that were read, and no others. -/
def Remembers (watched : Source.Watched Source.Editor) : Prop :=
  watched.source.history = History.kept (watched.lines.filter isOffered)

theorem Remembers.read {watched : Source.Watched Source.Editor} (h : Remembers watched)
    (prompt : String) (console : Console) :
    Remembers (Source.read prompt watched console).2.1 := by
  have hhistory := history_read prompt watched.source console
  rcases hread : Source.read prompt watched.source console with ⟨reading, source, console'⟩
  rw [hread, h] at hhistory
  have hlines : (Source.Watched.mk source (watched.record ++ [(prompt, reading)])).lines
      = watched.lines ++ linesRead [reading] := by
    rw [Source.Watched.lines, List.map_append, linesRead_append]
    rfl
  unfold Remembers
  rw [Session.read_watched hread, hlines, List.filter_append]
  refine hhistory.trans ?_
  cases reading with
  | finished => exact congrArg History.kept (List.append_nil _).symm
  | failed fault => exact congrArg History.kept (List.append_nil _).symm
  | line line =>
      rw [linesRead_line]
      by_cases hoffered : isOffered line = true
      · rw [List.filter_cons_of_pos hoffered]
        exact History.offer_kept hoffered _
      · rw [List.filter_cons_of_neg hoffered]
        exact (History.offer_of_not_isOffered hoffered _).trans
          (congrArg History.kept (List.append_nil _).symm)

/-- So it is at any moment of a loop. -/
theorem remembers_steps (spawn : Spawner) (input : EditorInput) (s : Session) (n : Nat) :
    Remembers (Loop.sourceAfter
      (Loop.steps spawn n ⟨.asking, Source.Watched.mk { input } [], s⟩)) :=
  Loop.steps_invariant spawn (fun prompt _ console h => h.read prompt console) n _ rfl

variable {line : String} {lines : List String}

theorem mem_of_mem_kept_filter (h : line ∈ History.kept (lines.filter isOffered)) :
    line ∈ lines ∧ isOffered line = true :=
  List.mem_filter.1 (History.mem_of_mem_kept h)

/-- No empty line is kept, so all that is kept can be recalled. -/
theorem reaches_kept_iff (lines : List String) (line : String) :
    (History.kept (lines.filter isOffered)).Reaches line
      ↔ line ∈ History.kept (lines.filter isOffered) :=
  History.reaches_iff (fun hempty => absurd (mem_of_mem_kept_filter hempty).2 (by decide)) line

theorem mem_kept_filter (before after : List String) (hoffered : isOffered line = true)
    (hfew : (after.filter isOffered).length < 100) :
    line ∈ History.kept ((before ++ line :: after).filter isOffered) := by
  rw [List.filter_append, List.filter_cons_of_pos hoffered]
  exact History.mem_kept _ _ hfew

/-- The record of a loop goes on from what it is at any moment. -/
theorem lines_grow {σ : Type} [Source σ] (spawn : Spawner) (n : Nat)
    (l : Loop (Source.Watched σ)) :
    (Loop.sourceAfter (Loop.steps spawn n l)).lines <+: (Loop.run spawn l).source.lines := by
  rw [← Loop.run_of_steps spawn n l]
  cases Loop.steps spawn n l with
  | inr ended => exact List.prefix_rfl
  | inl now =>
      refine Loop.run_invariant spawn (P := fun watched => now.source.lines <+: watched.lines)
        (fun prompt source console hsource => hsource.trans ?_) now List.prefix_rfl
      rcases hread : Source.read prompt source.source console with ⟨reading, source', console'⟩
      rw [Session.read_watched hread, Source.Watched.lines, Source.Watched.lines,
        List.map_append, linesRead_append]
      exact List.prefix_append _ _

/-- A line is offered to the history if there is more in it than white
space, and something is run for it if there is more in it than separators.
These are the same but for a line of separators with a bell among them,
which is offered and does nothing, and for a line of white space with some
in it that separates no words, which is not offered and is run. The history
holds the last hundred of the lines that were offered, of equal ones in a
row only one, and these can be recalled and no others. So a line can be
recalled that has run something, unless it is of such white space, or a
hundred lines or more were offered after it; and a line that has done
nothing can be recalled only if it is of separators with a bell. -/
theorem recalls_what_was_offered (spawn : Spawner) (input : EditorInput) (s : Session) :
    let start : Loop (Source.Watched Source.Editor) := ⟨.asking, ⟨{ input }, []⟩, s⟩
    let ended := Loop.run spawn start
    (∀ line,
        (isOffered line = true ↔ Words.ofLine line ≠ [] ∧ ¬IsWideBlank line ∨ IsBells line) ∧
        ((isOffered line = true ↔ Words.ofLine line ≠ [])
          ↔ ¬IsBells line ∧ ¬IsWideBlank line)) ∧
      (Loop.dispatches spawn start).map Dispatch.words = commandsOf ended.source.lines ∧
      ∀ n,
        let now := Loop.sourceAfter (Loop.steps spawn n start)
        let history := now.source.history
        now.lines <+: ended.source.lines ∧
          history = History.kept (now.lines.filter isOffered) ∧
          (∀ line, history.Reaches line ↔ line ∈ history) ∧
          (∀ line, history.Reaches line →
            line ∈ now.lines ∧
              (Words.ofLine line ≠ [] ∧ ¬IsWideBlank line ∨ IsBells line)) ∧
          ∀ before line after, now.lines = before ++ line :: after →
            Words.ofLine line ≠ [] → ¬IsWideBlank line →
            (after.filter isOffered).length < 100 → history.Reaches line := by
  intro start ended
  have hended : ended.source.lines
      = linesRead (s.readAndRun spawn ({ input } : Source.Editor)).readings :=
    Session.lines_converse_watched spawn _ s
  have hran : (Loop.dispatches spawn start).map Dispatch.words = commandsOf ended.source.lines := by
    rw [hended]
    exact Session.words_dispatches_watched spawn _ s []
  refine ⟨fun line => ⟨isOffered_iff_words line, isOffered_iff_words_iff line⟩, hran, ?_⟩
  intro n now history
  have hkept : history = History.kept (now.lines.filter isOffered) :=
    remembers_steps spawn input s n
  have hreaches : ∀ line, history.Reaches line ↔ line ∈ history := by
    rw [hkept]
    exact reaches_kept_iff now.lines
  refine ⟨lines_grow spawn n start, hkept, hreaches, ?_, ?_⟩
  · intro line hline
    rw [hreaches, hkept] at hline
    obtain ⟨hread, hoffered⟩ := mem_of_mem_kept_filter hline
    exact ⟨hread, (isOffered_iff_words line).1 hoffered⟩
  · intro before line after hlines hwords hwide hfew
    rw [hreaches, hkept, hlines]
    exact mem_kept_filter before after ((isOffered_iff_words line).2 (.inl ⟨hwords, hwide⟩)) hfew

/-- A wide space is run as a command and is not recalled by the key that
goes back. A bell, from an input that is no terminal, is remembered and runs
nothing. Of a hundred and one commands the first is not remembered. -/
theorem wide_space_runs_and_is_forgotten :
    let s : Session :=
      { machine := { files := .empty, workingDirectory := ⟨[], 0⟩ }
        environment := { directory := [47] }
        console := {} }
    let spawn : Spawner := fun _ _ => .error .noEntry
    let wide : Source.Editor := { input := .keys ["\u3000\r", "\x1b[A\r"] }
    let bell : Source.Editor := { input := .standard { buffered := [7, 10], left := 0 } }
    let commands : List String := (List.range 101).map fun n =>
      String.singleton (Char.ofNat (0x4E00 + n))
    (isOffered "\u3000" = false ∧
      (Loop.dispatches spawn ⟨.asking, Source.Watched.mk wide [], s⟩).map Dispatch.words
        = [["\u3000"]] ∧
      (s.converse spawn (Source.Watched.mk wide [])).source.lines = ["\u3000", ""]) ∧
    ((Source.read s.prompt bell s.console).1 = .line "\x07" ∧
      (Source.read s.prompt bell s.console).2.1.history = ["\x07"] ∧
      Words.ofLine "\x07" = []) ∧
    (∀ line ∈ commands, Words.ofLine line = [line]) ∧
      ¬History.Reaches (commands.foldl (fun history line => History.offer line history) [])
        "\u4E00" := by
  intro s spawn wide bell commands
  let advanced (console : Console) : Console :=
    { console with input := console.input.advance console.input.rest }
  have hfirst : ∀ prompt console, Source.read prompt wide console
      = (.line "\u3000", { input := .keys ["\x1b[A\r"] }, advanced console) := fun _ _ => rfl
  have hsecond : ∀ prompt console,
      Source.read prompt ({ input := .keys ["\x1b[A\r"] } : Source.Editor) console
        = (.line "", { input := .keys [] }, advanced console) := fun _ _ => rfl
  have hend : ∀ prompt console,
      Source.read prompt ({ input := .keys [] } : Source.Editor) console
        = (.finished, { input := .keys [] }, advanced console) := fun _ _ => rfl
  have hreadings : (s.readAndRun spawn wide).readings
      = [.line "\u3000", .line "", .finished] := by
    rw [Session.readAndRun_of_line_goesOn (hfirst _ _)
        ((Session.goesOn_runLine_iff spawn _ _).2 (by decide)),
      Session.readAndRun_of_line_goesOn (hsecond _ _)
        ((Session.goesOn_runLine_iff spawn _ _).2 (by decide)),
      Session.readAndRun_of_finished (hend _ _)]
    rfl
  refine ⟨⟨by decide, ?_, ?_⟩, ⟨?_, ?_, by decide⟩, ?_, ?_⟩
  · rw [Session.words_dispatches_watched, hreadings]
    decide
  · rw [Session.lines_converse_watched, hreadings]
    rfl
  · decide +kernel
  · decide +kernel
  · decide +kernel
  · rintro ⟨hne, count, htyped⟩
    rcases mem_of_typed_goBack htyped with hempty | hmem
    · exact hne hempty
    · revert hmem
      decide +kernel

end Editor
end LineShell

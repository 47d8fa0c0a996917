/-
What a line has to do with its words, without reading the line. A line
is spaced out from words and gaps: a gap in front, then each word with
the gap behind it, where the gaps inside are not empty (`spaced`). The
words that `ofLine` finds are the ones of such a decomposition, whatever
decomposition it is, and every line has one.

# The two directions

The machine reads a line from its beginning; what it will have read in
the end is easier to say from the end of the line. There the state is a
run that may still grow at its front and the words behind it
(`readBack`), and the machine's words are its own, then its run joined to
that one, then those behind (`foldlM_step_close`). All it does on the way
is to ask for memory (`split_eq`), so with memory that may run short a
line is split into the same words or not at all (`splitWithin_eq`).

`Reads` says what such a state has to do with the characters read so far:
they are the run, then a gap, then the words with gaps between them; the
gap in the middle is empty only if there is no word behind it, so that
the run and the next word never touch. Each character preserves this
(`reads_readBack`), and the end of the line closes the run, which gives a
decomposition of every line.

Conversely a word is read into the run and a gap closes it, so a line
that is spaced out from words is read back into them (`ofLine_spaced`).
-/
import LineShell.Words

namespace LineShell.Words

-- ======================================================= words and gaps

/-- A character that may stand in a gap. -/
def IsGapChar (c : Char) : Prop :=
  c = ' ' ∨ c = '\t' ∨ c = '\r' ∨ c = '\n' ∨ c = '\x07'

/-- A text with nothing else in it; it may be empty. -/
def IsGap (text : String) : Prop :=
  ∀ c ∈ text.toList, IsGapChar c

/-- A text with nothing of that in it, and not empty. -/
def IsWord (text : String) : Prop :=
  text ≠ "" ∧ ∀ c ∈ text.toList, ¬IsGapChar c

/-- A line: a gap, then words, each with the gap behind it. -/
def spaced (lead : String) : List (String × String) → String
  | [] => lead
  | (word, gap) :: parts => lead ++ word ++ spaced gap parts

/-- Parts of a line that are words and gaps. Between two words the gap is
not empty; behind the last it may be. -/
def AreParts (parts : List (String × String)) : Prop :=
  (∀ part ∈ parts, IsWord part.1 ∧ IsGap part.2) ∧ ∀ part ∈ parts.dropLast, part.2 ≠ ""

theorem isSeparator_iff (c : Char) : isSeparator c = true ↔ IsGapChar c := by
  simp [isSeparator, separators, IsGapChar]

theorem isSeparator_of_isGap {text : String} (h : IsGap text) :
    ∀ c ∈ text.toList, isSeparator c = true :=
  fun c hc => (isSeparator_iff c).2 (h c hc)

theorem isSeparator_of_isWord {text : String} (h : IsWord text) :
    ∀ c ∈ text.toList, isSeparator c = false := by
  intro c hc
  rw [Bool.eq_false_iff, ne_eq, isSeparator_iff]
  exact h.2 c hc

theorem AreParts.tail {part : String × String} {parts : List (String × String)}
    (h : AreParts (part :: parts)) : AreParts parts := by
  refine ⟨fun p hp => h.1 p (List.mem_cons_of_mem _ hp), fun p hp => ?_⟩
  cases parts with
  | nil => simp at hp
  | cons next parts =>
      exact h.2 p (List.mem_cons_of_mem _ hp)

/-- One more part in front: its gap is not empty if a word follows. -/
theorem AreParts.cons {word gap : String} {parts : List (String × String)}
    (hword : IsWord word) (hgap : IsGap gap) (hbetween : parts ≠ [] → gap ≠ "")
    (h : AreParts parts) : AreParts ((word, gap) :: parts) := by
  refine ⟨fun p hp => ?_, fun p hp => ?_⟩
  · rcases List.mem_cons.1 hp with rfl | hp
    · exact ⟨hword, hgap⟩
    · exact h.1 p hp
  · cases parts with
    | nil => simp at hp
    | cons next parts =>
        rw [List.dropLast_cons_cons] at hp
        rcases List.mem_cons.1 hp with rfl | hp
        · exact hbetween (by simp)
        · exact h.2 p hp

theorem toList_spaced_nil (lead : String) : (spaced lead []).toList = lead.toList := rfl

theorem toList_spaced_cons (lead word gap : String) (parts : List (String × String)) :
    (spaced lead ((word, gap) :: parts)).toList
      = lead.toList ++ (word.toList ++ (spaced gap parts).toList) := by
  rw [spaced, String.toList_append, String.toList_append, List.append_assoc]

theorem toList_spaced_append (front lead : String) (parts : List (String × String)) :
    (spaced (front ++ lead) parts).toList = front.toList ++ (spaced lead parts).toList := by
  cases parts with
  | nil => exact String.toList_append
  | cons part parts =>
      rw [toList_spaced_cons, toList_spaced_cons, String.toList_append, List.append_assoc]

-- ================================================ reading from the end

/-- Puts a run in front of the words behind it, unless it is empty. -/
def close (run : List Char) (words : List String) : List String :=
  if run.isEmpty then words else String.ofList run :: words

/-- Reads one more character in front of what has been read. -/
def extend (c : Char) (read : List Char × List String) : List Char × List String :=
  if isSeparator c then ([], close read.1 read.2) else (c :: read.1, read.2)

/-- What characters are read into from their end: the run that they begin
with, and the words behind it. -/
def readBack (chars : List Char) : List Char × List String :=
  chars.foldr extend ([], [])

theorem readBack_append (front chars : List Char) :
    readBack (front ++ chars) = front.foldr extend (readBack chars) :=
  List.foldr_append

/-- What memory is asked for words: the bytes of each character, and one
place for the word. -/
def requestsFor (words : List String) : List Nat :=
  words.flatMap fun word => word.toList.map Char.utf8Size ++ [1]

/-- What is still asked for: within a word, for the rest of it and what
is behind. -/
def requests (standing : Standing) (read : List Char × List String) : List Nat :=
  match standing with
  | .between => requestsFor (close read.1 read.2)
  | .inWord => read.1.map Char.utf8Size ++ 1 :: requestsFor read.2

theorem requestsFor_close (run : List Char) (words : List String) :
    requestsFor (close run words)
      = if run.isEmpty then requestsFor words
        else run.map Char.utf8Size ++ 1 :: requestsFor words := by
  cases run <;> simp [close, requestsFor]

section
variable {m : Type → Type} [Monad m] [LawfulMonad m] (reserve : Nat → m Unit)

/-- From a state of the machine to the end of the line: what it asks for,
and the words it then has. The invariant is that it stands in a word just
if it has some of one. -/
theorem foldlM_step_close (chars : List Char) (s : Splitter)
    (hs : s.word = [] ↔ s.standing = .between) :
    (chars.foldlM (Splitter.step reserve) s >>= Splitter.close reserve) = do
      (requests s.standing (readBack chars)).forM reserve
      return s.words.reverse
        ++ close (s.word.reverse ++ (readBack chars).1) (readBack chars).2 := by
  induction chars generalizing s with
  | nil =>
      cases hstanding : s.standing with
      | between =>
          simp [Splitter.close, hstanding, readBack, requests, requestsFor, close, hs.2 hstanding]
      | inWord =>
          have hne : s.word ≠ [] := fun hnil => by simp [hs.1 hnil] at hstanding
          simp [Splitter.close, Splitter.finish, hstanding, readBack, requests, requestsFor, close,
            hne]
  | cons c chars ih =>
      rw [List.foldlM_cons, bind_assoc]
      have hback : readBack (c :: chars) = extend c (readBack chars) := rfl
      cases hstanding : s.standing with
      | between =>
          have hnil := hs.2 hstanding
          cases hc : isSeparator c with
          | false =>
              simp [Splitter.step, Splitter.push, hstanding, hc, hback, extend, ih, requests,
                requestsFor_close]
          | true =>
              simp [Splitter.step, hstanding, hc, hback, extend, ih, requests, hnil, close]
      | inWord =>
          have hne : s.word ≠ [] := fun hnil => by simp [hs.1 hnil] at hstanding
          cases hc : isSeparator c with
          | false =>
              simp [Splitter.step, Splitter.push, hstanding, hc, hback, extend, ih, requests]
          | true =>
              simp [Splitter.step, Splitter.finish, hstanding, hc, hback, extend, ih, requests,
                close, hne]

theorem split_eq_close (line : String) :
    split reserve line = do
      (requestsFor (close (readBack line.toList).1 (readBack line.toList).2)).forM reserve
      return close (readBack line.toList).1 (readBack line.toList).2 :=
  foldlM_step_close reserve line.toList {} (by simp)

end

theorem ofLine_eq_close (line : String) :
    ofLine line = close (readBack line.toList).1 (readBack line.toList).2 := by
  have hpure : ∀ amounts : List Nat,
      (amounts.forM fun _ => (pure () : Id Unit)) = pure () := by
    intro amounts
    induction amounts with
    | nil => rfl
    | cons _ amounts ih => exact ih
  rw [ofLine, split_eq_close, hpure]
  rfl

/-- Splitting a line asks for memory for its words, in order, and does
nothing else. -/
theorem split_eq {m : Type → Type} [Monad m] [LawfulMonad m] (reserve : Nat → m Unit)
    (line : String) :
    split reserve line = do
      (requestsFor (ofLine line)).forM reserve
      return ofLine line := by
  rw [ofLine_eq_close]
  exact split_eq_close reserve line

theorem askFor_bind {μ α : Type} [Memory μ] (amount : Nat)
    (rest : Unit → StateT μ (Except Fault) α) (memory : μ) :
    (askFor amount >>= rest) memory
      = match Memory.reserve amount memory with
        | some left => rest () left
        | none => .error .noMemory := by
  show (askFor amount memory).bind _ = _
  unfold askFor
  cases Memory.reserve amount memory <;> rfl

/-- With memory that may run short a line is split into its words, all of
them, or there is no memory for one of the requests that they make. -/
theorem splitWithin_eq {μ : Type} [Memory μ] (line : String) (memory : μ) :
    splitWithin line memory
      = match (requestsFor (ofLine line)).foldlM (fun left n => Memory.reserve n left) memory with
        | some left => .ok (ofLine line, left)
        | none => .error .noMemory := by
  rw [splitWithin, split_eq]
  generalize requestsFor (ofLine line) = amounts
  induction amounts generalizing memory with
  | nil => rfl
  | cons amount amounts ih =>
      show ((askFor amount >>= fun _ => amounts.forM askFor) >>= fun _ => _) memory = _
      rw [bind_assoc, askFor_bind, List.foldlM_cons]
      cases Memory.reserve amount memory with
      | none => rfl
      | some left => exact ih left

-- ======================================================== reading a line

/-- Characters of a word go into the run. -/
theorem foldr_extend_word (word : List Char) (hword : ∀ c ∈ word, isSeparator c = false)
    (read : List Char × List String) :
    word.foldr extend read = (word ++ read.1, read.2) := by
  induction word with
  | nil => rfl
  | cons c word ih =>
      have hc : isSeparator c = false := hword c List.mem_cons_self
      rw [List.foldr_cons, ih fun d hd => hword d (List.mem_cons_of_mem _ hd)]
      simp [extend, hc]

/-- A gap closes the run, unless it is empty. -/
theorem foldr_extend_gap (gap : List Char) (hgap : ∀ c ∈ gap, isSeparator c = true)
    (hne : gap ≠ []) (read : List Char × List String) :
    gap.foldr extend read = ([], close read.1 read.2) := by
  induction gap with
  | nil => exact absurd rfl hne
  | cons c gap ih =>
      have hc : isSeparator c = true := hgap c List.mem_cons_self
      rw [List.foldr_cons]
      cases gap with
      | nil => simp [extend, hc]
      | cons d gap =>
          rw [ih (fun e he => hgap e (List.mem_cons_of_mem _ he)) (by simp)]
          simp [extend, hc, close]

/-- A gap by itself is read into nothing. -/
theorem readBack_gap (gap : List Char) (hgap : ∀ c ∈ gap, isSeparator c = true) :
    readBack gap = ([], []) := by
  by_cases hne : gap = []
  · rw [hne]
    rfl
  · rw [readBack, foldr_extend_gap gap hgap hne]
    rfl

theorem close_word {word : String} (h : IsWord word) (words : List String) :
    close word.toList words = word :: words := by
  have hne : word.toList ≠ [] := fun hnil => h.1 (by simpa using hnil)
  simp [close, hne]

/-- Parts behind a word are read into the words behind the run. -/
theorem readBack_parts (word gap : String) (parts : List (String × String))
    (h : AreParts ((word, gap) :: parts)) :
    readBack (word.toList ++ (spaced gap parts).toList) = (word.toList, parts.map Prod.fst) := by
  induction parts generalizing word gap with
  | nil =>
      obtain ⟨hword, hgap⟩ := h.1 (word, gap) List.mem_cons_self
      rw [toList_spaced_nil, readBack_append, readBack_gap _ (isSeparator_of_isGap hgap),
        foldr_extend_word _ (isSeparator_of_isWord hword), List.append_nil, List.map_nil]
  | cons next parts ih =>
      obtain ⟨hword, hgap⟩ := h.1 (word, gap) List.mem_cons_self
      have hnext : IsWord next.1 := (h.1 next (by simp)).1
      have hne : gap.toList ≠ [] := fun hnil => h.2 (word, gap) (by simp) (by simpa using hnil)
      rw [toList_spaced_cons, readBack_append, readBack_append, ih next.1 next.2 h.tail,
        foldr_extend_gap _ (isSeparator_of_isGap hgap) hne, close_word hnext,
        foldr_extend_word _ (isSeparator_of_isWord hword), List.append_nil, List.map_cons]

/-- A line that is spaced out from words is read back into them. -/
theorem ofLine_spaced (lead : String) (hlead : IsGap lead) (parts : List (String × String))
    (h : AreParts parts) : ofLine (spaced lead parts) = parts.map Prod.fst := by
  rw [ofLine_eq_close]
  cases parts with
  | nil =>
      rw [toList_spaced_nil, readBack_gap _ (isSeparator_of_isGap hlead)]
      rfl
  | cons part parts =>
      obtain ⟨word, gap⟩ := part
      have hword : IsWord word := (h.1 (word, gap) List.mem_cons_self).1
      rw [toList_spaced_cons, readBack_append, readBack_parts word gap parts h]
      by_cases hne : lead.toList = []
      · rw [hne, List.foldr_nil]
        exact close_word hword _
      · rw [foldr_extend_gap _ (isSeparator_of_isGap hlead) hne, close_word hword]
        rfl

-- ================================================ every line is spaced out

/-- What a state of the reading has to do with the characters read: they
are the run, a gap, and the words with gaps between them. Where a word
follows, the gap in the middle is not empty. -/
def Reads (chars : List Char) (read : List Char × List String) : Prop :=
  (∀ c ∈ read.1, isSeparator c = false) ∧
    ∃ lead parts, IsGap lead ∧ AreParts parts ∧ (parts ≠ [] → lead ≠ "") ∧
      parts.map Prod.fst = read.2 ∧ chars = read.1 ++ (spaced lead parts).toList

/-- The run, if it is not empty, is one more word. -/
theorem Reads.closed {chars run : List Char} {words : List String}
    (h : Reads chars (run, words)) :
    ∃ lead parts, IsGap lead ∧ AreParts parts ∧ parts.map Prod.fst = close run words ∧
      chars = (spaced lead parts).toList := by
  obtain ⟨hrun, lead, parts, hlead, hparts, hbetween, hwords, hchars⟩ := h
  by_cases hne : run = []
  · refine ⟨lead, parts, hlead, hparts, ?_, ?_⟩
    · rw [hwords, hne]
      rfl
    · rw [hchars, hne, List.nil_append]
  · have hword : IsWord (String.ofList run) := by
      refine ⟨fun hempty => hne (by simpa using hempty), fun c hc => ?_⟩
      rw [← isSeparator_iff, hrun c (by simpa using hc)]
      exact Bool.false_ne_true
    refine ⟨"", (String.ofList run, lead) :: parts, by simp [IsGap],
      hparts.cons hword hlead hbetween, ?_, ?_⟩
    · rw [List.map_cons, hwords]
      simp [close, hne]
    · rw [toList_spaced_cons, hchars]
      simp

theorem reads_nil : Reads [] ([], []) :=
  ⟨by simp, "", [], by simp [IsGap], ⟨by simp, by simp⟩, by simp, rfl, rfl⟩

/-- One more character in front keeps the relation. -/
theorem Reads.extend {chars : List Char} {read : List Char × List String}
    (h : Reads chars read) (c : Char) : Reads (c :: chars) (Words.extend c read) := by
  cases hc : isSeparator c with
  | false =>
      -- the run grows; the gap and the words behind it stay
      obtain ⟨hrun, lead, parts, hlead, hparts, hbetween, hwords, hchars⟩ := h
      refine ⟨?_, lead, parts, hlead, hparts, hbetween, ?_, ?_⟩
      · intro d hd
        simp only [Words.extend, hc, Bool.false_eq_true, if_false] at hd
        rcases List.mem_cons.1 hd with rfl | hd
        · exact hc
        · exact hrun d hd
      · simp [Words.extend, hc, hwords]
      · simp [Words.extend, hc, hchars]
  | true =>
      -- the run becomes a word, and the gap before it is not empty any more
      obtain ⟨lead, parts, hlead, hparts, hwords, hchars⟩ := h.closed
      have hgap : IsGap (String.ofList [c] ++ lead) := by
        intro d hd
        rw [String.toList_append, String.toList_ofList, List.singleton_append] at hd
        rcases List.mem_cons.1 hd with rfl | hd
        · exact (isSeparator_iff d).1 hc
        · exact hlead d hd
      refine ⟨by simp [Words.extend, hc], String.ofList [c] ++ lead, parts, hgap, hparts,
        ?_, ?_, ?_⟩
      · intro _ hempty
        have := congrArg String.toList hempty
        simp at this
      · simp [Words.extend, hc, hwords]
      · rw [hchars, toList_spaced_append]
        simp [Words.extend, hc]

/-- Reading characters to their beginning. -/
theorem reads_readBack (chars : List Char) : Reads chars (readBack chars) := by
  induction chars with
  | nil => exact reads_nil
  | cons c chars ih => exact ih.extend c

/-- Every line is spaced out from its words. -/
theorem spaced_ofLine (line : String) :
    ∃ lead parts, IsGap lead ∧ AreParts parts ∧ parts.map Prod.fst = ofLine line ∧
      line = spaced lead parts := by
  obtain ⟨lead, parts, hlead, hparts, hwords, hchars⟩ := (reads_readBack line.toList).closed
  rw [ofLine_eq_close]
  exact ⟨lead, parts, hlead, hparts, hwords, String.toList_inj.1 hchars⟩

/-- A line has no word that is not one. -/
theorem isWord_of_mem_ofLine {line word : String} (h : word ∈ ofLine line) : IsWord word := by
  obtain ⟨lead, parts, -, hparts, hwords, -⟩ := spaced_ofLine line
  rw [← hwords] at h
  obtain ⟨part, hpart, rfl⟩ := List.mem_map.1 h
  exact (hparts.1 part hpart).1

/-- A gap at the end of a line adds no word and changes none. -/
theorem ofLine_append_gap (line : String) {gap : String} (h : IsGap gap) :
    ofLine (line ++ gap) = ofLine line := by
  rw [ofLine_eq_close, ofLine_eq_close, String.toList_append, readBack_append,
    readBack_gap _ (isSeparator_of_isGap h)]
  rfl

/-- Words with a space between each two of them are parts of a line. -/
theorem exists_parts_intercalate {words : List String} (h : ∀ word ∈ words, IsWord word) :
    ∃ parts, AreParts parts ∧ parts.map Prod.fst = words ∧
      spaced "" parts = " ".intercalate words := by
  induction words with
  | nil => exact ⟨[], ⟨by simp, by simp⟩, rfl, by simp [spaced]⟩
  | cons word words ih =>
      obtain ⟨parts, hparts, hwords, hline⟩ := ih fun w hw => h w (List.mem_cons_of_mem _ hw)
      have hword : IsWord word := h word List.mem_cons_self
      cases words with
      | nil =>
          obtain rfl : parts = [] := List.map_eq_nil_iff.1 hwords
          exact ⟨[(word, "")], hparts.cons hword (by simp [IsGap]) (by simp), rfl,
            by simp [spaced]⟩
      | cons next words =>
          have hspace : IsGap " " := by simp [IsGap, IsGapChar]
          refine ⟨(word, " ") :: parts, hparts.cons hword hspace (by simp), ?_, ?_⟩
          · rw [List.map_cons, hwords]
          · rw [String.intercalate_cons_cons, ← hline, ← String.toList_inj, toList_spaced_cons,
              ← String.append_empty (s := " "), toList_spaced_append]
            simp [String.toList_append]

/-- They are the words of that line. -/
theorem ofLine_intercalate {words : List String} (h : ∀ word ∈ words, IsWord word) :
    ofLine (" ".intercalate words) = words := by
  obtain ⟨parts, hparts, hwords, hline⟩ := exists_parts_intercalate h
  rw [← hline, ofLine_spaced "" (by simp [IsGap]) parts hparts, hwords]

-- ==================================================== the words of a line

/-- The words of a line are those, and only those, that it is spaced out
from: words without a separator in them, in order, with gaps of
separators in front, behind, and not empty between. So nothing of a word
is lost, none is cut and no two are joined. -/
theorem ofLine_eq_iff_spaced (line : String) (words : List String) :
    ofLine line = words ↔
      (∀ word ∈ words, IsWord word) ∧
        ∃ (lead : String) (parts : List (String × String)),
          parts.map Prod.fst = words ∧ IsGap lead ∧ (∀ part ∈ parts, IsGap part.2) ∧
            (∀ part ∈ parts.dropLast, part.2 ≠ "") ∧ line = spaced lead parts := by
  constructor
  · rintro rfl
    obtain ⟨lead, parts, hlead, hparts, hwords, hline⟩ := spaced_ofLine line
    refine ⟨fun word hword => ?_, lead, parts, hwords, hlead,
      fun part hpart => (hparts.1 part hpart).2, hparts.2, hline⟩
    rw [← hwords] at hword
    obtain ⟨part, hpart, rfl⟩ := List.mem_map.1 hword
    exact (hparts.1 part hpart).1
  · rintro ⟨hwords, lead, parts, rfl, hlead, hgaps, hbetween, rfl⟩
    refine ofLine_spaced lead hlead parts ⟨fun part hpart => ⟨?_, hgaps part hpart⟩, hbetween⟩
    exact hwords part.1 (List.mem_map_of_mem hpart)

example : ofLine "\tls  -l\x07a" = ["ls", "-l", "a"] := by decide

end LineShell.Words

/-
Messages without line breaks. Whatever a command has to say about its words
is said in one line: no word has a newline in it, and neither has any text
that stands in a message beside the words.

The texts of errors are a matter of who raises them. An error of the system
has a text from a table, and so have the few that say how a request was
malformed (`SystemError.IsStock`); all that the file tree answers are of
that kind. A channel may answer with a text of its own, about which nothing
is known here.
-/
import LineShell.Proofs.Command
import LineShell.Proofs.Lines
import LineShell.Proofs.Canonical

namespace LineShell

-- ======================================================= texts of one line

/-- A text without a newline. -/
def Text.OneLine (text : String) : Prop :=
  '\n' ∉ text.toList

instance (text : String) : Decidable (Text.OneLine text) :=
  inferInstanceAs (Decidable ('\n' ∉ text.toList))

namespace Text

theorem oneLine_ofList {text : List Char} (h : '\n' ∉ text) : OneLine (String.ofList text) := by
  rwa [OneLine, String.toList_ofList]

theorem oneLine_append {text more : String} :
    OneLine (text ++ more) ↔ OneLine text ∧ OneLine more := by
  simp [OneLine]

theorem oneLine_natRepr (n : Nat) : OneLine n.repr := by
  rw [Nat.repr_eq_ofList_toDigits]
  refine oneLine_ofList fun hmem => ?_
  have hdigit := Nat.isDigit_of_mem_toDigits (by decide) (by decide) hmem
  exact absurd hdigit (by decide)

theorem oneLine_intRepr (n : Int) : OneLine (toString n) := by
  cases n with
  | ofNat n => exact oneLine_natRepr n
  | negSucc n => exact oneLine_append.2 ⟨by decide, oneLine_natRepr _⟩

/-- Without the blanks at its end a text has no character that it had not. -/
theorem mem_of_mem_trimEnd {c : Char} {text : String} (h : c ∈ (trimEnd text).toList) :
    c ∈ text.toList := by
  rw [trimEnd, String.toList_ofList, List.mem_reverse] at h
  exact List.mem_reverse.1 ((List.dropWhile_sublist _).mem h)

theorem oneLine_trimEnd {text : String} (h : OneLine text) : OneLine (trimEnd text) :=
  fun hmem => h (mem_of_mem_trimEnd hmem)

/-- A newline at the end goes with the blanks. -/
theorem oneLine_trimEnd_newline {text : String} (h : OneLine text) :
    OneLine (trimEnd (text ++ "\n")) := by
  have htrim : trimEnd (text ++ "\n") = trimEnd text := by
    unfold trimEnd
    rw [String.toList_append, List.reverse_append]
    rfl
  rw [htrim]
  exact oneLine_trimEnd h

end Text

/-- A byte above ASCII is none. -/
theorem Utf8.ne_newline_of_le {n : Nat} (hlow : 128 ≤ n) (hhigh : n < 256) :
    Outlet.newline ≠ n.toUInt8 := by
  intro heq
  have hmod : n.toUInt8.toNat = n % 256 := UInt8.toNat_ofNat'
  rw [← heq, Nat.mod_eq_of_lt hhigh] at hmod
  have hnewline : Outlet.newline.toNat = 10 := rfl
  omega

/-- No character but the newline has its byte among its bytes. -/
theorem Utf8.newline_mem_utf8EncodeChar_iff (c : Char) :
    Outlet.newline ∈ String.utf8EncodeChar c ↔ c = '\n' := by
  constructor
  · intro hmem
    unfold String.utf8EncodeChar at hmem
    dsimp only at hmem
    split at hmem
    · rename_i hascii
      have hbyte := congrArg UInt8.toNat (List.mem_singleton.1 hmem)
      have hmod : c.val.toNat.toUInt8.toNat = c.val.toNat % 256 := UInt8.toNat_ofNat'
      rw [hmod, Nat.mod_eq_of_lt (by omega)] at hbyte
      exact Char.ext (UInt32.toNat_inj.1 hbyte.symm)
    · -- every other character has bytes above ASCII only
      exfalso
      split at hmem
      · simp only [List.mem_cons, List.not_mem_nil, or_false] at hmem
        rcases hmem with h | h
        all_goals exact ne_newline_of_le (by omega) (by omega) h
      · split at hmem
        · simp only [List.mem_cons, List.not_mem_nil, or_false] at hmem
          rcases hmem with h | h | h
          all_goals exact ne_newline_of_le (by omega) (by omega) h
        · simp only [List.mem_cons, List.not_mem_nil, or_false] at hmem
          rcases hmem with h | h | h | h
          all_goals exact ne_newline_of_le (by omega) (by omega) h
  · rintro rfl
    decide

/-- Bytes of a text have a newline among them if the text has. -/
theorem Bytes.newline_mem_ofText_iff (text : String) :
    Outlet.newline ∈ Bytes.ofText text ↔ '\n' ∈ text.toList := by
  unfold ofText
  rw [List.mem_flatMap]
  constructor
  · rintro ⟨c, hc, hmem⟩
    rwa [← (Utf8.newline_mem_utf8EncodeChar_iff c).1 hmem]
  · intro hmem
    exact ⟨'\n', hmem, by decide⟩

/-- A path that was given as a text is shown in one line if that is one. -/
theorem Text.oneLine_display {text : String} (h : OneLine text) :
    OneLine (Utf8.lossy (Bytes.ofText text)) := by
  unfold OneLine
  rwa [Bytes.newline_mem_lossy_iff, Bytes.newline_mem_ofText_iff]

/-- A word of a line has no newline in it. -/
theorem Words.oneLine_of_mem_ofLine {line word : String} (h : word ∈ ofLine line) :
    Text.OneLine word := by
  intro hmem
  have hgap : IsGapChar '\n' := by simp [IsGapChar]
  exact (isWord_of_mem_ofLine h).2 _ hmem hgap

-- ========================================================= texts of errors

namespace SystemError

theorem oneLine_numberText (code : Int) : Text.OneLine (numberText code) := by
  unfold numberText
  split
  -- the last case is that of a number without a text
  on_goal -1 => exact Text.oneLine_append.2 ⟨by decide, Text.oneLine_intRepr _⟩
  all_goals exact Text.oneLine_ofList (by decide)

/-- An error that has its text from a table. -/
inductive IsStock : SystemError → Prop
  | number (code : Int) : IsStock (.number code)
  | bare (kind : Kind) : IsStock (.bare kind)
  | nothingTaken : IsStock .nothingTaken
  | nulInRequest : IsStock .nulInRequest
  | nulInPath : IsStock .nulInPath

theorem isInterrupted_number_iff {code : Int} : (number code).isInterrupted ↔ code = 4 := by
  show (numberKind? code == some .interrupted) = true ↔ code = 4
  unfold numberKind?
  split
  all_goals simp_all

theorem IsStock.oneLine_message {cause : SystemError} (h : cause.IsStock) :
    Text.OneLine cause.message := by
  cases h with
  | number code =>
      simp only [message_number, Text.oneLine_append]
      exact ⟨⟨⟨oneLine_numberText code, by decide⟩, Text.oneLine_intRepr code⟩, by decide⟩
  | bare kind => cases kind <;> exact Text.oneLine_ofList (by decide)
  | nothingTaken => exact Text.oneLine_ofList (by decide)
  | nulInRequest => exact Text.oneLine_ofList (by decide)
  | nulInPath => exact Text.oneLine_ofList (by decide)

end SystemError

namespace FileTree

variable {t : FileTree} {cause : SystemError}

theorem isStock_of_mem_resolveErrors (h : cause ∈ resolveErrors) : cause.IsStock := by
  simp only [resolveErrors, List.mem_cons, List.not_mem_nil, or_false] at h
  rcases h with rfl | rfl | rfl | rfl | rfl | rfl
  · exact .nulInPath
  · exact .number _
  · exact .number _
  · exact .number _
  · exact .number _
  · exact .number _

theorem isStock_of_resolve {d : WorkingDirectory} {p : Path}
    (h : t.resolve d p = .error cause) : cause.IsStock :=
  isStock_of_mem_resolveErrors (mem_resolveErrors_of_resolve h)

theorem isStock_of_canonical {d : WorkingDirectory} {p : Path}
    (h : t.canonical d p = .error cause) : cause.IsStock :=
  isStock_of_mem_resolveErrors (mem_resolveErrors_of_canonical h)

theorem isStock_of_directoryAt {l : Location} (h : t.directoryAt l = .error cause) :
    cause.IsStock :=
  isStock_of_mem_resolveErrors (mem_resolveErrors_of_directoryAt h)

theorem isStock_of_enter {d : WorkingDirectory} {p : Path}
    (h : t.enter d p = .error cause) : cause.IsStock := by
  unfold enter at h
  split at h
  · exact isStock_of_directoryAt h
  · cases h
  · rename_i hresolve
    cases h
    exact isStock_of_resolve hresolve

end FileTree

/-- Why a directory cannot be entered is told by the file tree. -/
theorem Builtin.isStock_of_cdGoal {target : Path} {s : Session} {cause : SystemError}
    (h : cdGoal target s = .error cause) : cause.IsStock := by
  simp only [cdGoal, bind, Except.bind] at h
  split at h
  · rename_i hcanonical
    cases h
    exact FileTree.isStock_of_canonical hcanonical
  · split at h
    · rename_i henter
      cases h
      exact FileTree.isStock_of_enter henter
    · cases h

-- ====================================================== texts of refusals

namespace ArgumentForm

variable {form : ArgumentForm} {words : List String}

theorem oneLine_unrecognized {word : String} (hword : Text.OneLine word) :
    Text.OneLine (Text.trimEnd (unrecognized word)) :=
  Text.oneLine_trimEnd_newline (Text.oneLine_append.2 ⟨by decide, hword⟩)

theorem oneLine_valueMissing {option : String} (hoption : Text.OneLine option) :
    Text.OneLine (Text.trimEnd (valueMissing option)) := by
  have hend : "'.\n" = "'." ++ "\n" := rfl
  unfold valueMissing
  rw [hend, ← String.append_assoc]
  refine Text.oneLine_trimEnd_newline ?_
  simp only [Text.oneLine_append]
  exact ⟨⟨by decide, hoption⟩, by decide⟩

theorem oneLine_valueRepeated {option value : String} (hoption : Text.OneLine option)
    (hvalue : Text.OneLine value) :
    Text.OneLine (Text.trimEnd (valueRepeated option value)) := by
  have hend : "': duplicate values provided\n" = "': duplicate values provided" ++ "\n" := rfl
  unfold valueRepeated
  rw [hend, ← String.append_assoc]
  refine Text.oneLine_trimEnd_newline ?_
  simp only [Text.oneLine_append]
  exact ⟨⟨⟨⟨by decide, hoption⟩, by decide⟩, hvalue⟩, by decide⟩

/-- Words that do not fill a form are refused in one line. -/
theorem oneLine_of_readFrom {p : Progress} {message : String}
    (hwords : ∀ word ∈ words, Text.OneLine word)
    (h : form.readFrom p words = .refused message) : Text.OneLine (Text.trimEnd message) := by
  have hrest : ∀ {word rest}, (∀ other ∈ word :: rest, Text.OneLine other) →
      ∀ other ∈ rest, Text.OneLine other :=
    fun hall other hmem => hall other (List.mem_cons_of_mem _ hmem)
  fun_induction readFrom form p words
  case case1 | case2 => cases h
  case case3 ih | case5 ih | case6 ih | case8 ih => exact ih (hrest hwords) h
  case case11 ih => exact ih (hrest (hrest hwords)) h
  case case4 word rest _ _ | case12 word rest _ _ _ _ _ _ =>
    cases h
    exact oneLine_unrecognized (hwords word List.mem_cons_self)
  case case7 =>
    cases h
    exact Text.oneLine_trimEnd (by decide)
  case case9 word _ _ _ _ _ _ =>
    cases h
    exact oneLine_valueMissing (hwords word List.mem_cons_self)
  case case10 word _ _ _ _ _ _ value rest _ =>
    cases h
    exact oneLine_valueRepeated (hwords word List.mem_cons_self)
      (hwords value (List.mem_cons_of_mem _ List.mem_cons_self))

theorem words_of_place? {p p' : Progress} {word : String} (h : form.place? word p = some p') :
    p'.arguments.words = p.arguments.words ++ [word] := by
  unfold place? at h
  dsimp only at h
  split at h
  · cases h
  · split at h
    · cases h
      rfl
    · cases h
  · cases h
    rfl

/-- The positional words are among those that were read. -/
theorem mem_of_readFrom {p : Progress} {arguments : Arguments} {word : String}
    (h : form.readFrom p words = .given arguments) (hword : word ∈ arguments.words) :
    word ∈ p.arguments.words ∨ word ∈ words := by
  fun_induction readFrom form p words
  case case1 | case4 | case7 | case9 | case10 | case12 => cases h
  case case2 =>
    cases h
    exact .inl hword
  case case3 hplace ih =>
    rcases ih h with hmem | hmem
    · rw [words_of_place? hplace, List.mem_append, List.mem_singleton] at hmem
      rcases hmem with hmem | rfl
      · exact .inl hmem
      · exact .inr List.mem_cons_self
    · exact .inr (List.mem_cons_of_mem _ hmem)
  case case5 ih | case6 ih | case8 ih => exact (ih h).imp_right (List.mem_cons_of_mem _)
  case case11 ih =>
    exact (ih h).imp_right fun hmem => List.mem_cons_of_mem _ (List.mem_cons_of_mem _ hmem)

end ArgumentForm

/-- `cd` is asked for a directory by one of its words. -/
theorem Builtin.mem_of_cdTarget? {words : List String} {target : String}
    (h : cdTarget? words = some target) : target ∈ words := by
  unfold cdTarget? at h
  split at h
  · rename_i rest
    split at h
    · rename_i arguments hread
      obtain ⟨hhead, -⟩ := Option.filter_eq_some_iff.1 h
      rcases ArgumentForm.mem_of_readFrom hread (List.mem_of_head? hhead) with hmem | hmem
      · cases hmem
      · exact List.mem_cons_of_mem _ hmem
    · cases h
  · cases h

end LineShell

/-
The lines of bytes that are read without errors (`Bytes.lines`). Bytes are
cut at their newlines and each piece is decoded; one might as well decode
all of them and cut the text (`Text.pieces`, `lines_eq_pieces`). The two agree
on any bytes, because a newline is a character of its own whatever stands
beside it, and no other byte becomes one.

# Ends of lines

A carriage return in front of a newline is not part of the line. For the
words it makes no difference whether it is: it is a separator, as the
newline is. So the words of a line are those of what stands in front of
its end, however it ends (`ofLine_lines_of_ended`).
-/
import LineShell.Proofs.Decoding
import LineShell.Proofs.Stream
import LineShell.Proofs.Words
import Mathlib.Data.List.Basic

namespace LineShell

-- ================================================= streams without errors

/-- The bytes of a stream. -/
def Fill.contents : List Fill → Bytes
  | [] => []
  | .bytes contents :: fills => contents ++ Fill.contents fills
  | .error _ :: fills => Fill.contents fills

/-- A stream that is read without errors. What is interrupted is tried
again, so that it is no error. -/
def Fill.Flows (fills : List Fill) : Prop :=
  ∀ cause, Fill.error cause ∈ fills → cause.isInterrupted = true

/-- A stream that is read without errors is one segment. -/
theorem Fill.segments_of_flows {fills : List Fill} (h : Flows fills) :
    segments fills = { last := contents fills } := by
  induction fills with
  | nil => rfl
  | cons fill fills ih =>
      have hrest := ih fun cause hmem => h cause (List.mem_cons_of_mem _ hmem)
      cases fill with
      | bytes bytes =>
          rw [segments, hrest]
          rfl
      | error cause =>
          rw [segments, if_pos (h cause List.mem_cons_self), hrest]
          rfl

/-- The lines of bytes: of every piece that a newline ends, and of what is
behind the last newline, unless there is nothing. -/
def Bytes.lines (bytes : Bytes) : List String :=
  bytes.pieces.map (fun piece => Utf8.lossy (Piece.dropReturn piece))
    ++ if bytes.remnant = [] then [] else [Utf8.lossy bytes.remnant]

theorem Segments.lastReadings_eq (bytes : Bytes) :
    lastReadings bytes = bytes.lines.map Reading.line := by
  unfold lastReadings Bytes.lines
  rw [List.map_append, List.map_map]
  split
  · rfl
  · rfl

/-- What is read of a stream without errors are its lines. -/
theorem Fill.readings_of_flows {fills : List Fill} (h : Flows fills) :
    (segments fills).readings = (contents fills).lines.map Reading.line := by
  rw [segments_of_flows h]
  exact Segments.lastReadings_eq _

theorem Bytes.lines_of_not_mem {bytes : Bytes} (h : Outlet.newline ∉ bytes) :
    bytes.lines = if bytes = [] then [] else [Utf8.lossy bytes] := by
  unfold lines
  rw [pieces_of_not_mem h, remnant_of_not_mem h, List.map_nil, List.nil_append]

theorem Bytes.lines_append_newline {line : Bytes} (h : Outlet.newline ∉ line) (more : Bytes) :
    Bytes.lines (line ++ Outlet.newline :: more)
      = Utf8.lossy (Piece.dropReturn line) :: more.lines := by
  unfold lines
  rw [pieces_append_newline h, remnant_append_newline h, List.map_cons, List.cons_append]

/-- Induction on bytes, line by line. -/
theorem Bytes.line_induction {motive : Bytes → Prop}
    (last : ∀ {bytes : Bytes}, Outlet.newline ∉ bytes → motive bytes)
    (line : ∀ {line more : Bytes}, Outlet.newline ∉ line → motive more →
      motive (line ++ Outlet.newline :: more))
    (bytes : Bytes) : motive bytes := by
  induction hlength : bytes.length using Nat.strongRecOn generalizing bytes with
  | ind length ih =>
      cases hmore : bytes.dropWhile (· != Outlet.newline) with
      | nil => exact last (newline_not_mem_of_dropWhile hmore)
      | cons byte more =>
          have hcut := eq_append_newline_of_dropWhile hmore
          rw [hcut]
          refine line (newline_not_mem_takeWhile bytes) (ih more.length ?_ more rfl)
          rw [← hlength, hcut, List.length_append, List.length_cons]
          omega

/-- Bytes that end where a line ends. -/
def Bytes.IsWhole (bytes : Bytes) : Prop :=
  bytes = [] ∨ bytes.getLast? = some Outlet.newline

/-- Behind whole lines there are the lines of what follows. -/
theorem Bytes.lines_append {front : Bytes} (h : front.IsWhole) (back : Bytes) :
    Bytes.lines (front ++ back) = front.lines ++ back.lines := by
  induction front using line_induction with
  | last hlast =>
      rcases h with rfl | hend
      · rfl
      · exact absurd (List.mem_of_getLast? hend) hlast
  | @line line more hline ih =>
      have hmore : more.IsWhole := by
        rcases more with _ | ⟨byte, more⟩
        · exact .inl rfl
        · rcases h with hnil | hend
          · simp at hnil
          · refine .inr ?_
            rwa [List.getLast?_append_cons, List.getLast?_cons_cons] at hend
      rw [List.append_assoc, List.cons_append, lines_append_newline hline,
        lines_append_newline hline, ih hmore, List.cons_append]

-- ========================================================= cutting a text

namespace Text

/-- Cuts characters behind every newline. -/
def cut : List Char → List (List Char)
  | [] => []
  | c :: rest =>
    if c = '\n' then ['\n'] :: cut rest
    else
      match cut rest with
      | [] => [[c]]
      | piece :: pieces => (c :: piece) :: pieces

/-- The pieces of a text, cut behind every newline. No piece is empty. -/
def pieces (text : String) : List String :=
  (cut text.toList).map String.ofList

/-- Characters without the end of their line: a newline, and one carriage
return before it. -/
def dropEnd (piece : List Char) : List Char :=
  if piece.getLast? = some '\n' then
    if piece.dropLast.getLast? = some '\r' then piece.dropLast.dropLast else piece.dropLast
  else piece

/-- A piece of a text without the end of its line. -/
def withoutEnd (piece : String) : String :=
  String.ofList (dropEnd piece.toList)

theorem cut_of_not_mem {text : List Char} (h : '\n' ∉ text) :
    cut text = if text = [] then [] else [text] := by
  induction text with
  | nil => rfl
  | cons c text ih =>
      have hc : c ≠ '\n' := fun heq => h (heq ▸ List.mem_cons_self)
      rw [cut, if_neg hc, ih fun hmem => h (List.mem_cons_of_mem _ hmem)]
      cases text with
      | nil => rfl
      | cons d text => rfl

theorem cut_append_newline {line : List Char} (h : '\n' ∉ line) (more : List Char) :
    cut (line ++ '\n' :: more) = (line ++ ['\n']) :: cut more := by
  induction line with
  | nil => rw [List.nil_append, cut, if_pos rfl, List.nil_append]
  | cons c line ih =>
      have hc : c ≠ '\n' := fun heq => h (heq ▸ List.mem_cons_self)
      rw [List.cons_append, cut, if_neg hc, ih fun hmem => h (List.mem_cons_of_mem _ hmem)]
      rfl

theorem dropEnd_of_not_mem {text : List Char} (h : '\n' ∉ text) : dropEnd text = text := by
  unfold dropEnd
  rw [if_neg]
  intro hlast
  exact h (List.mem_of_getLast? hlast)

theorem dropEnd_append_newline (line : List Char) :
    dropEnd (line ++ ['\n']) = if line.getLast? = some '\r' then line.dropLast else line := by
  unfold dropEnd
  rw [if_pos (by simp), List.dropLast_concat]

/-- A piece is what remains of it and a gap. -/
theorem dropEnd_append_gap (piece : List Char) :
    ∃ gap, Words.IsGap (String.ofList gap) ∧ piece = dropEnd piece ++ gap := by
  unfold dropEnd
  split
  · rename_i hnewline
    have hpiece := List.dropLast_append_getLast? '\n' hnewline
    split
    · rename_i hreturn
      have hline := List.dropLast_append_getLast? '\r' hreturn
      refine ⟨['\r', '\n'], ?_, ?_⟩
      · intro c hc
        simp only [String.toList_ofList, List.mem_cons, List.not_mem_nil, or_false] at hc
        rcases hc with rfl | rfl
        · simp [Words.IsGapChar]
        · simp [Words.IsGapChar]
      · rw [← List.singleton_append (x := '\r'), ← List.append_assoc, hline, hpiece]
    · refine ⟨['\n'], ?_, hpiece.symm⟩
      intro c hc
      simp only [String.toList_ofList, List.mem_singleton] at hc
      simp [Words.IsGapChar, hc]
  · exact ⟨[], by simp [Words.IsGap], (List.append_nil _).symm⟩

/-- The end of a line is no part of its words. -/
theorem ofLine_withoutEnd (piece : String) :
    Words.ofLine (withoutEnd piece) = Words.ofLine piece := by
  obtain ⟨gap, hgap, hpiece⟩ := dropEnd_append_gap piece.toList
  have heq : piece = withoutEnd piece ++ String.ofList gap := by
    rw [← String.toList_inj, String.toList_append, withoutEnd, String.toList_ofList,
      String.toList_ofList]
    exact hpiece
  conv_rhs => rw [heq]
  exact (Words.ofLine_append_gap _ hgap).symm

end Text

-- =================================================== decoding, then cutting

namespace Bytes

/-- A newline is in the text of bytes if it is one of them. -/
theorem newline_mem_lossy_iff (bytes : Bytes) :
    '\n' ∈ (Utf8.lossy bytes).toList ↔ Outlet.newline ∈ bytes :=
  Utf8.mem_lossy_iff bytes (show Outlet.newline < 0x80 by decide)

/-- The text of bytes in front of a newline ends in a carriage return if
the bytes do, and that is all there is between them. -/
theorem toList_lossy_dropReturn (line : Bytes) :
    (Utf8.lossy (Piece.dropReturn line)).toList
      = if (Utf8.lossy line).toList.getLast? = some '\r' then (Utf8.lossy line).toList.dropLast
        else (Utf8.lossy line).toList := by
  unfold Piece.dropReturn
  by_cases hnil : line = []
  · subst hnil
    rfl
  obtain ⟨front, byte, rfl⟩ : ∃ front byte, line = front ++ [byte] :=
    ⟨_, _, (List.dropLast_concat_getLast hnil).symm⟩
  rw [List.getLast?_concat, List.dropLast_concat]
  by_cases hreturn : byte = 13
  · subst hreturn
    have htext : (Utf8.lossy (front ++ [13])).toList = (Utf8.lossy front).toList ++ ['\r'] :=
      Utf8.toList_lossy_append front [] (by decide)
    rw [htext, List.getLast?_concat, List.dropLast_concat]
    rfl
  · obtain ⟨text, c, htext, hc⟩ := Utf8.toList_lossy_concat front byte
    have hne : c ≠ '\r' := by
      rintro rfl
      rcases hc with hbeyond | ⟨hascii, hc⟩
      · exact absurd hbeyond (by decide)
      · have hcode := Utf8.toNat_ofNat_of_ascii hascii
        rw [← hc] at hcode
        exact hreturn (UInt8.toNat_inj.1 hcode.symm)
    rw [htext, List.getLast?_concat, if_neg (by simpa using hreturn),
      if_neg (by simpa using hne), htext]

/-- The lines of bytes are the pieces of their text, without their ends. -/
theorem lines_eq_pieces (bytes : Bytes) :
    bytes.lines = (Text.pieces (Utf8.lossy bytes)).map Text.withoutEnd := by
  have hpieces : ∀ text, (Text.pieces text).map Text.withoutEnd
      = (Text.cut text.toList).map fun piece => String.ofList (Text.dropEnd piece) := by
    intro text
    simp [Text.pieces, Text.withoutEnd, Function.comp_def]
  rw [hpieces]
  induction bytes using line_induction with
  | @last bytes hlast =>
      have htext : '\n' ∉ (Utf8.lossy bytes).toList := by rwa [newline_mem_lossy_iff]
      rw [lines_of_not_mem hlast, Text.cut_of_not_mem htext]
      by_cases hnil : bytes = []
      · subst hnil
        rfl
      · obtain ⟨front, byte, rfl⟩ : ∃ front byte, bytes = front ++ [byte] :=
          ⟨_, _, (List.dropLast_concat_getLast hnil).symm⟩
        obtain ⟨text, c, hconcat, -⟩ := Utf8.toList_lossy_concat front byte
        rw [if_neg hnil, if_neg (by simp [hconcat]), List.map_singleton,
          Text.dropEnd_of_not_mem htext, String.ofList_toList]
  | @line line more hline ih =>
      have htext : '\n' ∉ (Utf8.lossy line).toList := by rwa [newline_mem_lossy_iff]
      have hcut : (Utf8.lossy (line ++ Outlet.newline :: more)).toList
          = (Utf8.lossy line).toList ++ '\n' :: (Utf8.lossy more).toList :=
        Utf8.toList_lossy_append line more (by decide)
      rw [lines_append_newline hline, ih, hcut, Text.cut_append_newline htext, List.map_cons,
        Text.dropEnd_append_newline, ← toList_lossy_dropReturn, String.ofList_toList]

-- =========================================================== ends of lines

/-- A carriage return at the end is no part of the words. -/
theorem ofLine_lossy_append_return (line : Bytes) :
    Words.ofLine (Utf8.lossy (line ++ [13])) = Words.ofLine (Utf8.lossy line) := by
  have htext : Utf8.lossy (line ++ [13]) = Utf8.lossy line ++ "\r" := by
    rw [← String.toList_inj, String.toList_append]
    exact Utf8.toList_lossy_append line [] (by decide)
  rw [htext]
  refine Words.ofLine_append_gap _ fun c hc => ?_
  rw [show "\r".toList = ['\r'] from rfl, List.mem_singleton] at hc
  simp [Words.IsGapChar, hc]

theorem ofLine_lossy_dropReturn (line : Bytes) :
    Words.ofLine (Utf8.lossy (Piece.dropReturn line)) = Words.ofLine (Utf8.lossy line) := by
  unfold Piece.dropReturn
  split
  · rename_i hreturn
    obtain ⟨front, rfl⟩ := List.getLast?_eq_some_iff.1 (by simpa using hreturn)
    rw [List.dropLast_concat, ofLine_lossy_append_return]
  · rfl

/-- What ends a line: a newline, or a carriage return and a newline. -/
def IsLineEnd (ending : Bytes) : Prop :=
  ending = [Outlet.newline] ∨ ending = [13, Outlet.newline]

/-- The words of lines are those of what stands in front of their ends,
whatever end each of them has, and whether or not the last has one. -/
theorem ofLine_lines_of_ended (ended : List (Bytes × Bytes)) (last : Bytes)
    (hended : ∀ line ∈ ended, Outlet.newline ∉ line.1 ∧ IsLineEnd line.2)
    (hlast : Outlet.newline ∉ last) :
    (lines (ended.flatMap (fun line => line.1 ++ line.2) ++ last)).map Words.ofLine
      = ended.map (fun line => Words.ofLine (Utf8.lossy line.1))
        ++ if last = [] then [] else [Words.ofLine (Utf8.lossy last)] := by
  induction ended with
  | nil =>
      rw [List.flatMap_nil, List.nil_append, lines_of_not_mem hlast]
      split
      · rfl
      · rfl
  | cons line ended ih =>
      have hrest := ih fun other hmem => hended other (List.mem_cons_of_mem _ hmem)
      obtain ⟨hline, hend | hend⟩ := hended line List.mem_cons_self
      · rw [List.flatMap_cons, hend, List.append_assoc, List.append_assoc,
          List.singleton_append, lines_append_newline hline, List.map_cons, hrest,
          ofLine_lossy_dropReturn, List.map_cons, List.cons_append]
      · have hreturn : Outlet.newline ∉ line.1 ++ [13] := by
          simpa [hline] using (by decide : Outlet.newline ≠ 13)
        have hcut : line.1 ++ [13, Outlet.newline]
              ++ ended.flatMap (fun line => line.1 ++ line.2) ++ last
            = (line.1 ++ [13])
              ++ Outlet.newline :: (ended.flatMap (fun line => line.1 ++ line.2) ++ last) := by
          simp
        rw [List.flatMap_cons, hend, hcut, lines_append_newline hreturn, List.map_cons, hrest,
          ofLine_lossy_dropReturn, ofLine_lossy_append_return, List.map_cons, List.cons_append]

end Bytes

namespace Source.Stream

/-- Of a stream without errors the lines are read that its text has: it is
decoded as a whole, cut behind every newline, and each piece loses the end
of its line. The words of a line are those of its piece, for the end of a
line is no part of them: what stands in front of the ends of lines has the
same words whatever these ends are, and no two lines become one. -/
theorem readings_eq_pieces (prompts : List String) (source : Stream) (console : Console)
    (hflows : Fill.Flows source.fills) :
    readings prompts source console
        = ((Text.pieces (Utf8.lossy (Fill.contents source.fills))).map
              (fun piece => Reading.line (Text.withoutEnd piece))
            ++ List.replicate prompts.length Reading.finished).take prompts.length ∧
      (∀ piece ∈ Text.pieces (Utf8.lossy (Fill.contents source.fills)),
        Words.ofLine (Text.withoutEnd piece) = Words.ofLine piece) ∧
      ∀ (ended : List (Bytes × Bytes)) (last : Bytes),
        Fill.contents source.fills = ended.flatMap (fun line => line.1 ++ line.2) ++ last →
        (∀ line ∈ ended, Outlet.newline ∉ line.1 ∧ Bytes.IsLineEnd line.2) →
        Outlet.newline ∉ last →
        (Text.pieces (Utf8.lossy (Fill.contents source.fills))).map Words.ofLine
          = ended.map (fun line => Words.ofLine (Utf8.lossy line.1))
            ++ if last = [] then [] else [Words.ofLine (Utf8.lossy last)] := by
  refine ⟨?_, fun piece _ => Text.ofLine_withoutEnd piece, ?_⟩
  · rw [readings_eq_take, Fill.readings_of_flows hflows, Bytes.lines_eq_pieces, List.map_map]
    rfl
  · intro ended last hcontents hended hlast
    have hpieces : (Text.pieces (Utf8.lossy (Fill.contents source.fills))).map Words.ofLine
        = (Fill.contents source.fills).lines.map Words.ofLine := by
      rw [Bytes.lines_eq_pieces, List.map_map]
      exact List.map_congr_left fun piece _ => (Text.ofLine_withoutEnd piece).symm
    rw [hpieces, hcontents]
    exact Bytes.ofLine_lines_of_ended ended last hended hlast

/-- A character that is cut off by the end of its line is replaced, and the
end of the line is still found, also by way of an interrupted fill. -/
theorem readings_eq_pieces_cut_character :
    let fills := [Fill.bytes [97, 0xE2, 0x82], .error (.bare .interrupted), .bytes [13, 10, 98]]
    Fill.Flows fills ∧
      readings ["> ", "> ", "> "] { fills } {} = [.line "a\ufffd", .line "b", .finished] ∧
      (Text.pieces (Utf8.lossy (Fill.contents fills))).map Words.ofLine = [["a\ufffd"], ["b"]] := by
  intro fills
  have hflows : Fill.Flows fills := by
    intro cause hmem
    have hcause : cause = .bare .interrupted := by simpa [fills] using hmem
    rw [hcause]
    rfl
  obtain ⟨hreadings, -, hwords⟩ := readings_eq_pieces ["> ", "> ", "> "] { fills } {} hflows
  refine ⟨hflows, hreadings.trans (by decide), ?_⟩
  refine (hwords [([97, 0xE2, 0x82], [13, 10])] [98] rfl ?_ (by decide)).trans (by decide)
  intro line hmem
  rw [List.mem_singleton.1 hmem]
  exact ⟨by decide, .inr rfl⟩

end Source.Stream
end LineShell

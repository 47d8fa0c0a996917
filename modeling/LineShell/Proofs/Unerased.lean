/-
Lines without backspaces, as the line editor takes them when its input is
not a terminal. The user-perceived characters of a text are all of it, in
order (`Text.flatten_clusters`), so a line of which nothing is taken away is
copied as it is (`Editor.applyBackspaces?_of_not_mem`). What is left of the
editor is then a matter of decoding: a line that is UTF-8 is given, and any
other is an error (`Editor.ofBytes_of_not_mem`).
-/
import LineShell.Proofs.Buffered
import LineShell.Source.Editor

namespace LineShell

-- ======================================================= groups of characters

namespace Text

/-- The groups read so far, in order. -/
def ClusterReading.text (r : ClusterReading) : List Char :=
  (r.1.reverse.map List.reverse).flatten

/-- A character joins the last group or begins one behind it. -/
theorem ClusterReading.text_step (r : ClusterReading) (c : Char) :
    (r.step c).text = r.text ++ [c] := by
  unfold step
  dsimp only
  split
  · split
    · simp [text]
    · simp [text]
  · simp [text]

/-- The groups of a text make it up. -/
theorem flatten_clusters (text : List Char) : (clusters text).flatten = text := by
  show ClusterReading.text (text.foldl ClusterReading.step ([], none)) = text
  induction text using List.reverseRecOn with
  | nil => rfl
  | append_singleton text c ih =>
      rw [List.foldl_append, List.foldl_cons, List.foldl_nil, ClusterReading.text_step, ih]

end Text

-- =============================================================== backspaces

namespace Editor

/-- The byte of a backspace. -/
def backspace : UInt8 := 8

/-- Groups of which none is a backspace are copied one behind the other. -/
theorem foldlM_step?_of_not_mem {groups : List (List Char)} (h : ['\x08'] ∉ groups)
    (c : Copying) :
    ∃ lengths, groups.foldlM Copying.step? c
      = some ⟨groups.flatten.reverse ++ c.line, lengths⟩ := by
  induction groups generalizing c with
  | nil => exact ⟨c.lengths, rfl⟩
  | cons group groups ih =>
      rw [List.mem_cons, not_or] at h
      have hstep : c.step? group
          = some ⟨group.reverse ++ c.line, keptLength group :: c.lengths⟩ := by
        unfold Copying.step?
        rw [if_neg]
        simpa using Ne.symm h.1
      obtain ⟨lengths, hrest⟩ := ih h.2 ⟨group.reverse ++ c.line, keptLength group :: c.lengths⟩
      refine ⟨lengths, ?_⟩
      rw [List.foldlM_cons, hstep]
      refine hrest.trans ?_
      simp

/-- A line without a backspace is copied as it is. -/
theorem applyBackspaces?_of_not_mem {line : String} (h : '\x08' ∉ line.toList) :
    applyBackspaces? line = some line := by
  have hgroups : ['\x08'] ∉ Text.clusters line.toList := by
    intro hmem
    refine h ?_
    rw [← Text.flatten_clusters line.toList]
    exact List.mem_flatten.2 ⟨_, hmem, List.mem_singleton_self _⟩
  obtain ⟨lengths, hcopied⟩ := foldlM_step?_of_not_mem hgroups {}
  unfold applyBackspaces?
  rw [hcopied, Option.map_some, List.append_nil, List.reverse_reverse, Text.flatten_clusters,
    String.ofList_toList]

/-- What the editor reads of a line without a backspace. -/
def readingOf (raw : Bytes) : Reading :=
  if raw.isText then .line (Utf8.lossy raw) else .failed (.editorFailed (.system .notUtf8))

theorem ofBytes_of_not_mem {raw : Bytes} (h : backspace ∉ raw) :
    ofPiece.ofBytes raw = readingOf raw := by
  have htext : '\x08' ∉ (Utf8.lossy raw).toList := by
    intro hmem
    exact h ((Utf8.mem_lossy_iff raw (show backspace < 0x80 by decide)).1 hmem)
  unfold ofPiece.ofBytes readingOf
  rw [Bytes.decode?_eq]
  by_cases hvalid : raw.isText
  · rw [if_pos hvalid, if_pos hvalid]
    dsimp only
    rw [applyBackspaces?_of_not_mem htext]
  · rw [if_neg hvalid, if_neg hvalid]

/-- A piece is read by its line. -/
theorem ofPiece_of_raw? {piece : Piece} (hsound : ∀ cause, piece ≠ .failed cause) :
    ofPiece piece = (piece.raw?.map ofPiece.ofBytes).getD .finished := by
  cases piece with
  | terminated contents => rfl
  | unterminated contents =>
      cases contents with
      | nil => rfl
      | cons byte contents => rfl
  | failed cause => exact absurd rfl (hsound cause)

end Editor
end LineShell
